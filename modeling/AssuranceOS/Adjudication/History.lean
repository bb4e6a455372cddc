/-
What no later call takes back.

Whatever calls follow, the decisions, reviews, responses and retests on the record stay as they
are, and the other rows go on: a finding keeps its text, an assessment its inputs and its score,
a resolved dispute its resolution, and a remediation action the ticket that was filed for it
(`run_record_kept`).
-/
import AssuranceOS.Adjudication.Cases
import AssuranceOS.Lib.History

namespace Adjudication

open History Table

/-- `f'` is a later state of the finding `f`. -/
def Finding.Later (f f' : Finding) : Prop :=
  f' = { f with status := f'.status, severity := f'.severity }

/-- Only an override changes an assessment. -/
def MaterialityAssessment.Later (a a' : MaterialityAssessment) : Prop :=
  a' = { a with
    overrideSeverity := a'.overrideSeverity, overrideReason := a'.overrideReason
    overrideBy := a'.overrideBy, contentHash := a'.contentHash }

structure FindingDispute.Later (d d' : FindingDispute) : Prop where
  raised : d' = { d with
    status := d'.status, resolution := d'.resolution, resolutionReason := d'.resolutionReason
    resolvedBy := d'.resolvedBy, resolvedAt := d'.resolvedAt }
  resolved : d.status ≠ .open → d' = d

structure RemediationAction.Later (a a' : RemediationAction) : Prop where
  fixed : (a'.actionId, a'.tenantId, a'.findingId, a'.ownerRef, a'.externalSystem) =
    (a.actionId, a.tenantId, a.findingId, a.ownerRef, a.externalSystem)
  filed : PyString.truthy a.externalRef = true →
    (a'.externalRef, a'.externalUrl, a'.externalSyncState, a'.externalSyncedAt) =
      (a.externalRef, a.externalUrl, a.externalSyncState, a.externalSyncedAt)

theorem Finding.Later.refl (f : Finding) : f.Later f := rfl

theorem Finding.Later.trans {f g k : Finding} (h : f.Later g) (h' : g.Later k) : f.Later k := by
  unfold Finding.Later at h h' ⊢
  rw [h', h]

theorem MaterialityAssessment.Later.refl (a : MaterialityAssessment) : a.Later a := rfl

theorem MaterialityAssessment.Later.trans {a b c : MaterialityAssessment} (h : a.Later b)
    (h' : b.Later c) : a.Later c := by
  unfold MaterialityAssessment.Later at h h' ⊢
  rw [h', h]

theorem FindingDispute.Later.refl (d : FindingDispute) : d.Later d := ⟨rfl, fun _ => rfl⟩

theorem FindingDispute.Later.trans {d e k : FindingDispute} (h : d.Later e) (h' : e.Later k) :
    d.Later k := by
  refine ⟨?_, fun hd => ?_⟩
  · rw [h'.raised, h.raised]
  · have he := h.resolved hd
    rw [h'.resolved (he ▸ hd), he]

theorem RemediationAction.Later.refl (a : RemediationAction) : a.Later a := ⟨rfl, fun _ => rfl⟩

theorem RemediationAction.Later.trans {a b c : RemediationAction} (h : a.Later b)
    (h' : b.Later c) : a.Later c := by
  refine ⟨h'.fixed.trans h.fixed, fun ha => ?_⟩
  have hb := h.filed ha
  have href : b.externalRef = a.externalRef := congrArg Prod.fst hb
  exact (h'.filed (by rw [href]; exact ha)).trans hb

/-- The record of `db'` goes on from the one of `db`. -/
structure Kept (db db' : Database) : Prop where
  decisions : db.decisions <+: db'.decisions
  qualityReviews : db.qualityReviews <+: db'.qualityReviews
  responses : db.responses <+: db'.responses
  retests : db.retests <+: db'.retests
  findings : Continues Finding.Later db.findings db'.findings
  assessments : Continues MaterialityAssessment.Later db.assessments db'.assessments
  disputes : Continues FindingDispute.Later db.disputes db'.disputes
  actions : Continues RemediationAction.Later db.actions db'.actions

theorem Kept.refl (db : Database) : Kept db db :=
  ⟨List.prefix_refl _, List.prefix_refl _, List.prefix_refl _, List.prefix_refl _, .refl .refl _,
    .refl .refl _, .refl .refl _, .refl .refl _⟩

theorem Kept.trans {db db' db'' : Database} (h : Kept db db') (h' : Kept db' db'') :
    Kept db db'' :=
  ⟨h.decisions.trans h'.decisions, h.qualityReviews.trans h'.qualityReviews,
    h.responses.trans h'.responses, h.retests.trans h'.retests,
    h.findings.trans .trans h'.findings, h.assessments.trans .trans h'.assessments,
    h.disputes.trans .trans h'.disputes, h.actions.trans .trans h'.actions⟩

section Moves

variable {S : AdjudicationService} {db db' : Database} {call : Call} {f : Finding} {c : Change}

theorem Move.appends (h : Move S db call f c) : Appends c.decisions ∧ Appends c.qualityReviews ∧
    Appends c.responses ∧ Appends c.retests := by
  cases h <;> exact ⟨trivial, trivial, trivial, trivial⟩

theorem Move.finding_later (h : Move S db call f c) : ∀ f' ∈ c.finding, f.Later f' := by
  cases h with
  | assessed request op target raised raise =>
    rintro _ ⟨⟩
    rw [raise]
    unfold AdjudicationService.escalated
    split <;> rfl
  | reviewed | ticketRefused | ticketFiled =>
    intro f' hf'
    cases hf'
  | decided | overridden | disputed | resolved | opened | submitted | retested | reopened =>
    rintro _ ⟨⟩
    rfl

theorem Move.assessments_follow (h : Move S db call f c) :
    Follows MaterialityAssessment.assessmentId MaterialityAssessment.Later db.assessments
      c.assessments := by
  cases h with
  | overridden request op target human assessment current =>
    exact ⟨assessment, (mem_ownedBy.mp (latestAssessment_eq_some current).1).1, rfl, rfl⟩
  | _ => trivial

theorem Move.disputes_follow (h : Move S db call f c) :
    Follows FindingDispute.disputeId FindingDispute.Later db.disputes c.disputes := by
  cases h with
  | resolved request op dispute mem dispute_id owner may =>
    exact ⟨dispute, mem, rfl, rfl, fun hresolved => absurd may.2.1 hresolved⟩
  | _ => trivial

theorem Move.actions_follow (h : Move S db call f c) :
    Follows RemediationAction.actionId RemediationAction.Later db.actions c.actions := by
  cases h with
  | ticketRefused actionId writer op action mem action_id owner unfiled
  | ticketFiled actionId writer op action mem action_id owner unfiled =>
    exact ⟨action, mem, rfl, rfl, fun hfiled => by rw [unfiled] at hfiled; cases hfiled⟩
  | submitted submission op action mem => exact ⟨action, mem, rfl, rfl, fun _ => rfl⟩
  | retested request op action mem => exact ⟨action, mem, rfl, rfl, fun _ => rfl⟩
  | reopened request op action found =>
    exact ⟨action, (mem_actionsOf.mp (openActionFor_eq_some found)).1, rfl, rfl, fun _ => rfl⟩
  | _ => trivial

theorem Move.kept (h : Move S db call f c) (hw : WellFormed db) (hf : f ∈ db.findings) :
    Kept db (c.apply db) := by
  obtain ⟨hdecisions, hreviews, hresponses, hretests⟩ := h.appends
  refine ⟨hdecisions.prefix_apply, hreviews.prefix_apply, hresponses.prefix_apply,
    hretests.prefix_apply, ?_, h.assessments_follow.continues .refl hw.assessments.nodup,
    h.disputes_follow.continues .refl hw.disputes.nodup,
    h.actions_follow.continues .refl hw.actions.nodup⟩
  show Continues _ _ (c.finding.elim db.findings fun f' =>
    Table.put Finding.findingId f' db.findings)
  cases hfinding : c.finding with
  | none => exact .refl .refl _
  | some f' =>
    have hlater := h.finding_later f' hfinding
    exact continues_put .refl hw.findings hf (by rw [hlater]) hlater

theorem Effect.kept (h : Effect S db call db') (hw : WellFormed db) : Kept db db' := by
  cases h with
  | nothing => exact .refl db
  | proposed f decisions events outbox unique status verdict =>
    have hdecisions : Appends decisions := by
      rcases verdict with rfl | ⟨d, -, -, -, rfl⟩ <;> trivial
    exact { Kept.refl db with
      decisions := hdecisions.prefix_apply
      findings := continues_append .refl _ _ }
  | @moved f c mem move events outbox => exact { move.kept hw mem with }

end Moves

/-- **What is recorded stays recorded**, whatever calls follow. -/
theorem run_record_kept {S : AdjudicationService} {db : Database} (hfresh : Fresh db)
    (earlier later : List Call) : Kept (run S db earlier) (run S db (earlier ++ later)) := by
  rw [show run S db (earlier ++ later) = run S (run S db earlier) later from List.foldl_append]
  exact @run_continues _ _ (step S) WellFormed Kept .refl .trans
    (fun db call hw => (step_effect S db call).wellFormed hw) (fun db call hw => (step_effect S db call).kept hw)
    _ (run_wellFormed hfresh earlier) later

theorem run_record_kept_approved :
    Kept (run sampleService sampleDatabase (sampleReviewed "author" "reviewer" reviewer_length))
      (run sampleService sampleDatabase
        (sampleReviewed "author" "reviewer" reviewer_length ++
          [sampleDecision 4 .approve "lead" "app" lead_length app_length])) :=
  run_record_kept sampleDatabase_fresh _ _

end Adjudication
