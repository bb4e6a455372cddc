/-
The case of a finding: its row with all rows that belong to it.

A call changes the case of at most one finding, and the change is computed from that case alone
(`Effect.caseFile`).  `run_caseFile` is the induction rule that follows.  The queries and the compound
guards of the service are read as statements about the rows of the case.
-/
import AssuranceOS.Adjudication.Effects

namespace Adjudication

open Checked Table AdjudicationService

def RemediationAction.ref (a : RemediationAction) : String × String := (a.tenantId, a.actionId)

def Retest.actionRef (r : Retest) : String × String := (r.tenantId, r.actionId)

/-- A finding with the rows that belong to it. -/
structure CaseFile where
  finding : Finding
  decisions : List ApprovalDecision := []
  assessments : List MaterialityAssessment := []
  qualityReviews : List QualityReview := []
  disputes : List FindingDispute := []
  actions : List RemediationAction := []
  responses : List ManagementResponse := []
  retests : List Retest := []

def CaseFile.apply (k : CaseFile) (c : Change) : CaseFile where
  finding := c.finding.getD k.finding
  decisions := c.decisions.apply ApprovalDecision.decisionId k.decisions
  assessments := c.assessments.apply MaterialityAssessment.assessmentId k.assessments
  qualityReviews := c.qualityReviews.apply QualityReview.reviewId k.qualityReviews
  disputes := c.disputes.apply FindingDispute.disputeId k.disputes
  actions := c.actions.apply RemediationAction.actionId k.actions
  responses := c.responses.apply ManagementResponse.responseId k.responses
  retests := c.retests.apply Retest.retestId k.retests

namespace Database

variable (db : Database)

def actionsOf (o : Owner) : List RemediationAction :=
  ownedBy RemediationAction.owner o db.actions

def retestsFor (o : Owner) : List Retest :=
  db.retests.filter fun r => r.actionRef ∈ (db.actionsOf o).map RemediationAction.ref

def caseFile (f : Finding) : CaseFile where
  finding := f
  decisions := ownedBy ApprovalDecision.owner f.owner db.decisions
  assessments := ownedBy MaterialityAssessment.owner f.owner db.assessments
  qualityReviews := ownedBy QualityReview.owner f.owner db.qualityReviews
  disputes := ownedBy FindingDispute.owner f.owner db.disputes
  actions := db.actionsOf f.owner
  responses := ownedBy ManagementResponse.owner f.owner db.responses
  retests := db.retestsFor f.owner

def IsOwner (o : Owner) : Prop :=
  ∃ f ∈ db.findings, f.owner = o

end Database

/-- Primary keys are unique and foreign keys refer to rows. -/
structure WellFormed (db : Database) : Prop where
  findings : (db.findings.map Finding.findingId).Nodup
  decisions : Held ApprovalDecision.decisionId ApprovalDecision.owner db.IsOwner db.decisions
  assessments :
    Held MaterialityAssessment.assessmentId MaterialityAssessment.owner db.IsOwner db.assessments
  qualityReviews : Held QualityReview.reviewId QualityReview.owner db.IsOwner db.qualityReviews
  disputes : Held FindingDispute.disputeId FindingDispute.owner db.IsOwner db.disputes
  actions : Held RemediationAction.actionId RemediationAction.owner db.IsOwner db.actions
  responses : Held ManagementResponse.responseId ManagementResponse.owner db.IsOwner db.responses
  retests : Held Retest.retestId Retest.actionRef (fun p => ∃ a ∈ db.actions, a.ref = p) db.retests

variable {db : Database}

theorem Fresh.wellFormed (h : Fresh db) : WellFormed db where
  findings := by
    rw [h.findings]
    exact List.nodup_nil
  decisions := by
    rw [h.decisions]
    exact .nil
  assessments := by
    rw [h.assessments]
    exact .nil
  qualityReviews := by
    rw [h.qualityReviews]
    exact .nil
  disputes := by
    rw [h.disputes]
    exact .nil
  actions := by
    rw [h.actions]
    exact .nil
  responses := by
    rw [h.responses]
    exact .nil
  retests := by
    rw [h.retests]
    exact .nil

theorem WellFormed.eq_of_findingId (hw : WellFormed db) {f g : Finding} (hf : f ∈ db.findings)
    (hg : g ∈ db.findings) (h : f.findingId = g.findingId) : f = g :=
  eq_of_key_eq hw.findings hf hg h

/-- Every row that the change writes belongs to the finding `o`. -/
structure Change.Legal (c : Change) (db : Database) (o : Owner) : Prop where
  finding : ∀ g ∈ c.finding, g.owner = o := by simp [Finding.owner]
  decisions : c.decisions.Owned ApprovalDecision.decisionId ApprovalDecision.owner o
    db.decisions := by trivial
  assessments : c.assessments.Owned MaterialityAssessment.assessmentId MaterialityAssessment.owner
    o db.assessments := by trivial
  qualityReviews : c.qualityReviews.Owned QualityReview.reviewId QualityReview.owner o
    db.qualityReviews := by trivial
  disputes : c.disputes.Owned FindingDispute.disputeId FindingDispute.owner o
    db.disputes := by trivial
  actions : c.actions.Owned RemediationAction.actionId RemediationAction.owner o
    db.actions := by trivial
  responses : c.responses.Owned ManagementResponse.responseId ManagementResponse.owner o
    db.responses := by trivial
  retests : c.retests = .none ∨ ∃ r, c.retests = .insert r ∧
    r.retestId ∉ db.retests.map Retest.retestId ∧
    r.actionRef ∈ (db.actionsOf o).map RemediationAction.ref := by exact Or.inl rfl

section Changes

variable {S : AdjudicationService} {db : Database} {call : Call} {f g : Finding} {c : Change}
  {o p : Owner}

theorem Move.legal (h : Move S db call f c) : c.Legal db f.owner := by
  cases h with
  | decided _ _ _ _ _ _ unique => exact { decisions := ⟨unique, rfl⟩ }
  | assessed request _ _ raised raise unique =>
    have howner : raised.owner = f.owner := by
      rw [raise, escalated]
      split <;> rfl
    exact
      { finding := by simpa using howner
        assessments := ⟨unique, Prod.ext rfl (Prod.ext_iff.mp howner).2⟩ }
  | overridden request _ _ _ assessment current _ unique =>
    obtain ⟨hmem, htenant, hid, -⟩ := of_head?_orderByDesc current
    have howner : assessment.owner = f.owner := Prod.ext htenant hid
    exact
      { decisions := ⟨unique, rfl⟩
        assessments := ⟨howner, assessment, hmem, rfl, howner⟩ }
  | reviewed _ _ _ unique => exact { qualityReviews := ⟨unique, rfl⟩ }
  | disputed _ _ _ _ _ unique => exact { disputes := ⟨unique, rfl⟩ }
  | resolved _ _ dispute mem _ owner _ _ unique =>
    exact
      { decisions := ⟨unique, rfl⟩
        disputes := ⟨owner, dispute, mem, rfl, owner⟩ }
  | opened _ _ _ _ _ unique => exact { actions := ⟨unique, rfl⟩ }
  | ticketRefused _ _ _ action mem _ owner | ticketFiled _ _ _ action mem _ owner =>
    exact { actions := ⟨owner, action, mem, rfl, owner⟩ }
  | submitted _ _ action mem _ owner _ _ unique =>
    exact
      { actions := ⟨owner, action, mem, rfl, owner⟩
        responses := ⟨unique, rfl⟩ }
  | retested request _ action mem _ owner _ _ _ _ unique =>
    have href : action.ref ∈ (db.actionsOf f.owner).map RemediationAction.ref :=
      List.mem_map_of_mem (mem_ownedBy.mpr ⟨mem, owner⟩)
    have htenant : action.tenantId = f.tenantId := congrArg Prod.fst owner
    rw [RemediationAction.ref, htenant] at href
    exact
      { actions := ⟨owner, action, mem, rfl, owner⟩
        retests := Or.inr ⟨_, rfl, unique, href⟩ }
  | reopened _ _ action found _ =>
    obtain ⟨hmem, htenant, hid⟩ := of_head?_orderBy found
    have howner : action.owner = f.owner := Prod.ext htenant hid
    exact { actions := ⟨howner, action, hmem, rfl, howner⟩ }

variable {a : RemediationAction}

theorem mem_actionsOf :
    a ∈ db.actionsOf o ↔ a ∈ db.actions ∧ a.owner = o :=
  mem_ownedBy

theorem WellFormed.owner_of_ref (hw : WellFormed db) {b : RemediationAction} (ha : a ∈ db.actions)
    (hb : b ∈ db.actions) (h : a.ref = b.ref) : a.owner = b.owner := by
  rw [eq_of_key_eq hw.actions.nodup ha hb (congrArg Prod.snd h)]

theorem Change.Legal.ref_mem_iff (hc : c.Legal db o) (hw : WellFormed db) {ref : String × String}
    (hr : ∃ a ∈ db.actions, a.ref = ref) :
    ref ∈ ((c.apply db).actionsOf p).map RemediationAction.ref ↔
      ref ∈ (db.actionsOf p).map RemediationAction.ref := by
  by_cases hp : p = o
  · subst hp
    have hactions := hc.actions
    rw [Database.actionsOf, Change.apply, hactions.ownedBy_self hw.actions.nodup,
      ← Database.actionsOf]
    cases hca : c.actions with
    | none => rfl
    | insert a =>
      rw [hca] at hactions
      obtain ⟨b, hb, hbr⟩ := hr
      have hne : ref ≠ a.ref := by
        intro heq
        have hid : b.actionId = a.actionId := (Prod.ext_iff.mp (hbr.trans heq)).2
        exact hactions.1 (hid ▸ List.mem_map_of_mem hb)
      simp [Write.apply, hne]
    | put a =>
      rw [hca] at hactions
      obtain ⟨howner, a₀, ha₀, hkey, howner₀⟩ := hactions
      have htenant := (Prod.ext_iff.mp (howner₀.trans howner.symm)).1
      have href : a₀.ref = a.ref := Prod.ext htenant hkey
      rw [Write.apply, map_put]
      intro x hx hxa
      rw [eq_of_key_eq hw.actions.nodup (mem_actionsOf.mp hx).1 ha₀ (hxa.trans hkey.symm), href]
  · rw [Database.actionsOf, Change.apply, hc.actions.ownedBy_of_ne hw.actions.nodup hp,
      ← Database.actionsOf]

/-- For every finding, the retests of before belong to it after the change when
they did so before. -/
theorem Change.Legal.filter_retests (hc : c.Legal db o) (hw : WellFormed db) (p : Owner) :
    db.retests.filter (fun r => r.actionRef ∈ ((c.apply db).actionsOf p).map RemediationAction.ref)
      = db.retestsFor p :=
  List.filter_congr fun r hr => by simp only [hc.ref_mem_iff hw (hw.retests.held r hr)]

theorem Change.Legal.retestsFor_self (hc : c.Legal db o) (hw : WellFormed db) :
    (c.apply db).retestsFor o = c.retests.apply Retest.retestId (db.retestsFor o) := by
  show (c.retests.apply Retest.retestId db.retests).filter _ = _
  rcases hc.retests with hnone | ⟨r, hinsert, -, href⟩
  · rw [hnone]
    exact hc.filter_retests hw o
  · obtain ⟨a, ha, har⟩ := List.mem_map.mp href
    have hr := (hc.ref_mem_iff hw ⟨a, (mem_actionsOf.mp ha).1, har⟩).mpr href
    rw [hinsert, Write.apply, List.filter_append, hc.filter_retests hw o]
    simpa [Write.apply] using hr

theorem Change.Legal.retestsFor_of_ne (hc : c.Legal db o) (hw : WellFormed db) (hp : p ≠ o) :
    (c.apply db).retestsFor p = db.retestsFor p := by
  show (c.retests.apply Retest.retestId db.retests).filter _ = _
  rcases hc.retests with hnone | ⟨r, hinsert, -, href⟩
  · rw [hnone]
    exact hc.filter_retests hw p
  · obtain ⟨a, ha, har⟩ := List.mem_map.mp href
    obtain ⟨ha, hao⟩ := mem_actionsOf.mp ha
    have hr : r.actionRef ∉ ((c.apply db).actionsOf p).map RemediationAction.ref := by
      rw [hc.ref_mem_iff hw ⟨a, ha, har⟩, List.mem_map]
      rintro ⟨b, hb, hbr⟩
      obtain ⟨hb, hbo⟩ := mem_actionsOf.mp hb
      exact hp (hbo.symm.trans ((hw.owner_of_ref hb ha (hbr.trans har.symm)).trans hao))
    rw [hinsert, Write.apply, List.filter_append, hc.filter_retests hw p]
    simpa using hr

theorem Change.Legal.owner_getD (hc : c.Legal db f.owner) :
    (c.finding.getD f).owner = f.owner := by
  cases hcf : c.finding with
  | none => rfl
  | some g => exact hc.finding g hcf

theorem Change.Legal.caseFile_self (hc : c.Legal db f.owner) (hw : WellFormed db) :
    (c.apply db).caseFile (c.finding.getD f) = (db.caseFile f).apply c := by
  simp only [Database.caseFile, hc.owner_getD, CaseFile.apply, hc.retestsFor_self hw]
  simp only [Database.actionsOf, Change.apply, hc.decisions.ownedBy_self hw.decisions.nodup,
    hc.assessments.ownedBy_self hw.assessments.nodup,
    hc.qualityReviews.ownedBy_self hw.qualityReviews.nodup,
    hc.disputes.ownedBy_self hw.disputes.nodup, hc.actions.ownedBy_self hw.actions.nodup,
    hc.responses.ownedBy_self hw.responses.nodup]

theorem Change.Legal.caseFile_of_ne (hc : c.Legal db o) (hw : WellFormed db) (hg : g.owner ≠ o) :
    (c.apply db).caseFile g = db.caseFile g := by
  simp only [Database.caseFile, hc.retestsFor_of_ne hw hg]
  simp only [Database.actionsOf, Change.apply, hc.decisions.ownedBy_of_ne hw.decisions.nodup hg,
    hc.assessments.ownedBy_of_ne hw.assessments.nodup hg,
    hc.qualityReviews.ownedBy_of_ne hw.qualityReviews.nodup hg,
    hc.disputes.ownedBy_of_ne hw.disputes.nodup hg,
    hc.actions.ownedBy_of_ne hw.actions.nodup hg,
    hc.responses.ownedBy_of_ne hw.responses.nodup hg]

theorem Change.Legal.mem_findings (hc : c.Legal db f.owner) (hw : WellFormed db)
    (hf : f ∈ db.findings) :
    g ∈ (c.apply db).findings ↔ g = c.finding.getD f ∨ (g ∈ db.findings ∧ g ≠ f) := by
  cases hcf : c.finding with
  | none =>
    rw [show (c.apply db).findings = db.findings by rw [Change.apply, hcf]; rfl, Option.getD_none]
    by_cases hgf : g = f
    · simp [hgf, hf]
    · simp [hgf]
  | some f' =>
    have hid := (Prod.ext_iff.mp (hc.finding f' hcf)).2
    rw [show (c.apply db).findings = Table.put Finding.findingId f' db.findings by
      rw [Change.apply, hcf]; rfl]
    exact mem_put hw.findings hf hid

theorem Change.Legal.isOwner (hc : c.Legal db f.owner) (hw : WellFormed db) (hf : f ∈ db.findings)
    (ho : db.IsOwner o) : (c.apply db).IsOwner o := by
  obtain ⟨g, hg, rfl⟩ := ho
  by_cases hgf : g = f
  · subst hgf
    exact ⟨c.finding.getD g, (hc.mem_findings hw hf).mpr (Or.inl rfl), hc.owner_getD⟩
  · exact ⟨g, (hc.mem_findings hw hf).mpr (Or.inr ⟨hg, hgf⟩), rfl⟩

theorem Change.Legal.wellFormed (hc : c.Legal db f.owner) (hw : WellFormed db)
    (hf : f ∈ db.findings) : WellFormed (c.apply db) := by
  have hsub : ∀ p, db.IsOwner p → (c.apply db).IsOwner p := fun p => hc.isOwner hw hf
  have ho := hsub f.owner ⟨f, hf, rfl⟩
  have hrefs : ∀ ref, (∃ a ∈ db.actions, a.ref = ref) →
      ∃ a ∈ (c.apply db).actions, a.ref = ref := by
    rintro ref ⟨a, ha, rfl⟩
    have href : a.ref ∈ (db.actionsOf a.owner).map RemediationAction.ref :=
      List.mem_map_of_mem (mem_actionsOf.mpr ⟨ha, rfl⟩)
    obtain ⟨b, hb, hba⟩ := List.mem_map.mp ((hc.ref_mem_iff hw ⟨a, ha, rfl⟩).mpr href)
    exact ⟨b, (mem_actionsOf.mp hb).1, hba⟩
  have hretests : Held Retest.retestId Retest.actionRef
      (fun ref => ∃ a ∈ (c.apply db).actions, a.ref = ref) (c.apply db).retests := by
    show Held _ _ _ (c.retests.apply Retest.retestId db.retests)
    rcases hc.retests with hnone | ⟨r, hinsert, hunique, href⟩
    · rw [hnone]
      exact ⟨hw.retests.nodup, fun r hr => hrefs _ (hw.retests.held r hr)⟩
    · obtain ⟨a, ha, har⟩ := List.mem_map.mp href
      rw [hinsert]
      exact hw.retests.write ⟨hunique, rfl⟩ hrefs
        (hrefs _ ⟨a, (mem_actionsOf.mp ha).1, har⟩)
  have hfindings : ((c.apply db).findings.map Finding.findingId).Nodup := by
    cases hcf : c.finding with
    | none => simpa [Change.apply, hcf] using hw.findings
    | some f' => simpa [Change.apply, hcf] using hw.findings
  exact ⟨hfindings, hw.decisions.write hc.decisions hsub ho,
    hw.assessments.write hc.assessments hsub ho, hw.qualityReviews.write hc.qualityReviews hsub ho,
    hw.disputes.write hc.disputes hsub ho, hw.actions.write hc.actions hsub ho,
    hw.responses.write hc.responses hsub ho, hretests⟩

end Changes

section Steps

variable {S : AdjudicationService} {db db' : Database} {call : Call} {f g : Finding}

/-- What a call makes of the case of a finding. -/
inductive CaseStep (S : AdjudicationService) (db : Database) (call : Call) : CaseFile → Prop
  | created {f : Finding} {decisions : List ApprovalDecision}
      (unique : f.findingId ∉ db.findings.map Finding.findingId)
      (status : f.status = .proposed ∨ f.status = .rejected)
      (verdict : ∀ d ∈ decisions, d.decisionType = .skepticReject) :
      CaseStep S db call { finding := f, decisions := decisions }
  | kept {f : Finding} (mem : f ∈ db.findings) : CaseStep S db call (db.caseFile f)
  | moved {f : Finding} {c : Change} (mem : f ∈ db.findings) (move : Move S db call f c) :
      CaseStep S db call ((db.caseFile f).apply c)

theorem not_isOwner (h : f.findingId ∉ db.findings.map Finding.findingId) :
    ¬ db.IsOwner f.owner := by
  rintro ⟨g, hg, howner⟩
  have hid : g.findingId = f.findingId := (Prod.ext_iff.mp howner).2
  exact h (hid ▸ List.mem_map_of_mem hg)

theorem WellFormed.caseFile_new (hw : WellFormed db)
    (h : f.findingId ∉ db.findings.map Finding.findingId) :
    db.caseFile f = { finding := f } := by
  have ho := not_isOwner h
  have hactions : db.actionsOf f.owner = [] := hw.actions.ownedBy_eq_nil ho
  have hretests : db.retestsFor f.owner = [] := by simp [Database.retestsFor, hactions]
  simp only [Database.caseFile, hactions, hretests, hw.decisions.ownedBy_eq_nil ho,
    hw.assessments.ownedBy_eq_nil ho, hw.qualityReviews.ownedBy_eq_nil ho,
    hw.disputes.ownedBy_eq_nil ho, hw.responses.ownedBy_eq_nil ho]

theorem verdict_owned {w : Write ApprovalDecision}
    (h : w = .none ∨ ∃ d, d.decisionId ∉ db.decisions.map (·.decisionId) ∧
      d.decisionType = .skepticReject ∧ d.owner = f.owner ∧ w = .insert d) :
    w.Owned ApprovalDecision.decisionId ApprovalDecision.owner f.owner db.decisions := by
  rcases h with rfl | ⟨d, hunique, -, howner, rfl⟩
  · exact trivial
  · exact ⟨hunique, howner⟩

theorem caseFile_proposed (db : Database) (findings : List Finding)
    (decisions : List ApprovalDecision) (events : List AuditEvent) (outbox : List OutboxEvent)
    (g : Finding) :
    { db with
      findings := findings, decisions := decisions, auditEvents := events
      outbox := outbox : Database }.caseFile g =
      { db.caseFile g with decisions := ownedBy ApprovalDecision.owner g.owner decisions } :=
  rfl

/-- **Locality.**  After a call, every case is new, the same as before, or the
result of a move. -/
theorem Effect.caseFile (h : Effect S db call db') (hw : WellFormed db) (hg : g ∈ db'.findings) :
    CaseStep S db call (db'.caseFile g) := by
  cases h with
  | nothing => exact .kept hg
  | proposed f w events outbox unique status verdict =>
    have howned := verdict_owned verdict
    rw [caseFile_proposed]
    rcases List.mem_append.mp hg with hold | hnew
    · have howner : g.owner ≠ f.owner := fun heq => not_isOwner unique ⟨g, hold, heq⟩
      rw [howned.ownedBy_of_ne hw.decisions.nodup howner]
      exact .kept hold
    · obtain rfl := List.mem_singleton.mp hnew
      rw [hw.caseFile_new unique, howned.ownedBy_self hw.decisions.nodup,
        hw.decisions.ownedBy_eq_nil (not_isOwner unique)]
      refine .created unique status ?_
      rcases verdict with rfl | ⟨d, -, hd, -, rfl⟩
      · simp [Write.apply]
      · simp [Write.apply, hd]
  | @moved f c mem move events outbox =>
    rcases (move.legal.mem_findings hw mem).mp hg with rfl | ⟨hold, hne⟩
    · have hcase := move.legal.caseFile_self hw
      exact hcase ▸ CaseStep.moved mem move
    · have howner : g.owner ≠ f.owner := fun heq =>
        hne (hw.eq_of_findingId hold mem (Prod.ext_iff.mp heq).2)
      have hcase := move.legal.caseFile_of_ne hw howner
      exact hcase ▸ CaseStep.kept hold

theorem step_finding (hw : WellFormed db) (hf : f ∈ db.findings)
    (hg : g ∈ (step S db call).findings) (hid : g.findingId = f.findingId) :
    g = f ∨ ∃ c, Move S db call f c ∧ g = c.finding.getD f := by
  have hcase := (step_effect S db call).caseFile hw hg
  generalize hk : (step S db call).caseFile g = k at hcase
  have hfinding : g = k.finding := congrArg CaseFile.finding hk
  cases hcase with
  | created unique =>
    subst hfinding
    exact absurd (hid ▸ List.mem_map_of_mem hf) unique
  | @kept f₀ mem =>
    exact Or.inl (hw.eq_of_findingId (hfinding ▸ mem) hf hid)
  | @moved f₀ c mem move =>
    have hid₀ : f₀.findingId = f.findingId := by
      rw [← hid, hfinding]
      exact (Prod.ext_iff.mp move.legal.owner_getD).2.symm
    obtain rfl := hw.eq_of_findingId mem hf hid₀
    exact Or.inr ⟨c, move, hfinding⟩

theorem step_isOwner (hw : WellFormed db) {o : Owner} (ho : db.IsOwner o) :
    (step S db call).IsOwner o := by
  have heffect := step_effect S db call
  generalize step S db call = db' at heffect ⊢
  cases heffect with
  | nothing => exact ho
  | proposed =>
    obtain ⟨g, hg, rfl⟩ := ho
    exact ⟨g, List.mem_append_left _ hg, rfl⟩
  | moved mem move => exact move.legal.isOwner hw mem ho

theorem Effect.wellFormed (h : Effect S db call db') (hw : WellFormed db) : WellFormed db' := by
  cases h with
  | nothing => exact hw
  | proposed f w events outbox unique status verdict =>
    have hsub : ∀ p, db.IsOwner p → ∃ g ∈ db.findings ++ [f], g.owner = p := by
      rintro p ⟨g, hg, rfl⟩
      exact ⟨g, List.mem_append_left _ hg, rfl⟩
    have ho : ∃ g ∈ db.findings ++ [f], g.owner = f.owner :=
      ⟨f, List.mem_append_right _ List.mem_cons_self, rfl⟩
    exact ⟨nodup_append_of_not_mem hw.findings unique,
      hw.decisions.write (verdict_owned verdict) hsub ho, hw.assessments.mono hsub,
      hw.qualityReviews.mono hsub, hw.disputes.mono hsub, hw.actions.mono hsub,
      hw.responses.mono hsub, hw.retests⟩
  | moved mem move events outbox =>
    have hwell := move.legal.wellFormed hw mem
    exact ⟨hwell.findings, hwell.decisions, hwell.assessments, hwell.qualityReviews,
      hwell.disputes, hwell.actions, hwell.responses, hwell.retests⟩

end Steps

section Runs

variable {S : AdjudicationService} {db : Database} {calls : List Call}

theorem run_concat (call : Call) :
    run S db (calls ++ [call]) = step S (run S db calls) call := by
  rw [run, List.foldl_append]
  rfl

theorem run_wellFormed (hdb : Fresh db) (calls : List Call) : WellFormed (run S db calls) :=
  Runs.run_invariant_always (fun _ _ hw => (step_effect S _ _).wellFormed hw) hdb.wellFormed calls

variable {f : Finding}

/-- **The induction rule for cases.**  `P calls k` speaks of the case `k` of a
finding after the calls of the run so far. -/
theorem run_caseFile {P : List Call → CaseFile → Prop} {ok : List Call → Call → Prop}
    (hnew : ∀ calls f decisions, f.status = .proposed ∨ f.status = .rejected →
      (∀ d ∈ decisions, d.decisionType = .skepticReject) →
      P calls { finding := f, decisions := decisions })
    (hkeep : ∀ calls call f, f ∈ (run S db calls).findings →
      (run S db (calls ++ [call])).caseFile f = (run S db calls).caseFile f →
      P calls ((run S db calls).caseFile f) → P (calls ++ [call]) ((run S db calls).caseFile f))
    (hmove : ∀ calls call f c, ok calls call → f ∈ (run S db calls).findings →
      Move S (run S db calls) call f c →
      (run S db (calls ++ [call])).caseFile (c.finding.getD f) =
        ((run S db calls).caseFile f).apply c →
      P calls ((run S db calls).caseFile f) →
      P (calls ++ [call]) (((run S db calls).caseFile f).apply c))
    (hdb : Fresh db) (hok : Runs.EachSplit ok calls)
    (hf : f ∈ (run S db calls).findings) : P calls ((run S db calls).caseFile f) := by
  induction calls using List.reverseRecOn generalizing f with
  | nil =>
    have hempty : f ∈ db.findings := hf
    rw [hdb.findings] at hempty
    exact absurd hempty List.not_mem_nil
  | append_singleton calls call ih =>
    have hw : WellFormed (run S db calls) := run_wellFormed hdb calls
    have hbefore : Runs.EachSplit ok calls :=
      fun before call' after heq => hok before call' (after ++ [call]) (by simp [heq])
    have hcase := (step_effect S _ call).caseFile hw (run_concat call ▸ hf)
    rw [← run_concat] at hcase
    generalize hk : (run S db (calls ++ [call])).caseFile f = k at hcase ⊢
    have hfinding : f = k.finding := congrArg CaseFile.finding hk
    rw [hfinding] at hk
    cases hcase with
    | created _ hstatus hverdict => exact hnew _ _ _ hstatus hverdict
    | kept hmem => exact hkeep _ _ _ hmem hk (ih hbefore hmem)
    | moved hmem hm => exact hmove _ _ _ _ (hok calls call [] rfl) hmem hm hk (ih hbefore hmem)

theorem run_caseFile_always {P : CaseFile → Prop}
    (hnew : ∀ f decisions, f.status = .proposed ∨ f.status = .rejected →
      (∀ d ∈ decisions, d.decisionType = .skepticReject) →
      P { finding := f, decisions := decisions })
    (hmove : ∀ db call f c, Move S db call f c → P (db.caseFile f) → P ((db.caseFile f).apply c))
    (hdb : Fresh db) (hf : f ∈ (run S db calls).findings) :
    P ((run S db calls).caseFile f) := by
  have hok : Runs.EachSplit (fun _ _ => True) calls := fun _ _ _ _ => trivial
  exact run_caseFile (P := fun _ => P) (fun _ => hnew) (fun _ _ _ _ _ h => h)
    (fun calls call f c _ _ hm _ => hmove (run S db calls) call f c hm) hdb hok hf

end Runs

/-- The author of a finding; a missing one reads as the empty string. -/
def Finding.author (f : Finding) : String := f.authoredBy.getD ""

section Guards

variable {S : AdjudicationService} {db : Database} {call : Call} {f : Finding} {c : Change}

theorem openDispute_eq_none :
    db.openDispute f.tenantId f.findingId = none ↔
      ∀ d ∈ (db.caseFile f).disputes, d.status ≠ .open := by
  constructor
  · intro h d hd hopen
    obtain ⟨hd, howner⟩ := mem_ownedBy.mp hd
    obtain ⟨htenant, hid⟩ := Prod.ext_iff.mp howner
    exact not_of_head?_orderByDesc h hd ⟨htenant, hid, hopen⟩
  · intro h
    rw [Option.eq_none_iff_forall_not_mem]
    intro d hd
    obtain ⟨hmem, htenant, hid, hopen⟩ := of_head?_orderByDesc hd
    exact h d (mem_ownedBy.mpr ⟨hmem, Prod.ext htenant hid⟩) hopen

theorem openDispute_isSome :
    (db.openDispute f.tenantId f.findingId).isSome ↔
      ∃ d ∈ (db.caseFile f).disputes, d.status = .open := by
  rw [Option.isSome_iff_ne_none, ne_eq, openDispute_eq_none]
  push Not
  rfl

variable {digest : String}

theorem latestAssessment_eq_some {a : MaterialityAssessment}
    (h : db.latestAssessment f.tenantId f.findingId digest = some a) :
    a ∈ (db.caseFile f).assessments ∧ a.contentHash = digest := by
  obtain ⟨hmem, htenant, hid, hhash⟩ := of_head?_orderByDesc h
  exact ⟨mem_ownedBy.mpr ⟨hmem, Prod.ext htenant hid⟩, hhash⟩

theorem passingReview_eq_some {r : QualityReview}
    (h : db.passingReview f.tenantId f.findingId digest = some r) :
    r ∈ (db.caseFile f).qualityReviews ∧ r.contentHash = digest ∧ r.passed = true := by
  obtain ⟨hmem, htenant, hid, hhash, hpassed⟩ := of_head?_orderByDesc h
  exact ⟨mem_ownedBy.mpr ⟨hmem, Prod.ext htenant hid⟩, hhash, hpassed⟩

theorem openActionFor_eq_none (h : db.openActionFor f.tenantId f.findingId = none) :
    (db.caseFile f).actions = [] := by
  rw [List.eq_nil_iff_forall_not_mem]
  intro a ha
  obtain ⟨ha, howner⟩ := mem_actionsOf.mp ha
  exact not_of_head?_orderBy h ha (Prod.ext_iff.mp howner)

theorem openActionFor_eq_some {a : RemediationAction}
    (h : db.openActionFor f.tenantId f.findingId = some a) : a ∈ (db.caseFile f).actions := by
  obtain ⟨hmem, htenant, hid⟩ := of_head?_orderBy h
  exact mem_actionsOf.mpr ⟨hmem, Prod.ext htenant hid⟩

theorem approvalBlockers_eq_nil :
    S.approvalBlockers db f.tenantId f = [] ↔
      db.openDispute f.tenantId f.findingId = none ∧
      (db.latestAssessment f.tenantId f.findingId (S.hashOf f)).isSome ∧
      (S.requireQualityReview = true →
        (db.passingReview f.tenantId f.findingId (S.hashOf f)).isSome) := by
  simp only [approvalBlockers, List.append_eq_nil_iff, and_assoc]
  refine and_congr ?_ (and_congr ?_ ?_)
  · cases db.openDispute f.tenantId f.findingId <;> simp
  · cases db.latestAssessment f.tenantId f.findingId (S.hashOf f) <;> simp
  · cases db.passingReview f.tenantId f.findingId (S.hashOf f) <;> simp

theorem requireApprovalPreconditions_eq_ok {approverId : String} :
    S.requireApprovalPreconditions db f.tenantId f approverId = .ok () ↔
      S.approvalBlockers db f.tenantId f = [] ∧
      (S.requireQualityReview = true → ∀ r ∈ db.passingReview f.tenantId f.findingId (S.hashOf f),
        S.identity r.reviewerId ≠ S.identity approverId) := by
  rw [requireApprovalPreconditions, require_bind_eq_ok, require_eq_ok]
  refine and_congr_right fun _ => ?_
  by_cases hq : S.requireQualityReview = true
  · simp [hq]
  · simp [hq]

theorem requireDecision_eq_ok {request : AdjudicationRequest}
    (h : S.requireDecision db f.tenantId f request = .ok ()) :
    (request.decision = .returnForRework ∧ f.status = .proposed ∨
      request.decision ≠ .returnForRework ∧
        decisionTarget request.decision ∈ allowedTransitions f.status) ∧
    (request.decision = .approve →
      S.requireApprovalPreconditions db f.tenantId f request.actorId = .ok ()) := by
  have happrove : ∀ {u : Except AdjudicationError Unit},
      (if request.decision = .approve then u else .ok ()) = .ok () →
        request.decision = .approve → u = .ok () := by
    intro u hu hdecision
    rwa [if_pos hdecision] at hu
  rw [requireDecision] at h
  split at h
  · obtain ⟨hstatus, h⟩ := require_bind_eq_ok.mp h
    exact ⟨Or.inl ⟨‹_›, hstatus⟩, happrove h⟩
  · obtain ⟨hallowed, h⟩ := require_bind_eq_ok.mp h
    exact ⟨Or.inr ⟨‹_›, hallowed⟩, happrove h⟩

theorem requireIndependence_eq_ok {action : RemediationAction} {performedBy : String} :
    S.requireIndependence f action performedBy = .ok () ↔
      ∀ role ∈ [f.author, action.ownerRef, action.completedBy.getD ""],
        S.identity role ≠ "" → S.identity role ≠ S.identity performedBy := by
  unfold requireIndependence Finding.author
  dsimp only
  split
  · have hfound := List.find?_some ‹_›
    have hmem := List.mem_of_find?_eq_some ‹_›
    simp only [List.mem_cons, List.not_mem_nil, or_false, decide_eq_true_eq] at hmem hfound
    simp only [reduceCtorEq, false_iff]
    intro h
    rcases hmem with rfl | rfl | rfl
    · exact h _ (by simp) hfound.1 hfound.2
    · exact h _ (by simp) hfound.1 hfound.2
    · exact h _ (by simp) hfound.1 hfound.2
  · have hnone := List.find?_eq_none.mp ‹_›
    simpa using hnone

theorem escalated_status {floor : Severity} {raised : Finding} (h : raised = escalated floor f) :
    raised.status = f.status := by
  rw [h, escalated]
  split <;> rfl

theorem Move.author (h : Move S db call f c) : (c.finding.getD f).author = f.author := by
  cases h with
  | assessed request _ _ raised raise _ =>
    rw [raise, Option.getD_some, escalated]
    split <;> rfl
  | decided | overridden | reviewed | disputed | resolved | opened | ticketRefused | ticketFiled
  | submitted | retested | reopened => rfl

end Guards

end Adjudication
