/-
Approval.

`approved` is entered by a human decision that passes the gate, or by upholding
a dispute that was raised while the finding was approved; the statuses of the
remediation come after it.  So every approved finding has an approval on the
record that was made with no blocker (`run_approved`).

What was approved is a text: the review and the assessment that the gate asks
for bind to its digest.  But the severity is part of the text and can still be
changed afterwards, so the approved text is not always the current one
(`run_reviewed`).
-/
import AssuranceOS.Adjudication.Disputes

namespace Adjudication

open Table AdjudicationService

/-- `approved`, or later in the remediation. -/
def FindingStatus.isApproved : FindingStatus → Bool
  | .approved | .remediationOpen | .remediationDeclaredComplete | .retestInProgress
  | .closedVerified | .reopened => true
  | _ => false

theorem isApproved_of_transition {s t : FindingStatus} (h : t ∈ allowedTransitions s)
    (ht : t.isApproved) (hne : t ≠ .approved) : s.isApproved := by
  cases s with
  | approved | remediationOpen | remediationDeclaredComplete | retestInProgress | reopened => rfl
  | proposed | disputed | deferred =>
    simp only [allowedTransitions, List.mem_cons, List.not_mem_nil, or_false] at h
    rcases h with rfl | rfl | rfl | rfl | rfl <;> simp_all [FindingStatus.isApproved]
  | withdrawn | closedVerified | rejected | riskAccepted => exact absurd h List.not_mem_nil

/-- The finding is approved, or was so when a dispute was raised. -/
def EverApproved (k : CaseFile) : Prop :=
  k.finding.status.isApproved ∨ ∃ d ∈ k.disputes, d.priorStatus = .approved

section Approval

variable {S : AdjudicationService} {db : Database} {call : Call} {f : Finding} {c : Change}
  {calls : List Call}

/-- The two ways to become approved: the decision, and a dispute that is upheld. -/
inductive Enters (S : AdjudicationService) (db : Database) (call : Call) (f : Finding) :
    Change → Prop
  | decision {request : AdjudicationRequest} (op : call.op = .adjudicate f.tenantId request)
      (target : f.findingId = request.findingId) (approve : request.decision = .approve)
      (human : S.isAutomated request.actorId = false)
      (first : isReplay db f.tenantId f request = false)
      (accepted : S.requireDecision db f.tenantId f request = .ok ())
      (unique : newId call.hex "apd" ∉ db.decisions.map (·.decisionId)) :
      Enters S db call f
        { finding := some { f with status := .approved }
          decisions := .insert (decisionRow call.now call.hex f.tenantId f (.human .approve)
            request.actorId request.reason) }
  | upheld {request : DisputeResolutionRequest}
      (op : call.op = .resolveDispute f.tenantId request)
      (upheld : request.resolution = .upheld) {dispute : FindingDispute}
      (mem : dispute ∈ db.disputes) (dispute_id : dispute.disputeId = request.disputeId)
      (owner : dispute.owner = f.owner) (may : MayResolve S request dispute f)
      (prior : dispute.priorStatus = .approved) :
      Enters S db call f
        { finding := some { f with status := .approved }
          disputes := .put (resolvedRow call.now request dispute)
          decisions := .insert (decisionRow call.now call.hex f.tenantId f (.dispute .upheld)
            request.resolvedBy request.reason) }

/-- A move that leaves a finding approved found it approved, or is one of the two
ways to become so. -/
theorem Move.enters (h : Move S db call f c) (hk : Disputed (db.caseFile f))
    (h' : (c.finding.getD f).status.isApproved) :
    f.status.isApproved ∨ Enters S db call f c := by
  cases h with
  | decided request op target human first accepted unique =>
    have htarget : (decisionTarget request.decision).isApproved := h'
    cases hdecision : request.decision with
    | approve => exact Or.inr (.decision op target hdecision human first accepted unique)
    | reject | returnForRework | defer | acceptRisk =>
      rw [hdecision] at htarget
      exact absurd htarget Bool.false_ne_true
  | assessed request _ _ raised raise _ =>
    exact Or.inl (escalated_status raise ▸ h')
  | overridden | reviewed | ticketRefused | ticketFiled => exact Or.inl h'
  | disputed => exact absurd h' Bool.false_ne_true
  | resolved request op dispute mem dispute_id owner may allowed _ =>
    have htarget : (resolutionTarget dispute request.resolution).isApproved := h'
    cases hres : request.resolution with
    | upheld =>
      rw [hres] at htarget
      rcases hk.prior dispute (mem_disputes mem owner) with hp | hp
      · rw [resolutionTarget, hp] at htarget
        exact absurd htarget Bool.false_ne_true
      · rw [show resolutionTarget dispute .upheld = .approved from hp]
        exact Or.inr (.upheld op hres mem dispute_id owner may hp)
    | modified | withdrawn =>
      rw [hres] at htarget
      exact absurd htarget Bool.false_ne_true
  | opened _ _ _ _ allowed | submitted _ _ _ _ _ _ _ allowed
  | retested _ _ _ _ _ _ _ _ allowed | reopened _ _ _ _ allowed =>
    exact Or.inl (isApproved_of_transition allowed rfl (by decide))

theorem Move.priorStatus (h : Move S db call f c) {d : FindingDispute}
    (hd : d ∈ ((db.caseFile f).apply c).disputes) (hprior : d.priorStatus = .approved) :
    EverApproved (db.caseFile f) := by
  cases h with
  | disputed request _ _ _ _ _ =>
    rcases List.mem_append.mp hd with hd | hd
    · exact Or.inr ⟨d, hd, hprior⟩
    · rw [List.mem_singleton.mp hd] at hprior
      exact Or.inl (congrArg FindingStatus.isApproved hprior)
  | resolved request _ dispute mem _ owner _ _ _ =>
    rcases eq_or_mem_of_mem_put hd with rfl | ⟨hd, -⟩
    · exact Or.inr ⟨dispute, mem_disputes mem owner, hprior⟩
    · exact Or.inr ⟨d, hd, hprior⟩
  | decided | assessed | overridden | reviewed | opened | ticketRefused | ticketFiled | submitted
  | retested | reopened => exact Or.inr ⟨d, hd, hprior⟩

/-- The call approves the finding, and `d` is the row of the decision. -/
structure Approves (S : AdjudicationService) (db : Database) (call : Call) (f : Finding)
    (d : ApprovalDecision) : Prop where
  decisionType : d.decisionType = .human .approve
  human : S.isAutomated d.actorId = false
  unblocked : S.approvalBlockers db f.tenantId f = []
  unique : d.decisionId ∉ db.decisions.map (·.decisionId)

theorem Move.everApproved (h : Move S db call f c) (hk : Disputed (db.caseFile f))
    (h' : EverApproved ((db.caseFile f).apply c)) :
    EverApproved (db.caseFile f) ∨ ∃ d, Approves S db call f d ∧ c.decisions = .insert d := by
  rcases h' with hstatus | ⟨d, hd, hprior⟩
  · rcases h.enters hk hstatus with hbefore | henters
    · exact Or.inl (Or.inl hbefore)
    · cases henters with
      | @decision request op target approve human first accepted unique =>
        have hpre := (requireDecision_eq_ok accepted).2 approve
        have hrow : Approves S db call f (decisionRow call.now call.hex f.tenantId f
            (.human .approve) request.actorId request.reason) :=
          ⟨rfl, human, (requireApprovalPreconditions_eq_ok.mp hpre).1, unique⟩
        exact Or.inr ⟨_, hrow, rfl⟩
      | upheld _ _ mem _ owner _ prior =>
        exact Or.inl (Or.inr ⟨_, mem_disputes mem owner, prior⟩)
  · exact Or.inl (h.priorStatus hd hprior)

theorem not_everApproved_new {decisions : List ApprovalDecision}
    (h : f.status = .proposed ∨ f.status = .rejected) :
    ¬ EverApproved { finding := f, decisions := decisions } := by
  rintro (hstatus | ⟨d, hd, -⟩)
  · rcases h with hs | hs <;> simp [hs, FindingStatus.isApproved] at hstatus
  · exact absurd hd List.not_mem_nil

theorem Move.mem_decisions (h : Move S db call f c) {d : ApprovalDecision}
    (hd : d ∈ (db.caseFile f).decisions) : d ∈ ((db.caseFile f).apply c).decisions := by
  cases h with
  | decided | overridden | resolved => exact List.mem_append_left _ hd
  | assessed | reviewed | disputed | opened | ticketRefused | ticketFiled | submitted | retested
  | reopened => exact hd

/-- Some step of the run recorded `d` as an approval of the finding `o`. -/
def ApprovedBy (S : AdjudicationService) (db : Database) (calls : List Call) (o : Owner)
    (d : ApprovalDecision) : Prop :=
  Runs.SomeStep (step S) (fun db call => ∃ f ∈ db.findings, f.owner = o ∧
    Approves S db call f d ∧ d ∈ (step S db call).decisions) db calls

theorem run_everApproved (hdb : Fresh db) (hf : f ∈ (run S db calls).findings) :
    EverApproved ((run S db calls).caseFile f) →
      ∃ d ∈ ((run S db calls).caseFile f).decisions, ApprovedBy S db calls f.owner d := by
  refine run_caseFile (P := fun calls k => EverApproved k →
    ∃ d ∈ k.decisions, ApprovedBy S db calls k.finding.owner d) ?_ ?_ ?_ hdb
    (fun _ _ _ _ => trivial) hf
  · intro calls f decisions hstatus _ happroved
    exact absurd happroved (not_everApproved_new hstatus)
  · intro calls call f _ _ ih happroved
    obtain ⟨d, hd, hstep⟩ := ih happroved
    exact ⟨d, hd, hstep.append [call]⟩
  · intro calls call f c _ hf hmove hcase ih happroved
    have howner : (((run S db calls).caseFile f).apply c).finding.owner = f.owner :=
      hmove.legal.owner_getD
    rw [howner]
    rcases hmove.everApproved (run_disputed hdb hf) happroved with hbefore | ⟨d, happroves, hrow⟩
    · obtain ⟨d, hd, hstep⟩ := ih hbefore
      exact ⟨d, hmove.mem_decisions hd, hstep.append [call]⟩
    · have hd : d ∈ (((run S db calls).caseFile f).apply c).decisions := by
        rw [CaseFile.apply, hrow]
        exact List.mem_append_right _ List.mem_cons_self
      refine ⟨d, hd, Runs.SomeStep.last ⟨f, hf, rfl, happroves, ?_⟩⟩
      rw [← hcase, run_concat] at hd
      exact (mem_ownedBy.mp hd).1

/-- **No way around the gate.**  Every approved finding has a decision on the
record that some step of the run made as a human approval, with nothing left to
block it. -/
theorem run_approved (hdb : Fresh db) {f : Finding} (hf : f ∈ (run S db calls).findings)
    (happroved : f.status.isApproved) :
    ∃ d ∈ (run S db calls).decisions, d.owner = f.owner ∧ d.decisionType = .human .approve ∧
      S.isAutomated d.actorId = false ∧ ApprovedBy S db calls f.owner d := by
  obtain ⟨d, hd, hstep⟩ := run_everApproved hdb hf (Or.inl happroved)
  obtain ⟨hd, howner⟩ := mem_ownedBy.mp hd
  have hsome := hstep
  obtain ⟨_, _, _, _, _, _, _, happroves, _⟩ := hsome
  exact ⟨d, hd, howner, happroves.decisionType, happroves.human, hstep⟩

/-- A finding that is proposed, assessed, reviewed and approved. -/
def approvedSample : List Call :=
  sampleReviewed "author" "reviewer" reviewer_length ++
    [sampleDecision 4 .approve "lead" "app" lead_length app_length]

theorem approvedSample_isApproved :
    ∃ f ∈ (run sampleService sampleDatabase approvedSample).findings, f.status.isApproved := by
  decide +kernel

theorem run_approved_sample :
    ∃ f ∈ (run sampleService sampleDatabase approvedSample).findings,
      ∃ d ∈ (run sampleService sampleDatabase approvedSample).decisions,
        d.owner = f.owner ∧ d.decisionType = .human .approve ∧
        sampleService.isAutomated d.actorId = false ∧
        ApprovedBy sampleService sampleDatabase approvedSample f.owner d := by
  obtain ⟨f, hf, hstatus⟩ := approvedSample_isApproved
  exact ⟨f, hf, run_approved sampleDatabase_fresh hf hstatus⟩

/-! ### The approved text -/

/-- A quality review of the finding as it stands has passed. -/
def PassingReview (S : AdjudicationService) (db : Database) (f : Finding) : Prop :=
  ∃ r ∈ db.qualityReviews, r.owner = f.owner ∧ r.passed ∧ r.contentHash = S.hashOf f

/-- The severity of the finding as it stands has been assessed. -/
def CurrentAssessment (S : AdjudicationService) (db : Database) (f : Finding) : Prop :=
  ∃ a ∈ db.assessments, a.owner = f.owner ∧ a.contentHash = S.hashOf f

/-- The call does not change the severity of an approved finding, nor does it
bring back the approval of a text that no passing review covers. -/
def KeepsApprovedText (S : AdjudicationService) (db : Database) (call : Call) : Prop :=
  match call.op with
  | .assessMateriality tenantId request =>
    ∀ f ∈ db.findings, f.tenantId = tenantId → f.findingId = request.findingId →
      f.status.isApproved →
        severityRank (assess request.inputs (request.policy.getD defaultPolicy)).severityFloor ≤
          severityRank f.severity
  | .overrideSeverity tenantId request =>
    S.isAutomated request.actorId = false →
      ∀ f ∈ db.findings, f.tenantId = tenantId → f.findingId = request.findingId →
        f.status.isApproved → ∀ a ∈ db.latestAssessment tenantId f.findingId (S.hashOf f),
          severityRank request.severity < severityRank a.severityFloor →
            request.severity = f.severity
  | .resolveDispute tenantId request =>
    request.resolution = .upheld →
      ∀ dispute ∈ db.disputes, dispute.tenantId = tenantId →
        dispute.disputeId = request.disputeId → dispute.priorStatus = .approved →
          ∀ f ∈ db.findings, f.owner = dispute.owner → MayResolve S request dispute f →
            PassingReview S db f
  | _ => True

/-- Once approved, the current text of a finding always has its assessment: what
changes the severity assesses the new text. -/
theorem Move.currentAssessment (h : Move S db call f c) (hk : Disputed (db.caseFile f))
    (hbefore : EverApproved (db.caseFile f) →
      ∃ a ∈ (db.caseFile f).assessments, a.contentHash = S.hashOf f)
    (happroved : EverApproved ((db.caseFile f).apply c)) :
    ∃ a ∈ ((db.caseFile f).apply c).assessments,
      a.contentHash = S.hashOf (c.finding.getD f) := by
  have hcurrent : ∃ a ∈ (db.caseFile f).assessments, a.contentHash = S.hashOf f := by
    rcases h.everApproved hk happroved with hever | ⟨d, happroves, -⟩
    · exact hbefore hever
    · obtain ⟨a, ha⟩ := Option.isSome_iff_exists.mp
        (approvalBlockers_eq_nil.mp happroves.unblocked).2.1
      exact ⟨a, latestAssessment_eq_some ha⟩
  cases h with
  | assessed => exact ⟨_, List.mem_append_right _ List.mem_cons_self, rfl⟩
  | overridden _ _ _ _ assessment current =>
    exact ⟨_, mem_put_self (latestAssessment_eq_some current).1 rfl, rfl⟩
  | decided | reviewed | disputed | resolved | opened | ticketRefused | ticketFiled | submitted
  | retested | reopened => exact hcurrent

theorem escalated_eq_self {floor : Severity} (h : severityRank floor ≤ severityRank f.severity) :
    escalated floor f = f :=
  if_neg (Nat.not_lt.mpr h)

theorem Move.finding_text (h : Move S db call f c) (hf : f ∈ db.findings)
    (hok : KeepsApprovedText S db call) (happroved : f.status.isApproved) :
    S.hashOf (c.finding.getD f) = S.hashOf f := by
  cases h with
  | assessed request op target raised raise _ =>
    rw [KeepsApprovedText, op] at hok
    rw [raise, escalated_eq_self (hok f hf rfl target happroved)]
    rfl
  | overridden request op target human assessment current below _ =>
    rw [KeepsApprovedText, op] at hok
    have hsame := hok human f hf rfl target happroved assessment current below
    show S.hashOf { f with severity := request.severity } = S.hashOf f
    rw [hsame]
  | decided | reviewed | disputed | resolved | opened | ticketRefused | ticketFiled | submitted
  | retested | reopened => rfl

theorem Move.mem_qualityReviews (h : Move S db call f c) {r : QualityReview}
    (hr : r ∈ (db.caseFile f).qualityReviews) :
    r ∈ ((db.caseFile f).apply c).qualityReviews := by
  cases h with
  | reviewed => exact List.mem_append_left _ hr
  | decided | assessed | overridden | disputed | resolved | opened | ticketRefused | ticketFiled
  | submitted | retested | reopened => exact hr

/-- A move that makes or keeps a finding approved leaves it with a passing review
of its text. -/
theorem Move.passingReview (h : Move S db call f c) (hf : f ∈ db.findings)
    (hq : S.requireQualityReview = true) (hok : KeepsApprovedText S db call)
    (hk : Disputed (db.caseFile f))
    (hbefore : f.status.isApproved →
      ∃ r ∈ (db.caseFile f).qualityReviews, r.passed ∧ r.contentHash = S.hashOf f)
    (happroved : (c.finding.getD f).status.isApproved) :
    ∃ r ∈ ((db.caseFile f).apply c).qualityReviews,
      r.passed ∧ r.contentHash = S.hashOf (c.finding.getD f) := by
  rcases h.enters hk happroved with hstatus | henters
  · obtain ⟨r, hr, hpassed, hhash⟩ := hbefore hstatus
    exact ⟨r, h.mem_qualityReviews hr, hpassed, by rw [h.finding_text hf hok hstatus, hhash]⟩
  · cases henters with
    | decision _ _ approve _ _ accepted _ =>
      have hpre := (requireDecision_eq_ok accepted).2 approve
      have hblockers := (requireApprovalPreconditions_eq_ok.mp hpre).1
      obtain ⟨r, hr⟩ := Option.isSome_iff_exists.mp
        ((approvalBlockers_eq_nil.mp hblockers).2.2 hq)
      obtain ⟨hr, hhash, hpassed⟩ := passingReview_eq_some hr
      exact ⟨r, hr, hpassed, hhash⟩
    | @upheld request op upheld dispute mem dispute_id owner may prior =>
      rw [KeepsApprovedText, op] at hok
      obtain ⟨r, hr, howner, hpassed, hhash⟩ := hok upheld dispute mem
        (Prod.ext_iff.mp owner).1 dispute_id prior f hf owner.symm may
      exact ⟨r, mem_ownedBy.mpr ⟨hr, howner⟩, hpassed, hhash⟩

/-- **The approved text is the reviewed one**, with the review required, in every run
that keeps the text of approved findings; and then no approved finding changes
its text. -/
theorem run_reviewed (hdb : Fresh db) (hq : S.requireQualityReview = true)
    (hok : Runs.EachStep (step S) (KeepsApprovedText S) db calls) :
    (∀ f ∈ (run S db calls).findings, f.status.isApproved →
      PassingReview S (run S db calls) f ∧ CurrentAssessment S (run S db calls) f) ∧
    Runs.EachStep (step S) (fun db call => ∀ f ∈ db.findings, ∀ g ∈ (step S db call).findings,
      g.findingId = f.findingId → f.status.isApproved → S.hashOf g = S.hashOf f) db calls := by
  rw [Runs.eachStep_iff] at hok ⊢
  constructor
  · intro f hf happroved
    have hinv := run_caseFile (P := fun _ k =>
      (k.finding.status.isApproved →
        ∃ r ∈ k.qualityReviews, r.passed ∧ r.contentHash = S.hashOf k.finding) ∧
      (EverApproved k → ∃ a ∈ k.assessments, a.contentHash = S.hashOf k.finding))
      ?_ (fun _ _ _ _ _ h => h) ?_ hdb hok hf
    · obtain ⟨r, hr, hreview⟩ := hinv.1 happroved
      obtain ⟨a, ha, hassessment⟩ := hinv.2 (Or.inl happroved)
      obtain ⟨hr, hrowner⟩ := mem_ownedBy.mp hr
      obtain ⟨ha, haowner⟩ := mem_ownedBy.mp ha
      exact ⟨⟨r, hr, hrowner, hreview⟩, ⟨a, ha, haowner, hassessment⟩⟩
    · intro _ f decisions hstatus _
      have hnew : ¬ EverApproved { finding := f, decisions := decisions } :=
        not_everApproved_new hstatus
      exact ⟨fun h => absurd (Or.inl h) hnew, fun h => absurd h hnew⟩
    · rintro calls call f c hcall hf hmove - ⟨hreview, hassessment⟩
      have hk := run_disputed hdb hf
      exact ⟨hmove.passingReview hf hq hcall hk hreview,
        hmove.currentAssessment hk hassessment⟩
  · intro before call after heq f hf g hg hid happroved
    rcases step_finding (run_wellFormed hdb before) hf hg hid with rfl | ⟨c, hmove, rfl⟩
    · rfl
    · exact hmove.finding_text hf (hok before call after heq) happroved

/-- The approved finding is assessed again, with every item an exception. -/
def raisedSample : List Call :=
  approvedSample ++ [sampleCall 5 (.assessMateriality "tenant"
    { findingId := "fnd_1", assessedBy := "analyst", assessedBy_length := analyst_length
      inputs := { sampleInputs with exceptionCount := 40, population_must_reconcile := le_rfl } })]

/-- The raised severity makes a text that nobody has reviewed, and the finding
stays approved. -/
theorem raised_text_unreviewed :
    ¬ ∀ f ∈ (run sampleService sampleDatabase raisedSample).findings, f.status.isApproved →
      PassingReview sampleService (run sampleService sampleDatabase raisedSample) f := by
  intro h
  obtain ⟨f, hf, hstatus, hnone⟩ : ∃ f ∈ (run sampleService sampleDatabase raisedSample).findings,
      f.status.isApproved ∧ ∀ r ∈ (run sampleService sampleDatabase raisedSample).qualityReviews,
        r.contentHash ≠ sampleService.hashOf f := by decide +kernel
  obtain ⟨r, hr, -, -, hhash⟩ := h f hf hstatus
  exact hnone r hr hhash

def upheldSample : List Call :=
  approvedSample ++ [sampleDispute 5, sampleResolution 6 "dsp_5" .upheld]

theorem run_reviewed_upheld :
    ∃ f ∈ (run sampleService sampleDatabase upheldSample).findings, f.status = .approved ∧
      PassingReview sampleService (run sampleService sampleDatabase upheldSample) f ∧
      CurrentAssessment sampleService (run sampleService sampleDatabase upheldSample) f := by
  obtain ⟨f, hf, hstatus⟩ : ∃ f ∈ (run sampleService sampleDatabase upheldSample).findings,
      f.status = .approved := by decide +kernel
  have hok : Runs.EachStep (step sampleService) (KeepsApprovedText sampleService) sampleDatabase
      upheldSample := by
    refine ⟨trivial, ?_, trivial, trivial, trivial, ?_, trivial⟩
    · dsimp only [KeepsApprovedText, sampleReviewed, sampleCall]
      decide +kernel
    · dsimp only [KeepsApprovedText, PassingReview, sampleResolution, sampleCall]
      decide +kernel
  refine ⟨f, hf, hstatus, (run_reviewed sampleDatabase_fresh rfl hok).1 f hf ?_⟩
  rw [hstatus]
  rfl

end Approval

end Adjudication
