/-
Disputes, the transition table, and repeated decisions.

A dispute moves the finding to `disputed`; at most one is open at a time (`Disputed`).  While one is
open the finding can still be rejected by a human decision, which leaves the dispute open, and
`resolve_dispute` checks its transition from `disputed` whatever the status of the finding is.  Both
the table and the match between open disputes and `disputed` hold exactly on the runs that avoid the
step that goes wrong.

The replay check of `adjudicate` looks for a decision of the same kind by the same actor anywhere on
the record of the finding; the idempotency key is not compared.  `takesEffect_iff`: a call raises, or
it records a decision and moves the finding, exactly when it repeats no decision on the record.
-/
import AssuranceOS.Adjudication.Cases

namespace Adjudication

open Checked Table AdjudicationService

/-- What holds of the disputes of a case in every reachable state. -/
structure Disputed (k : CaseFile) : Prop where
  /-- One dispute is open at a time. -/
  unique : ∀ d ∈ k.disputes, ∀ e ∈ k.disputes, d.status = .open → e.status = .open →
    d.disputeId = e.disputeId
  /-- A human rejection does not close the dispute. -/
  status : ∀ d ∈ k.disputes, d.status = .open →
    k.finding.status = .disputed ∨ k.finding.status = .rejected
  prior : ∀ d ∈ k.disputes, d.priorStatus = .proposed ∨ d.priorStatus = .approved

section Disputes

variable {S : AdjudicationService} {db : Database} {call : Call} {f : Finding} {c : Change}
variable {d : FindingDispute} {k : CaseFile}

theorem mem_disputes (hd : d ∈ db.disputes) (h : d.owner = f.owner) :
    d ∈ (db.caseFile f).disputes :=
  mem_ownedBy.mpr ⟨hd, h⟩

theorem decision_of_open {request : AdjudicationRequest} (h : Disputed (db.caseFile f))
    (haccepted : S.requireDecision db f.tenantId f request = .ok ())
    (hd : d ∈ (db.caseFile f).disputes) (hopen : d.status = .open) :
    f.status = .disputed ∧ request.decision = .reject := by
  obtain ⟨htarget, happrove⟩ := requireDecision_eq_ok haccepted
  have hblocked : request.decision ≠ .approve := by
    intro hdecision
    obtain ⟨hblockers, -⟩ := requireApprovalPreconditions_eq_ok.mp (happrove hdecision)
    exact openDispute_eq_none.mp (approvalBlockers_eq_nil.mp hblockers).1 d hd hopen
  have hstatus : f.status = .disputed ∨ f.status = .rejected := h.status d hd hopen
  rcases hstatus with hs | hs
  · rw [hs] at htarget
    cases hdecision : request.decision <;> simp_all [decisionTarget, allowedTransitions]
  · rw [hs] at htarget
    simp [allowedTransitions] at htarget

/-- A finding whose disputes are as they were keeps the invariant when an open
one leaves it in the same status. -/
theorem Disputed.of_disputes_eq {k' : CaseFile} (h : Disputed k) (hd : k'.disputes = k.disputes)
    (hs : (∃ d ∈ k.disputes, d.status = .open) → k'.finding.status = k.finding.status ∨
      k'.finding.status = .rejected) : Disputed k' where
  unique := by
    rw [hd]
    exact h.unique
  status d hmem hopen := by
    rw [hd] at hmem
    rcases hs ⟨d, hmem, hopen⟩ with heq | heq
    · rw [heq]
      exact h.status d hmem hopen
    · exact Or.inr heq
  prior := by
    rw [hd]
    exact h.prior

theorem Disputed.closed_of_transition {target : FindingStatus} (h : Disputed (db.caseFile f))
    (ht : target ∈ allowedTransitions f.status) (hne : target ∉ allowedTransitions .disputed)
    (hd : d ∈ (db.caseFile f).disputes) : d.status ≠ .open := by
  intro hopen
  have hstatus : f.status = .disputed ∨ f.status = .rejected := h.status d hd hopen
  rcases hstatus with hs | hs
  · exact hne (hs ▸ ht)
  · simp [hs, allowedTransitions] at ht

theorem Disputed.closed_of_resolution (hk : Disputed k) {dispute : FindingDispute}
    (hmem : dispute ∈ k.disputes) (hopen : dispute.status = .open) (now : Timestamp)
    (request : DisputeResolutionRequest) :
    ∀ d ∈ put FindingDispute.disputeId (resolvedRow now request dispute) k.disputes,
      d.status ≠ .open := by
  intro d hd
  rcases eq_or_mem_of_mem_put hd with rfl | ⟨hd, hne⟩
  · simp [resolvedRow]
  · exact fun hdo => hne (hk.unique d hd dispute hmem hdo hopen)

theorem Move.disputed_inv (h : Move S db call f c) (hk : Disputed (db.caseFile f)) :
    Disputed ((db.caseFile f).apply c) := by
  cases h with
  | decided request _ _ _ _ accepted _ =>
    refine hk.of_disputes_eq rfl ?_
    rintro ⟨d, hd, hopen⟩
    have hreject := (decision_of_open hk accepted hd hopen).2
    exact Or.inr (congrArg decisionTarget hreject)
  | assessed request _ _ raised raise _ =>
    exact hk.of_disputes_eq rfl fun _ => Or.inl (escalated_status raise)
  | overridden | reviewed | ticketRefused | ticketFiled =>
    exact hk.of_disputes_eq rfl fun _ => Or.inl rfl
  | disputed request _ _ closed allowed _ =>
    rw [openDispute_eq_none] at closed
    have hprior : f.status = .proposed ∨ f.status = .approved := by
      cases hs : f.status <;> simp_all [allowedTransitions]
    refine ⟨?_, fun _ _ _ => Or.inl rfl, ?_⟩
    · intro d hd e he hdo heo
      rcases List.mem_append.mp hd with hd | hd
      · exact absurd hdo (closed d hd)
      · rcases List.mem_append.mp he with he | he
        · exact absurd heo (closed e he)
        · rw [List.mem_singleton.mp hd, List.mem_singleton.mp he]
    · intro d hd
      rcases List.mem_append.mp hd with hd | hd
      · exact hk.prior d hd
      · rw [List.mem_singleton.mp hd]
        exact hprior
  | resolved request _ dispute mem _ owner may _ _ =>
    have hmem := mem_disputes mem owner
    have hclosed := hk.closed_of_resolution hmem may.2.1 call.now request
    refine ⟨fun d hd _ _ hopen _ => absurd hopen (hclosed d hd),
      fun d hd hopen => absurd hopen (hclosed d hd), fun d hd => ?_⟩
    rcases eq_or_mem_of_mem_put hd with rfl | ⟨hd, -⟩
    · exact hk.prior dispute hmem
    · exact hk.prior d hd
  | opened _ _ _ _ allowed | submitted _ _ _ _ _ _ _ allowed
  | retested _ _ _ _ _ _ _ _ allowed | reopened _ _ _ _ allowed =>
    refine hk.of_disputes_eq rfl ?_
    rintro ⟨d, hd, hopen⟩
    exact absurd hopen (hk.closed_of_transition allowed (by decide) hd)

variable {calls : List Call} {g : Finding}

/-- **One open dispute**, raised from `proposed` or `approved`, on a finding that is
`disputed` or `rejected`. -/
theorem run_disputed (hdb : Fresh db) (hf : f ∈ (run S db calls).findings) :
    Disputed ((run S db calls).caseFile f) := by
  refine run_caseFile_always ?_ (fun _ _ _ _ h hk => h.disputed_inv hk) hdb hf
  intro f decisions _ _
  exact ⟨by simp, by simp, by simp⟩

/-! ### The transition table -/

def Op.isRetest : Op → Bool
  | .retest .. => true
  | _ => false

/-- Every finding that the call moves follows the table; a retest passes through
`retestInProgress`. -/
def FollowsTransitions (S : AdjudicationService) (db : Database) (call : Call) : Prop :=
  ∀ f ∈ db.findings, ∀ g ∈ (step S db call).findings, g.findingId = f.findingId →
    g.status = f.status ∨ g.status ∈ allowedTransitions f.status ∨
      (call.op.isRetest ∧ .retestInProgress ∈ allowedTransitions f.status ∧
        g.status ∈ allowedTransitions .retestInProgress)

/-- A dispute that the call may resolve is one of a finding in `disputed`. -/
def ResolvesDisputed (S : AdjudicationService) (db : Database) (call : Call) : Prop :=
  match call.op with
  | .resolveDispute tenantId request =>
    ∀ dispute ∈ db.disputes, dispute.tenantId = tenantId → dispute.disputeId = request.disputeId →
      ∀ f ∈ db.findings, f.owner = dispute.owner → MayResolve S request dispute f →
        f.status = .disputed
  | _ => True

theorem Move.followsTransitions (h : Move S db call f c) (hf : f ∈ db.findings)
    (hok : ResolvesDisputed S db call) :
    (c.finding.getD f).status = f.status ∨
      (c.finding.getD f).status ∈ allowedTransitions f.status ∨
      (call.op.isRetest ∧ .retestInProgress ∈ allowedTransitions f.status ∧
        (c.finding.getD f).status ∈ allowedTransitions .retestInProgress) := by
  cases h with
  | decided request _ _ _ _ accepted _ =>
    rcases (requireDecision_eq_ok accepted).1 with ⟨hdecision, hstatus⟩ | ⟨-, hallowed⟩
    · refine Or.inl ?_
      show decisionTarget request.decision = f.status
      rw [hdecision, hstatus]
      rfl
    · exact Or.inr (Or.inl hallowed)
  | assessed request _ _ raised raise _ =>
    exact Or.inl (escalated_status raise)
  | overridden | reviewed | ticketRefused | ticketFiled => exact Or.inl rfl
  | disputed _ _ _ _ allowed _ => exact Or.inr (Or.inl allowed)
  | resolved request op dispute mem dispute_id owner may allowed _ =>
    have hstatus : f.status = .disputed := by
      rw [ResolvesDisputed, op] at hok
      exact hok dispute mem (Prod.ext_iff.mp owner).1 dispute_id f hf owner.symm may
    rw [hstatus]
    exact Or.inr (Or.inl allowed)
  | opened _ _ _ _ allowed | submitted _ _ _ _ _ _ _ allowed | reopened _ _ _ _ allowed =>
    exact Or.inr (Or.inl allowed)
  | retested request op _ _ _ _ _ _ allowed _ _ =>
    refine Or.inr (Or.inr ⟨by rw [op]; rfl, allowed, ?_⟩)
    show retestTarget request.outcome ∈ allowedTransitions .retestInProgress
    rw [retestTarget]
    split <;> decide

theorem step_followsTransitions (hw : WellFormed db) (hok : ResolvesDisputed S db call) :
    FollowsTransitions S db call := by
  intro f hf g hg hid
  rcases step_finding hw hf hg hid with rfl | ⟨c, hmove, rfl⟩
  · exact Or.inl rfl
  · exact hmove.followsTransitions hf hok

theorem FollowsTransitions.terminal (h : FollowsTransitions S db call) (hf : f ∈ db.findings)
    (hterminal : allowedTransitions f.status = []) (hg : g ∈ (step S db call).findings)
    (hid : g.findingId = f.findingId) :
    g.status = f.status := by
  rcases h f hf g hg hid with heq | hedge | ⟨-, hedge, -⟩
  · exact heq
  · simp [hterminal] at hedge
  · simp [hterminal] at hedge

theorem run_terminal (hw : WellFormed db)
    (h : Runs.EachStep (step S) (FollowsTransitions S) db calls) (hf : f ∈ db.findings)
    (hterminal : allowedTransitions f.status = []) (hg : g ∈ (run S db calls).findings)
    (hid : g.findingId = f.findingId) :
    g.status = f.status := by
  induction calls generalizing db f with
  | nil => rw [hw.eq_of_findingId hg hf hid]
  | cons call calls ih =>
    have hstays : (step S db call).IsOwner f.owner := step_isOwner hw ⟨f, hf, rfl⟩
    obtain ⟨f₁, hf₁, howner⟩ := hstays
    have hid₁ : f₁.findingId = f.findingId := (Prod.ext_iff.mp howner).2
    have hstatus : f₁.status = f.status := h.1.terminal hf hterminal hf₁ hid₁
    have hw₁ := (step_effect S db call).wellFormed hw
    rw [← hstatus]
    exact ih hw₁ h.2 hf₁ (hstatus ▸ hterminal) hg (hid.trans hid₁.symm)

/-- **The table is followed** in every run in which a dispute is resolved only while
its finding is `disputed`; a status without an edge is then final. -/
theorem run_followsTransitions (hdb : Fresh db) {calls : List Call}
    (hok : Runs.EachStep (step S) (ResolvesDisputed S) db calls) :
    Runs.EachStep (step S) (FollowsTransitions S) db calls ∧
      ∀ before after, calls = before ++ after → ∀ f ∈ (run S db before).findings,
        allowedTransitions f.status = [] → ∀ g ∈ (run S db calls).findings,
          g.findingId = f.findingId → g.status = f.status := by
  have hfollows : Runs.EachStep (step S) (FollowsTransitions S) db calls :=
    Runs.EachStep.of_invariant (fun db call _ hw => (step_effect S db call).wellFormed hw)
      (fun _ _ hcall hw => step_followsTransitions hw hcall) hdb.wellFormed hok
  refine ⟨hfollows, ?_⟩
  rintro before after rfl f hf hterminal g hg hid
  have hafter := (Runs.eachStep_append.mp hfollows).2
  rw [run, List.foldl_append] at hg
  exact run_terminal (run_wellFormed hdb before) hafter hf hterminal hg hid

def sampleDispute (n : Nat) : Call :=
  sampleCall n (.raiseDispute "tenant"
    { findingId := "fnd_1", ground := .outOfScope, statement := "not in scope"
      raisedBy := "manager" })

def sampleResolution (n : Nat) (disputeId : String) (resolution : DisputeResolution) : Call :=
  sampleCall n (.resolveDispute "tenant"
    { disputeId := disputeId, resolution := resolution, reason := "second look"
      resolvedBy := "chief" })

/-- A disputed finding is rejected, and then its dispute is resolved. -/
def rejectedDispute : List Call :=
  [sampleCall 1 (.propose "tenant" "engagement" sampleProposal "author" none []), sampleDispute 2,
    sampleDecision 3 .reject "lead" "rej" lead_length, sampleResolution 4 "dsp_2" .modified]

/-- The rejected finding is `proposed` again. -/
theorem rejected_finding_returns :
    ¬ Runs.EachStep (step sampleService) (FollowsTransitions sampleService) sampleDatabase
        rejectedDispute ∧
      ∃ f ∈ (run sampleService sampleDatabase (rejectedDispute.take 3)).findings,
        allowedTransitions f.status = [] ∧
        ∃ g ∈ (run sampleService sampleDatabase rejectedDispute).findings,
          g.findingId = f.findingId ∧ g.status ≠ f.status := by
  have hreturns : ∃ f ∈ (run sampleService sampleDatabase (rejectedDispute.take 3)).findings,
      allowedTransitions f.status = [] ∧
      ∃ g ∈ (run sampleService sampleDatabase rejectedDispute).findings,
        g.findingId = f.findingId ∧ g.status ≠ f.status := by decide +kernel
  refine ⟨fun h => ?_, hreturns⟩
  obtain ⟨f, hf, hterminal, g, hg, hid, hne⟩ := hreturns
  exact hne (h.2.2.2.1.terminal hf hterminal hg hid)

/-- A dispute that ends with the withdrawal of the finding, and a late rejection. -/
def withdrawnDispute : List Call :=
  [sampleCall 1 (.propose "tenant" "engagement" sampleProposal "author" none []), sampleDispute 2,
    sampleResolution 3 "dsp_2" .withdrawn, sampleDecision 4 .reject "lead" "rej"]

/-- The withdrawal is final. -/
theorem run_followsTransitions_withdrawn :
    ∃ f ∈ (run sampleService sampleDatabase (withdrawnDispute.take 3)).findings,
      f.status = .withdrawn ∧
      ∀ g ∈ (run sampleService sampleDatabase withdrawnDispute).findings,
        g.findingId = f.findingId → g.status = .withdrawn := by
  obtain ⟨f, hf, hstatus⟩ :
      ∃ f ∈ (run sampleService sampleDatabase (withdrawnDispute.take 3)).findings,
        f.status = .withdrawn := by decide +kernel
  refine ⟨f, hf, hstatus, fun g hg hid => ?_⟩
  have hok : Runs.EachStep (step sampleService) (ResolvesDisputed sampleService) sampleDatabase
      withdrawnDispute := by
    refine ⟨trivial, trivial, ?_, trivial, trivial⟩
    dsimp only [ResolvesDisputed, sampleResolution, sampleCall]
    decide +kernel
  rw [← hstatus]
  refine (run_followsTransitions sampleDatabase_fresh hok).2 (withdrawnDispute.take 3)
    (withdrawnDispute.drop 3) rfl f hf ?_ g hg hid
  rw [hstatus]
  rfl

/-! ### Open disputes and the status `disputed` -/

/-- Resolving disputes. -/
def Op.isResolution : Op → Bool
  | .resolveDispute .. => true
  | _ => false

/-- No human decision rejects a finding that is disputed. -/
def NoDisputedRejection (S : AdjudicationService) (db : Database) (call : Call) : Prop :=
  match call.op with
  | .adjudicate tenantId request =>
    request.decision = .reject → S.isAutomated request.actorId = false →
      ∀ f ∈ db.findings, f.tenantId = tenantId → f.findingId = request.findingId →
        isReplay db tenantId f request = false → f.status ≠ .disputed
  | _ => True

/-- A dispute is open exactly while the finding is `disputed`. -/
def OpenIffDisputed (k : CaseFile) : Prop :=
  (∃ d ∈ k.disputes, d.status = .open) ↔ k.finding.status = .disputed

theorem openIffDisputed_of_closed (hd : ∀ d ∈ k.disputes, d.status ≠ .open)
    (hs : k.finding.status ≠ .disputed) : OpenIffDisputed k :=
  iff_of_false (fun ⟨d, hmem, hopen⟩ => hd d hmem hopen) hs

theorem Move.openIffDisputed (h : Move S db call f c) (hf : f ∈ db.findings)
    (hok : NoDisputedRejection S db call) (hk : Disputed (db.caseFile f))
    (hiff : OpenIffDisputed (db.caseFile f)) : OpenIffDisputed ((db.caseFile f).apply c) := by
  cases h with
  | decided request op target human first accepted _ =>
    refine openIffDisputed_of_closed (fun d hd hopen => ?_) ?_
    · obtain ⟨hstatus, hreject⟩ := decision_of_open hk accepted hd hopen
      rw [NoDisputedRejection, op] at hok
      exact hok hreject human f hf rfl target first hstatus
    · show decisionTarget request.decision ≠ .disputed
      cases request.decision <;> decide
  | assessed request _ _ raised raise _ =>
    show (∃ d ∈ (db.caseFile f).disputes, d.status = .open) ↔ raised.status = .disputed
    rw [escalated_status raise]
    exact hiff
  | overridden | reviewed | ticketRefused | ticketFiled => exact hiff
  | disputed request _ _ _ _ _ =>
    refine iff_of_true ⟨S.disputeRow db call.now call.hex f.tenantId f request, ?_, rfl⟩ rfl
    exact List.mem_append_right _ List.mem_cons_self
  | resolved request _ dispute mem _ owner may allowed _ =>
    refine openIffDisputed_of_closed
      (hk.closed_of_resolution (mem_disputes mem owner) may.2.1 call.now request) ?_
    show resolutionTarget dispute request.resolution ≠ .disputed
    intro heq
    rw [heq] at allowed
    simp [allowedTransitions] at allowed
  | opened _ _ _ _ allowed | submitted _ _ _ _ _ _ _ allowed | reopened _ _ _ _ allowed =>
    exact openIffDisputed_of_closed
      (fun d hd => hk.closed_of_transition allowed (by decide) hd) nofun
  | retested request _ _ _ _ _ _ _ allowed _ _ =>
    refine openIffDisputed_of_closed
      (fun d hd => hk.closed_of_transition allowed (by decide) hd) ?_
    show retestTarget request.outcome ≠ .disputed
    rw [retestTarget]
    split <;> decide

/-- While a dispute is open, only its resolution moves the finding, if disputed
findings are not rejected. -/
theorem Move.resolution_of_open (h : Move S db call f c) (hf : f ∈ db.findings)
    (hok : NoDisputedRejection S db call) (hk : Disputed (db.caseFile f))
    (hd : d ∈ (db.caseFile f).disputes) (hopen : d.status = .open)
    (hne : (c.finding.getD f).status ≠ f.status) : call.op.isResolution := by
  cases h with
  | decided request op target human first accepted _ =>
    obtain ⟨hstatus, hreject⟩ := decision_of_open hk accepted hd hopen
    rw [NoDisputedRejection, op] at hok
    exact absurd hstatus (hok hreject human f hf rfl target first)
  | assessed request _ _ raised raise _ =>
    exact absurd (escalated_status raise) hne
  | overridden | reviewed | ticketRefused | ticketFiled => exact absurd rfl hne
  | disputed _ _ _ closed _ _ => exact absurd hopen (openDispute_eq_none.mp closed d hd)
  | resolved _ op =>
    rw [op]
    rfl
  | opened _ _ _ _ allowed | submitted _ _ _ _ _ _ _ allowed
  | retested _ _ _ _ _ _ _ _ allowed | reopened _ _ _ _ allowed =>
    exact absurd hopen (hk.closed_of_transition allowed (by decide) hd)

/-- **A dispute is open exactly while its finding is disputed**, and only its
resolution then moves the finding, in every run that rejects no disputed finding. -/
theorem run_openDispute_iff (hdb : Fresh db) {calls : List Call}
    (hok : Runs.EachStep (step S) (NoDisputedRejection S) db calls) :
    (∀ f ∈ (run S db calls).findings,
      ((run S db calls).openDispute f.tenantId f.findingId).isSome ↔ f.status = .disputed) ∧
    Runs.EachStep (step S) (fun db call => ∀ f ∈ db.findings,
      (db.openDispute f.tenantId f.findingId).isSome → ∀ g ∈ (step S db call).findings,
        g.findingId = f.findingId → g.status ≠ f.status → call.op.isResolution) db calls := by
  rw [Runs.eachStep_iff] at hok ⊢
  constructor
  · intro f hf
    rw [openDispute_isSome]
    refine run_caseFile (P := fun _ k => OpenIffDisputed k) ?_ (fun _ _ _ _ _ h => h) ?_ hdb hok hf
    · intro _ f _ hstatus _
      refine openIffDisputed_of_closed (by simp) ?_
      rcases hstatus with hs | hs <;> simp [hs]
    · intro calls call f c hcall hf hmove _ hiff
      exact hmove.openIffDisputed hf hcall (run_disputed hdb hf) hiff
  · rintro before call after rfl f hf hopen g hg hid hne
    obtain ⟨d, hd, hopen⟩ := openDispute_isSome.mp hopen
    rcases step_finding (run_wellFormed hdb before) hf hg hid with rfl | ⟨c, hmove, rfl⟩
    · exact absurd rfl hne
    · exact hmove.resolution_of_open hf (hok before call after rfl) (run_disputed hdb hf) hd hopen
        hne

/-- A rejection leaves the dispute open. -/
theorem rejected_dispute_stays_open :
    ¬ ∀ f ∈ (run sampleService sampleDatabase (rejectedDispute.take 3)).findings,
      ((run sampleService sampleDatabase (rejectedDispute.take 3)).openDispute f.tenantId
        f.findingId).isSome ↔ f.status = .disputed := by
  decide +kernel

/-- Here the rejection comes after the dispute. -/
theorem run_openDispute_iff_withdrawn :
    ∃ f ∈ (run sampleService sampleDatabase withdrawnDispute).findings,
      ((run sampleService sampleDatabase withdrawnDispute).openDispute f.tenantId
        f.findingId).isSome ↔ f.status = .disputed := by
  obtain ⟨f, hf⟩ : ∃ f, f ∈ (run sampleService sampleDatabase withdrawnDispute).findings :=
    List.exists_mem_of_ne_nil _ (by decide +kernel)
  have hok : Runs.EachStep (step sampleService) (NoDisputedRejection sampleService) sampleDatabase
      withdrawnDispute := by
    refine ⟨trivial, trivial, trivial, ?_, trivial⟩
    dsimp only [NoDisputedRejection, sampleDecision, sampleCall]
    decide +kernel
  exact ⟨f, hf, (run_openDispute_iff sampleDatabase_fresh hok).1 f hf⟩

end Disputes

variable {S : AdjudicationService} {db db' : Database} {now : Timestamp} {hex : String → String}
  {tenantId : String} {request : AdjudicationRequest}

/-- The call raises, or it appends a record of the decision and leaves the finding in
the status that the decision asks for. -/
def TakesEffect (S : AdjudicationService) (db : Database) (now : Timestamp) (hex : String → String)
    (tenantId : String) (request : AdjudicationRequest) : Prop :=
  ∀ db' status, S.adjudicate db now hex tenantId request = .ok (db', status) →
    status = decisionTarget request.decision ∧
    (∃ d : ApprovalDecision, db'.decisions = db.decisions ++ [d] ∧
      d.owner = (tenantId, request.findingId) ∧ d.decisionType = .human request.decision ∧
      d.actorId = request.actorId ∧ d.reason = request.reason ∧ d.decidedAt = now) ∧
    ∃ f, db'.getFinding tenantId request.findingId = some f ∧
      f.status = decisionTarget request.decision

def ApprovalDecision.Repeated (d : ApprovalDecision) (tenantId : String)
    (request : AdjudicationRequest) : Prop :=
  d.owner = (tenantId, request.findingId) ∧ d.decisionType = .human request.decision ∧
    d.actorId = request.actorId

instance (d : ApprovalDecision) (tenantId : String) (request : AdjudicationRequest) :
    Decidable (d.Repeated tenantId request) :=
  inferInstanceAs (Decidable (_ ∧ _ ∧ _))

/-- The call names a finding, is not refused as an agent's, and repeats a decision on
the record. -/
def Repeats (S : AdjudicationService) (db : Database) (tenantId : String)
    (request : AdjudicationRequest) : Prop :=
  S.isAutomated request.actorId = false ∧
    (db.getFinding tenantId request.findingId).isSome = true ∧
    ∃ prior ∈ db.decisions, prior.Repeated tenantId request

instance : Decidable (Repeats S db tenantId request) :=
  inferInstanceAs (Decidable (_ ∧ _ ∧ _))

variable {f : Finding}

theorem getFinding_putFinding {findingId : String} {g : Finding}
    (hf : db.getFinding tenantId findingId = some f) (howner : g.owner = f.owner) :
    (db.putFinding g).getFinding tenantId findingId = some g := by
  obtain ⟨hmem, htenant, hid⟩ := requireFinding_eq_ok (ofOption_eq_ok.mpr hf)
  obtain ⟨hgtenant, hgid⟩ := Prod.mk.inj howner
  have hself : g.tenantId = tenantId ∧ g.findingId = findingId :=
    ⟨hgtenant.trans htenant, hgid.trans hid⟩
  show (put Finding.findingId g db.findings).find?
    (fun f => f.tenantId = tenantId ∧ f.findingId = findingId) = some g
  clear hf
  generalize db.findings = rows at hmem
  induction rows with
  | nil => exact absurd hmem List.not_mem_nil
  | cons x rows ih =>
    show ((if x.findingId = g.findingId then g else x) :: put Finding.findingId g rows).find? _ =
      some g
    by_cases hx : x.findingId = g.findingId
    · rw [if_pos hx, List.find?_cons_of_pos (by simpa using hself)]
    · -- the row has another id, so the lookup goes on behind it
      have hne : f ≠ x := fun heq => hx (heq ▸ hgid.symm)
      have hmiss : ¬ (x.tenantId = tenantId ∧ x.findingId = findingId) := fun hboth =>
        hx (hboth.2.trans hself.2.symm)
      rw [if_neg hx, List.find?_cons_of_neg (by simpa using hmiss)]
      exact ih ((List.mem_cons.mp hmem).resolve_left hne)

theorem isReplay_iff (hid : f.findingId = request.findingId) :
    isReplay db tenantId f request = true ↔
      ∃ prior ∈ db.decisions, prior.Repeated tenantId request := by
  unfold isReplay Database.decisionsOf
  simp only [List.any_eq_true, mem_orderBy, List.mem_filter, decide_eq_true_eq]
  constructor
  · rintro ⟨prior, ⟨hmem, htenant, hfinding⟩, htype, hactor⟩
    exact ⟨prior, hmem, Prod.ext htenant (hfinding.trans hid), htype, hactor⟩
  · rintro ⟨prior, hmem, howner, htype, hactor⟩
    obtain ⟨htenant, hfinding⟩ := Prod.mk.inj howner
    exact ⟨prior, ⟨hmem, htenant, hfinding.trans hid.symm⟩, htype, hactor⟩

theorem adjudicate_of_repeats (h : Repeats S db tenantId request) :
    ∃ f, db.getFinding tenantId request.findingId = some f ∧
      S.adjudicate db now hex tenantId request = .ok (db, f.status) := by
  obtain ⟨hhuman, hfound, hprior⟩ := h
  obtain ⟨f, hf⟩ := Option.isSome_iff_exists.mp hfound
  have hid : f.findingId = request.findingId := (requireFinding_eq_ok (ofOption_eq_ok.mpr hf)).2.2
  refine ⟨f, hf, ?_⟩
  unfold AdjudicationService.adjudicate requireFinding
  refine require_bind_eq_ok.mpr ⟨by simp [hhuman], ofOption_bind_eq_ok.mpr ⟨f, hf, ?_⟩⟩
  exact if_pos ((isReplay_iff hid).mpr hprior)

/-- **Decisions that take effect.**  A call raises, or it records its decision and
leaves the finding in that decision's status, exactly when it repeats no decision. -/
theorem takesEffect_iff :
    TakesEffect S db now hex tenantId request ↔ ¬ Repeats S db tenantId request := by
  constructor
  · intro h hrepeats
    obtain ⟨f, -, hcall⟩ := @adjudicate_of_repeats S db now hex tenantId request hrepeats
    obtain ⟨-, ⟨d, hd, -⟩, -⟩ := h db f.status hcall
    have hlength := congrArg List.length hd
    rw [List.length_append, List.length_singleton] at hlength
    omega
  · intro hfirst db' status h
    obtain ⟨hhuman, h⟩ := require_bind_eq_ok.mp h
    obtain ⟨f, hf, h⟩ := bind_eq_ok.mp h
    obtain ⟨hmem, rfl, hid⟩ := requireFinding_eq_ok hf
    have hnew : ¬ isReplay db f.tenantId f request = true := fun hreplay =>
      hfirst ⟨by simpa using hhuman, by simp [ofOption_eq_ok.mp hf], (isReplay_iff hid).mp hreplay⟩
    rw [if_neg hnew] at h
    obtain ⟨⟨⟩, -, h⟩ := bind_eq_ok.mp h
    obtain ⟨db₁, h₁, h⟩ := bind_eq_ok.mp h
    obtain ⟨-, rfl⟩ := addDecision_eq_ok h₁
    obtain ⟨db₂, h₂, h⟩ := bind_eq_ok.mp h
    obtain ⟨events, outbox, rfl⟩ := emit_eq_ok h₂
    obtain ⟨rfl, rfl⟩ := Prod.mk.inj (Except.ok.inj h)
    have hwritten := getFinding_putFinding (g := { f with status := decisionTarget request.decision })
      (ofOption_eq_ok.mp hf) rfl
    exact ⟨rfl, ⟨_, rfl, Prod.ext rfl hid, rfl, rfl, rfl, rfl⟩, _, hwritten, rfl⟩

theorem seeFile_length : LengthIn 3 4000 "see file" := by decide

def leadRequest (decision : HumanDecision) (key : String) (k : LengthIn 3 255 key) :
    AdjudicationRequest where
  findingId := "fnd_1"
  decision := decision
  actorId := "lead"
  reason := "see file"
  idempotencyKey := key
  actorId_length := lead_length
  reason_length := seeFile_length
  idempotencyKey_length := k

theorem again_length : LengthIn 3 255 "again" := by decide

/-- The approved finding is disputed, and the dispute sends it back to be changed. -/
def sentBack : List Call :=
  sampleReviewed "author" "reviewer" reviewer_length ++
    [sampleDecision 4 .approve "lead" "app" lead_length app_length, sampleDispute 5,
      sampleResolution 6 "dsp_5" .modified]

def returned : List Call :=
  [sampleCall 1 (.propose "tenant" "engagement" sampleProposal "author" none []),
    sampleDecision 2 .returnForRework "lead" "app" lead_length app_length]

/-- The lead approves the finding that came back, or returns it a second time, under a
key that no event has: nothing is recorded. -/
theorem second_decision_ignored :
    ((∀ e ∈ (run sampleService sampleDatabase sentBack).outbox,
        e.idempotencyKey ≠ "finding-decision:again") ∧
      (∃ f ∈ (run sampleService sampleDatabase sentBack).findings, f.status = .proposed) ∧
      ¬ TakesEffect sampleService (run sampleService sampleDatabase sentBack) 7 (fun _ => "7")
        "tenant" (leadRequest .approve "again" again_length)) ∧
    ((∀ e ∈ (run sampleService sampleDatabase returned).outbox,
        e.idempotencyKey ≠ "finding-decision:again") ∧
      ¬ TakesEffect sampleService (run sampleService sampleDatabase returned) 3 (fun _ => "3")
        "tenant" (leadRequest .returnForRework "again" again_length)) := by
  have hignored : ∀ {calls : List Call} {now : Timestamp} {hex : String → String}
      {request : AdjudicationRequest},
      Repeats sampleService (run sampleService sampleDatabase calls) "tenant" request →
      ¬ TakesEffect sampleService (run sampleService sampleDatabase calls) now hex "tenant"
        request := by
    intro calls now hex request hrepeats h
    obtain ⟨f, -, hcall⟩ := adjudicate_of_repeats hrepeats
    obtain ⟨-, ⟨d, hd, -⟩, -⟩ := h _ f.status hcall
    exact absurd hd (by simp)
  exact ⟨⟨by decide +kernel, by decide +kernel, hignored (by decide +kernel)⟩, by decide +kernel,
    hignored (by decide +kernel)⟩

end Adjudication
