/-
Remediation and fresh evidence.

A finding has one remediation action at most, and the statuses of the two match (`run_coupled`).  A
finding is closed by a retest with evidence; whoever performs it is neither the author nor the owner
of the action nor the one who declared this cycle complete, unless both ids are blank
(`run_verified`).

`retest` stores the time at which the evidence was collected without comparing it to anything.  In
the runs whose closing retests carry a time that is not before the declaration (`CitesFreshEvidence`),
every finding is closed on evidence of its own cycle (`run_closed_on_fresh_evidence`).
-/
import AssuranceOS.Adjudication.Approval

namespace Adjudication

open Table AdjudicationService

/-- The pairs of statuses in which a finding and its action can be. -/
def coupledStatuses : List (FindingStatus × ActionStatus) :=
  [(.remediationOpen, .open), (.remediationDeclaredComplete, .declaredComplete),
    (.closedVerified, .closed), (.reopened, .reopened)]

def Coupled (k : CaseFile) : Prop :=
  k.actions = [] ∨ ∃ a, k.actions = [a] ∧ (k.finding.status, a.status) ∈ coupledStatuses

section Remediation

variable {S : AdjudicationService} {db : Database} {call : Call} {f : Finding} {c : Change}
  {calls : List Call} {k : CaseFile}

theorem Coupled.actions_eq_nil (hk : Coupled k)
    (h : k.finding.status ∉ coupledStatuses.map Prod.fst) : k.actions = [] := by
  rcases hk with hnil | ⟨a, -, hpair⟩
  · exact hnil
  · exact absurd (List.mem_map_of_mem hpair) h

/-- The statuses that no edge leads to from within the remediation. -/
def statusesOutside : List FindingStatus :=
  [.approved, .rejected, .deferred, .riskAccepted, .disputed, .proposed]

theorem not_mem_allowedTransitions : ∀ s ∈ coupledStatuses.map Prod.fst, ∀ t ∈ statusesOutside,
    t ∉ allowedTransitions s := by
  decide

theorem Coupled.actions_eq_nil_of_transition (hk : Coupled k) {target : FindingStatus}
    (h : target ∈ allowedTransitions k.finding.status) (hout : target ∈ statusesOutside) :
    k.actions = [] :=
  hk.actions_eq_nil fun hin => not_mem_allowedTransitions _ hin target hout h

variable {action : RemediationAction}

theorem Coupled.actions_eq_singleton (hk : Coupled k) (h : action ∈ k.actions) :
    k.actions = [action] ∧ (k.finding.status, action.status) ∈ coupledStatuses := by
  rcases hk with hnil | ⟨a, ha, hpair⟩
  · rw [hnil] at h
    exact absurd h List.not_mem_nil
  · rw [ha] at h
    obtain rfl := List.mem_singleton.mp h
    exact ⟨ha, hpair⟩

variable {row a : RemediationAction}

theorem Coupled.put_actions (hk : Coupled k) (h : action ∈ k.actions)
    (hid : action.actionId = row.actionId) :
    put RemediationAction.actionId row k.actions = [row] := by
  rw [(hk.actions_eq_singleton h).1]
  simp [put, hid]

theorem Coupled.eq_of_mem_put (hk : Coupled k) (h : action ∈ k.actions)
    (hid : action.actionId = row.actionId) (ha : a ∈ put RemediationAction.actionId row k.actions) :
    a = row := by
  rw [hk.put_actions h hid] at ha
  exact List.mem_singleton.mp ha

theorem Coupled.rewritten (hk : Coupled k) (h : action ∈ k.actions) (row : RemediationAction)
    (hid : action.actionId = row.actionId) (hstatus : row.status = action.status) :
    Coupled { k with actions := put RemediationAction.actionId row k.actions } := by
  refine Or.inr ⟨row, hk.put_actions h hid, ?_⟩
  rw [hstatus]
  exact (hk.actions_eq_singleton h).2

theorem coupled_retest (outcome : RetestOutcome) :
    (retestTarget outcome, if outcome.isClosing then ActionStatus.closed else .reopened) ∈
      coupledStatuses := by
  cases outcome <;> decide

theorem mem_actions (hmem : action ∈ db.actions) (h : action.owner = f.owner) :
    action ∈ (db.caseFile f).actions :=
  mem_actionsOf.mpr ⟨hmem, h⟩

theorem Move.coupled (h : Move S db call f c) (hd : Disputed (db.caseFile f))
    (hk : Coupled (db.caseFile f)) : Coupled ((db.caseFile f).apply c) := by
  cases h with
  | decided request _ _ _ _ accepted _ =>
    refine Or.inl ?_
    rcases (requireDecision_eq_ok accepted).1 with ⟨-, hstatus⟩ | ⟨-, hallowed⟩
    · refine hk.actions_eq_nil ?_
      show f.status ∉ _
      rw [hstatus]
      decide
    · refine hk.actions_eq_nil_of_transition hallowed ?_
      cases request.decision <;> decide
  | assessed request _ _ raised raise _ =>
    refine hk.imp_right ?_
    rintro ⟨a, ha, hpair⟩
    exact ⟨a, ha, (escalated_status raise).symm ▸ hpair⟩
  | overridden | reviewed => exact hk
  | disputed _ _ _ _ allowed _ =>
    exact Or.inl (hk.actions_eq_nil_of_transition allowed (by decide))
  | resolved _ _ dispute mem _ owner may _ _ =>
    refine Or.inl (hk.actions_eq_nil ?_)
    rcases hd.status dispute (mem_disputes mem owner) may.2.1 with hs | hs
    · rw [hs]
      decide
    · rw [hs]
      decide
  | opened request _ _ first _ _ =>
    have hpair : (FindingStatus.remediationOpen, ActionStatus.open) ∈ coupledStatuses := by decide
    refine Or.inr ⟨actionRow call.now call.hex f.tenantId f request, ?_, hpair⟩
    show (db.caseFile f).actions ++ [_] = [_]
    rw [openActionFor_eq_none first]
    rfl
  | ticketRefused _ _ _ action mem _ owner _ error _ =>
    exact hk.rewritten (mem_actions mem owner) (ticketFailedRow error action) rfl rfl
  | ticketFiled _ _ _ action mem _ owner _ ticket _ =>
    exact hk.rewritten (mem_actions mem owner) (ticketFiledRow call.now ticket action) rfl rfl
  | submitted submission _ action mem _ owner _ _ _ =>
    have hpair : (FindingStatus.remediationDeclaredComplete, ActionStatus.declaredComplete) ∈
        coupledStatuses := by decide
    exact Or.inr ⟨declaredRow call.now submission action,
      hk.put_actions (mem_actions mem owner) rfl, hpair⟩
  | retested request _ action mem _ owner _ _ _ _ _ =>
    exact Or.inr ⟨retestedRow request.outcome action, hk.put_actions (mem_actions mem owner) rfl,
      coupled_retest request.outcome⟩
  | reopened request _ action found _ =>
    have hpair : (FindingStatus.remediationOpen, ActionStatus.open) ∈ coupledStatuses := by decide
    exact Or.inr ⟨reopenedRow request action, hk.put_actions (openActionFor_eq_some found) rfl,
      hpair⟩

theorem run_coupled_case (hdb : Fresh db) (hf : f ∈ (run S db calls).findings) :
    Coupled ((run S db calls).caseFile f) := by
  refine (run_caseFile_always (P := fun k => Disputed k ∧ Coupled k) ?_ ?_ hdb hf).2
  · intro f decisions _ _
    exact ⟨⟨by simp, by simp, by simp⟩, Or.inl rfl⟩
  · rintro db call f c hmove ⟨hd, hk⟩
    exact ⟨hmove.disputed_inv hd, hmove.coupled hd hk⟩

/-- **A finding and its action go together**, in every reachable state. -/
theorem run_coupled (hdb : Fresh db) (calls : List Call) :
    ∀ f ∈ (run S db calls).findings,
      ((run S db calls).actions.filter fun a => a.owner = f.owner).length ≤ 1 ∧
      ∀ a ∈ (run S db calls).actions, a.owner = f.owner →
        (f.status, a.status) ∈ coupledStatuses := by
  intro f hf
  have hk := run_coupled_case hdb hf
  constructor
  · show ((run S db calls).caseFile f).actions.length ≤ 1
    rcases hk with hnil | ⟨a, ha, -⟩
    · rw [hnil]
      exact Nat.zero_le 1
    · rw [ha]
      exact le_rfl
  · intro a ha howner
    exact (hk.actions_eq_singleton (mem_actions ha howner)).2

/-- The approved finding is remediated by `owner` and retested by `performer`. -/
def closedSample (owner performer : String) (h : LengthIn 1 128 owner := by decide)
    (k : LengthIn 1 128 performer := by decide) : List Call :=
  approvedSample ++
    [sampleCall 5 (.openRemediation "tenant" (samplePlan owner ⟨h.1, h.2.trans (by decide)⟩)),
      sampleCall 6 (.submitClosure "tenant"
        { actionId := "rma_5", responseText := "revoked", submittedBy := owner
          closureEvidenceIds := ["e2"], submittedBy_length := h }),
      sampleCall 7 (.retest "tenant" (sampleRetest performer k none))]

theorem closedSample_closed :
    ∃ f ∈ (run sampleService sampleDatabase (closedSample "ops" "tester")).findings,
      f.status = .closedVerified ∧
      ∃ a ∈ (run sampleService sampleDatabase (closedSample "ops" "tester")).actions,
        a.owner = f.owner := by
  decide +kernel

theorem run_coupled_closed :
    ∃ f ∈ (run sampleService sampleDatabase (closedSample "ops" "tester")).findings,
      ∃ a ∈ (run sampleService sampleDatabase (closedSample "ops" "tester")).actions,
        a.owner = f.owner ∧ f.status = .closedVerified ∧
        (f.status, a.status) ∈ coupledStatuses := by
  obtain ⟨f, hf, hstatus, a, ha, howner⟩ := closedSample_closed
  exact ⟨f, hf, a, ha, howner, hstatus,
    (run_coupled sampleDatabase_fresh _ f hf).2 a ha howner⟩

/-! ### Closing retests -/

/-- The retest closes the finding with evidence, and its performer has no other part
in the cycle. -/
structure IndependentRetest (S : AdjudicationService) (f : Finding) (a : RemediationAction)
    (r : Retest) : Prop where
  action : r.actionRef = a.ref
  closing : r.outcome = .closedVerified
  evidence : r.evidenceIds ≠ []
  author : S.identity r.performedBy ≠ S.identity f.author
  owner : S.identity r.performedBy ≠ S.identity a.ownerRef
  declarer : S.identity r.performedBy ≠ S.identity (a.completedBy.getD "")

theorem IndependentRetest.of_author {g : Finding} {r : Retest} (h : IndependentRetest S f a r)
    (hauthor : g.author = f.author) : IndependentRetest S g a r :=
  ⟨h.action, h.closing, h.evidence, hauthor ▸ h.author, h.owner, h.declarer⟩

/-- A blank performer does not close a finding one of whose roles is blank. -/
def NamedRetester (S : AdjudicationService) (db : Database) (call : Call) : Prop :=
  match call.op with
  | .retest tenantId request =>
    request.outcome.isClosing → request.evidenceIds ≠ [] →
      S.identity request.performedBy = "" →
        ∀ action ∈ db.actions, action.tenantId = tenantId → action.actionId = request.actionId →
          (db.retestsOf tenantId action.actionId).find? (fun prior =>
            prior.idempotencyKey = request.idempotencyKey) = none →
          ∀ f ∈ db.findings, f.owner = action.owner →
            .retestInProgress ∈ allowedTransitions f.status →
              ∀ role ∈ [f.author, action.ownerRef, action.completedBy.getD ""],
                S.identity role ≠ ""
  | _ => True

/-- What is on the record of a finding that is declared complete or closed. -/
structure Verified (S : AdjudicationService) (k : CaseFile) : Prop where
  declared : k.finding.status = .remediationDeclaredComplete ∨
      k.finding.status = .closedVerified →
    ∀ a ∈ k.actions, ∃ m, k.responses.getLast? = some m ∧ a.completedBy = some m.submittedBy
  closed : k.finding.status = .closedVerified →
    ∃ a ∈ k.actions, ∃ r ∈ k.retests, IndependentRetest S k.finding a r

theorem Verified.of_status
    (hs : k.finding.status ∉ [.remediationDeclaredComplete, .closedVerified]) :
    Verified S k := by
  simp only [List.mem_cons, List.not_mem_nil, or_false] at hs
  exact ⟨fun h => absurd h hs, fun h => absurd (Or.inr h) hs⟩

theorem Verified.of_eq {k' : CaseFile} (h : Verified S k)
    (hstatus : k'.finding.status = k.finding.status)
    (hauthor : k'.finding.author = k.finding.author) (hactions : k'.actions = k.actions)
    (hresponses : k'.responses = k.responses) (hretests : k'.retests = k.retests) :
    Verified S k' := by
  constructor
  · rw [hstatus, hactions, hresponses]
    exact h.declared
  · rw [hstatus, hactions, hretests]
    intro hclosed
    obtain ⟨a, ha, r, hr, hind⟩ := h.closed hclosed
    exact ⟨a, ha, r, hr, hind.of_author hauthor⟩

theorem Verified.rewritten (hk : Verified S k) (hc : Coupled k) (h : action ∈ k.actions)
    (row : RemediationAction) (href : row.ref = action.ref)
    (howner : row.ownerRef = action.ownerRef) (hdeclarer : row.completedBy = action.completedBy) :
    Verified S { k with actions := put RemediationAction.actionId row k.actions } := by
  have hid : action.actionId = row.actionId := (Prod.ext_iff.mp href).2.symm
  constructor
  · intro hstatus a ha
    rw [hc.eq_of_mem_put h hid ha, hdeclarer]
    exact hk.declared hstatus action h
  · intro hclosed
    obtain ⟨a, ha, r, hr, hind⟩ := hk.closed hclosed
    rw [(hc.actions_eq_singleton h).1] at ha
    obtain rfl := List.mem_singleton.mp ha
    refine ⟨row, mem_put_self h hid.symm, r, hr, ?_⟩
    exact ⟨hind.action.trans href.symm, hind.closing, hind.evidence, hind.author,
      howner ▸ hind.owner, hdeclarer ▸ hind.declarer⟩

theorem independentRetest {request : RetestRequest}
    (hf : f ∈ db.findings) (op : call.op = .retest f.tenantId request)
    (hok : NamedRetester S db call) (mem : action ∈ db.actions)
    (action_id : action.actionId = request.actionId) (owner : action.owner = f.owner)
    (independent : S.requireIndependence f action request.performedBy = .ok ())
    (first : (db.retestsOf f.tenantId action.actionId).find? (fun prior =>
      prior.idempotencyKey = request.idempotencyKey) = none)
    (allowed : FindingStatus.retestInProgress ∈ allowedTransitions f.status)
    (evidence : ¬ (request.outcome.isClosing ∧ request.evidenceIds = []))
    (hclosing : request.outcome.isClosing) :
    IndependentRetest S f (retestedRow request.outcome action)
      (retestRow call.now call.hex f.tenantId f action request) := by
  have htenant : action.tenantId = f.tenantId := (Prod.ext_iff.mp owner).1
  have hevidence : request.evidenceIds ≠ [] := fun hnil => evidence ⟨hclosing, hnil⟩
  have hroles : ∀ role ∈ [f.author, action.ownerRef, action.completedBy.getD ""],
      S.identity request.performedBy ≠ S.identity role := by
    intro role hrole heq
    have hnamed : S.identity role ≠ "" := by
      rw [NamedRetester, op] at hok
      intro hblank
      exact hok hclosing hevidence (heq.trans hblank) action mem htenant action_id first f hf
        owner.symm allowed role hrole hblank
    exact requireIndependence_eq_ok.mp independent role hrole hnamed heq.symm
  exact
    { action := Prod.ext htenant.symm rfl
      closing := of_decide_eq_true hclosing
      evidence := hevidence
      author := hroles f.author (by simp)
      owner := hroles action.ownerRef (by simp)
      declarer := hroles (action.completedBy.getD "") (by simp) }

theorem Move.verified (h : Move S db call f c) (hf : f ∈ db.findings)
    (hok : NamedRetester S db call) (hc : Coupled (db.caseFile f))
    (hk : Verified S (db.caseFile f)) : Verified S ((db.caseFile f).apply c) := by
  have hauthor := h.author
  cases h with
  | decided request =>
    refine Verified.of_status ?_
    show decisionTarget request.decision ∉ _
    cases request.decision <;> decide
  | assessed request _ _ raised raise _ =>
    exact hk.of_eq (escalated_status raise) hauthor rfl rfl rfl
  | overridden | reviewed => exact hk.of_eq rfl rfl rfl rfl rfl
  | disputed =>
    refine Verified.of_status ?_
    show FindingStatus.disputed ∉ _
    decide
  | resolved request _ dispute _ _ _ _ allowed _ =>
    have houtside : ∀ s ∈ allowedTransitions .disputed,
        s ∉ [FindingStatus.remediationDeclaredComplete, .closedVerified] := by decide
    exact Verified.of_status (houtside _ allowed)
  | opened | reopened =>
    refine Verified.of_status ?_
    show FindingStatus.remediationOpen ∉ _
    decide
  | ticketRefused _ _ _ action mem _ owner _ error _ =>
    exact hk.rewritten hc (mem_actions mem owner) (ticketFailedRow error action) rfl rfl rfl
  | ticketFiled _ _ _ action mem _ owner _ ticket _ =>
    exact hk.rewritten hc (mem_actions mem owner) (ticketFiledRow call.now ticket action) rfl rfl
      rfl
  | submitted submission _ action mem _ owner _ _ _ =>
    refine ⟨fun _ a ha => ?_, fun hclosed => absurd hclosed nofun⟩
    have hrow : a = declaredRow call.now submission action :=
      hc.eq_of_mem_put (mem_actions mem owner) rfl ha
    rw [hrow]
    exact ⟨_, List.getLast?_concat, rfl⟩
  | retested request op action mem action_id owner independent first allowed evidence _ =>
    by_cases hclosing : request.outcome.isClosing
    · have hmem := mem_actions mem owner
      have hstatus : f.status = .remediationDeclaredComplete := by
        cases hs : f.status <;> simp_all [allowedTransitions]
      have hretest := independentRetest hf op hok mem action_id owner independent first allowed
        evidence hclosing
      refine ⟨fun _ a ha => ?_, fun _ => ⟨retestedRow request.outcome action, ?_, _,
        List.mem_append_right _ List.mem_cons_self, hretest.of_author rfl⟩⟩
      · have hrow : a = retestedRow request.outcome action := hc.eq_of_mem_put hmem rfl ha
        rw [hrow]
        exact hk.declared (Or.inl hstatus) action hmem
      · exact mem_put_self hmem rfl
    · have htarget : retestTarget request.outcome = .reopened := if_neg hclosing
      refine Verified.of_status ?_
      show retestTarget request.outcome ∉ _
      rw [htarget]
      decide

/-- **Independent verification.**  Every closed finding was closed by a retest with
evidence, performed by somebody other than its author, the owner of the action
and whoever declared the cycle complete, in every run without blank performers
that blank roles hide. -/
theorem run_verified (hdb : Fresh db) (hok : Runs.EachStep (step S) (NamedRetester S) db calls)
    (hf : f ∈ (run S db calls).findings) (hclosed : f.status = .closedVerified) :
    ∃ a ∈ (run S db calls).actions, a.owner = f.owner ∧
      ∃ r ∈ (run S db calls).retests, IndependentRetest S f a r ∧
        ∃ m, (ownedBy ManagementResponse.owner f.owner (run S db calls).responses).getLast? =
          some m ∧ a.completedBy = some m.submittedBy := by
  have hk : Verified S ((run S db calls).caseFile f) := by
    refine run_caseFile (P := fun _ k => Verified S k) ?_ (fun _ _ _ _ _ h => h) ?_ hdb
      (Runs.eachStep_iff.mp hok) hf
    · intro _ f decisions hstatus _
      refine Verified.of_status ?_
      rcases hstatus with hs | hs <;> simp [hs]
    · intro calls call f c hcall hf hmove _ hk
      exact hmove.verified hf hcall (run_coupled_case hdb hf) hk
  obtain ⟨a, ha, r, hr, hretest⟩ := hk.closed hclosed
  obtain ⟨m, hm, hdeclared⟩ := hk.declared (Or.inr hclosed) a ha
  obtain ⟨ha, howner⟩ := mem_actionsOf.mp ha
  exact ⟨a, ha, howner, r, (List.mem_filter.mp hr).1, hretest, m, hm, hdeclared⟩

/-- A blank id owns the action, declares it complete and performs the retest. -/
theorem blank_owner_retests :
    ¬ ∀ f ∈ (run sampleService sampleDatabase (closedSample " " " ")).findings,
      f.status = .closedVerified →
        ∃ a ∈ (run sampleService sampleDatabase (closedSample " " " ")).actions,
          a.owner = f.owner ∧
          ∃ r ∈ (run sampleService sampleDatabase (closedSample " " " ")).retests,
            IndependentRetest sampleService f a r := by
  intro h
  obtain ⟨f, hf, hclosed, hsame⟩ :
      ∃ f ∈ (run sampleService sampleDatabase (closedSample " " " ")).findings,
        f.status = .closedVerified ∧
        ∀ a ∈ (run sampleService sampleDatabase (closedSample " " " ")).actions,
          ∀ r ∈ (run sampleService sampleDatabase (closedSample " " " ")).retests,
            r.performedBy = a.ownerRef := by decide +kernel
  obtain ⟨a, ha, -, r, hr, hretest⟩ := h f hf hclosed
  exact hretest.owner (congrArg sampleService.identity (hsame a ha r hr))

theorem run_verified_closed :
    ∃ f ∈ (run sampleService sampleDatabase (closedSample "ops" "tester")).findings,
      f.status = .closedVerified ∧
      ∃ a ∈ (run sampleService sampleDatabase (closedSample "ops" "tester")).actions,
        ∃ r ∈ (run sampleService sampleDatabase (closedSample "ops" "tester")).retests,
          IndependentRetest sampleService f a r := by
  obtain ⟨f, hf, hclosed, -⟩ := closedSample_closed
  have hok : Runs.EachStep (step sampleService) (NamedRetester sampleService) sampleDatabase
      (closedSample "ops" "tester") := by
    refine ⟨trivial, trivial, trivial, trivial, trivial, trivial, ?_, trivial⟩
    -- the performer is not blank
    intro _ _ hblank
    exact absurd hblank (by decide +kernel)
  obtain ⟨a, ha, -, r, hr, hretest, -⟩ := run_verified sampleDatabase_fresh hok hf hclosed
  exact ⟨f, hf, hclosed, a, ha, r, hr, hretest⟩

end Remediation

section Freshness

variable {S : AdjudicationService} {db : Database} {call : Call} {f g : Finding} {c : Change}
  {calls : List Call} {k : CaseFile}

/-- The evidence was collected at or after `declared`; both times are there. -/
def CollectedAfter (declared collected : Option Timestamp) : Prop :=
  ∃ d ∈ declared, ∃ t ∈ collected, d ≤ t

instance {declared collected : Option Timestamp} : Decidable (CollectedAfter declared collected) :=
  inferInstanceAs (Decidable (∃ d ∈ declared, ∃ t ∈ collected, d ≤ t))

/-- A closing retest that passes the checks of the source carries a time that is
not before the declaration of its action. -/
def CitesFreshEvidence (S : AdjudicationService) (db : Database) (call : Call) : Prop :=
  match call.op with
  | .retest tenantId request =>
    request.outcome.isClosing → request.evidenceIds ≠ [] →
      ∀ action ∈ db.actions, action.tenantId = tenantId → action.actionId = request.actionId →
        (db.retestsOf tenantId action.actionId).find? (fun prior =>
          prior.idempotencyKey = request.idempotencyKey) = none →
        ∀ f ∈ db.findings, f.owner = action.owner →
          .retestInProgress ∈ allowedTransitions f.status →
          S.requireIndependence f action request.performedBy = .ok () →
            CollectedAfter action.declaredCompleteAt request.freshEvidenceCollectedAt
  | _ => True

/-- The call is a retest of the finding on evidence collected at or after the last
declaration of completion. -/
def RetestsOnFreshEvidence (db : Database) (call : Call) (f : Finding) : Prop :=
  ∃ request, call.op = .retest f.tenantId request ∧
    ∃ action ∈ db.actions, action.owner = f.owner ∧ action.actionId = request.actionId ∧
      ∃ m, (ownedBy ManagementResponse.owner f.owner db.responses).getLast? = some m ∧
        action.declaredCompleteAt = some m.submittedAt ∧
        CollectedAfter action.declaredCompleteAt request.freshEvidenceCollectedAt

/-- Every finding that the call closes is closed by a retest on fresh evidence. -/
def ClosesOnFreshEvidence (S : AdjudicationService) (db : Database) (call : Call) : Prop :=
  ∀ g ∈ (step S db call).findings, g.status = .closedVerified →
    ∃ f ∈ db.findings, f.findingId = g.findingId ∧
      (f.status = .closedVerified ∨ RetestsOnFreshEvidence db call f)

/-- While a finding is declared complete, its action carries the time of the last
response of management. -/
def Declared (k : CaseFile) : Prop :=
  k.finding.status = .remediationDeclaredComplete →
    ∀ a ∈ k.actions, ∃ m, k.responses.getLast? = some m ∧
      a.declaredCompleteAt = some m.submittedAt

theorem Declared.rewritten (hk : Declared k) (hc : Coupled k) {action : RemediationAction}
    (h : action ∈ k.actions) (row : RemediationAction) (hid : action.actionId = row.actionId)
    (hdeclared : row.declaredCompleteAt = action.declaredCompleteAt) :
    Declared { k with actions := put RemediationAction.actionId row k.actions } := by
  intro hstatus a ha
  rw [hc.eq_of_mem_put h hid ha, hdeclared]
  exact hk hstatus action h

theorem Move.declared (h : Move S db call f c) (hc : Coupled (db.caseFile f))
    (hk : Declared (db.caseFile f)) : Declared ((db.caseFile f).apply c) := by
  cases h with
  | decided request =>
    intro hstatus
    have htarget : decisionTarget request.decision = .remediationDeclaredComplete := hstatus
    cases hd : request.decision <;> rw [hd] at htarget <;> exact absurd htarget nofun
  | assessed request _ _ raised raise _ =>
    intro hstatus
    exact hk ((escalated_status raise).symm.trans hstatus)
  | overridden | reviewed => exact hk
  | disputed | opened | reopened =>
    intro hstatus
    exact absurd hstatus nofun
  | resolved request _ dispute _ _ _ _ allowed _ =>
    intro hstatus
    have houtside : FindingStatus.remediationDeclaredComplete ∉ allowedTransitions .disputed := by
      decide
    exact absurd (hstatus ▸ allowed) houtside
  | ticketRefused _ _ _ action mem _ owner _ error _ =>
    exact hk.rewritten hc (mem_actions mem owner) (ticketFailedRow error action) rfl rfl
  | ticketFiled _ _ _ action mem _ owner _ ticket _ =>
    exact hk.rewritten hc (mem_actions mem owner) (ticketFiledRow call.now ticket action) rfl rfl
  | submitted submission _ action mem _ owner _ _ _ =>
    intro _ a ha
    have hrow : a = declaredRow call.now submission action :=
      hc.eq_of_mem_put (mem_actions mem owner) rfl ha
    rw [hrow]
    exact ⟨_, List.getLast?_concat, rfl⟩
  | retested request =>
    intro hstatus
    have htarget : retestTarget request.outcome = .remediationDeclaredComplete := hstatus
    cases hd : request.outcome <;> rw [hd] at htarget <;> exact absurd htarget nofun

/-- The action of a finding that is declared complete carries the time of the last
declaration, in every reachable state. -/
theorem run_declared (hdb : Fresh db) (hf : f ∈ (run S db calls).findings) :
    Declared ((run S db calls).caseFile f) := by
  refine (run_caseFile_always
    (P := fun k => (Disputed k ∧ Coupled k) ∧ Declared k) ?_ ?_ hdb hf).2
  · intro f decisions hstatus _
    refine ⟨⟨⟨by simp, by simp, by simp⟩, Or.inl rfl⟩, fun _ a ha => ?_⟩
    exact absurd ha List.not_mem_nil
  · rintro db call f c hmove ⟨⟨hd, hk⟩, hdeclared⟩
    exact ⟨⟨hmove.disputed_inv hd, hmove.coupled hd hk⟩, hmove.declared hk hdeclared⟩

theorem Move.closes (h : Move S db call f c) (hf : f ∈ db.findings)
    (hok : CitesFreshEvidence S db call) (hk : Declared (db.caseFile f))
    (hclosed : (c.finding.getD f).status = .closedVerified) :
    f.status = .closedVerified ∨ RetestsOnFreshEvidence db call f := by
  cases h with
  | decided request =>
    have htarget : decisionTarget request.decision = .closedVerified := hclosed
    cases hd : request.decision <;> rw [hd] at htarget <;> exact absurd htarget nofun
  | assessed request _ _ raised raise _ =>
    exact Or.inl ((escalated_status raise).symm.trans hclosed)
  | overridden | reviewed | ticketRefused | ticketFiled => exact Or.inl hclosed
  | disputed | opened | reopened | submitted => exact absurd hclosed nofun
  | resolved request _ dispute _ _ _ _ allowed _ =>
    have houtside : FindingStatus.closedVerified ∉ allowedTransitions .disputed := by decide
    exact absurd (hclosed ▸ allowed) houtside
  | retested request op action mem action_id owner independent first allowed evidence _ =>
    refine Or.inr ⟨request, op, action, mem, owner, action_id, ?_⟩
    have hclosing : request.outcome.isClosing := by
      by_contra hnot
      have htarget : retestTarget request.outcome = .reopened := if_neg hnot
      exact absurd (htarget.symm.trans hclosed) nofun
    have hstatus : f.status = .remediationDeclaredComplete := by
      cases hs : f.status <;> simp_all [allowedTransitions]
    obtain ⟨m, hm, hdeclared⟩ := hk hstatus action (mem_actions mem owner)
    rw [CitesFreshEvidence, op] at hok
    exact ⟨m, hm, hdeclared, hok hclosing (fun hnil => evidence ⟨hclosing, hnil⟩) action mem
      (Prod.ext_iff.mp owner).1 action_id first f hf owner.symm allowed independent⟩

/-- **Fresh evidence.**  In every run whose closing retests carry a time that is not
before the declaration, each finding that becomes closed is closed by a retest on
evidence collected at or after the last declaration of its completion, whatever
the number of cycles before. -/
theorem run_closed_on_fresh_evidence (hdb : Fresh db)
    (hok : Runs.EachStep (step S) (CitesFreshEvidence S) db calls) :
    Runs.EachStep (step S) (ClosesOnFreshEvidence S) db calls := by
  rw [Runs.eachStep_iff] at hok ⊢
  intro before call after heq g hg hclosed
  have hcall : CitesFreshEvidence S (run S db before) call := hok before call after heq
  have hcase := (step_effect S (run S db before) call).caseFile (run_wellFormed hdb before) hg
  generalize hk : (step S (run S db before) call).caseFile g = k at hcase
  have hfinding : g = k.finding := congrArg CaseFile.finding hk
  cases hcase with
  | created _ status =>
    subst hfinding
    rw [hclosed] at status
    exact absurd status (by simp)
  | kept mem =>
    subst hfinding
    exact ⟨g, mem, rfl, Or.inl hclosed⟩
  | @moved f c mem move =>
    subst hfinding
    exact ⟨f, mem, (Prod.ext_iff.mp move.legal.owner_getD).2.symm,
      move.closes mem hcall (run_declared hdb mem) hclosed⟩

/-- The remediation of the approved finding is declared complete at time 6. -/
def declaredSample : List Call := (closedSample "ops" "tester").dropLast

/-- It is retested at time 7, on evidence collected at `collected`. -/
def retestedSample (collected : Option Timestamp) : Call :=
  sampleCall 7 (.retest "tenant" (sampleRetest "tester" tester_length collected))

theorem declaredSample_findings :
    ∀ f ∈ (run sampleService sampleDatabase declaredSample).findings,
      f.status = .remediationDeclaredComplete := by
  decide +kernel

theorem declaredSample_actions :
    ∀ a ∈ (run sampleService sampleDatabase declaredSample).actions,
      a.declaredCompleteAt = some 6 := by
  decide +kernel

theorem not_closesOnFreshEvidence {collected : Option Timestamp}
    (hclosed : ∃ g ∈ (run sampleService sampleDatabase
      (declaredSample ++ [retestedSample collected])).findings, g.status = .closedVerified)
    (hstale : ¬ CollectedAfter (some 6) collected) :
    ¬ Runs.EachStep (step sampleService) (ClosesOnFreshEvidence sampleService) sampleDatabase
      (declaredSample ++ [retestedSample collected]) := by
  intro h
  obtain ⟨g, hg, hstatus⟩ := hclosed
  rw [run_concat] at hg
  obtain ⟨f, hf, -, hf'⟩ := (Runs.eachStep_append.mp h).2.1 g hg hstatus
  rcases hf' with hbefore | ⟨request, hop, action, ha, -, -, m, -, -, hfresh⟩
  · exact absurd ((declaredSample_findings f hf).symm.trans hbefore) nofun
  · obtain ⟨-, rfl⟩ := Op.retest.inj hop
    rw [declaredSample_actions action ha] at hfresh
    exact hstale hfresh

/-- Evidence without a time, and evidence collected before the declaration. -/
theorem stale_evidence_closes :
    ¬ Runs.EachStep (step sampleService) (ClosesOnFreshEvidence sampleService) sampleDatabase
      (declaredSample ++ [retestedSample none]) ∧
    ¬ Runs.EachStep (step sampleService) (ClosesOnFreshEvidence sampleService) sampleDatabase
      (declaredSample ++ [retestedSample (some 5)]) :=
  ⟨not_closesOnFreshEvidence (by decide +kernel) (by decide),
    not_closesOnFreshEvidence (by decide +kernel) (by decide)⟩

theorem run_closed_on_fresh_evidence_sample :
    (∃ g ∈ (run sampleService sampleDatabase
      (declaredSample ++ [retestedSample (some 6)])).findings, g.status = .closedVerified) ∧
    Runs.EachStep (step sampleService) (ClosesOnFreshEvidence sampleService) sampleDatabase
      (declaredSample ++ [retestedSample (some 6)]) := by
  refine ⟨by decide +kernel, run_closed_on_fresh_evidence sampleDatabase_fresh ?_⟩
  refine ⟨trivial, trivial, trivial, trivial, trivial, trivial, ?_, trivial⟩
  intro _ _ action ha _ _ _ f _ _ _ _
  have hdeclared := declaredSample_actions action ha
  rw [hdeclared]
  show CollectedAfter (some 6) (some 6)
  decide

end Freshness

end Adjudication
