/-
When a decision on a fact makes the profile ready (`OnboardingService.decide_fact`).

The count of the facts that still wait for review is a query, and the session does not flush before
it.  A correction is flushed first; an acceptance is not, so the fact that was just decided is
counted with its old status.

* `answerDecision_iff` — the answer to one decision is right exactly when the decision is a
  correction or another fact of the profile waits;
* `run_ready_iff` — the same for all decisions of a run.
-/
import AssuranceOS.Onboarding.Canonical

namespace Onboarding

open Checked OnboardingService

def Database.Awaits (db : Database) (profileId : String) : Prop :=
  ∃ f ∈ db.facts, f.profileId = profileId ∧ f.status = .proposed

def Database.AwaitsBeside (db : Database) (profileId factId : String) : Prop :=
  ∃ f ∈ db.facts, f.factId ≠ factId ∧ f.profileId = profileId ∧ f.status = .proposed

/-- `decide_fact` with the `profile_ready` of its answer. -/
def OnboardingService.answerDecision (db : Database) (now : Nat) (hex : String → Nat → String)
    (tenantId workflowId factId : String) (data : FactDecisionInput) :
    Except OnboardingError (Database × Bool) := do
  let workflow ← requireWorkflow db tenantId workflowId
  let fact ← ofOption .notReviewable (db.facts.find? fun f =>
    f.tenantId = tenantId ∧ f.profileId = workflow.profileId ∧ f.factId = factId)
  let reviewed ← reviewFact db now hex tenantId workflow fact data
  let db ← decideFact db now hex tenantId workflowId factId data
  return (db, reviewed.remaining = 0)

variable {db db' : Database} {now : Nat} {hex : String → Nat → String}
  {tenantId workflowId factId : String} {data : FactDecisionInput}

theorem countFacts_eq_zero {profileId : String} :
    db.countFacts profileId .proposed = 0 ↔ ¬ db.Awaits profileId := by
  unfold Database.countFacts Database.Awaits
  rw [List.length_eq_zero_iff, List.filter_eq_nil_iff]
  simp

variable {f : OrganizationFact} {w : OnboardingWorkflow}

theorem awaits_put (facts : List OrganizationFact) (hdecided : f.status ≠ .proposed)
    (hfacts : db'.facts = Table.put OrganizationFact.factId f db.facts ++ facts)
    (hnew : ∀ g ∈ facts, g.status ≠ .proposed) (profileId : String) :
    db'.Awaits profileId ↔ db.AwaitsBeside profileId f.factId := by
  unfold Database.Awaits Database.AwaitsBeside
  rw [hfacts]
  constructor
  · rintro ⟨g, hg, howned, hproposed⟩
    rcases List.mem_append.mp hg with hg | hg
    · obtain ⟨g', hg', heq⟩ := List.mem_map.mp hg
      split at heq
      · rw [← heq] at hproposed
        exact absurd hproposed hdecided
      · rename_i hother
        subst heq
        exact ⟨g', hg', hother, howned, hproposed⟩
    · exact absurd hproposed (hnew g hg)
  · rintro ⟨g, hg, hother, howned, hproposed⟩
    exact ⟨g, List.mem_append_left _ (Table.mem_put_of_ne hg hother), howned, hproposed⟩

theorem reviewFact_spec {r : Reviewed} (hmem : f ∈ db.facts) (howned : f.profileId = w.profileId)
    (hproposed : f.status = .proposed) (h : reviewFact db now hex tenantId w f data = .ok r) :
    (r.db.Awaits w.profileId ↔ db.AwaitsBeside w.profileId f.factId) ∧
    (r.remaining = 0 ↔ data.decision = .correct ∧ ¬ r.db.Awaits w.profileId) ∧
    r.db.workflows = db.workflows := by
  -- an acceptance is counted before it is flushed
  have hstale : db.countFacts w.profileId .proposed ≠ 0 := by
    rw [ne_eq, countFacts_eq_zero, not_not]
    exact ⟨f, hmem, howned, hproposed⟩
  unfold reviewFact at h
  split at h
  · rename_i hdecision
    obtain ⟨written, hwritten, h⟩ := bind_eq_ok.mp h
    have hput := putFact_eq_ok hwritten
    obtain rfl := Except.ok.inj h
    refine ⟨awaits_put (f := { f with status := .accepted }) [] nofun ?_ nofun _,
      iff_of_false hstale ?_, ?_⟩
    · simp [hput]
    · simp [hdecision]
    · simp [hput]
  · rename_i hdecision
    obtain ⟨written, hwritten, h⟩ := bind_eq_ok.mp h
    have hput := putFact_eq_ok hwritten
    obtain rfl := Except.ok.inj h
    refine ⟨awaits_put (f := { f with status := .notApplicable }) [] nofun ?_ nofun _,
      iff_of_false hstale ?_, ?_⟩
    · simp [hput]
    · simp [hdecision]
    · simp [hput]
  · rename_i hdecision
    obtain ⟨written, hwritten, h⟩ := bind_eq_ok.mp h
    have hput := putFact_eq_ok hwritten
    obtain ⟨added, hadded, h⟩ := bind_eq_ok.mp h
    have hadd := (addFact_eq_ok hadded).2
    obtain rfl := Except.ok.inj h
    refine ⟨awaits_put (f := { f with factKey := proposalKey f, status := .corrected }) [_] nofun
      (by rw [hadd, hput]) (by simp) _, ?_, ?_⟩
    · simp [hdecision, countFacts_eq_zero]
    · rw [hadd, hput]

theorem promoteToProfile_same (db : Database) (w : OnboardingWorkflow) (f : OrganizationFact) :
    (promoteToProfile db w f).facts = db.facts ∧
      (promoteToProfile db w f).workflows = db.workflows := by
  unfold promoteToProfile
  split
  · split <;> exact ⟨rfl, rfl⟩
  · exact ⟨rfl, rfl⟩

theorem find?_put_workflow {w' : OnboardingWorkflow} {rows : List OnboardingWorkflow}
    (h : rows.find? (fun x => x.tenantId = tenantId ∧ x.workflowId = workflowId) = some w)
    (htenant : w'.tenantId = w.tenantId) (hid : w'.workflowId = w.workflowId) :
    (Table.put OnboardingWorkflow.workflowId w' rows).find?
      (fun x => x.tenantId = tenantId ∧ x.workflowId = workflowId) = some w' := by
  have hfound := List.find?_some h
  simp only [decide_eq_true_eq] at hfound
  have hkey : w'.workflowId = workflowId := hid.trans hfound.2
  have howner : w'.tenantId = tenantId := htenant.trans hfound.1
  induction rows with
  | nil => simp at h
  | cons x rows ih =>
    by_cases hx : x.workflowId = workflowId
    · simp [Table.put, hx, hkey, howner]
    · rw [List.find?_cons_of_neg (by simp [hx])] at h
      show ((if x.workflowId = w'.workflowId then w' else x) :: Table.put _ w' rows).find? _ = _
      rw [if_neg (by rw [hkey]; exact hx), List.find?_cons_of_neg (by simp [hx])]
      exact ih h

/-- After an accepted decision the workflow is ready, and the answer says so, exactly when no fact
of the profile waits for review. -/
def Ready (db' : Database) (tenantId workflowId : String) (ready : Bool) : Prop :=
  ∃ w, db'.getWorkflow tenantId workflowId = some w ∧
    (w.status = .ready ↔ ¬ db'.Awaits w.profileId) ∧ (ready = true ↔ ¬ db'.Awaits w.profileId)

/-- The decision corrects its fact, or another fact of the profile waits for review. -/
def LeavesAnother (db : Database) (tenantId workflowId factId : String) (data : FactDecisionInput) :
    Prop :=
  data.decision = .correct ∨
    ∃ w, db.getWorkflow tenantId workflowId = some w ∧ db.AwaitsBeside w.profileId factId

theorem answerDecision_isSome :
    (∃ ready, answerDecision db now hex tenantId workflowId factId data = .ok (db', ready)) ↔
      decideFact db now hex tenantId workflowId factId data = .ok db' := by
  constructor
  · rintro ⟨ready, h⟩
    obtain ⟨w, -, h⟩ := bind_eq_ok.mp h
    obtain ⟨f, -, h⟩ := bind_eq_ok.mp h
    obtain ⟨r, -, h⟩ := bind_eq_ok.mp h
    obtain ⟨db₁, hdecide, h⟩ := bind_eq_ok.mp h
    obtain ⟨rfl, -⟩ := Prod.mk.inj (Except.ok.inj h)
    exact hdecide
  · intro hdecide
    obtain ⟨w, hw, h⟩ := bind_eq_ok.mp hdecide
    obtain ⟨f, hf, h⟩ := bind_eq_ok.mp h
    obtain ⟨-, h⟩ := require_bind_eq_ok.mp h
    obtain ⟨r, hr, -⟩ := bind_eq_ok.mp h
    refine ⟨r.remaining = 0, ?_⟩
    exact bind_eq_ok.mpr ⟨w, hw, bind_eq_ok.mpr ⟨f, hf, bind_eq_ok.mpr ⟨r, hr,
      bind_eq_ok.mpr ⟨db', hdecide, rfl⟩⟩⟩⟩

/-- The answer to an accepted decision is right exactly when the decision is a correction or
another fact of the profile waits. -/
theorem answerDecision_iff {ready : Bool}
    (h : answerDecision db now hex tenantId workflowId factId data = .ok (db', ready)) :
    Ready db' tenantId workflowId ready ↔ LeavesAnother db tenantId workflowId factId data := by
  obtain ⟨w, hw, h⟩ := ofOption_bind_eq_ok.mp h
  obtain ⟨f, hf, h⟩ := ofOption_bind_eq_ok.mp h
  obtain ⟨r, hr, h⟩ := bind_eq_ok.mp h
  obtain ⟨db₁, hdecide, h⟩ := bind_eq_ok.mp h
  obtain ⟨rfl, rfl⟩ := Prod.mk.inj (Except.ok.inj h)
  -- the same workflow, fact and review
  obtain ⟨w₁, hw₁, hdecide⟩ := ofOption_bind_eq_ok.mp hdecide
  obtain rfl : w = w₁ := Option.some_inj.mp (hw.symm.trans hw₁)
  obtain ⟨f₁, hf₁, hdecide⟩ := ofOption_bind_eq_ok.mp hdecide
  obtain rfl : f = f₁ := Option.some_inj.mp (hf.symm.trans hf₁)
  obtain ⟨hproposed, hdecide⟩ := require_bind_eq_ok.mp hdecide
  obtain ⟨r₁, hr₁, hdecide⟩ := bind_eq_ok.mp hdecide
  obtain rfl : r = r₁ := Except.ok.inj (hr.symm.trans hr₁)
  obtain ⟨db₂, hlogged, hdecide⟩ := bind_eq_ok.mp hdecide
  obtain ⟨rows, -, hlogged⟩ := ofOption_bind_eq_ok.mp hlogged
  obtain rfl := Except.ok.inj hlogged
  have hfound := List.find?_some hf
  simp only [decide_eq_true_eq] at hfound
  obtain ⟨-, howned, hid⟩ := hfound
  obtain ⟨hleft, hcount, hworkflows⟩ :=
    reviewFact_spec (List.mem_of_find?_eq_some hf) howned hproposed hr
  set w' : OnboardingWorkflow :=
    { w with
      status := if r.remaining = 0 then .ready else .profileReview
      stateVersion := w.stateVersion + 1 } with hw'
  obtain ⟨hfacts, hrows⟩ := promoteToProfile_same
    (Database.putWorkflow { r.db with decisions := rows } w') w (r.correction.getD r.fact)
  obtain rfl := Except.ok.inj hdecide
  have hread : Database.getWorkflow (promoteToProfile
      (Database.putWorkflow { r.db with decisions := rows } w') w (r.correction.getD r.fact))
      tenantId workflowId = some w' := by
    unfold Database.getWorkflow
    rw [hrows]
    show (Table.put _ w' r.db.workflows).find? _ = _
    rw [hworkflows]
    exact find?_put_workflow hw rfl rfl
  have hawaits : Database.Awaits (promoteToProfile
      (Database.putWorkflow { r.db with decisions := rows } w') w (r.correction.getD r.fact))
      w.profileId ↔ db.AwaitsBeside w.profileId factId := by
    rw [← hid, ← hleft]
    unfold Database.Awaits
    rw [hfacts]
    rfl
  have hstatus : w'.status = .ready ↔ r.remaining = 0 := by
    rw [hw']
    by_cases h0 : r.remaining = 0 <;> simp [h0]
  have hcondition : LeavesAnother db tenantId workflowId factId data ↔
      data.decision = .correct ∨ db.AwaitsBeside w.profileId factId := by
    unfold LeavesAnother
    simp [hw]
  have hready : r.remaining = 0 ↔
      data.decision = .correct ∧ ¬ db.AwaitsBeside w.profileId factId := by
    rw [hcount, hleft, hid]
  unfold Ready
  rw [hread, hcondition]
  simp only [Option.some_inj, exists_eq_left', decide_eq_true_eq, hstatus, hready]
  rw [show w'.profileId = w.profileId from rfl, hawaits]
  by_cases hcorrect : data.decision = .correct
  · simp [hcorrect]
  · simp [hcorrect]

/-- What is asked of a call: the answer to an accepted decision is right. -/
def AnswersReady (db : Database) (call : Call) : Prop :=
  match call.op with
  | .decideFact tenantId workflowId factId data => ∀ db' ready,
    answerDecision db call.now call.hex tenantId workflowId factId data = .ok (db', ready) →
      Ready db' tenantId workflowId ready
  | _ => True

/-- A decision that is accepted corrects its fact or leaves another one under review. -/
def DecidesBeforeLast (S : OnboardingService) (db : Database) (call : Call) : Prop :=
  match call.op with
  | .decideFact tenantId workflowId factId data =>
    (∃ db', call.exec S db = .ok db') → LeavesAnother db tenantId workflowId factId data
  | _ => True

theorem answersReady_iff {S : OnboardingService} (call : Call) :
    AnswersReady db call ↔ DecidesBeforeLast S db call := by
  obtain ⟨now, hex, op⟩ := call
  cases op with
  | decideFact tenantId workflowId factId data =>
    constructor
    · rintro hanswers ⟨db', hexec⟩
      obtain ⟨ready, hready⟩ := answerDecision_isSome.mpr hexec
      exact (answerDecision_iff hready).mp (hanswers db' ready hready)
    · intro hleaves db' ready hready
      exact (answerDecision_iff hready).mpr
        (hleaves ⟨db', answerDecision_isSome.mp ⟨ready, hready⟩⟩)
  | start | captureSource | proposeFact | approve => exact .rfl

/-- **When the answer is right.**  In every run every decision leaves the workflow ready, and says
so, exactly when no fact waits for review, if and only if every accepted decision is a correction
or leaves another fact under review. -/
theorem run_ready_iff (S : OnboardingService) (db : Database) (calls : List Call) :
    Runs.EachStep (step S) AnswersReady db calls ↔
      Runs.EachStep (step S) (DecidesBeforeLast S) db calls := by
  induction calls generalizing db with
  | nil => exact .rfl
  | cons call calls ih => exact and_congr (answersReady_iff call) (ih (step S db call))

def proposedSample : List Call :=
  [sampleCall 1 (.start "tenant" { workflowKey := "first", companyName := "Asteria" }),
    sampleProposal 3]

/-- The only proposal is accepted, and the workflow stays under review. -/
theorem last_acceptance_not_ready :
    ¬ Runs.EachStep (step sampleService) AnswersReady sampleDatabase
      (proposedSample ++ [sampleAcceptance 4]) := by
  refine Runs.not_eachStep_of_last fun hanswers => ?_
  obtain ⟨db', hanswer, hfacts⟩ : ∃ db', answerDecision
      (run sampleService sampleDatabase proposedSample) 4 (sampleAcceptance 4).hex
        "tenant" "onb_1.0" "fact_3.0"
        { decision := .accept, decidedBy := "reviewer", reason := "checked" } = .ok (db', false) ∧
      ∀ f ∈ db'.facts, f.status ≠ .proposed := ⟨_, rfl, by decide +kernel⟩
  obtain ⟨w, hw, -, hready⟩ := hanswers db' false hanswer
  exact absurd (hready.mpr fun ⟨f, hf, _, hproposed⟩ => hfacts f hf hproposed) (by decide)

end Onboarding
