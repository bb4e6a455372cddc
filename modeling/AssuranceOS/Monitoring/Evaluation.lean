/-
What a run of a monitor says (`ContinuousMonitoringService.execute`).

`execute` looks a run up by the key of its tenant alone, compares the age of the source with
an upper limit only, and records a returned control test as succeeded whatever its status.

* `execute_cases` — what a call does: it raises, answers with the run of its key, suspends
  the monitor, or records a run after the control test.
* `Evaluated` — a call recorded the run, on a source within the limits and after a control
  test that was executed.
* `run_evaluated` — in a history whose executions are `Reliable`, every run returned belongs to
  the monitor that was asked for, and has been evaluated if it is a success.
-/
import Mathlib.Data.List.Induction
import AssuranceOS.Monitoring.Supersession

namespace Monitoring

open Checked
open ControlTesting (ControlTestError ControlTestRunRequest ControlTestRunResult)

variable {env : Environment} {w w' : World} {tenantId id : String} {data : MonitorExecutionInput}
  {run : MonitorRun}

/-- `control_tests.run` after its first transaction. -/
def resumeTest (env : ControlTesting.Environment) (tenantId : String)
    (request : ControlTestRunRequest) : ControlTesting.Opening × ControlTesting.Admission →
    Attempt ControlTesting.World ControlTestError ControlTestRunResult
  | (.existing result, _) => pure result
  | (.created runId, admission) => ControlTesting.finishRun env tenantId runId request admission

theorem openTest_resumeTest (env : ControlTesting.Environment) (tenantId : String)
    (request : ControlTestRunRequest) :
    openTest env tenantId request >>= resumeTest env tenantId request =
      ControlTesting.run env tenantId request := by
  unfold openTest ControlTesting.run
  rw [Attempt.bind_assoc]
  refine Attempt.bind_congr fun w => ?_
  rw [Attempt.bind_assoc]
  refine Attempt.bind_congr fun admission => ?_
  rw [Attempt.bind_assoc]
  refine Attempt.bind_congr fun now => ?_
  rw [Attempt.bind_assoc]
  refine Attempt.bind_congr fun opening => ?_
  cases opening with
  | existing result => rfl
  | created runId => rfl

theorem runTest_run (env : Environment) (tenantId : String) (request : ControlTestRunRequest)
    (w : World) : ∃ ticks, (runTest tenantId request).run (exec env) w =
      (((ControlTesting.run env.tests tenantId request).run w.tests).1.mapError .test,
        { w with
          tests := ((ControlTesting.run env.tests tenantId request).run w.tests).2
          ticks := ticks }) := by
  rw [← openTest_resumeTest]
  unfold runTest
  rcases hopen : (openTest env.tests tenantId request).run w.tests with ⟨e | ⟨opening, admission⟩, t⟩
  · have hperform : (Program.perform (Op.openTest tenantId request) :
        Method (ControlTesting.Opening × ControlTesting.Admission)).run (exec env) w =
        (.error (.test e), { w with tests := t, ticks := w.ticks + 1 }) := by
      show w.onTests (openTest env.tests tenantId request) = _
      unfold World.onTests
      rw [hopen]
      rfl
    rw [Program.run_bind_of_error hperform, Attempt.run_bind_error hopen]
    exact ⟨w.ticks + 1, rfl⟩
  · have hperform : (Program.perform (Op.openTest tenantId request) :
        Method (ControlTesting.Opening × ControlTesting.Admission)).run (exec env) w =
        (.ok (opening, admission), { w with tests := t, ticks := w.ticks + 1 }) := by
      show w.onTests (openTest env.tests tenantId request) = _
      unfold World.onTests
      rw [hopen]
      rfl
    rw [Program.run_bind_of_ok hperform, Attempt.run_bind_ok hopen]
    cases opening with
    | existing result => exact ⟨w.ticks + 1, rfl⟩
    | created runId => exact ⟨w.ticks + 2, rfl⟩

/-- What an execution that returns has done: it has found the run of its key, or has
suspended the monitor, or has run the control test and recorded a success. -/
inductive Execution (env : Environment) (w : World) (tenantId id : String)
    (data : MonitorExecutionInput) (run : MonitorRun) (w' : World) : Prop
  | existing (m : ContinuousMonitor) (opened : w.db.tenantMonitor tenantId id = some m)
      (runnable : m.status = .active ∨ m.status = .suspended)
      (found : w.db.runOfKey tenantId data.testRequest.idempotencyKey = some run)
      (runs : w'.db.runs = w.db.runs)
  | suspended (monitor : run.monitorId = id) (status : run.status = .suspended)
      (runs : w'.db.runs = w.db.runs ++ [run])
  | executed (m : ContinuousMonitor) (opened : w.db.tenantMonitor tenantId id = some m)
      (runnable : m.status = .active ∨ m.status = .suspended)
      (free : w.db.runOfKey tenantId data.testRequest.idempotencyKey = none)
      (fresh : ¬ stale m.pin data (env.clock w.ticks)) (complete : ¬ incomplete m.pin data)
      (pinned : data.testRequest.testId = m.testId ∧ data.testRequest.version = m.testVersion)
      (result : ControlTestRunResult)
      (test : (ControlTesting.run env.tests tenantId data.testRequest).run w.tests =
        (.ok result, w'.tests))
      (recorded : ∃ tick count, run = { executedRun env tick tenantId id data result with
        alertCount := count })
      (new : run ∉ w.db.runs) (runs : w'.db.runs = w.db.runs ++ [run])

variable {α : Type} {w₀ : World}

theorem commit_eq_ok {a : α} {result : Except MonitorError (α × Database)}
    (h : w.commit result = (.ok a, w')) :
    result = .ok (a, w'.db) ∧ w'.tests = w.tests := by
  cases result with
  | error e => cases h
  | ok r =>
    cases h
    exact ⟨rfl, rfl⟩

theorem commit_eq_error {e : MonitorError} {result : Except MonitorError (α × Database)}
    (h : w.commit result = (.error e, w')) : w'.db = w.db := by
  cases result with
  | error e => cases h; rfl
  | ok r => cases h

/-- What follows the read session, in a world whose tables are those of `w₀`. -/
theorem executePinned_cases {m : ContinuousMonitor} (hdb : w.db = w₀.db)
    (htests : w.tests = w₀.tests) (hm : w₀.db.tenantMonitor tenantId id = some m)
    (hstatus : m.status = .active ∨ m.status = .suspended)
    (hkey : w₀.db.runOfKey tenantId data.testRequest.idempotencyKey = none) :
    (∃ e w', (executePinned tenantId id data (env.clock w₀.ticks) m.pin).run (exec env) w =
      (.error e, w') ∧ w'.db.runs = w₀.db.runs) ∨
    ∃ run w', (executePinned tenantId id data (env.clock w₀.ticks) m.pin).run (exec env) w =
      (.ok run, w') ∧ Execution env w₀ tenantId id data run w' := by
  unfold executePinned
  split
  · rcases hrun : (Program.perform (Op.suspendMonitor tenantId id data
      (suspensionReasons m.pin data (env.clock w₀.ticks)) (env.clock w₀.ticks)) :
        Method MonitorRun).run (exec env) w with ⟨e | run, w'⟩
    · refine Or.inl ⟨e, w', rfl, ?_⟩
      rw [commit_eq_error hrun, hdb]
    · obtain ⟨heq, hruns, -⟩ := suspendMonitor_eq_ok (commit_eq_ok hrun).1
      refine Or.inr ⟨run, w', rfl, .suspended ?_ ?_ (hdb ▸ hruns)⟩
      · rw [heq]
        rfl
      · rw [heq]
        rfl
  · rename_i hgates
    obtain ⟨hfresh, hcomplete⟩ := not_or.mp hgates
    split
    · exact Or.inl ⟨_, w, rfl, by rw [hdb]⟩
    · rename_i hpin
      obtain ⟨htest, hversion⟩ := (Prod.mk.injEq ..).mp (not_not.mp hpin)
      obtain ⟨ticks, hrunTest⟩ := runTest_run env tenantId data.testRequest w
      rcases hcontrol : (ControlTesting.run env.tests tenantId data.testRequest).run w.tests with
        ⟨e | result, t⟩
      · rw [hcontrol] at hrunTest
        rw [Program.run_bind_of_error hrunTest]
        exact Or.inl ⟨_, _, rfl, by rw [hdb]⟩
      · rw [hcontrol] at hrunTest
        rw [Program.run_bind_of_ok hrunTest]
        rcases hrun : (Program.perform (Op.recordExecution tenantId id data result
          (env.clock w₀.ticks)) : Method MonitorRun).run (exec env)
            { w with tests := t, ticks := ticks } with ⟨e | run, w'⟩
        · refine Or.inl ⟨e, w', rfl, ?_⟩
          rw [commit_eq_error hrun]
          exact congrArg Database.runs hdb
        · obtain ⟨hrecord, hsame⟩ := commit_eq_ok hrun
          obtain ⟨⟨count, heq⟩, hnew, hruns, -⟩ := recordExecution_eq_ok hrecord
          refine Or.inr ⟨run, w', rfl, .executed m hm hstatus hkey hfresh hcomplete
            ⟨htest, hversion⟩ result ?_ ⟨_, count, heq⟩ (hdb ▸ hnew) (hdb ▸ hruns)⟩
          rw [← htests, hcontrol, hsame]

/-- **One execution** raises and records nothing, or returns. -/
theorem execute_cases (env : Environment) (w : World) (tenantId id : String)
    (data : MonitorExecutionInput) :
    (∃ e w', (execute tenantId id data).run (exec env) w = (.error e, w') ∧
      w'.db.runs = w.db.runs) ∨
    ∃ run w', (execute tenantId id data).run (exec env) w = (.ok run, w') ∧
      Execution env w tenantId id data run w' := by
  have hclock : (Program.perform Op.clock : Method ℤ).run (exec env) w =
      (.ok (env.clock w.ticks), { w with ticks := w.ticks + 1 }) := rfl
  unfold execute
  rw [Program.run_bind_of_ok hclock]
  split
  · exact Or.inl ⟨_, _, rfl, rfl⟩
  · unfold executeZoned
    rcases hopening : openExecution tenantId id data.testRequest.idempotencyKey w.db with e | opening
    · have hperform : (Program.perform (Op.openExecution tenantId id
          data.testRequest.idempotencyKey) : Method Opening).run (exec env)
          { w with ticks := w.ticks + 1 } = (.error e, { w with ticks := w.ticks + 2 }) := by
        show (openExecution tenantId id data.testRequest.idempotencyKey w.db, _) = _
        rw [hopening]
        rfl
      rw [Program.run_bind_of_error hperform]
      exact Or.inl ⟨_, _, rfl, rfl⟩
    · have hperform : (Program.perform (Op.openExecution tenantId id
          data.testRequest.idempotencyKey) : Method Opening).run (exec env)
          { w with ticks := w.ticks + 1 } = (.ok opening, { w with ticks := w.ticks + 2 }) := by
        show (openExecution tenantId id data.testRequest.idempotencyKey w.db, _) = _
        rw [hopening]
        rfl
      rw [Program.run_bind_of_ok hperform]
      obtain ⟨m, hm, hrest⟩ := ofOption_bind_eq_ok.mp hopening
      obtain ⟨hstatus, hrest⟩ := require_bind_eq_ok.mp hrest
      rcases hkey : w.db.runOfKey tenantId data.testRequest.idempotencyKey with _ | found
      · rw [hkey] at hrest
        cases hrest
        exact executePinned_cases (Eq.refl w.db) (Eq.refl w.tests) hm hstatus hkey
      · rw [hkey] at hrest
        cases hrest
        exact Or.inr ⟨found, _, rfl, .existing m hm hstatus hkey rfl⟩

/-- One task run by itself. -/
def perform (env : Environment) (w : World) (task : Task) : World :=
  ((task.program env).run (exec env) w).2

/-- A call of `execute` recorded the run, when its source was within the limits of its monitor,
and when the control test that the monitor is pinned to had been executed. -/
structure Evaluated (env : Environment) (run : MonitorRun) (w : World) (task : Task) : Prop where
  recorded : run ∈ (perform env w task).db.runs ∧ run ∉ w.db.runs
  observed_le : run.sourceObservedAt ≤ env.clock w.ticks
  within : ∃ m ∈ w.db.monitors, m.monitorId = run.monitorId ∧
    env.clock w.ticks - run.sourceObservedAt ≤ (m.sourceFreshnessSeconds : ℤ) * 1000000 ∧
    m.minimumCompleteness ≤ run.sourceCompleteness ∧
    ∃ test ∈ (perform env w task).tests.db.runs, run.controlTestRunId = some test.runId ∧
      test.testId = m.testId ∧ test.testVersion = m.testVersion ∧ test.status = .succeeded

/-- An earlier control test under the key has succeeded, and is one of the version asked for;
a new one is not blocked. -/
def TestExecuted (env : ControlTesting.Environment) (w : ControlTesting.World) (tenantId : String)
    (request : ControlTestRunRequest) : Prop :=
  (∀ earlier ∈ w.db.getRunByIdempotency tenantId request.idempotencyKey,
    earlier.status = .succeeded ∧ earlier.testId = request.testId ∧
      earlier.testVersion = request.version) ∧
  (w.db.getRunByIdempotency tenantId request.idempotencyKey = none →
    ∀ admission ∈ (ControlTesting.admitRun env w.db tenantId request).toOption,
      admission.blocked = false)

instance (env : ControlTesting.Environment) (w : ControlTesting.World) (tenantId : String)
    (request : ControlTestRunRequest) : Decidable (TestExecuted env w tenantId request) :=
  inferInstanceAs (Decidable (_ ∧ _))

/-- An execution of a monitor that can be run, under a key that no other monitor has used;
if it passes the gates, its source is not of the future, and its control test is executed. -/
def Reliable (env : Environment) (w : World) : Task → Prop
  | .activate .. => True
  | .execute tenantId id data =>
    ∀ m ∈ w.db.tenantMonitor tenantId id, m.status = .active ∨ m.status = .suspended →
      (∀ r ∈ w.db.runOfKey tenantId data.testRequest.idempotencyKey, r.monitorId = id) ∧
      (w.db.runOfKey tenantId data.testRequest.idempotencyKey = none →
        ¬ stale m.pin data (env.clock w.ticks) → ¬ incomplete m.pin data →
        data.testRequest.testId = m.testId ∧ data.testRequest.version = m.testVersion →
        data.sourceObservedAt.instant ≤ env.clock w.ticks ∧
          TestExecuted env.tests w.tests tenantId data.testRequest)

instance (env : Environment) (w : World) : ∀ task : Task, Decidable (Reliable env w task)
  | .activate .. => isTrue trivial
  | .execute tenantId id data => inferInstanceAs (Decidable
      (∀ m ∈ w.db.tenantMonitor tenantId id, m.status = .active ∨ m.status = .suspended →
        (∀ r ∈ w.db.runOfKey tenantId data.testRequest.idempotencyKey, r.monitorId = id) ∧
        (w.db.runOfKey tenantId data.testRequest.idempotencyKey = none →
          ¬ stale m.pin data (env.clock w.ticks) → ¬ incomplete m.pin data →
          data.testRequest.testId = m.testId ∧ data.testRequest.version = m.testVersion →
          data.sourceObservedAt.instant ≤ env.clock w.ticks ∧
            TestExecuted env.tests w.tests tenantId data.testRequest)))

/-- What a run that `execute` returns after the history says: it belongs to the monitor that
was asked for, and some call of the history has evaluated it if it is a success. -/
def SoundAfter (env : Environment) (w : World) (calls : List Task) (tenantId id : String)
    (data : MonitorExecutionInput) : Prop :=
  ∀ run, ((execute tenantId id data).run (exec env) (calls.foldl (perform env) w)).1 = .ok run →
    run.monitorId = id ∧ (run.status = .succeeded →
      Runs.SomeStep (perform env) (Evaluated env run) w (calls ++ [.execute tenantId id data]))

theorem perform_execute (env : Environment) (w : World) (tenantId id : String)
    (data : MonitorExecutionInput) : perform env w (.execute tenantId id data) =
      ((execute tenantId id data).run (exec env) w).2 := by
  show ((execute tenantId id data >>= fun _ => pure ()).run (exec env) w).2 = _
  rw [Program.run_bind]
  rcases (execute tenantId id data).run (exec env) w with ⟨e | run, w'⟩
  · rfl
  · rfl

theorem perform_activate_runs (env : Environment) (w : World) (tenantId : String)
    (data : MonitorDefinitionInput) :
    (perform env w (.activate tenantId data)).db.runs = w.db.runs := by
  have hcalls : ((Task.activate tenantId data).program env).Calls fun op => op.executed = none :=
    Program.Calls.bind ((activate_calls env tenantId data).mono fun op hop => hop.2)
      fun _ => trivial
  refine hcalls.run_keeps (I := fun w' : World => w'.db.runs = w.db.runs) ?_ rfl
  intro op hop s hs
  have heffect := exec_effect env op s
  generalize (exec env op s).2.db = db' at heffect ⊢
  cases heffect with
  | none monitors runs => exact runs.trans hs
  | added row tenant key h => exact h.runs.trans hs
  | suspended h => cases hop
  | recorded h => cases hop

theorem Execution.evaluated (h : Execution env w tenantId id data run w')
    (hw' : perform env w (.execute tenantId id data) = w')
    (hok : Reliable env w (.execute tenantId id data)) (hnew : run ∉ w.db.runs)
    (hstatus : run.status = .succeeded) : Evaluated env run w (.execute tenantId id data) := by
  cases h with
  | existing m opened runnable found runs => exact absurd (List.mem_of_find?_eq_some found) hnew
  | suspended monitor status runs =>
    rw [status] at hstatus
    cases hstatus
  | executed m opened runnable free fresh complete pinned result test recorded new runs =>
    obtain ⟨hobserved, hearlier, hblocked⟩ :=
      (hok m opened runnable).2 free fresh complete pinned
    obtain ⟨tick, count, rfl⟩ := recorded
    obtain ⟨hmem, -, hid⟩ := tenantMonitor_eq_some opened
    obtain ⟨admission, row, hadmit, hrow, hrunId, hcase⟩ := ControlTesting.run_eq_ok test
    have hexecuted : row.testId = m.testId ∧ row.testVersion = m.testVersion ∧
        row.status = .succeeded := by
      rcases hcase with hfound | ⟨hnone, htest, hversion, hrowStatus⟩
      · obtain ⟨hsucceeded, htest, hversion⟩ := hearlier row hfound
        exact ⟨htest.trans pinned.1, hversion.trans pinned.2, hsucceeded⟩
      · rw [hblocked hnone admission (toOption_eq_some.mpr hadmit)] at hrowStatus
        exact ⟨htest.trans pinned.1, hversion.trans pinned.2, hrowStatus⟩
    refine ⟨⟨?_, hnew⟩, hobserved, m, hmem, hid, ?_, not_lt.mp complete, row, ?_, ?_, hexecuted⟩
    · rw [hw', runs]
      exact List.mem_append_right _ (List.mem_singleton_self _)
    · exact not_lt.mp fresh
    · rw [hw']
      exact hrow
    · exact congrArg some hrunId.symm

theorem run_successes (hfresh : w₀.db.runs = []) (calls : List Task)
    (hok : Runs.EachStep (perform env) (Reliable env) w₀ calls) :
    ∀ r ∈ (calls.foldl (perform env) w₀).db.runs, r.status = .succeeded →
      Runs.SomeStep (perform env) (Evaluated env r) w₀ calls := by
  induction calls using List.reverseRecOn with
  | nil =>
    intro r hr
    rw [List.foldl_nil, hfresh] at hr
    exact absurd hr List.not_mem_nil
  | append_singleton calls task ih =>
    intro r hr hstatus
    obtain ⟨hbefore, hlast, -⟩ := Runs.eachStep_append.mp hok
    by_cases hold : r ∈ (calls.foldl (perform env) w₀).db.runs
    · exact (ih hbefore r hold hstatus).append [task]
    · -- the last call has recorded it
      rw [List.foldl_append] at hr
      refine Runs.SomeStep.last ?_
      cases task with
      | activate tenantId data =>
        rw [List.foldl_cons, List.foldl_nil, perform_activate_runs] at hr
        exact absurd hr hold
      | execute tenantId id data =>
        have hperform := perform_execute env (calls.foldl (perform env) w₀) tenantId id data
        rw [List.foldl_cons, List.foldl_nil] at hr
        rcases execute_cases env (calls.foldl (perform env) w₀) tenantId id data with
          ⟨e, w', hrun, hruns⟩ | ⟨run, w', hrun, hexec⟩
        · rw [hperform, hrun] at hr
          exact absurd (hruns ▸ hr) hold
        · rw [hrun] at hperform
          rw [hperform] at hr
          have hrr : r = run := by
            cases hexec with
            | existing m opened runnable found runs => exact absurd (runs ▸ hr) hold
            | suspended monitor status runs =>
              rcases List.mem_append.mp (runs ▸ hr) with hr | hr
              · exact absurd hr hold
              · exact List.mem_singleton.mp hr
            | executed m opened runnable free fresh complete pinned result test recorded new runs =>
              rcases List.mem_append.mp (runs ▸ hr) with hr | hr
              · exact absurd hr hold
              · exact List.mem_singleton.mp hr
          subst hrr
          exact hexec.evaluated hperform hlast hold hstatus

/-- **What a run says.**  In a history whose executions are reliable, a run that `execute`
returns belongs to the monitor that was asked for; and if it is a success, some call of the
history recorded it, on a source that was observed within the limits and not later than the
evaluation, and after a control test of the pinned version that was executed. -/
theorem run_evaluated {w₀ : World} (hfresh : w₀.db.runs = []) {calls : List Task}
    (hok : Runs.EachStep (perform env) (Reliable env) w₀ (calls ++ [.execute tenantId id data])) :
    SoundAfter env w₀ calls tenantId id data := by
  intro run hreturn
  have hlast := (Runs.eachStep_append.mp hok).2.1
  rcases execute_cases env (calls.foldl (perform env) w₀) tenantId id data with
    ⟨e, w', hrun, -⟩ | ⟨run', w', hrun, hexec⟩
  · rw [hrun] at hreturn
    cases hreturn
  · rw [hrun] at hreturn
    cases hreturn
    have hperform := perform_execute env (calls.foldl (perform env) w₀) tenantId id data
    rw [hrun] at hperform
    have hmem : run ∈ ((calls ++ [Task.execute tenantId id data]).foldl (perform env) w₀).db.runs := by
      rw [List.foldl_append, List.foldl_cons, List.foldl_nil, hperform]
      cases hexec with
      | existing m opened runnable found runs =>
        exact runs ▸ List.mem_of_find?_eq_some found
      | suspended monitor status runs =>
        exact runs ▸ List.mem_append_right _ (List.mem_singleton_self _)
      | executed m opened runnable free fresh complete pinned result test recorded new runs =>
        exact runs ▸ List.mem_append_right _ (List.mem_singleton_self _)
    refine ⟨?_, run_successes hfresh _ hok run hmem⟩
    cases hexec with
    | existing m opened runnable found runs => exact (hlast m opened runnable).1 run found
    | suspended monitor status runs => exact monitor
    | executed m opened runnable free fresh complete pinned result test recorded new runs =>
      obtain ⟨tick, count, heq⟩ := recorded
      rw [heq]
      rfl

theorem shortPopulation_nodup :
    ([{ ControlTesting.sampleDataset with expectedCount := some 2 }].map
      ControlTesting.ControlTestDataset.name).Nodup :=
  List.nodup_singleton _

/-- An execution whose population has one row where two are expected. -/
def shortPopulation (key : String) (observedAt : ℤ) : MonitorExecutionInput :=
  { sampleExecution key observedAt with
    testRequest := { ControlTesting.sampleRequest with
      idempotencyKey := key
      datasets := [{ ControlTesting.sampleDataset with expectedCount := some 2 }]
      names_nodup := shortPopulation_nodup } }

def accessMonitor : MonitorDefinitionInput :=
  { sampleMonitor with monitorKey := "accesses" }

/-- Two monitors; the first has been executed under the key "first". -/
def twoMonitors : List Task :=
  [.activate "tnt_a" sampleMonitor, .activate "tnt_a" accessMonitor,
    .execute "tnt_a" "mon_1.0" (sampleExecution "first" 120000000)]

def oneMonitor : List Task := [.activate "tnt_a" sampleMonitor]

def returned (calls : List Task) (id : String) (data : MonitorExecutionInput) : Option MonitorRun :=
  ((execute "tnt_a" id data).run (exec monitoringEnvironment)
    (calls.foldl (perform monitoringEnvironment) sampleCrew.state)).1.toOption

/-- A second monitor gets the run of the first; a source of the future is fresh; and a control
test that was not executed, for want of a complete population, is a success. -/
theorem unsound_runs :
    ¬ SoundAfter monitoringEnvironment sampleCrew.state twoMonitors "tnt_a" "mon_3.0"
      (sampleExecution "first" 120000000) ∧
    ¬ SoundAfter monitoringEnvironment sampleCrew.state oneMonitor "tnt_a" "mon_1.0"
      (sampleExecution "first" 1000000000000) ∧
    ¬ SoundAfter monitoringEnvironment sampleCrew.state oneMonitor "tnt_a" "mon_1.0"
      (shortPopulation "first" 120000000) := by
  refine ⟨fun h => ?_, fun h => ?_, fun h => ?_⟩
  · obtain ⟨run, hrun, hmonitor⟩ : ∃ run ∈ returned twoMonitors "mon_3.0"
        (sampleExecution "first" 120000000), run.monitorId ≠ "mon_3.0" := by decide +kernel
    exact hmonitor (h run (toOption_eq_some.mp hrun)).1
  · obtain ⟨run, hrun, hstatus, hobserved⟩ : ∃ run ∈ returned oneMonitor "mon_1.0"
        (sampleExecution "first" 1000000000000), run.status = .succeeded ∧
          run.sourceObservedAt = 1000000000000 := by decide +kernel
    obtain ⟨before, task, after, -, hevaluated⟩ := (h run (toOption_eq_some.mp hrun)).2 hstatus
    have hle : run.sourceObservedAt ≤ 120000000 := hevaluated.observed_le
    omega
  · obtain ⟨run, hrun, hstatus⟩ : ∃ run ∈ returned oneMonitor "mon_1.0"
        (shortPopulation "first" 120000000), run.status = .succeeded := by decide +kernel
    have hnone : Runs.EachStep (perform monitoringEnvironment)
        (fun w task => ∀ test ∈ (perform monitoringEnvironment w task).tests.db.runs,
          test.status ≠ .succeeded) sampleCrew.state
        (oneMonitor ++ [.execute "tnt_a" "mon_1.0" (shortPopulation "first" 120000000)]) := by
      decide +kernel
    obtain ⟨before, task, after, heq, hevaluated⟩ := (h run (toOption_eq_some.mp hrun)).2 hstatus
    obtain ⟨m, -, -, -, -, test, htest, -, -, -, hsucceeded⟩ := hevaluated.within
    exact Runs.eachStep_iff.mp hnone before task after heq test htest hsucceeded

/-- The monitor is executed twice under a key: the second call gets the run of the first. -/
theorem run_evaluated_sample :
    (∃ run ∈ returned (oneMonitor ++ [.execute "tnt_a" "mon_1.0" (sampleExecution "first"
      120000000)]) "mon_1.0" (sampleExecution "first" 120000000), run.status = .succeeded) ∧
    SoundAfter monitoringEnvironment sampleCrew.state (oneMonitor ++
      [.execute "tnt_a" "mon_1.0" (sampleExecution "first" 120000000)]) "tnt_a" "mon_1.0"
        (sampleExecution "first" 120000000) :=
  ⟨by decide +kernel, run_evaluated rfl (by decide +kernel)⟩

end Monitoring
