/-
Versions of a monitor, beside executions in progress.

`activate` retires the active versions of its key and never looks at a suspended one; an
execution reads the status of its version once, and makes it active when it has run the
test.  So a version that was suspended when its successor came, or that was being executed,
becomes active again beside it.

* `UnderWay` — a worker has read a version, and may still write it.
* `Undisturbed` — no execution begins on a suspended version that has a successor, and no
  version is added while one of its key is being executed.
* `crew_supersession` — in every interleaving whose calls are so, at most one version of a
  key is active, and a version with a successor is left alone.
-/
import AssuranceOS.ControlTesting.Finalization
import AssuranceOS.Monitoring.Effects

namespace Monitoring

open Checked

variable {env : Environment} {db db' : Database} {w : World} {monitorId : String}

/-- The version that an operation writes as one that has been executed. -/
def Op.executed : Op → Option String
  | .suspendMonitor _ monitorId .. => some monitorId
  | .recordExecution _ monitorId .. => some monitorId
  | _ => none

def Op.opensExecution : Op → Bool
  | .openExecution .. => true
  | _ => false

/-- The program may write the version without reading it first: it has read it. -/
def UnderWay (monitorId : String) : Method Unit → Prop
  | .done _ => False
  | .call op next =>
    op.opensExecution = false ∧ (op.executed = some monitorId ∨ ∃ r, UnderWay monitorId (next r))

/-- An execution is under way only with the version that it has read. -/
def Reads : Method Unit → Prop
  | .done _ => True
  | .call (.openExecution _ monitorId _) next =>
    ∀ r, Reads (next r) ∧ ∀ m, UnderWay m (next r) → m = monitorId ∧ ∃ pin, r = .ok (.proceed pin)
  | .call _ next => ∀ r, Reads (next r)

variable {p : Method Unit} {crew : Crew Op.Result MonitorError World}

theorem executed_of_underWay {P : String → Prop}
    (hcalls : p.Calls fun op => ∀ m, op.executed = some m → P m) (h : UnderWay monitorId p) :
    P monitorId := by
  induction p with
  | done result => exact absurd h id
  | call op next ih =>
    obtain ⟨-, hnow | ⟨r, hlater⟩⟩ := h
    · exact hcalls.1 monitorId hnow
    · exact ih r (hcalls.2 r) hlater

theorem reads_of_calls (hcalls : p.Calls fun op => op.opensExecution = false) :
    Reads p := by
  induction p with
  | done result => exact trivial
  | call op next ih =>
    cases op with
    | openExecution => cases hcalls.1
    | _ => exact fun r => ih r (hcalls.2 r)

theorem activate_calls (env : Environment) (tenantId : String) (data : MonitorDefinitionInput) :
    (activate env tenantId data).Calls fun op => op.opensExecution = false ∧ op.executed = none := by
  unfold activate
  split
  · exact trivial
  · refine Program.Calls.bind (Program.calls_perform.mpr ⟨rfl, rfl⟩) fun now => ?_
    exact Program.calls_perform.mpr ⟨rfl, rfl⟩

theorem runTest_calls (tenantId : String) (request : ControlTesting.ControlTestRunRequest) :
    (runTest tenantId request).Calls fun op => op.opensExecution = false ∧ op.executed = none := by
  unfold runTest
  refine Program.Calls.bind (Program.calls_perform.mpr ⟨rfl, rfl⟩) fun opening => ?_
  split
  · exact trivial
  · exact Program.calls_perform.mpr ⟨rfl, rfl⟩

theorem executePinned_calls (tenantId id : String) (data : MonitorExecutionInput) (now : ℤ)
    (pin : Pin) : (executePinned tenantId id data now pin).Calls fun op =>
      op.opensExecution = false ∧ ∀ m, op.executed = some m → m = id := by
  have hself : ∀ m, some id = some m → m = id := fun m h => (Option.some.inj h).symm
  unfold executePinned
  split
  · exact Program.calls_perform.mpr ⟨rfl, hself⟩
  · split
    · exact trivial
    · refine Program.Calls.bind ((runTest_calls tenantId data.testRequest).mono ?_) fun result => ?_
      · intro op hop
        refine ⟨hop.1, fun m hm => ?_⟩
        rw [hop.2] at hm
        cases hm
      · exact Program.calls_perform.mpr ⟨rfl, hself⟩

theorem Task.not_underWay (env : Environment) (task : Task) (monitorId : String) :
    ¬ UnderWay monitorId (task.program env) := by
  intro h
  cases task with
  | activate tenantId data =>
    refine executed_of_underWay (P := fun _ => False) ?_ h
    refine Program.Calls.bind ((activate_calls env tenantId data).mono fun op hop m hm => ?_)
      fun _ => trivial
    rw [hop.2] at hm
    cases hm
  | execute tenantId id data =>
    obtain ⟨-, hnow | ⟨r, hlater⟩⟩ := h
    · cases hnow
    · cases r with
      | error e => exact hlater
      | ok now =>
        change UnderWay monitorId (Program.bind (if _ then _ else _) _) at hlater
        split at hlater
        · exact hlater
        · cases hlater.1

theorem Task.reads (env : Environment) (task : Task) : Reads (task.program env) := by
  cases task with
  | activate tenantId data =>
    refine reads_of_calls (Program.Calls.bind ((activate_calls env tenantId data).mono ?_)
      fun _ => trivial)
    exact fun op hop => hop.1
  | execute tenantId id data =>
    intro r
    cases r with
    | error e => exact trivial
    | ok now =>
      show Reads (Program.bind (if _ then _ else _) _)
      split
      · exact trivial
      · intro opening
        have hrest : ∀ pin, (Program.bind (executePinned tenantId id data now pin)
            fun _ => (pure () : Method Unit)).Calls fun op =>
              op.opensExecution = false ∧ ∀ m, op.executed = some m → m = id :=
          fun pin => Program.Calls.bind (executePinned_calls tenantId id data now pin)
            fun _ => trivial
        match opening with
        | .error e => exact ⟨trivial, fun m hm => False.elim hm⟩
        | .ok (.existing run) => exact ⟨trivial, fun m hm => False.elim hm⟩
        | .ok (.proceed pin) =>
          refine ⟨reads_of_calls ((hrest pin).mono fun op hop => hop.1), fun m hm => ?_⟩
          exact ⟨executed_of_underWay (P := fun m => m = id)
            ((hrest pin).mono fun op hop => hop.2) hm, pin, rfl⟩

/-! ### Workers beside each other -/

/-- No execution begins on a suspended version that has a successor, and none is under way
on a version of a key to which a version is added. -/
def Clear (crew : Crew Op.Result MonitorError World) : Op → Prop
  | .openExecution tenantId monitorId key =>
    crew.state.db.runOfKey tenantId key = none →
      ∀ m ∈ crew.state.db.tenantMonitor tenantId monitorId, m.status = .suspended →
        ¬ Superseded crew.state.db m
  | .addVersion tenantId data _ =>
    ∀ m ∈ crew.state.db.monitors, m.tenantId = tenantId → m.monitorKey = data.monitorKey →
      ∀ i, ¬ UnderWay m.monitorId (crew.workers i)
  | _ => True

/-- The call of the turn does not meddle with another execution. -/
def Undisturbed (crew : Crew Op.Result MonitorError World) : Turn Task → Prop
  | .start _ _ => True
  | .advance worker => (crew.workers worker).Next (Clear crew)

/-- A version with a successor is not made active, and not executed. -/
def KeepsSuperseded (env : Environment) (crew : Crew Op.Result MonitorError World)
    (turn : Turn Task) : Prop :=
  ∀ m ∈ crew.state.db.monitors, Superseded crew.state.db m →
    (∀ m' ∈ (crew.step (exec env) (Task.program env) turn).state.db.monitors,
      m'.monitorId = m.monitorId → m'.status ≠ .active) ∧
    ∀ run ∈ (crew.step (exec env) (Task.program env) turn).state.db.runs,
      run.monitorId = m.monitorId → run ∈ crew.state.db.runs

/-- What holds of a worker: what it has under way has no successor. -/
def Current (w : World) (p : Method Unit) : Prop :=
  Reads p ∧ ∀ m ∈ w.db.monitors, UnderWay m.monitorId p → ¬ Superseded w.db m

theorem Current.of_idents {w' : World} (h : Current w p) (hidents : w'.db.idents = w.db.idents) :
    Current w' p := by
  refine ⟨h.1, fun m hm hway hsuper => ?_⟩
  obtain ⟨m₀, hm₀, hident⟩ : ∃ m₀ ∈ w.db.monitors, m₀.ident = m.ident :=
    mem_of_ident hm fun v hv => hidents ▸ hv
  refine h.2 m₀ hm₀ ?_ (hsuper.mono (fun v hv => hidents ▸ hv) hident)
  rw [show m₀.monitorId = m.monitorId from congrArg VersionId.monitorId hident]
  exact hway

theorem Current.next {w : World} {op : Op} {next : Except MonitorError op.Result → Method Unit}
    (h : Current w (.call op next)) (hop : op.opensExecution = false)
    (r : Except MonitorError op.Result) : Current w (next r) := by
  refine ⟨?_, fun m hm hway => h.2 m hm ⟨hop, Or.inr ⟨r, hway⟩⟩⟩
  have hreads := h.1
  cases op with
  | openExecution => cases hop
  | _ => exact hreads r

theorem Current.opened {tenantId id key : String}
    {next : Except MonitorError Opening → Method Unit} (ho : Ordered w.db)
    (h : Current w (.call (.openExecution tenantId id key) next))
    (hclear : w.db.runOfKey tenantId key = none →
      ∀ m ∈ w.db.tenantMonitor tenantId id, m.status = .suspended → ¬ Superseded w.db m) :
    Current w (next (openExecution tenantId id key w.db)) := by
  obtain ⟨hreads, hway⟩ := h.1 (openExecution tenantId id key w.db)
  refine ⟨hreads, fun m hm hm' => ?_⟩
  obtain ⟨hid, pin, hproceed⟩ := hway m.monitorId hm'
  obtain ⟨m₀, hm₀, hrest⟩ := ofOption_bind_eq_ok.mp hproceed
  obtain ⟨hstatus, hrest⟩ := require_bind_eq_ok.mp hrest
  obtain ⟨hmem, -, hid₀⟩ := tenantMonitor_eq_some hm₀
  have hsame : m = m₀ := ho.eq_of_ident hm hmem (hid.trans hid₀.symm)
  rw [hsame]
  rcases hstatus with hactive | hsuspended
  · exact fun hsuper => ho.inactive m₀ hmem hsuper hactive
  · refine hclear ?_ m₀ hm₀ hsuspended
    rcases hrun : w.db.runOfKey tenantId key with _ | run
    · rfl
    · rw [hrun] at hrest
      cases hrest

theorem Current.added {w w' : World} {row : ContinuousMonitor} {p : Method Unit}
    (h : Current w p) (hadded : Added row w.db w'.db)
    (hfree : ∀ m ∈ w.db.monitors, m.SameKey row → ¬ UnderWay m.monitorId p) : Current w' p := by
  refine ⟨h.1, fun x hx hway hsuper => ?_⟩
  rcases hadded.cases hx with rfl | ⟨m, hm, hident, -⟩
  · exact hadded.row_current hsuper
  · rw [show x.monitorId = m.monitorId from congrArg VersionId.monitorId hident] at hway
    rcases hadded.superseded_of hident hsuper with hsuper | hsame
    · exact h.2 m hm hway hsuper
    · exact hfree m hm hsame hway

variable {op : Op} {turn : Turn Task}

theorem Current.latest {next : Except MonitorError op.Result → Method Unit} {id : String}
    (h : Current w (.call op next)) (hop : op.opensExecution = false)
    (hid : op.executed = some id) :
    ∀ m ∈ w.db.monitors, m.monitorId = id → ¬ Superseded w.db m := by
  rintro m hm rfl
  exact h.2 m hm ⟨hop, Or.inl hid⟩

/-- **One turn** keeps the versions in order, and what is under way current. -/
theorem step_current {crew : Crew Op.Result MonitorError World} {turn : Turn Task}
    (hok : Undisturbed crew turn)
    (h : Crew.Asserted (fun w : World => Ordered w.db) Current crew) :
    Crew.Asserted (fun w : World => Ordered w.db) Current
      (crew.step (exec env) (Task.program env) turn) := by
  refine Crew.step_asserted (fun w task _ => ?_) ?_ hok h
  · exact ⟨task.reads env, fun m _ hway => absurd hway (task.not_underWay env m.monitorId)⟩
  · rintro crew worker op next hok ⟨ho, hall⟩ hworker
    have hclear : Clear crew op := by
      have hnext : (crew.workers worker).Next (Clear crew) := hok
      rw [hworker] at hnext
      exact hnext
    have hown : Current crew.state (.call op next) := hworker ▸ hall worker
    have hframe : (exec env op crew.state).2.db.idents = crew.state.db.idents →
        op.opensExecution = false → Ordered (exec env op crew.state).2.db →
        Ordered (exec env op crew.state).2.db ∧
          Current (exec env op crew.state).2 (next (exec env op crew.state).1) ∧
          ∀ i, i ≠ worker → Current (exec env op crew.state).2 (crew.workers i) := by
      intro hidents hop hordered
      exact ⟨hordered, (hown.next hop _).of_idents hidents, fun i _ => (hall i).of_idents hidents⟩
    have hwritten : ∀ id, op.executed = some id → op.opensExecution = false →
        Written id crew.state.db (exec env op crew.state).2.db →
        Ordered (exec env op crew.state).2.db ∧
          Current (exec env op crew.state).2 (next (exec env op crew.state).1) ∧
          ∀ i, i ≠ worker → Current (exec env op crew.state).2 (crew.workers i) := by
      intro id hid hop hw
      exact hframe (hw.idents ho) hop (hw.ordered ho (hown.latest hop hid))
    by_cases hop : op.opensExecution = false
    · have heffect := exec_effect env op crew.state
      generalize hdb : (exec env op crew.state).2.db = db' at heffect
      cases heffect with
      | none monitors runs =>
        subst hdb
        exact hframe (congrArg (List.map ContinuousMonitor.ident) monitors) hop (ho.congr monitors)
      | @added t data now _ row htenant hkey hadded =>
        subst hdb
        have hfree : ∀ i, ∀ m ∈ crew.state.db.monitors, m.SameKey row →
            ¬ UnderWay m.monitorId (crew.workers i) := fun i m hm hsame =>
          hclear m hm (hsame.1.trans htenant) (hsame.2.trans hkey) i
        have hnext : ∀ m ∈ crew.state.db.monitors, m.SameKey row →
            ¬ UnderWay m.monitorId (next (exec env (.addVersion t data now) crew.state).1) := by
          intro m hm hsame hway
          refine hfree worker m hm hsame ?_
          rw [hworker]
          exact ⟨rfl, Or.inr ⟨_, hway⟩⟩
        refine ⟨hadded.ordered ho, (hown.next rfl _).added hadded hnext, fun i _ => ?_⟩
        exact (hall i).added hadded (hfree i)
      | suspended hw =>
        subst hdb
        exact hwritten _ rfl rfl hw
      | recorded hw =>
        subst hdb
        exact hwritten _ rfl rfl hw
    · cases op with
      | openExecution t id key =>
        exact ⟨ho, (hown.opened ho hclear).of_idents rfl, fun i _ => (hall i).of_idents rfl⟩
      | _ => exact absurd rfl hop

theorem Effect.keeps {next : Except MonitorError op.Result → Method Unit} {m : ContinuousMonitor}
    (h : Effect w.db op db') (ho : Ordered w.db) (hown : Current w (.call op next))
    (hm : m ∈ w.db.monitors) (hsuper : Superseded w.db m) :
    (∀ v ∈ w.db.idents, v ∈ db'.idents) ∧
      ∀ run ∈ db'.runs, run.monitorId = m.monitorId → run ∈ w.db.runs := by
  have hwritten : ∀ id, op.executed = some id → op.opensExecution = false → Written id w.db db' →
      (∀ v ∈ w.db.idents, v ∈ db'.idents) ∧
      ∀ run ∈ db'.runs, run.monitorId = m.monitorId → run ∈ w.db.runs := by
    intro id hid hop hw
    refine ⟨fun v hv => (hw.idents ho).symm ▸ hv, fun run hrun hmonitor => ?_⟩
    obtain ⟨new, hnew, heq⟩ := hw.runs
    rw [heq] at hrun
    rcases List.mem_append.mp hrun with hrun | hrun
    · exact hrun
    · rw [List.mem_singleton.mp hrun] at hmonitor
      exact absurd hsuper (hown.latest hop hid m hm (hmonitor.symm.trans hnew))
  cases h with
  | none monitors runs =>
    refine ⟨fun v hv => ?_, fun run hrun _ => runs ▸ hrun⟩
    rw [Database.idents, monitors]
    exact hv
  | added row htenant hkey hadded =>
    exact ⟨hadded.mem_idents, fun run hrun _ => hadded.runs ▸ hrun⟩
  | suspended hw => exact hwritten _ rfl rfl hw
  | recorded hw => exact hwritten _ rfl rfl hw

theorem keepsSuperseded (hok : Undisturbed crew turn)
    (h : Crew.Asserted (fun w : World => Ordered w.db) Current crew) :
    KeepsSuperseded env crew turn := by
  have hnext : Ordered (crew.step (exec env) (Task.program env) turn).state.db :=
    (step_current hok h).1
  intro m hm hsuper
  -- versions stay, and a run is recorded under the version that is under way
  obtain ⟨hidents, hruns⟩ :
      (∀ v ∈ crew.state.db.idents,
        v ∈ (crew.step (exec env) (Task.program env) turn).state.db.idents) ∧
      ∀ run ∈ (crew.step (exec env) (Task.program env) turn).state.db.runs,
        run.monitorId = m.monitorId → run ∈ crew.state.db.runs := by
    rcases Crew.step_state (exec env) (Task.program env) crew turn with
      heq | ⟨worker, op, next, rfl, hworker, heq⟩
    · rw [heq]
      exact ⟨fun v hv => hv, fun run hrun _ => hrun⟩
    · have hown : Current crew.state (.call op next) := hworker ▸ h.2 worker
      rw [heq]
      exact (exec_effect env op crew.state).keeps h.1 hown hm hsuper
  refine ⟨fun m' hm' hid => ?_, hruns⟩
  obtain ⟨x, hx, hident⟩ := mem_of_ident hm hidents
  have hsame : m' = x :=
    hnext.eq_of_ident hm' hx (hid.trans (congrArg VersionId.monitorId hident).symm)
  rw [hsame]
  exact hnext.inactive x hx (hsuper.mono hidents hident)

/-- The service begins without monitors, its workers without work. -/
structure Fresh (crew : Crew Op.Result MonitorError World) : Prop where
  monitors : crew.state.db.monitors = []
  workers : ∀ i, crew.workers i = pure ()

theorem Fresh.asserted (h : Fresh crew) :
    Crew.Asserted (fun w : World => Ordered w.db) Current crew := by
  refine ⟨⟨?_, ?_, ?_⟩, fun i => ?_⟩
  · rw [h.monitors]
    exact List.nodup_nil
  · simp [h.monitors]
  · simp [h.monitors]
  · rw [h.workers i]
    exact ⟨trivial, fun m _ hway => absurd hway not_false⟩

/-- **Supersession.**  However the transactions of activations and executions are
interleaved, at most one version of a key is active, and a version that has a successor is
neither made active nor executed, nor is an execution of it under way, as long as no
execution begins on a suspended version with a successor, and no version is added while
one of its key is under way. -/
theorem crew_supersession {crew : Crew Op.Result MonitorError World} {turns : List (Turn Task)}
    (hfresh : Fresh crew)
    (hok : Runs.EachStep (Crew.step (exec env) (Task.program env)) Undisturbed crew turns) :
    OneActive (turns.foldl (Crew.step (exec env) (Task.program env)) crew).state.db ∧
    (∀ m ∈ (turns.foldl (Crew.step (exec env) (Task.program env)) crew).state.db.monitors,
      Superseded (turns.foldl (Crew.step (exec env) (Task.program env)) crew).state.db m →
      m.status ≠ .active) ∧
    Runs.EachStep (Crew.step (exec env) (Task.program env)) (KeepsSuperseded env) crew turns := by
  have hstep := fun (crew : Crew Op.Result MonitorError World) (turn : Turn Task) hok h =>
    @step_current env crew turn hok h
  have hend := Runs.run_invariant hstep hfresh.asserted hok
  refine ⟨hend.1.oneActive, hend.1.inactive, ?_⟩
  exact Runs.EachStep.of_invariant hstep (fun crew turn hok h => keepsSuperseded hok h)
    hfresh.asserted hok

/-! ### Two versions of one monitor -/

theorem completeness_zero : (0 : ℚ) ≤ 0 ∧ (0 : ℚ) ≤ 1 := ⟨le_rfl, zero_le_one⟩

theorem completeness_one : (0 : ℚ) ≤ 1 ∧ (1 : ℚ) ≤ 1 := ⟨zero_le_one, le_rfl⟩

theorem sampleMonitor_budget : 1 ≤ 1 := le_rfl

theorem sampleMonitor_independent : "owner" ≠ "reviewer" := by decide

def sampleMonitor : MonitorDefinitionInput where
  monitorKey := "approvals"
  title := "Approved changes"
  testId := "SCM-01"
  testVersion := "2.0.0"
  ownerRef := "owner"
  reviewerRef := "reviewer"
  sourceFreshnessSeconds := 60
  minimumCompleteness := 0
  deduplicationWindowSeconds := 60
  alertBudget := 1
  responseSlaSeconds := 60
  independencePreserved := true
  approvalRef := "apr_1"
  approvedBy := "lead"
  freshness_ge := le_rfl
  completeness_mem := completeness_zero
  window_ge := le_rfl
  budget_ge := sampleMonitor_budget
  sla_ge := le_rfl
  independent_review := sampleMonitor_independent
  preserved := rfl

/-- An execution under the key, of a source observed at the instant. -/
def sampleExecution (key : String) (observedAt : ℤ) : MonitorExecutionInput where
  sourceObservedAt := { instant := observedAt }
  sourceCompleteness := 1
  testRequest := { ControlTesting.sampleRequest with idempotencyKey := key }
  completeness_mem := completeness_one

def monitoringEnvironment : Environment where
  clock _ := 120000000
  hex tick i := toString tick ++ "." ++ toString i
  sha256 := id
  tests := ControlTesting.exceptionsEnvironment []

def sampleCrew : Crew Op.Result MonitorError World where
  state := { db := { tenants := ["tnt_a"] }, tests := ControlTesting.sampleWorld }

theorem sampleCrew_fresh : Fresh sampleCrew where
  monitors := rfl
  workers := fun _ => rfl

def activation (worker : ℕ) : List (Turn Task) :=
  .start worker (.activate "tnt_a" sampleMonitor) :: List.replicate 2 (.advance worker)

def executionStart (worker : ℕ) (monitorId key : String) (observedAt : ℤ) : List (Turn Task) :=
  .start worker (.execute "tnt_a" monitorId (sampleExecution key observedAt)) ::
    List.replicate 2 (.advance worker)

/-- The source of the first version is stale, its successor comes, and it runs again. -/
def revivedTurns : List (Turn Task) :=
  activation 0 ++ executionStart 0 "mon_1.0" "first" 0 ++ [.advance 0] ++ activation 0 ++
    executionStart 0 "mon_1.0" "second" 120000000 ++ [.advance 0, .advance 0]

/-- The successor comes while the first version is being executed. -/
def overtakenTurns : List (Turn Task) :=
  activation 0 ++ executionStart 1 "mon_1.0" "first" 120000000 ++ activation 0 ++
    [.advance 1, .advance 1]

def runCrew (turns : List (Turn Task)) : Crew Op.Result MonitorError World :=
  turns.foldl (Crew.step (exec monitoringEnvironment) (Task.program monitoringEnvironment)) sampleCrew

theorem not_oneActive (h : ∃ m ∈ db.monitors, ∃ m' ∈ db.monitors,
    (m.tenantId = m'.tenantId ∧ m.monitorKey = m'.monitorKey) ∧ m.status = .active ∧
      m'.status = .active ∧ m.version ≠ m'.version) : ¬ OneActive db := by
  obtain ⟨m, hm, m', hm', hsame, hactive, hactive', hne⟩ := h
  intro hone
  exact hne (congrArg ContinuousMonitor.version (hone m hm m' hm' hsame hactive hactive'))

/-- Either way two versions are active, and the first has a run that came after the second. -/
theorem superseded_version_revived :
    ¬ OneActive (runCrew (revivedTurns ++ [.advance 0])).state.db ∧
    ¬ OneActive (runCrew (overtakenTurns ++ [.advance 1])).state.db ∧
    ¬ Runs.EachStep
      (Crew.step (exec monitoringEnvironment) (Task.program monitoringEnvironment))
      (KeepsSuperseded monitoringEnvironment) sampleCrew (revivedTurns ++ [.advance 0]) := by
  refine ⟨not_oneActive (by decide +kernel), not_oneActive (by decide +kernel),
    Runs.not_eachStep_of_last fun h => ?_⟩
  obtain ⟨m, hm, hsuper, hid⟩ : ∃ m ∈ (runCrew revivedTurns).state.db.monitors,
      Superseded (runCrew revivedTurns).state.db m ∧ m.monitorId = "mon_1.0" := by decide +kernel
  obtain ⟨run, hrun, hmonitor, hnew⟩ :
      ∃ run ∈ (runCrew (revivedTurns ++ [.advance 0])).state.db.runs, run.monitorId = "mon_1.0" ∧
        run ∉ (runCrew revivedTurns).state.db.runs := by decide +kernel
  refine hnew ((h m hm hsuper).2 run ?_ (hmonitor.trans hid.symm))
  rw [show runCrew (revivedTurns ++ [.advance 0]) = Crew.step (exec monitoringEnvironment)
    (Task.program monitoringEnvironment) (runCrew revivedTurns) (.advance 0) from
      List.foldl_append ..] at hrun
  exact hrun

/-- The first version is suspended and recovers; then its successor is about to be added. -/
def recoveredTurns : List (Turn Task) :=
  activation 0 ++ executionStart 0 "mon_1.0" "first" 0 ++ [.advance 0] ++
    executionStart 0 "mon_1.0" "second" 120000000 ++ List.replicate 3 (.advance 0) ++
    [.start 0 (.activate "tnt_a" sampleMonitor), .advance 0]

def succeededTurns : List (Turn Task) :=
  executionStart 0 "mon_11.0" "third" 120000000 ++ List.replicate 3 (.advance 0)

def Op.addsTo : Op → Option (String × String)
  | .addVersion tenantId data _ => some (tenantId, data.monitorKey)
  | _ => none

/-- A version is the first of its key, and no suspended version has a successor. -/
def Unhindered (w : World) (op : Op) : Prop :=
  (∀ k ∈ op.addsTo, ∀ m ∈ w.db.monitors, (m.tenantId, m.monitorKey) ≠ k) ∧
    ∀ m ∈ w.db.monitors, Superseded w.db m → m.status ≠ .suspended

instance (w : World) (op : Op) : Decidable (Unhindered w op) :=
  inferInstanceAs (Decidable ((∀ k ∈ op.addsTo, _) ∧ _))

theorem undisturbed_of_unhindered (h : Crew.CallOk Unhindered crew turn) :
    Undisturbed crew turn := by
  cases turn with
  | start worker task => exact trivial
  | advance worker =>
    change (crew.workers worker).Next (Unhindered crew.state) at h
    show (crew.workers worker).Next (Clear crew)
    generalize crew.workers worker = p at h ⊢
    cases p with
    | done result => exact trivial
    | call op next =>
      cases op with
      | openExecution t id key =>
        intro _ m hm hsuspended hsuper
        exact h.2 m (tenantMonitor_eq_some hm).1 hsuper hsuspended
      | addVersion t data now =>
        intro m hm htenant hkey
        exact absurd (Prod.ext htenant hkey) (h.1 _ rfl m hm)
      | _ => exact trivial

theorem crew_supersession_sample :
    (∃ m ∈ (runCrew (recoveredTurns ++ .advance 0 :: succeededTurns)).state.db.monitors,
      Superseded (runCrew (recoveredTurns ++ .advance 0 :: succeededTurns)).state.db m) ∧
    OneActive (runCrew (recoveredTurns ++ .advance 0 :: succeededTurns)).state.db := by
  have hcalm : ∀ {crew : Crew Op.Result MonitorError World} {turns : List (Turn Task)},
      Runs.EachStep (Crew.step (exec monitoringEnvironment) (Task.program monitoringEnvironment))
        (Crew.CallOk Unhindered) crew turns →
      Runs.EachStep (Crew.step (exec monitoringEnvironment) (Task.program monitoringEnvironment))
        Undisturbed crew turns := fun h =>
    Runs.EachStep.of_invariant (I := fun _ => True) (fun _ _ _ _ => trivial)
      (fun _ _ h _ => undisturbed_of_unhindered h) trivial h
  have hok : Runs.EachStep
      (Crew.step (exec monitoringEnvironment) (Task.program monitoringEnvironment)) Undisturbed
      sampleCrew (recoveredTurns ++ .advance 0 :: succeededTurns) := by
    rw [Runs.eachStep_append]
    refine ⟨hcalm (by decide +kernel), ?_, hcalm (by decide +kernel)⟩
    -- the worker that adds the version has nothing under way, and the others are idle
    intro m _ _ _ i
    by_cases hi : i = 0
    · rw [hi]
      rintro ⟨-, hnow | ⟨r, hlater⟩⟩
      · cases hnow
      · cases r with
        | error e => exact hlater
        | ok row => exact hlater
    · rw [Crew.workers_foldl hi (by decide)]
      exact fun hway => hway
  exact ⟨by decide +kernel, (crew_supersession sampleCrew_fresh hok).1⟩

end Monitoring
