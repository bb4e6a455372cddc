/-
`monitoring.py`: continuous monitors over released control tests.

A monitor has versions; `activate` adds one, and `execute` runs the control test that a
version is pinned to, or suspends the version when its source is stale or incomplete.  An
execution is a program of several transactions: it reads the monitor, runs the test (itself
two transactions) and records what came out, and other calls may come in between.

Instants are in microseconds, and a completeness is a fraction.  A run row stands for its
view, which shows a part of it.
-/
import AssuranceOS.ControlTesting.Service
import AssuranceOS.Lib.Program

namespace Monitoring

open Checked JsonText
open ControlTesting (ControlTestError ControlTestRunRequest ControlTestRunResult
  TestExceptionResult)

inductive MonitorStatus where
  | draft
  | active
  | suspended
  | retired
  deriving DecidableEq, Repr

structure ContinuousMonitor where
  monitorId : String
  tenantId : String
  monitorKey : String
  version : ℕ
  title : String
  status : MonitorStatus
  testId : String
  testVersion : String
  ownerRef : String
  reviewerRef : String
  sourceFreshnessSeconds : ℕ
  minimumCompleteness : ℚ
  exceptionThreshold : ℕ
  deduplicationWindowSeconds : ℕ
  alertBudget : ℕ
  responseSlaSeconds : ℕ
  independencePreserved : Bool
  approvalRef : String
  approvedBy : String
  approvedAt : ℤ
  suspendedReason : Option String := none
  configuration : Object

namespace ContinuousMonitor

variable (m : ContinuousMonitor)

def retired : ContinuousMonitor := { m with status := .retired }

def suspendedFor (reasons : List String) : ContinuousMonitor :=
  { m with status := .suspended, suspendedReason := some (String.intercalate "," reasons) }

def reactivated : ContinuousMonitor := { m with status := .active, suspendedReason := none }

end ContinuousMonitor

inductive MonitorRunStatus where
  | succeeded
  | suspended
  | failed
  deriving DecidableEq, Repr

/-- `details_json` of a run. -/
inductive RunDetails where
  | result (resultManifestHash : String)
  | suspension (suspensionReasons : List String) (evaluatedAt : ℤ)
  deriving DecidableEq, Repr

structure MonitorRun where
  monitorRunId : String
  tenantId : String
  monitorId : String
  controlTestRunId : Option String := none
  idempotencyKey : String
  status : MonitorRunStatus
  sourceObservedAt : ℤ
  sourceCompleteness : ℚ
  conclusion : String
  exceptionCount : ℕ := 0
  alertCount : ℕ := 0
  details : RunDetails
  deriving DecidableEq

inductive AlertStatus where
  | reviewPending
  | acknowledged
  | resolved
  deriving DecidableEq, Repr

structure MonitorAlert where
  alertId : String
  tenantId : String
  monitorId : String
  monitorRunId : String
  deduplicationKey : String
  exceptionKey : String
  status : AlertStatus
  occurrenceCount : ℕ := 1
  firstSeenAt : ℤ
  lastSeenAt : ℤ
  severity : String
  reason : String

structure MonitorDefinitionInput where
  monitorKey : String
  title : String
  testId : String
  testVersion : String
  ownerRef : String
  reviewerRef : String
  sourceFreshnessSeconds : ℕ
  minimumCompleteness : ℚ
  exceptionThreshold : ℕ := 0
  deduplicationWindowSeconds : ℕ
  alertBudget : ℕ
  responseSlaSeconds : ℕ
  independencePreserved : Bool
  approvalRef : String
  approvedBy : String
  configuration : Object := []
  freshness_ge : 60 ≤ sourceFreshnessSeconds
  completeness_mem : 0 ≤ minimumCompleteness ∧ minimumCompleteness ≤ 1
  window_ge : 60 ≤ deduplicationWindowSeconds
  budget_ge : 1 ≤ alertBudget
  sla_ge : 60 ≤ responseSlaSeconds
  independent_review : ownerRef ≠ reviewerRef
  preserved : independencePreserved = true

/-- A `datetime`, which may lack its time zone. -/
structure SourceTime where
  instant : ℤ
  zoned : Bool := true
  deriving DecidableEq, Repr

structure MonitorExecutionInput where
  sourceObservedAt : SourceTime
  sourceCompleteness : ℚ
  testRequest : ControlTestRunRequest
  completeness_mem : 0 ≤ sourceCompleteness ∧ sourceCompleteness ≤ 1

inductive MonitorError where
  | tenantNotFound (tenantId : String)
  | timezoneMissing
  | activeMonitorNotFound
  | unpinnedVersion
  /-- an error of the control tests -/
  | test (e : ControlTestError)
  /-- an attribute of `None` -/
  | attributeError
  /-- a constraint of the database -/
  | integrity

structure Database where
  tenants : List String := []
  monitors : List ContinuousMonitor := []
  runs : List MonitorRun := []
  alerts : List MonitorAlert := []

/-- The database and that of the tests, with the operations counted. -/
structure World where
  db : Database
  tests : ControlTesting.World
  ticks : ℕ := 0

/-- What the service takes from outside. -/
structure Environment where
  clock : ℕ → ℤ
  /-- `uuid4().hex`, the `i`-th of a call -/
  hex : ℕ → ℕ → String
  sha256 : String → String
  tests : ControlTesting.Environment

namespace Database

variable (db : Database)

/-- `session.get(ContinuousMonitor, monitor_id)`. -/
def getMonitor (monitorId : String) : Option ContinuousMonitor :=
  Table.get? ContinuousMonitor.monitorId monitorId db.monitors

def tenantMonitor (tenantId monitorId : String) : Option ContinuousMonitor :=
  db.monitors.find? fun m => m.tenantId = tenantId ∧ m.monitorId = monitorId

def runOfKey (tenantId key : String) : Option MonitorRun :=
  db.runs.find? fun r => r.tenantId = tenantId ∧ r.idempotencyKey = key

def versionsOf (tenantId monitorKey : String) : List ContinuousMonitor :=
  db.monitors.filter fun m => m.tenantId = tenantId ∧ m.monitorKey = monitorKey

def retireActive (tenantId monitorKey : String) : Database :=
  { db with
    monitors := db.monitors.map fun m =>
      if m.tenantId = tenantId ∧ m.monitorKey = monitorKey ∧ m.status = .active then m.retired
      else m }

def addMonitor (row : ContinuousMonitor) : Except MonitorError Database := do
  require (∀ m ∈ db.monitors, m.monitorId ≠ row.monitorId ∧
    ¬ (m.tenantId = row.tenantId ∧ m.monitorKey = row.monitorKey ∧ m.version = row.version))
    .integrity
  return { db with monitors := db.monitors ++ [row] }

def putMonitor (row : ContinuousMonitor) : Database :=
  { db with monitors := Table.put ContinuousMonitor.monitorId row db.monitors }

/-- With the primary key and the unique idempotency key of a tenant. -/
def addRun (row : MonitorRun) : Except MonitorError Database := do
  require (∀ r ∈ db.runs, r.monitorRunId ≠ row.monitorRunId ∧
    ¬ (r.tenantId = row.tenantId ∧ r.idempotencyKey = row.idempotencyKey)) .integrity
  return { db with runs := db.runs ++ [row] }

/-- With the primary key and the unique deduplication key of a monitor. -/
def addAlert (row : MonitorAlert) : Except MonitorError Database := do
  require (∀ a ∈ db.alerts, a.alertId ≠ row.alertId ∧
    ¬ (a.tenantId = row.tenantId ∧ a.monitorId = row.monitorId ∧
      a.deduplicationKey = row.deduplicationKey)) .integrity
  return { db with alerts := db.alerts ++ [row] }

end Database

section Transactions

variable (env : Environment) (tick : ℕ)

/-- The new version of `activate`. -/
def newMonitor (tenantId : String) (data : MonitorDefinitionInput) (now : ℤ)
    (existing : List ContinuousMonitor) : ContinuousMonitor where
  monitorId := "mon_" ++ env.hex tick 0
  tenantId := tenantId
  monitorKey := data.monitorKey
  version := (existing.map ContinuousMonitor.version).foldl max 0 + 1
  title := data.title
  status := .active
  testId := data.testId
  testVersion := data.testVersion
  ownerRef := data.ownerRef
  reviewerRef := data.reviewerRef
  sourceFreshnessSeconds := data.sourceFreshnessSeconds
  minimumCompleteness := data.minimumCompleteness
  exceptionThreshold := data.exceptionThreshold
  deduplicationWindowSeconds := data.deduplicationWindowSeconds
  alertBudget := data.alertBudget
  responseSlaSeconds := data.responseSlaSeconds
  independencePreserved := data.independencePreserved
  approvalRef := data.approvalRef
  approvedBy := data.approvedBy
  approvedAt := now
  configuration := data.configuration

/-- The transaction of `activate`. -/
def addVersion (tenantId : String) (data : MonitorDefinitionInput) (now : ℤ) (db : Database) :
    Except MonitorError (ContinuousMonitor × Database) := do
  require (tenantId ∈ db.tenants) (.tenantNotFound tenantId)
  let row := newMonitor env tick tenantId data now (db.versionsOf tenantId data.monitorKey)
  let db ← (db.retireActive tenantId data.monitorKey).addMonitor row
  return (row, db)

/-- What an execution goes on with: the pinned test and the limits of the source. -/
structure Pin where
  testId : String
  testVersion : String
  maxAge : ℕ
  minimum : ℚ

def ContinuousMonitor.pin (monitor : ContinuousMonitor) : Pin where
  testId := monitor.testId
  testVersion := monitor.testVersion
  maxAge := monitor.sourceFreshnessSeconds
  minimum := monitor.minimumCompleteness

inductive Opening where
  | existing (run : MonitorRun)
  | proceed (pin : Pin)

/-- The read session of `execute`. -/
def openExecution (tenantId monitorId key : String) (db : Database) :
    Except MonitorError Opening := do
  let monitor ← ofOption .activeMonitorNotFound (db.tenantMonitor tenantId monitorId)
  require (monitor.status = .active ∨ monitor.status = .suspended) .activeMonitorNotFound
  match db.runOfKey tenantId key with
  | some run => return .existing run
  | none => return .proceed monitor.pin

def suspendedRun (tenantId monitorId : String) (data : MonitorExecutionInput)
    (reasons : List String) (now : ℤ) : MonitorRun where
  monitorRunId := "mrun_" ++ env.hex tick 0
  tenantId := tenantId
  monitorId := monitorId
  idempotencyKey := data.testRequest.idempotencyKey
  status := .suspended
  sourceObservedAt := data.sourceObservedAt.instant
  sourceCompleteness := data.sourceCompleteness
  conclusion := "source_unreliable"
  details := .suspension reasons now

/-- The transaction of `_suspend`. -/
def suspendMonitor (tenantId monitorId : String) (data : MonitorExecutionInput)
    (reasons : List String) (now : ℤ) (db : Database) :
    Except MonitorError (MonitorRun × Database) := do
  let monitor ← ofOption .attributeError (db.getMonitor monitorId)
  let run := suspendedRun env tick tenantId monitorId data reasons now
  let db ← (db.putMonitor (monitor.suspendedFor reasons)).addRun run
  return (run, db)

/-- The alerts under work: those of the table, those to be added, and how many were raised. -/
structure AlertBook where
  stored : List MonitorAlert
  added : List MonitorAlert := []
  count : ℕ := 0

/-- `hashlib.sha256(f"{monitor_id}:{exception_key}:{window}")`. -/
def deduplicationKey (monitor : ContinuousMonitor) (now : ℤ) (exceptionKey : String) : String :=
  let window := Int.tdiv now 1000000 / (monitor.deduplicationWindowSeconds : ℤ)
  env.sha256 (monitor.monitorId ++ ":" ++ exceptionKey ++ ":" ++ toString window)

/-- One exception of the result.  The session does not flush by itself: an alert that this
run adds is not found again. -/
def raiseAlert (monitor : ContinuousMonitor) (run : MonitorRun) (now : ℤ) (book : AlertBook)
    (exception : TestExceptionResult) : AlertBook :=
  let key := deduplicationKey env monitor now exception.exceptionKey
  match book.stored.find? fun a => a.tenantId = run.tenantId ∧ a.monitorId = run.monitorId ∧
      a.deduplicationKey = key with
  | none =>
    { book with
      added := book.added ++
        [{ alertId := "mal_" ++ env.hex tick (book.added.length + 1)
           tenantId := run.tenantId
           monitorId := run.monitorId
           monitorRunId := run.monitorRunId
           deduplicationKey := key
           exceptionKey := exception.exceptionKey
           status := .reviewPending
           firstSeenAt := now
           lastSeenAt := now
           severity := exception.severity
           reason := exception.reason }]
      count := book.count + 1 }
  | some alert =>
    { book with
      stored := Table.put MonitorAlert.alertId
        { alert with
          occurrenceCount := alert.occurrenceCount + 1
          lastSeenAt := now
          monitorRunId := run.monitorRunId } book.stored
      count := book.count + 1 }

def raiseAlerts (monitor : ContinuousMonitor) (run : MonitorRun) (result : ControlTestRunResult)
    (now : ℤ) (alerts : List MonitorAlert) : AlertBook :=
  if result.exceptionCount > monitor.exceptionThreshold then
    (result.exceptions.take monitor.alertBudget).foldl (raiseAlert env tick monitor run now)
      { stored := alerts }
  else { stored := alerts }

def executedRun (tenantId monitorId : String) (data : MonitorExecutionInput)
    (result : ControlTestRunResult) : MonitorRun where
  monitorRunId := "mrun_" ++ env.hex tick 0
  tenantId := tenantId
  monitorId := monitorId
  controlTestRunId := some result.runId
  idempotencyKey := data.testRequest.idempotencyKey
  status := .succeeded
  sourceObservedAt := data.sourceObservedAt.instant
  sourceCompleteness := data.sourceCompleteness
  conclusion := result.conclusion.value
  exceptionCount := result.exceptionCount
  details := .result result.resultManifestHash

/-- The last transaction of `execute`. -/
def recordExecution (tenantId monitorId : String) (data : MonitorExecutionInput)
    (result : ControlTestRunResult) (now : ℤ) (db : Database) :
    Except MonitorError (MonitorRun × Database) := do
  let monitor ← ofOption .attributeError (db.getMonitor monitorId)
  let db := db.putMonitor monitor.reactivated
  let run := executedRun env tick tenantId monitorId data result
  let book := raiseAlerts env tick monitor run result now db.alerts
  let run := { run with alertCount := book.count }
  let db ← db.addRun run
  let db ← book.added.foldlM Database.addAlert { db with alerts := book.stored }
  return (run, db)

end Transactions

/-- The operations of the service. -/
inductive Op where
  | clock
  | addVersion (tenantId : String) (data : MonitorDefinitionInput) (now : ℤ)
  | openExecution (tenantId monitorId key : String)
  /-- `control_tests.run` up to its first transaction, and from there on -/
  | openTest (tenantId : String) (request : ControlTestRunRequest)
  | finishTest (tenantId runId : String) (request : ControlTestRunRequest)
      (admission : ControlTesting.Admission)
  | suspendMonitor (tenantId monitorId : String) (data : MonitorExecutionInput)
      (reasons : List String) (now : ℤ)
  | recordExecution (tenantId monitorId : String) (data : MonitorExecutionInput)
      (result : ControlTestRunResult) (now : ℤ)

/-- What an operation returns. -/
@[reducible] def Op.Result : Op → Type
  | .clock => ℤ
  | .addVersion .. => ContinuousMonitor
  | .openExecution .. => Opening
  | .openTest .. => ControlTesting.Opening × ControlTesting.Admission
  | .finishTest .. => ControlTestRunResult
  | .suspendMonitor .. => MonitorRun
  | .recordExecution .. => MonitorRun

/-- `control_tests.run` up to its first transaction. -/
def openTest (env : ControlTesting.Environment) (tenantId : String)
    (request : ControlTestRunRequest) :
    Attempt ControlTesting.World ControlTestError
      (ControlTesting.Opening × ControlTesting.Admission) := do
  let w ← Attempt.get
  let admission ← .lift (ControlTesting.admitRun env w.db tenantId request)
  let now ← ControlTesting.tick
  let opening ← ControlTesting.transaction (ControlTesting.openRun tenantId request
    admission.prepared admission.inputHash (env.newId now))
  return (opening, admission)

section Exec

variable {α : Type} (w : World)

/-- A transaction: commit its writes, or roll them back when it raises. -/
def World.commit : Except MonitorError (α × Database) → Except MonitorError α × World
  | .ok (a, db) => (.ok a, { w with db := db, ticks := w.ticks + 1 })
  | .error e => (.error e, { w with ticks := w.ticks + 1 })

def World.onTests (x : Attempt ControlTesting.World ControlTestError α) :
    Except MonitorError α × World :=
  ((x.run w.tests).1.mapError .test, { w with tests := (x.run w.tests).2, ticks := w.ticks + 1 })

/-- Every operation is atomic. -/
def exec (env : Environment) : (op : Op) → World → Except MonitorError op.Result × World
  | .clock, w => (.ok (env.clock w.ticks), { w with ticks := w.ticks + 1 })
  | .addVersion tenantId data now, w => w.commit (addVersion env w.ticks tenantId data now w.db)
  | .openExecution tenantId monitorId key, w =>
    (openExecution tenantId monitorId key w.db, { w with ticks := w.ticks + 1 })
  | .openTest tenantId request, w => w.onTests (openTest env.tests tenantId request)
  | .finishTest tenantId runId request admission, w =>
    w.onTests (ControlTesting.finishRun env.tests tenantId runId request admission)
  | .suspendMonitor tenantId monitorId data reasons now, w =>
    w.commit (suspendMonitor env w.ticks tenantId monitorId data reasons now w.db)
  | .recordExecution tenantId monitorId data result now, w =>
    w.commit (recordExecution env w.ticks tenantId monitorId data result now w.db)

end Exec

/-! ### The methods of the service -/

abbrev Method := Program Op.Result MonitorError

open Program (perform raise)

/-- `self.tests.run`. -/
def runTest (tenantId : String) (request : ControlTestRunRequest) : Method ControlTestRunResult := do
  match ← perform (Op.openTest tenantId request) with
  | (.existing result, _) => return result
  | (.created runId, admission) => perform (Op.finishTest tenantId runId request admission)

/-- `activate`. -/
def activate (env : Environment) (tenantId : String) (data : MonitorDefinitionInput) :
    Method ContinuousMonitor :=
  match env.tests.release? data.testId data.testVersion with
  | none => raise (.test (.releaseNotFound data.testId data.testVersion))
  | some _ => do
    let now ← perform Op.clock
    perform (Op.addVersion tenantId data now)

def stale (pin : Pin) (data : MonitorExecutionInput) (now : ℤ) : Prop :=
  now - data.sourceObservedAt.instant > (pin.maxAge : ℤ) * 1000000

def incomplete (pin : Pin) (data : MonitorExecutionInput) : Prop :=
  data.sourceCompleteness < pin.minimum

instance (pin : Pin) (data : MonitorExecutionInput) (now : ℤ) : Decidable (stale pin data now) :=
  inferInstanceAs (Decidable (_ > _))

instance (pin : Pin) (data : MonitorExecutionInput) : Decidable (incomplete pin data) :=
  inferInstanceAs (Decidable (_ < _))

/-- `reasons`. -/
def suspensionReasons (pin : Pin) (data : MonitorExecutionInput) (now : ℤ) : List String :=
  (if stale pin data now then ["source_freshness_below_threshold"] else []) ++
    (if incomplete pin data then ["source_completeness_below_threshold"] else [])

/-- `execute`, after its read session. -/
def executePinned (tenantId monitorId : String) (data : MonitorExecutionInput) (now : ℤ)
    (pin : Pin) : Method MonitorRun :=
  if stale pin data now ∨ incomplete pin data then
    perform (Op.suspendMonitor tenantId monitorId data (suspensionReasons pin data now) now)
  else if (data.testRequest.testId, data.testRequest.version) ≠ (pin.testId, pin.testVersion) then
    raise .unpinnedVersion
  else do
    let result ← runTest tenantId data.testRequest
    perform (Op.recordExecution tenantId monitorId data result now)

/-- `execute`, from its read session on. -/
def executeZoned (tenantId monitorId : String) (data : MonitorExecutionInput) (now : ℤ) :
    Method MonitorRun := do
  match ← perform (Op.openExecution tenantId monitorId data.testRequest.idempotencyKey) with
  | .existing run => return run
  | .proceed pin => executePinned tenantId monitorId data now pin

/-- `execute`. -/
def execute (tenantId monitorId : String) (data : MonitorExecutionInput) : Method MonitorRun := do
  let now ← perform Op.clock
  if data.sourceObservedAt.zoned = false then raise .timezoneMissing
  else executeZoned tenantId monitorId data now

/-- A call of the service. -/
inductive Task where
  | activate (tenantId : String) (data : MonitorDefinitionInput)
  | execute (tenantId monitorId : String) (data : MonitorExecutionInput)

/-- The operations of a task. -/
def Task.program (env : Environment) : Task → Method Unit
  | .activate tenantId data => do
    let _ ← Monitoring.activate env tenantId data
  | .execute tenantId monitorId data => do
    let _ ← Monitoring.execute tenantId monitorId data

end Monitoring
