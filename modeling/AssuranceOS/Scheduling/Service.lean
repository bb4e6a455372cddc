/-
The audit scheduler (`scheduling/service.py`).

An operation of a call is one transaction, one read session or one reading of the clock
(`Op`); `Op.exec` says what it answers and what it leaves in the database, where a
transaction that fails leaves nothing.  The methods of the service are programs over these
operations, so that they can be run in one piece or be interleaved.

The clock, the hash function, the ids that are drawn and the recurrence library are the
parameters of the `Environment`; time passes with every operation.
-/
import AssuranceOS.Lib.Program
import AssuranceOS.Orchestration.Service
import AssuranceOS.Scheduling.Store

namespace Scheduling

open Orchestration (Timestamp EngagementStatus WorkflowDefinition)
open Checked

/-- What the service is given beside its database. -/
structure Environment where
  clock : ℕ → Timestamp
  engine : RecurrenceEngine
  sha256Hex : String → String
  newId : ℕ → String
  taskIds : ℕ → String → String
  createdAt : ℕ → String → Timestamp

/-- The database, and the number of operations so far. -/
structure World where
  db : Database
  ticks : ℕ := 0

namespace Environment

variable (env : Environment)

/-- `_occurrence_id`. -/
def occurrenceId (scheduleId : String) (nominalDue : Timestamp) : String :=
  "occ_" ++ PyString.firstChars 20
    (env.sha256Hex (scheduleId ++ "|" ++ isoformat nominalDue))

/-- `_engagement_id`. -/
def engagementId (occurrenceId : String) : String :=
  "eng_" ++ PyString.firstChars 20 (env.sha256Hex occurrenceId)

def isAsciiAlphanumeric (c : Char) : Bool :=
  ('A' ≤ c && c ≤ 'Z') || ('a' ≤ c && c ≤ 'z') || ('0' ≤ c && c ≤ '9')

/-- `re.sub(r"[^A-Za-z0-9]+", "-", name)`; `inRun` says that the character before was replaced. -/
def dashed (inRun : Bool) : List Char → List Char
  | [] => []
  | c :: cs =>
    if isAsciiAlphanumeric c then c :: dashed false cs
    else if inRun then dashed true cs
    else '-' :: dashed true cs

/-- `_engagement_code`. -/
def engagementCode (schedule : AuditSchedule) (occurrence : ScheduleOccurrence) : String :=
  let trimmed := ((dashed false schedule.name.toList).dropWhile (· == '-')).rdropWhile (· == '-')
  let name := (trimmed.map Char.toUpper).take 40
  let name := if name.isEmpty then "AUDIT".toList else name
  let minutes := occurrence.nominalDue / 60000000 % 1440
  let due := Civil.dateText [] (occurrence.nominalDue / dayLength + epochDay) ++ 'T' ::
    Civil.padded 2 (minutes / 60).toNat ++ Civil.padded 2 (minutes % 60).toNat
  let id := occurrence.occurrenceId.toList
  String.ofList (name ++ '-' :: due ++ '-' :: (id.drop (id.length - 6)).map Char.toUpper)

end Environment

def liftRecurrence {α : Type} : Except RecurrenceError α → Except SchedulingError α
  | .ok a => .ok a
  | .error e => .error (.recurrence e)

def liftOrchestration {α : Type} :
    Except Orchestration.OrchestrationError α → Except SchedulingError α
  | .ok a => .ok a
  | .error e => .error (.orchestration e)

structure MaterializationResult where
  created : ℕ := 0
  candidateIds : List String := []
  occurrenceIds : List String := []
  skipped : ℕ := 0
  deferred : ℕ := 0

/-- `_select_missed_occurrences`: the values to launch and the values to skip. -/
def selectMissedOccurrences (schedule : AuditSchedule) (dueValues : List Timestamp) :
    List Timestamp × List Timestamp :=
  match schedule.missedOccurrencePolicy with
  | .skip => ([], dueValues)
  | .launchLatest => (dueValues.drop (dueValues.length - 1), dueValues.take (dueValues.length - 1))
  | .launchAll =>
    let older := dueValues.length - schedule.catchUpLimit
    (dueValues.drop older, dueValues.take older)

def initialStatus (forcedSkip : Bool) (blackout : BlackoutResolution) :
    OccurrenceStatus × Option DecisionReason :=
  if forcedSkip then
    (.skipped, some (.text "missed occurrence skipped by catch-up policy"))
  else match blackout.action with
    | .skip => (.skipped, blackout.reason.map .text)
    | .delay => (.deferred, blackout.reason.map .text)
    | .none => (.due, none)

section Transactions

variable (env : Environment) (db : Database)

/-- `_create_occurrence`; the flag says whether the occurrence is new. -/
def createOccurrence (schedule : AuditSchedule) (nominalDue : Timestamp) (forcedSkip : Bool) :
    Except SchedulingError (ScheduleOccurrence × Bool × Database) :=
  match db.getOccurrenceByDue schedule.tenantId schedule.scheduleId nominalDue with
  | some existing => .ok (existing, false, db)
  | none => do
    let template ← ofOption .missingTemplate (db.getTemplate schedule.tenantId schedule.templateId)
    let zone ← liftRecurrence (env.engine.timezone schedule.timezone)
    let dueLocal := zone.toLocal nominalDue
    let blackout ← resolveBlackout schedule.businessCalendar dueLocal schedule.blackoutPolicy
    let (periodStart, periodEnd) ←
      AuditPeriodCalculator.calculate dueLocal schedule.auditPeriodRule
    let (status, reason) := initialStatus forcedSkip blackout
    let occurrence : ScheduleOccurrence :=
      { occurrenceId := env.occurrenceId schedule.scheduleId nominalDue
        tenantId := schedule.tenantId
        scheduleId := schedule.scheduleId
        nominalDue := nominalDue
        eligibleAt := zone.toUtc blackout.eligibleAt
        period := { periodStart := periodStart, periodEnd := periodEnd }
        status := status
        decisionReason := reason
        scheduleVersion := schedule.version
        templateVersion := template.version }
    let db ← db.addOccurrence occurrence
    return (occurrence, true, db)

def MaterializationResult.count (result : MaterializationResult) (occurrence : ScheduleOccurrence)
    (wasCreated : Bool) : MaterializationResult :=
  let one := if wasCreated then 1 else 0
  let result := { result with
    created := result.created + one
    occurrenceIds := result.occurrenceIds ++ [occurrence.occurrenceId] }
  match occurrence.status with
  | .skipped => { result with skipped := result.skipped + one }
  | .deferred => { result with deferred := result.deferred + one }
  | _ => { result with candidateIds := result.candidateIds ++ [occurrence.occurrenceId] }

/-- The loop over the due values; `skipped` holds those that the policy skips. -/
def createOccurrences (schedule : AuditSchedule) (skipped : List Timestamp) :
    List Timestamp → MaterializationResult → Database →
      Except SchedulingError (MaterializationResult × Database)
  | [], result, db => .ok (result, db)
  | nominalDue :: rest, result, db => do
    let (occurrence, wasCreated, db) ←
      createOccurrence env db schedule nominalDue (skipped.contains nominalDue)
    createOccurrences schedule skipped rest (result.count occurrence wasCreated) db

/-- The window of an evaluation begins after the cursor, or with the first instant in effect. -/
def windowStart (schedule : AuditSchedule) (cursor : ScheduleCursor) : Timestamp :=
  cursor.lastEvaluatedAt.getD (schedule.effectiveFrom - 1)

/-- It ends with the reading of the clock, or with the last instant in effect. -/
def windowEnd (schedule : AuditSchedule) (now : Timestamp) : Timestamp :=
  match schedule.effectiveUntil with
  | some stop => min now stop
  | none => now

/-- The part of a materialisation that needs the lease of the cursor. -/
def evaluateCursor (schedule : AuditSchedule) (cursor : ScheduleCursor) (now : Timestamp) :
    Except SchedulingError (MaterializationResult × Database) := do
  let start := windowStart schedule cursor
  let stop := windowEnd schedule now
  let nextDue := liftRecurrence (env.engine.nextAfter schedule.recurrenceRule schedule.timezone
    schedule.effectiveFrom stop)
  if stop ≤ start then
    let nextDue ← nextDue
    return ({}, db.releaseCursor cursor now nextDue)
  else
    let dueValues ← liftRecurrence (env.engine.occurrencesBetween schedule.recurrenceRule
      schedule.timezone schedule.effectiveFrom start stop)
    let (selected, skipped) := selectMissedOccurrences schedule dueValues
    let (result, db) ← createOccurrences env schedule skipped (skipped ++ selected) {} db
    let nextDue ← nextDue
    return (result, db.releaseCursor cursor now nextDue)

/-- `_materialize_due_occurrences`. -/
def materializeDueOccurrences (tenantId scheduleId : String) (now : Timestamp) (workerId : String)
    (leaseSeconds : ℤ) : Except SchedulingError (MaterializationResult × Database) := do
  let schedule ← ofOption (.scheduleNotFound scheduleId) (db.getSchedule tenantId scheduleId)
  match db.acquireCursorLease schedule workerId now leaseSeconds with
  | (none, db) => return ({}, db)
  | (some cursor, db) => evaluateCursor env db schedule cursor now

/-- The schedules that `evaluate_due` goes through. -/
def listSchedules (tenantId : String) (scheduleId : Option String) :
    Except SchedulingError (List String) := do
  match scheduleId with
  | none => pure ()
  | some id =>
    let requested ← ofOption (.scheduleNotFound id) (db.getSchedule tenantId id)
    require (requested.status = .active) (.scheduleNotActive id)
  return (db.listActiveSchedules tenantId scheduleId).map (·.scheduleId)

/-- The read of `_process_occurrence`. -/
def readOccurrence (tenantId occurrenceId : String) : Option (ScheduleOccurrence × LaunchMode) := do
  let occurrence ← db.getOccurrence tenantId occurrenceId
  let schedule ← db.getSchedule tenantId occurrence.scheduleId
  return (occurrence, schedule.launchMode)

/-- `_mark_waiting_approval`; the answer says whether it wrote. -/
def markWaitingApproval (tenantId occurrenceId : String) : Bool × Database :=
  match db.getOccurrence tenantId occurrenceId with
  | none => (false, db)
  | some occurrence =>
    if occurrence.status = .waitingApproval then (false, db)
    else (true, db.putOccurrence { occurrence with
      status := .waitingApproval
      decisionReason := some (.text "start approval required before preflight") })

/-- What the transaction of `_run_preflight_and_launch` decides. -/
inductive PreflightOutcome where
  | blocked
  | waiting
  | passed
  deriving DecidableEq, Repr

def scheduleAndTemplate (tenantId scheduleId : String) :
    Option (AuditSchedule × EngagementTemplate) := do
  let schedule ← db.getSchedule tenantId scheduleId
  let template ← db.getTemplate tenantId schedule.templateId
  return (schedule, template)

/-- The transaction of `_run_preflight_and_launch`. -/
def runPreflight (tenantId occurrenceId : String) (context : PreflightContext) (now : Timestamp)
    (approvalGranted : Bool) : Except SchedulingError (PreflightOutcome × Database) := do
  let occurrence ← ofOption (.occurrenceNotFound occurrenceId)
    (db.getOccurrence tenantId occurrenceId)
  match scheduleAndTemplate db tenantId occurrence.scheduleId with
  | none =>
    return (.blocked, db.putOccurrence { occurrence with
      status := .preflightBlocked
      decisionReason := some (.text "schedule or template is unavailable") })
  | some (schedule, template) =>
    let report ← PreflightEvaluator.evaluate db schedule occurrence template context now
    let occurrence := { occurrence with
      preflightResult := some report
      evaluatedAt := some now }
    if !report.passed then
      let failed := (report.checks.filter fun check => !check.passed).map (·.code)
      return (.blocked, db.putOccurrence { occurrence with
        status := .preflightBlocked
        decisionReason := some (.text (String.intercalate "; " failed)) })
    else if schedule.launchMode = .preflightThenApproval ∧ approvalGranted = false then
      return (.waiting, db.putOccurrence { occurrence with
        status := .waitingApproval
        decisionReason := some (.text "preflight passed; start approval required") })
    else return (.passed, db.putOccurrence occurrence)

/-- `int(policy.get("launch_retry_seconds", 300))`. -/
def launchRetrySeconds (policy : PreflightPolicy) : Except SchedulingError ℤ :=
  match policy.launchRetrySeconds with
  | none => .ok 300
  | some (.ok n) => .ok n
  | some (.error e) => .error (.conversion e)

/-- The engagement that an occurrence has, or is going to have. -/
def engagementIdOf (occurrence : ScheduleOccurrence) : String :=
  if PyString.truthy occurrence.engagementId then occurrence.engagementId.getD ""
  else env.engagementId occurrence.occurrenceId

def ensureEngagement (schedule : AuditSchedule) (template : EngagementTemplate)
    (occurrence : ScheduleOccurrence) (now : Timestamp) : Except SchedulingError Database :=
  let engagementId := engagementIdOf env occurrence
  if db.engagements.any fun e =>
      e.tenantId = occurrence.tenantId ∧ e.engagementId = engagementId then .ok db
  else db.addEngagement
    { engagementId := engagementId
      tenantId := occurrence.tenantId
      templateId := some template.templateId
      code := Environment.engagementCode schedule occurrence
      auditPackRef := template.auditPackRef
      period := occurrence.period } now

inductive LaunchStart where
  | alreadyLaunched
  | started (workflow : WorkflowDefinition) (engagementId : String)

/-- The first transaction of `_launch`. -/
def beginLaunch (tenantId occurrenceId : String) (now : Timestamp) :
    Except SchedulingError (LaunchStart × Database) := do
  let occurrence ← ofOption (.occurrenceNotFound occurrenceId)
    (db.getOccurrence tenantId occurrenceId)
  if occurrence.status = .launched then return (.alreadyLaunched, db)
  require (occurrence.status ≠ .cancelled ∧ occurrence.status ≠ .skipped)
    (.cannotLaunch occurrenceId occurrence.status)
  let (schedule, template) ← ofOption .unavailable
    (scheduleAndTemplate db tenantId occurrence.scheduleId)
  let workflow ← template.workflowDefinition.validate
  let retrySeconds ← launchRetrySeconds schedule.preflightPolicy
  let db ← ensureEngagement env db schedule template occurrence now
  return (.started workflow (engagementIdOf env occurrence), db.putOccurrence { occurrence with
    engagementId := some (engagementIdOf env occurrence)
    status := .launching
    launchAttempts := occurrence.launchAttempts + 1
    lastError := none
    eligibleAt := now + seconds (max retrySeconds 1) })

def readEngagement (tenantId engagementId : String) : Option EngagementStatus × Bool :=
  ((db.orchestration.getEngagement tenantId engagementId).map (·.status),
    !(db.orchestration.listTasks tenantId engagementId).isEmpty)

/-- The last transaction of `_launch`. -/
def completeLaunch (tenantId occurrenceId : String) (now : Timestamp) :
    Except SchedulingError Database := do
  let occurrence ← ofOption (.occurrenceNotFound occurrenceId)
    (db.getOccurrence tenantId occurrenceId)
  if occurrence.status = .launched then return db
  return db.putOccurrence { occurrence with
    status := .launched
    launchedAt := some now
    eligibleAt := now
    decisionReason := none
    lastError := none }

/-- The handler of `_attempt_launch`. -/
def failLaunch (tenantId occurrenceId : String) (error : SchedulingError) (now : Timestamp) :
    Except SchedulingError Database :=
  match db.getOccurrence tenantId occurrenceId with
  | none => .ok db
  | some occurrence => do
    let policy := ((db.getSchedule tenantId occurrence.scheduleId).map (·.preflightPolicy)).getD {}
    let retrySeconds ← launchRetrySeconds policy
    return db.putOccurrence { occurrence with
      status := .launchFailed
      lastError := some error
      decisionReason := some (.error error)
      eligibleAt := now + seconds (max retrySeconds 1) }

/-- The transaction of `approve_occurrence`; the answer is the occurrence that is launched
already. -/
def recordApproval (tenantId occurrenceId : String) (decision : OccurrenceDecision) :
    Except SchedulingError (Option ScheduleOccurrence × Database) := do
  let occurrence ← ofOption (.occurrenceNotFound occurrenceId)
    (db.getOccurrence tenantId occurrenceId)
  if occurrence.status = .launched then return (some occurrence, db)
  require (occurrence.status ≠ .cancelled ∧ occurrence.status ≠ .skipped)
    (.cannotApprove occurrenceId occurrence.status)
  require (occurrence.status = .waitingApproval)
    (.notWaitingApproval occurrenceId occurrence.status)
  return (none, db.putOccurrence { occurrence with
    decisionBy := some decision.actorId
    decisionReason := some (.text decision.reason) })

/-- `cancel_occurrence`. -/
def cancelOccurrence (tenantId occurrenceId : String) (decision : OccurrenceDecision) :
    Except SchedulingError (ScheduleOccurrence × Database) := do
  let occurrence ← ofOption (.occurrenceNotFound occurrenceId)
    (db.getOccurrence tenantId occurrenceId)
  require (occurrence.status ≠ .launched ∧ occurrence.status ≠ .cancelled ∧
    occurrence.status ≠ .skipped) (.cannotCancel occurrenceId occurrence.status)
  let occurrence := { occurrence with
    status := .cancelled
    decisionBy := some decision.actorId
    decisionReason := some (.text decision.reason) }
  return (occurrence, db.putOccurrence occurrence)

end Transactions

end Scheduling
