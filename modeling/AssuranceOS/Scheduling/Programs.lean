/-
Authoring and approval of schedules (`scheduling/authoring.py`), and the calls as programs.

A revision of a schedule is a new row of the same name with the next version number; its approval
supersedes the active rows of that name.

`Op` lists the transactions, the read sessions and the readings of the clock that the methods of
`AuditScheduler` and `ScheduleAuthoringService` are made of; a transaction that raises leaves the
database as it was.  `perform` runs a `Call` in one piece, and a `Crew` interleaves any number of them.
-/
import AssuranceOS.Scheduling.Service

namespace Scheduling

open Orchestration (Timestamp EngagementStatus WorkflowDefinition)
open Checked

structure ScheduleDraftInput where
  name : String
  planId : String
  templateId : String
  recurrenceRule : String
  timezone : String := "UTC"
  effectiveFrom : Timestamp
  effectiveUntil : Option Timestamp := none
  auditPeriodRule : AuditPeriodRule
  businessCalendar : BusinessCalendarConfig := {}
  blackoutPolicy : BlackoutPolicy := []
  preflightPolicy : PreflightPolicy := {}
  launchMode : LaunchMode := .approvalRequired
  missedOccurrencePolicy : MissedOccurrencePolicy := .launchLatest
  catchUpLimit : ℕ := 12
  overlapPolicy : OverlapPolicy := .prevent
  maxConcurrentEngagements : ℕ := 1
  positive_catch_up_limit : 0 < catchUpLimit
  positive_concurrency_limit : 0 < maxConcurrentEngagements

/-- `_validate_definition`. -/
def validateDefinition (engine : RecurrenceEngine) (rule timezone : String)
    (effectiveFrom : Timestamp) (effectiveUntil : Option Timestamp) :
    Except SchedulingError Unit := do
  require (∀ stop ∈ effectiveUntil, effectiveFrom ≤ stop) .effectiveWindow
  let _ ← liftRecurrence (engine.nextAfter rule timezone effectiveFrom (effectiveFrom - seconds 1))

namespace Database

variable (db : Database)

def nextVersion (tenantId name : String) : ℕ :=
  ((db.schedules.filter fun s => s.tenantId = tenantId ∧ s.name = name).map
    (·.version)).foldr max 0 + 1

def putSchedule (schedule : AuditSchedule) : Database :=
  { db with schedules := Table.put AuditSchedule.scheduleId schedule db.schedules }

end Database

section Transactions

variable (db : Database)

/-- The transaction of `create_draft`. -/
def createDraft (scheduleId tenantId : String) (draft : ScheduleDraftInput) :
    Except SchedulingError (AuditSchedule × Database) := do
  let _ ← ofOption (.planNotFound draft.planId) (db.getPlan tenantId draft.planId)
  let _ ← ofOption (.templateNotFound draft.templateId) (db.getTemplate tenantId draft.templateId)
  if window : ∀ stop ∈ draft.effectiveUntil, draft.effectiveFrom ≤ stop then
    let row : AuditSchedule :=
      { scheduleId := scheduleId
        tenantId := tenantId
        planId := draft.planId
        templateId := draft.templateId
        name := draft.name
        version := db.nextVersion tenantId draft.name
        status := .draft
        recurrenceRule := draft.recurrenceRule
        timezone := draft.timezone
        effectiveFrom := draft.effectiveFrom
        effectiveUntil := draft.effectiveUntil
        auditPeriodRule := draft.auditPeriodRule
        businessCalendar := draft.businessCalendar
        blackoutPolicy := draft.blackoutPolicy
        preflightPolicy := draft.preflightPolicy
        launchMode := draft.launchMode
        missedOccurrencePolicy := draft.missedOccurrencePolicy
        catchUpLimit := draft.catchUpLimit
        overlapPolicy := draft.overlapPolicy
        maxConcurrentEngagements := draft.maxConcurrentEngagements
        effective_window := window
        positive_catch_up_limit := draft.positive_catch_up_limit
        positive_concurrency_limit := draft.positive_concurrency_limit }
    let rows ← ofOption .integrityError
      (Table.insert? AuditSchedule.scheduleId row db.schedules)
    return (row, { db with schedules := rows })
  else .error .integrityError

/-- The read of `revise`: a revision of an active schedule keeps its name. -/
def revisedDraft (tenantId scheduleId : String) (draft : ScheduleDraftInput) :
    Except SchedulingError ScheduleDraftInput := do
  let current ← ofOption (.scheduleNotFound scheduleId) (db.getSchedule tenantId scheduleId)
  return if current.status = .active then { draft with name := current.name } else draft

/-- What an approval does to the other active rows of the name. -/
def supersede (row : AuditSchedule) (now : Timestamp) (actorId : String) (s : AuditSchedule) :
    AuditSchedule :=
  if s.tenantId = row.tenantId ∧ s.name = row.name ∧ s.status = .active ∧
      s.scheduleId ≠ row.scheduleId then
    { s with
      status := .superseded
      disabledAt := some now
      disabledBy := some actorId
      disableReason := some ("superseded by schedule version " ++ toString row.version) }
  else s

/-- `approve`. -/
def approveSchedule (engine : RecurrenceEngine) (tenantId scheduleId : String)
    (decision : ScheduleDecision) (now : Timestamp) :
    Except SchedulingError (AuditSchedule × Database) := do
  let row ← ofOption (.scheduleNotFound scheduleId) (db.getSchedule tenantId scheduleId)
  if row.status = .active then return (row, db)
  require (row.status = .draft) (.scheduleState row.status)
  require ((db.getPlan tenantId row.planId).any (·.status = .approved)) .planNotApproved
  require ((db.getTemplate tenantId row.templateId).any fun t =>
    t.status = .approved || t.status = .released) .templateNotReleased
  validateDefinition engine row.recurrenceRule row.timezone row.effectiveFrom row.effectiveUntil
  let approved := { row with
    status := .active
    approvedAt := some now
    approvedBy := some decision.actorId
    approvalReason := some decision.reason
    disabledAt := none
    disabledBy := none
    disableReason := none }
  let db := { db with schedules := db.schedules.map (supersede row now decision.actorId) }
  let (cursor, db) := (db.putSchedule approved).getOrCreateCursor approved
  let nextDue ← liftRecurrence (engine.nextAfter row.recurrenceRule row.timezone
    row.effectiveFrom (max row.effectiveFrom now))
  return (approved, db.putCursor { cursor with nextDueAt := nextDue })

/-- `disable`. -/
def disableSchedule (tenantId scheduleId : String) (decision : ScheduleDecision)
    (now : Timestamp) : Except SchedulingError (AuditSchedule × Database) := do
  let row ← ofOption (.scheduleNotFound scheduleId) (db.getSchedule tenantId scheduleId)
  if row.status = .disabled then return (row, db)
  require (row.status = .draft ∨ row.status = .active) (.scheduleState row.status)
  let disabled := { row with
    status := .disabled
    disabledAt := some now
    disabledBy := some decision.actorId
    disableReason := some decision.reason }
  let db := db.putSchedule disabled
  match Table.get? ScheduleCursor.scheduleId scheduleId db.cursors with
  | none => return (disabled, db)
  | some cursor => return (disabled, db.putCursor { cursor with
      leaseOwner := none
      leaseExpiresAt := none
      nextDueAt := none })

end Transactions

/-- The operations of the service. -/
inductive Op where
  | clock
  | listSchedules (tenantId : String) (scheduleId : Option String)
  | materializeDueOccurrences (tenantId scheduleId : String) (now : Timestamp) (workerId : String)
      (leaseSeconds : ℤ)
  | listRetryableOccurrences (tenantId : String) (now : Timestamp) (scheduleId : Option String)
  | readOccurrence (tenantId occurrenceId : String)
  | markWaitingApproval (tenantId occurrenceId : String)
  | runPreflight (tenantId occurrenceId : String) (context : PreflightContext) (now : Timestamp)
      (approvalGranted : Bool)
  | beginLaunch (tenantId occurrenceId : String) (now : Timestamp)
  | readEngagement (tenantId engagementId : String)
  | compileWorkflow (tenantId engagementId : String) (workflow : WorkflowDefinition)
      (now : Timestamp)
  | startEngagement (tenantId engagementId : String) (now : Timestamp)
  | completeLaunch (tenantId occurrenceId : String) (now : Timestamp)
  | failLaunch (tenantId occurrenceId : String) (error : SchedulingError) (now : Timestamp)
  | recordApproval (tenantId occurrenceId : String) (decision : OccurrenceDecision)
  | cancelOccurrence (tenantId occurrenceId : String) (decision : OccurrenceDecision)
  | getOccurrence (tenantId occurrenceId : String)
  | validateDefinition (draft : ScheduleDraftInput)
  | createDraft (tenantId : String) (draft : ScheduleDraftInput)
  | revisedDraft (tenantId scheduleId : String) (draft : ScheduleDraftInput)
  | approveSchedule (tenantId scheduleId : String) (decision : ScheduleDecision) (now : Timestamp)
  | disableSchedule (tenantId scheduleId : String) (decision : ScheduleDecision) (now : Timestamp)

/-- What an operation returns. -/
@[reducible] def Op.Result : Op → Type
  | .clock => Timestamp
  | .listSchedules .. => List String
  | .materializeDueOccurrences .. => MaterializationResult
  | .listRetryableOccurrences .. => List String
  | .readOccurrence .. => Option (ScheduleOccurrence × LaunchMode)
  | .markWaitingApproval .. => Bool
  | .runPreflight .. => PreflightOutcome
  | .beginLaunch .. => LaunchStart
  | .readEngagement .. => Option EngagementStatus × Bool
  | .compileWorkflow .. => Unit
  | .startEngagement .. => Unit
  | .completeLaunch .. => Unit
  | .failLaunch .. => Unit
  | .recordApproval .. => Option ScheduleOccurrence
  | .cancelOccurrence .. => ScheduleOccurrence
  | .getOccurrence .. => ScheduleOccurrence
  | .validateDefinition .. => Unit
  | .createDraft .. => AuditSchedule
  | .revisedDraft .. => ScheduleDraftInput
  | .approveSchedule .. => AuditSchedule
  | .disableSchedule .. => AuditSchedule

section Exec

variable {α : Type} (w : World)

/-- A transaction: commit its writes, or roll them back when it raises. -/
def World.commit : Except SchedulingError (α × Database) → Except SchedulingError α × World
  | .ok (a, db) => (.ok a, { db := db, ticks := w.ticks + 1 })
  | .error e => (.error e, { w with ticks := w.ticks + 1 })

def World.commitUnit (result : Except SchedulingError Database) :
    Except SchedulingError Unit × World :=
  w.commit (result.map fun db => ((), db))

def World.read (result : Except SchedulingError α) : Except SchedulingError α × World :=
  (result, { w with ticks := w.ticks + 1 })

def World.orchestrate
    (result : Except Orchestration.OrchestrationError
      (Orchestration.Database × Orchestration.EngagementSnapshot)) :
    Except SchedulingError Unit × World :=
  w.commitUnit ((liftOrchestration result).map fun r => { w.db with orchestration := r.1 })

end Exec

/-- Every operation is one transaction. -/
def exec (env : Environment) (op : Op) (w : World) : Except SchedulingError op.Result × World :=
  match op with
  | .clock => w.read (.ok (env.clock w.ticks))
  | .listSchedules tenantId scheduleId => w.read (listSchedules w.db tenantId scheduleId)
  | .materializeDueOccurrences tenantId scheduleId now workerId leaseSeconds =>
    w.commit (materializeDueOccurrences env w.db tenantId scheduleId now workerId leaseSeconds)
  | .listRetryableOccurrences tenantId now scheduleId =>
    w.read (.ok ((w.db.listRetryableOccurrences tenantId now scheduleId).map (·.occurrenceId)))
  | .readOccurrence tenantId occurrenceId => w.read (.ok (readOccurrence w.db tenantId occurrenceId))
  | .markWaitingApproval tenantId occurrenceId =>
    w.commit (.ok (markWaitingApproval w.db tenantId occurrenceId))
  | .runPreflight tenantId occurrenceId context now approvalGranted =>
    w.commit (runPreflight w.db tenantId occurrenceId context now approvalGranted)
  | .beginLaunch tenantId occurrenceId now =>
    w.commit (beginLaunch env w.db tenantId occurrenceId now)
  | .readEngagement tenantId engagementId =>
    w.read (.ok (readEngagement w.db tenantId engagementId))
  | .compileWorkflow tenantId engagementId workflow now =>
    w.orchestrate (Orchestration.Orchestrator.compileWorkflow w.db.orchestration now tenantId engagementId
      workflow (env.taskIds w.ticks) (env.createdAt w.ticks))
  | .startEngagement tenantId engagementId now =>
    w.orchestrate (Orchestration.Orchestrator.startEngagement w.db.orchestration now tenantId engagementId)
  | .completeLaunch tenantId occurrenceId now =>
    w.commitUnit (completeLaunch w.db tenantId occurrenceId now)
  | .failLaunch tenantId occurrenceId error now =>
    w.commitUnit (failLaunch w.db tenantId occurrenceId error now)
  | .recordApproval tenantId occurrenceId decision =>
    w.commit (recordApproval w.db tenantId occurrenceId decision)
  | .cancelOccurrence tenantId occurrenceId decision =>
    w.commit (cancelOccurrence w.db tenantId occurrenceId decision)
  | .getOccurrence tenantId occurrenceId =>
    w.read (Checked.ofOption (.occurrenceNotFound occurrenceId)
      (w.db.getOccurrence tenantId occurrenceId))
  | .validateDefinition draft =>
    w.read (validateDefinition env.engine draft.recurrenceRule draft.timezone draft.effectiveFrom
      draft.effectiveUntil)
  | .createDraft tenantId draft =>
    w.commit (createDraft w.db (env.newId w.ticks) tenantId draft)
  | .revisedDraft tenantId scheduleId draft => w.read (revisedDraft w.db tenantId scheduleId draft)
  | .approveSchedule tenantId scheduleId decision now =>
    w.commit (approveSchedule w.db env.engine tenantId scheduleId decision now)
  | .disableSchedule tenantId scheduleId decision now =>
    w.commit (disableSchedule w.db tenantId scheduleId decision now)

/-- A method of the services that returns an `α`. -/
abbrev Method (α : Type) := Program Op.Result SchedulingError α

open Program (perform raise forEach)

def readClock : Method Timestamp := perform Op.clock

/-- The part of `_launch` between its two transactions, and the second one. -/
def finishLaunch (tenantId occurrenceId : String) (now : Timestamp) (workflow : WorkflowDefinition)
    (engagementId : String) : Method Unit := do
  let (engagement, hasTasks) ← perform (Op.readEngagement tenantId engagementId)
  if hasTasks then pure ()
  else
    let compiledAt ← readClock
    perform (Op.compileWorkflow tenantId engagementId workflow compiledAt)
  if engagement = some .planned then
    let startedAt ← readClock
    perform (Op.startEngagement tenantId engagementId startedAt)
  else pure ()
  perform (Op.completeLaunch tenantId occurrenceId now)

/-- `_launch`. -/
def launch (tenantId occurrenceId : String) : Method Unit := do
  let now ← readClock
  match ← perform (Op.beginLaunch tenantId occurrenceId now) with
  | LaunchStart.alreadyLaunched => pure ()
  | LaunchStart.started workflow engagementId =>
    finishLaunch tenantId occurrenceId now workflow engagementId

/-- `_attempt_launch`. -/
def attemptLaunch (tenantId occurrenceId : String) (summary : ScheduleEvaluationSummary) :
    Method ScheduleEvaluationSummary :=
  Program.handle
    (do
      launch tenantId occurrenceId
      return { summary with launched := summary.launched + 1 })
    fun error => do
      let now ← readClock
      perform (Op.failLaunch tenantId occurrenceId error now)
      return { summary with failures := summary.failures + 1 }

/-- `_run_preflight_and_launch`. -/
def runPreflightAndLaunch (tenantId occurrenceId : String) (context : PreflightContext)
    (approvalGranted : Bool) (summary : ScheduleEvaluationSummary) :
    Method ScheduleEvaluationSummary := do
  let now ← readClock
  match ← perform (Op.runPreflight tenantId occurrenceId context now approvalGranted) with
  | PreflightOutcome.blocked => return { summary with blocked := summary.blocked + 1 }
  | PreflightOutcome.waiting =>
    return { summary with waitingApproval := summary.waitingApproval + 1 }
  | PreflightOutcome.passed => attemptLaunch tenantId occurrenceId summary

/-- `_process_occurrence`, after its read. -/
def processRead (tenantId occurrenceId : String) (context : PreflightContext)
    (summary : ScheduleEvaluationSummary) :
    Option (ScheduleOccurrence × LaunchMode) → Method ScheduleEvaluationSummary
  | none => return summary
  | some (occurrence, mode) => do
    let approvalGranted := PyString.truthy occurrence.decisionBy
    if occurrence.status = .launching then attemptLaunch tenantId occurrenceId summary
    else if mode = .approvalRequired ∧ approvalGranted = false then
      let written ← perform (Op.markWaitingApproval tenantId occurrenceId)
      return if written then { summary with waitingApproval := summary.waitingApproval + 1 }
        else summary
    else runPreflightAndLaunch tenantId occurrenceId context approvalGranted summary

/-- `_process_occurrence`. -/
def processOccurrence (tenantId : String) (context : PreflightContext)
    (summary : ScheduleEvaluationSummary) (occurrenceId : String) :
    Method ScheduleEvaluationSummary := do
  let summary := if summary.occurrenceIds.contains occurrenceId then summary
    else { summary with occurrenceIds := summary.occurrenceIds ++ [occurrenceId] }
  let read ← perform (Op.readOccurrence tenantId occurrenceId)
  processRead tenantId occurrenceId context summary read

def extendNew (items : List String) : List String → List String
  | [] => items
  | item :: rest =>
    if items.contains item then extendNew items rest else extendNew (items ++ [item]) rest

def ScheduleEvaluationSummary.add (summary : ScheduleEvaluationSummary)
    (materialized : MaterializationResult) : ScheduleEvaluationSummary :=
  { summary with
    schedulesEvaluated := summary.schedulesEvaluated + 1
    occurrencesCreated := summary.occurrencesCreated + materialized.created
    skipped := summary.skipped + materialized.skipped
    deferred := summary.deferred + materialized.deferred
    occurrenceIds := extendNew summary.occurrenceIds materialized.occurrenceIds }

structure EvaluateDue where
  tenantId : String
  context : PreflightContext := {}
  scheduleId : Option String := none
  workerId : String := "local-scheduler"
  leaseSeconds : ℤ := 60

def evaluateSchedule (request : EvaluateDue) (now : Timestamp)
    (summary : ScheduleEvaluationSummary) (scheduleId : String) :
    Method ScheduleEvaluationSummary := do
  let materialized : MaterializationResult ← perform (Op.materializeDueOccurrences request.tenantId
    scheduleId now request.workerId request.leaseSeconds)
  forEach (processOccurrence request.tenantId request.context) materialized.candidateIds
    (summary.add materialized)

/-- `evaluate_due`, from the list of schedules on. -/
def evaluateSchedules (request : EvaluateDue) (now : Timestamp) (scheduleIds : List String) :
    Method ScheduleEvaluationSummary := do
  let summary ← forEach (evaluateSchedule request now) scheduleIds
    { tenantId := request.tenantId, evaluatedAt := now }
  let retryable : List String ← perform
    (Op.listRetryableOccurrences request.tenantId now request.scheduleId)
  forEach (processOccurrence request.tenantId request.context)
    (retryable.filter fun id => !summary.occurrenceIds.contains id) summary

/-- `evaluate_due`, after its reading of the clock. -/
def evaluateDueAt (request : EvaluateDue) (now : Timestamp) : Method ScheduleEvaluationSummary :=
  if request.leaseSeconds ≤ 0 then raise .leaseNotPositive
  else do
    let scheduleIds ← perform (Op.listSchedules request.tenantId request.scheduleId)
    evaluateSchedules request now scheduleIds

/-- `evaluate_due`. -/
def evaluateDue (request : EvaluateDue) : Method ScheduleEvaluationSummary := do
  let now ← readClock
  evaluateDueAt request now

/-- `approve_occurrence`. -/
def approveOccurrence (tenantId occurrenceId : String) (decision : OccurrenceDecision) :
    Method ScheduleOccurrence := do
  match ← perform (Op.recordApproval tenantId occurrenceId decision) with
  | some launched => return launched
  | none =>
    let evaluatedAt ← readClock
    let _ ← runPreflightAndLaunch tenantId occurrenceId decision.preflightContext true
      { tenantId := tenantId, evaluatedAt := evaluatedAt }
    perform (Op.getOccurrence tenantId occurrenceId)

/-- `create_draft`. -/
def createDraftMethod (tenantId : String) (draft : ScheduleDraftInput) : Method AuditSchedule := do
  perform (Op.validateDefinition draft)
  perform (Op.createDraft tenantId draft)

/-- A call of the scheduler or of the authoring service. -/
inductive Call where
  | evaluateDue (request : EvaluateDue)
  | approveOccurrence (tenantId occurrenceId : String) (decision : OccurrenceDecision)
  | cancelOccurrence (tenantId occurrenceId : String) (decision : OccurrenceDecision)
  | createDraft (tenantId : String) (draft : ScheduleDraftInput)
  | revise (tenantId scheduleId : String) (draft : ScheduleDraftInput)
  | approve (tenantId scheduleId : String) (decision : ScheduleDecision)
  | disable (tenantId scheduleId : String) (decision : ScheduleDecision)

def Call.program : Call → Method Unit
  | .evaluateDue request => do
    let _ ← Scheduling.evaluateDue request
  | .approveOccurrence tenantId occurrenceId decision => do
    let _ ← Scheduling.approveOccurrence tenantId occurrenceId decision
  | .cancelOccurrence tenantId occurrenceId decision => do
    let _ ← perform (Op.cancelOccurrence tenantId occurrenceId decision)
  | .createDraft tenantId draft => do
    let _ ← createDraftMethod tenantId draft
  | .revise tenantId scheduleId draft => do
    let draft ← perform (Op.revisedDraft tenantId scheduleId draft)
    let _ ← createDraftMethod tenantId draft
  | .approve tenantId scheduleId decision => do
    let now ← readClock
    let _ ← perform (Op.approveSchedule tenantId scheduleId decision now)
  | .disable tenantId scheduleId decision => do
    let now ← readClock
    let _ ← perform (Op.disableSchedule tenantId scheduleId decision now)

/-- A call, whatever it returns or raises. -/
def World.perform (env : Environment) (w : World) (call : Call) : World :=
  (call.program.run (exec env) w).2

/-- Run `evaluate_due` in one piece. -/
def World.evaluate (env : Environment) (w : World) (request : EvaluateDue) : World :=
  ((evaluateDue request).run (exec env) w).2

def World.Succeeds (env : Environment) (w : World) (call : Call) : Prop :=
  (call.program.run (exec env) w).1 = .ok ()

/-- The calls one after the other. -/
def World.run (env : Environment) (w : World) (calls : List Call) : World :=
  calls.foldl (World.perform env) w

def sampleTime (day hour : ℤ) : Timestamp := (20665 + day) * dayLength + hour * 3600000000

/-- The clocks of UTC. -/
def utcZone : Zone where
  toLocal t := { wall := t, fold := false }
  toUtc l := l.wall

/-- An engine whose rules have all the same values, in the zone UTC. -/
def sampleEngine (values : List Timestamp) : RecurrenceEngine where
  zoneInfo name := if name = "UTC" then some utcZone else none
  between _ _ _ start stop :=
    .ok ((values.filter fun v => start.wall ≤ v ∧ v ≤ stop.wall).map .instant)
  after _ _ _ start := .ok ((values.find? fun v => start.wall < v).map .instant)
  uppercase c := [c.toUpper]

theorem sampleEngine_lawful (values : List Timestamp) (rule : String) (effectiveFrom : Timestamp) :
    (sampleEngine values).LawfulBetween rule "UTC" effectiveFrom {v | v ∈ values} where
  listed start stop l h t := by
    obtain ⟨zone, all, hzone, hall, rfl⟩ := RecurrenceEngine.occurrencesBetween_eq_ok h
    cases hzone
    cases hall
    constructor
    · intro ht
      obtain ⟨x, hx, rfl⟩ := List.mem_map.mp ht
      obtain ⟨hx, hstart⟩ := List.mem_filter.mp hx
      obtain ⟨v, hv, rfl⟩ := List.mem_map.mp hx
      obtain ⟨hv, hwindow⟩ := List.mem_filter.mp hv
      exact ⟨hv, of_decide_eq_true hstart, (of_decide_eq_true hwindow).2⟩
    · rintro ⟨hv, hstart, hstop⟩
      refine List.mem_map.mpr ⟨.instant t, List.mem_filter.mpr ⟨?_, decide_eq_true hstart⟩, rfl⟩
      exact List.mem_map_of_mem (List.mem_filter.mpr ⟨hv, decide_eq_true ⟨hstart.le, hstop⟩⟩)

/-- The readings of the clock: `early` for the first ticks, then `late`. -/
def sampleEnvironment (values : List Timestamp) (ticks : ℕ) (early late : Timestamp) :
    Environment where
  clock n := if n < ticks then early else late
  engine := sampleEngine values
  sha256Hex text := text
  newId n := if n < ticks then "sch_1" else "sch_2"
  taskIds _ key := "tsk_" ++ key
  createdAt _ _ := 0

theorem no_effectiveUntil {t : Timestamp} : ∀ stop ∈ (none : Option Timestamp), t ≤ stop := by
  intro stop h
  cases h

def samplePeriodRule : AuditPeriodRule := .rollingDays 30 1 (Nat.succ_pos 29)

def sampleSchedule : AuditSchedule where
  scheduleId := "sch_1"
  tenantId := "tnt_a"
  planId := "plan_1"
  templateId := "tpl_1"
  name := "SCM schedule"
  version := 1
  status := .active
  recurrenceRule := "FREQ=DAILY"
  timezone := "UTC"
  effectiveFrom := sampleTime 6 7
  effectiveUntil := none
  auditPeriodRule := samplePeriodRule
  businessCalendar := {}
  blackoutPolicy := []
  preflightPolicy := {}
  launchMode := .automatic
  missedOccurrencePolicy := .launchAll
  catchUpLimit := 12
  overlapPolicy := .allow
  maxConcurrentEngagements := 1
  effective_window := no_effectiveUntil
  positive_catch_up_limit := Nat.succ_pos 11
  positive_concurrency_limit := Nat.one_pos

def sampleWorkflow : WorkflowDefinition where
  workflowVersion := "1.0.0"
  tasks := Orchestration.sampleTasks
  tasks_ne_nil := Orchestration.sampleTasks_ne_nil

/-- A tenant with an approved plan, a released template and these schedules. -/
def sampleDatabase (schedules : List AuditSchedule) : Database where
  tenants := [{ tenantId := "tnt_a", active := true }]
  plans := [{ planId := "plan_1", tenantId := "tnt_a", status := .approved }]
  templates := [{ templateId := "tpl_1", tenantId := "tnt_a", version := 1, status := .released,
                  auditPackRef := "software-change-management@1.0.0",
                  workflowDefinition := .valid sampleWorkflow }]
  schedules := schedules
  orchestration := { engagements := [], uuid := fun n => "evt_" ++ toString n }

end Scheduling
