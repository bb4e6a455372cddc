/-
The tables of the scheduler and `SchedulingRepository`
(`db/models/planning.py`, `scheduling/repository.py`).

The table of engagements is shared with the orchestrator, which keeps the status of an
engagement and its tasks; the columns that only the scheduler reads are the rows
`EngagementDetails`.  Uniqueness constraints are checked where rows are inserted.  The
snapshots, titles and scopes that a row carries along for its readers, and the audit and
outbox events, are left out.
-/
import AssuranceOS.Adjudication.Repository
import AssuranceOS.Orchestration.Repository
import AssuranceOS.Scheduling.Calendar

namespace Scheduling

open Orchestration (Timestamp EngagementStatus WorkflowDefinition)
open Adjudication (orderBy)
open Checked

structure Tenant where
  tenantId : String
  active : Bool

structure AuditPlan where
  planId : String
  tenantId : String
  status : ReleaseStatus

/-- The column `workflow_definition_json`. -/
inductive WorkflowColumn where
  | empty
  | invalid
  | valid (workflow : WorkflowDefinition)

/-- `bool(template.workflow_definition_json)`. -/
def WorkflowColumn.present : WorkflowColumn → Bool
  | .empty => false
  | .invalid | .valid _ => true

/-- `WorkflowDefinition.model_validate`. -/
def WorkflowColumn.validate : WorkflowColumn → Except SchedulingError WorkflowDefinition
  | .valid workflow => .ok workflow
  | .empty | .invalid => .error .workflowInvalid

structure EngagementTemplate where
  templateId : String
  tenantId : String
  version : ℕ
  status : ReleaseStatus
  auditPackRef : String
  preflightPolicy : PreflightPolicy := {}
  workflowDefinition : WorkflowColumn

structure AuditSchedule where
  scheduleId : String
  tenantId : String
  planId : String
  templateId : String
  name : String
  version : ℕ
  status : ScheduleStatus
  recurrenceRule : String
  timezone : String
  effectiveFrom : Timestamp
  effectiveUntil : Option Timestamp
  auditPeriodRule : AuditPeriodRule
  businessCalendar : BusinessCalendarConfig
  blackoutPolicy : BlackoutPolicy
  preflightPolicy : PreflightPolicy
  launchMode : LaunchMode
  missedOccurrencePolicy : MissedOccurrencePolicy
  catchUpLimit : ℕ
  overlapPolicy : OverlapPolicy
  maxConcurrentEngagements : ℕ
  approvedAt : Option Timestamp := none
  approvedBy : Option String := none
  approvalReason : Option String := none
  disabledAt : Option Timestamp := none
  disabledBy : Option String := none
  disableReason : Option String := none
  effective_window : ∀ stop ∈ effectiveUntil, effectiveFrom ≤ stop
  positive_catch_up_limit : 0 < catchUpLimit
  positive_concurrency_limit : 0 < maxConcurrentEngagements

structure ScheduleCursor where
  scheduleId : String
  tenantId : String
  lastEvaluatedAt : Option Timestamp := none
  nextDueAt : Option Timestamp := none
  leaseOwner : Option String := none
  leaseExpiresAt : Option Timestamp := none

/-- The column `decision_reason`: a text, or the text of an exception. -/
inductive DecisionReason where
  | text (reason : String)
  | error (error : SchedulingError)

structure ScheduleOccurrence where
  occurrenceId : String
  tenantId : String
  scheduleId : String
  engagementId : Option String := none
  nominalDue : Timestamp
  eligibleAt : Timestamp
  period : AuditPeriod
  status : OccurrenceStatus
  decisionReason : Option DecisionReason
  decisionBy : Option String := none
  scheduleVersion : ℕ
  templateVersion : ℕ
  preflightResult : Option PreflightReport := none
  evaluatedAt : Option Timestamp := none
  launchedAt : Option Timestamp := none
  launchAttempts : ℕ := 0
  lastError : Option SchedulingError := none

/-- An engagement, without its status. -/
structure EngagementDetails where
  engagementId : String
  tenantId : String
  templateId : Option String
  code : String
  auditPackRef : String
  period : AuditPeriod

structure Database where
  tenants : List Tenant := []
  plans : List AuditPlan := []
  templates : List EngagementTemplate := []
  schedules : List AuditSchedule := []
  cursors : List ScheduleCursor := []
  occurrences : List ScheduleOccurrence := []
  engagements : List EngagementDetails := []
  orchestration : Orchestration.Database

namespace Database

variable (db : Database)

def getPlan (tenantId planId : String) : Option AuditPlan :=
  db.plans.find? fun p => p.tenantId = tenantId ∧ p.planId = planId

def getTemplate (tenantId templateId : String) : Option EngagementTemplate :=
  db.templates.find? fun t => t.tenantId = tenantId ∧ t.templateId = templateId

def getSchedule (tenantId scheduleId : String) : Option AuditSchedule :=
  db.schedules.find? fun s => s.tenantId = tenantId ∧ s.scheduleId = scheduleId

def listActiveSchedules (tenantId : String) (scheduleId : Option String) : List AuditSchedule :=
  orderBy (·.scheduleId) (db.schedules.filter fun s =>
    s.tenantId = tenantId ∧ s.status = .active ∧ ∀ id ∈ scheduleId, s.scheduleId = id)

def getOrCreateCursor (schedule : AuditSchedule) : ScheduleCursor × Database :=
  match Table.get? ScheduleCursor.scheduleId schedule.scheduleId db.cursors with
  | some cursor => (cursor, db)
  | none =>
    let cursor : ScheduleCursor :=
      { scheduleId := schedule.scheduleId, tenantId := schedule.tenantId }
    (cursor, { db with cursors := db.cursors ++ [cursor] })

def putCursor (cursor : ScheduleCursor) : Database :=
  { db with cursors := Table.put ScheduleCursor.scheduleId cursor db.cursors }

/-- The `WHERE` of the lease: no lease, one that has expired, or one of the same owner. -/
def leasable (cursor : ScheduleCursor) (owner : String) (now : Timestamp) : Bool :=
  match cursor.leaseExpiresAt with
  | none => true
  | some expires => expires ≤ now || cursor.leaseOwner = some owner

/-- `acquire_cursor_lease`; the cursor is created in any case. -/
def acquireCursorLease (schedule : AuditSchedule) (owner : String) (now : Timestamp)
    (leaseSeconds : ℤ) : Option ScheduleCursor × Database :=
  let (cursor, db) := db.getOrCreateCursor schedule
  if leasable cursor owner now then
    let cursor := { cursor with
      leaseOwner := some owner
      leaseExpiresAt := some (now + seconds leaseSeconds) }
    (some cursor, db.putCursor cursor)
  else (none, db)

def releaseCursor (cursor : ScheduleCursor) (evaluatedAt : Timestamp)
    (nextDueAt : Option Timestamp) : Database :=
  db.putCursor { cursor with
    lastEvaluatedAt := some evaluatedAt
    nextDueAt := nextDueAt
    leaseOwner := none
    leaseExpiresAt := none }

def getOccurrence (tenantId occurrenceId : String) : Option ScheduleOccurrence :=
  db.occurrences.find? fun o => o.tenantId = tenantId ∧ o.occurrenceId = occurrenceId

def getOccurrenceByDue (tenantId scheduleId : String) (nominalDue : Timestamp) :
    Option ScheduleOccurrence :=
  db.occurrences.find? fun o =>
    o.tenantId = tenantId ∧ o.scheduleId = scheduleId ∧ o.nominalDue = nominalDue

def putOccurrence (occurrence : ScheduleOccurrence) : Database :=
  { db with
    occurrences := Table.put ScheduleOccurrence.occurrenceId occurrence db.occurrences }

/-- Insert an occurrence under the primary key and the constraint on `(schedule_id, nominal_due)`. -/
def addOccurrence (occurrence : ScheduleOccurrence) : Except SchedulingError Database := do
  require (∀ o ∈ db.occurrences,
    (o.scheduleId, o.nominalDue) ≠ (occurrence.scheduleId, occurrence.nominalDue)) .integrityError
  let rows ← ofOption .integrityError
    (Table.insert? ScheduleOccurrence.occurrenceId occurrence db.occurrences)
  return { db with occurrences := rows }

def retryableStatuses : List OccurrenceStatus :=
  [.deferred, .preflightBlocked, .launchFailed, .launching]

def listRetryableOccurrences (tenantId : String) (now : Timestamp) (scheduleId : Option String) :
    List ScheduleOccurrence :=
  orderBy (·.eligibleAt) (db.occurrences.filter fun o =>
    o.tenantId = tenantId ∧ o.status ∈ retryableStatuses ∧ o.eligibleAt ≤ now ∧
      ∀ id ∈ scheduleId, o.scheduleId = id)

def engagementStatus (engagementId : String) : Option EngagementStatus :=
  (Table.get? Orchestration.Engagement.engagementId engagementId
    db.orchestration.engagements).map (·.status)

def activeEngagementStatuses : List EngagementStatus :=
  [.planned, .running, .waitingApproval, .blocked]

def isActive (engagement : EngagementDetails) : Bool :=
  (db.engagementStatus engagement.engagementId).any (· ∈ activeEngagementStatuses)

def activeEngagements (tenantId templateId : String) : List EngagementDetails :=
  db.engagements.filter fun e =>
    e.tenantId = tenantId ∧ e.templateId = some templateId ∧ db.isActive e

/-- Insert an engagement under its primary key and the constraint on `(tenant_id, code)`. -/
def addEngagement (engagement : EngagementDetails) (now : Timestamp) :
    Except SchedulingError Database := do
  require (∀ e ∈ db.engagements, (e.tenantId, e.code) ≠ (engagement.tenantId, engagement.code))
    .integrityError
  let rows ← ofOption .integrityError
    (Table.insert? EngagementDetails.engagementId engagement db.engagements)
  let statuses ← ofOption .integrityError
    (Table.insert? Orchestration.Engagement.engagementId
      { engagementId := engagement.engagementId, tenantId := engagement.tenantId,
        createdAt := now } db.orchestration.engagements)
  return { db with
    engagements := rows
    orchestration := { db.orchestration with engagements := statuses } }

end Database

namespace PreflightEvaluator

variable (db : Database) (schedule : AuditSchedule) (occurrence : ScheduleOccurrence)

def connectorChecks (policy : PreflightPolicy) (context : PreflightContext) :
    List PreflightCheck :=
  (policy.requiredConnectors.getD []).map fun connector =>
    let state := context.connectorHealth.lookup connector
    { code := "connector:" ++ connector
      passed := state = some "healthy"
      message := "Required connector \x27" ++ connector ++ "\x27 must be healthy."
      details := .connector state }

def competencyChecks (policy : PreflightPolicy) (context : PreflightContext) :
    List PreflightCheck :=
  let missing := Orchestration.WorkflowCompiler.sorted
    ((policy.requiredCompetencies.getD []).dedup.filter (· ∉ context.availableCompetencies))
  [{ code := "competencies_available"
     passed := missing.isEmpty
     message := "Required reviewer and agent competencies must be available."
     details := .competencies missing }]

/-- The required amount is converted only when there is a budget to compare it with. -/
def budgetCheck (policy : PreflightPolicy) (context : PreflightContext) :
    Except SchedulingError PreflightCheck := do
  let required := policy.estimatedCostUsd.join
  let passed ← match required, context.availableBudgetUsd with
    | none, _ => .ok true
    | some _, none => .ok false
    | some (.ok cost), some available => .ok (decide (cost ≤ available))
    | some (.error e), some _ => .error (.conversion e)
  return { code := "budget_available"
           passed := passed
           message := "Configured execution budget must be available."
           details := .budget required context.availableBudgetUsd }

def independenceCheck (policy : PreflightPolicy) (context : PreflightContext) : PreflightCheck :=
  let conflicts := Orchestration.WorkflowCompiler.sorted
    ((policy.independenceRoles.getD []).dedup.filter (· ∈ context.independenceConflicts))
  { code := "independence_clear"
    passed := conflicts.isEmpty
    message := "No configured independence conflict may be present."
    details := .independence conflicts }

/-- The active engagements of the template, without the one of the occurrence itself. -/
def otherActive : List EngagementDetails :=
  (db.activeEngagements schedule.tenantId schedule.templateId).filter fun e =>
    occurrence.engagementId ≠ some e.engagementId

def concurrencyCheck : PreflightCheck :=
  let active := (otherActive db schedule occurrence).length
  { code := "concurrency_limit"
    passed := active < schedule.maxConcurrentEngagements
    message := "Concurrent engagement limit must not be exceeded."
    details := .concurrency active schedule.maxConcurrentEngagements }

def overlapCheck : PreflightCheck :=
  match schedule.overlapPolicy with
  | .allow =>
    { code := "period_overlap", passed := true, message := "Period overlap is allowed by policy." }
  | .prevent =>
    let overlap := (otherActive db schedule occurrence).find? fun e =>
      e.period.Overlaps occurrence.period
    { code := "period_overlap"
      passed := overlap.isNone
      message := "An equivalent active engagement must not overlap this audit period."
      details := .overlap (overlap.map (·.engagementId)) }

/-- `PreflightEvaluator.evaluate`. -/
def evaluate (template : EngagementTemplate) (context : PreflightContext)
    (checkedAt : Timestamp) : Except SchedulingError PreflightReport := do
  let plan := db.plans.find? fun p => p.planId = schedule.planId
  let tenant := db.tenants.find? fun t => t.tenantId = schedule.tenantId
  let policy := template.preflightPolicy.merge schedule.preflightPolicy
  let budget ← budgetCheck policy context
  let checks : List PreflightCheck :=
    [{ code := "tenant_active", passed := tenant.any (·.active),
       message := "Tenant must be active." },
     { code := "plan_approved", passed := plan.any (·.status = .approved),
       message := "Audit plan must be approved." },
     { code := "schedule_active", passed := schedule.status = .active,
       message := "Schedule must be active." },
     { code := "template_released",
       passed := template.status = .released || template.status = .approved,
       message := "Engagement template must be released." },
     { code := "workflow_present", passed := template.workflowDefinition.present,
       message := "Template must contain a workflow definition." }] ++
    connectorChecks policy context ++ competencyChecks policy context ++
    [budget, independenceCheck policy context, concurrencyCheck db schedule occurrence,
      overlapCheck db schedule occurrence]
  return { passed := checks.all (·.passed), checkedAt := checkedAt, checks := checks }

end PreflightEvaluator

end Scheduling
