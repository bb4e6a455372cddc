/-
The queries and row updates of `orchestration/repository.py`.

Every query is a selection from a table followed by an `ORDER BY`, which is a
stable sort by the key the source lists.  An `UPDATE ... WHERE` whose
`rowcount` the caller tests is a function into `Option`.
-/
import Mathlib.Data.List.Sort
import Mathlib.Data.Prod.Lex
import Mathlib.Data.String.Basic
import AssuranceOS.Orchestration.Store

namespace Orchestration

/-- `ORDER BY priority, created_at, task_key`. -/
def taskOrder (a b : EngagementTask) : Prop :=
  toLex (a.priority, toLex (a.createdAt, a.taskKey)) ≤
    toLex (b.priority, toLex (b.createdAt, b.taskKey))

instance : DecidableRel taskOrder := fun a b =>
  inferInstanceAs (Decidable (toLex (a.priority, toLex (a.createdAt, a.taskKey)) ≤
    toLex (b.priority, toLex (b.createdAt, b.taskKey))))

/-- `ORDER BY column, task_id` for a timestamp column that is not null. -/
def dueOrder (column : EngagementTask → Option Timestamp) (a b : EngagementTask) : Prop :=
  toLex ((column a).getD 0, a.taskId) ≤ toLex ((column b).getD 0, b.taskId)

instance (column : EngagementTask → Option Timestamp) : DecidableRel (dueOrder column) :=
  fun a b => inferInstanceAs (Decidable
    (toLex ((column a).getD 0, a.taskId) ≤ toLex ((column b).getD 0, b.taskId)))

def engagementOrder (a b : Engagement) : Prop :=
  toLex (a.createdAt, a.engagementId) ≤ toLex (b.createdAt, b.engagementId)

instance : DecidableRel engagementOrder := fun a b =>
  inferInstanceAs (Decidable
    (toLex (a.createdAt, a.engagementId) ≤ toLex (b.createdAt, b.engagementId)))

def dependencyOrder (a b : TaskDependency) : Prop :=
  toLex (a.taskId, a.dependsOnTaskId) ≤ toLex (b.taskId, b.dependsOnTaskId)

instance : DecidableRel dependencyOrder := fun a b =>
  inferInstanceAs (Decidable
    (toLex (a.taskId, a.dependsOnTaskId) ≤ toLex (b.taskId, b.dependsOnTaskId)))

/-- A nullable timestamp that is set and not after `now`. -/
def elapsed (at? : Option Timestamp) (now : Timestamp) : Bool :=
  match at? with
  | none => false
  | some t => t ≤ now

namespace Database

variable (db : Database)

def getEngagement (tenantId engagementId : String) : Option Engagement :=
  db.engagements.find? fun e => e.tenantId = tenantId ∧ e.engagementId = engagementId

/-- The statuses `tick` reconciles. -/
def isActive : EngagementStatus → Bool
  | .running | .waitingApproval | .blocked => true
  | _ => false

def listActiveEngagements (tenantId : String) : List Engagement :=
  (db.engagements.filter fun e => e.tenantId = tenantId ∧ isActive e.status).insertionSort
    engagementOrder

def getTask (tenantId taskId : String) : Option EngagementTask :=
  db.tasks.find? fun t => t.tenantId = tenantId ∧ t.taskId = taskId

/-- The tasks of the engagement, as the repository orders them. -/
def listTasks (tenantId engagementId : String) : List EngagementTask :=
  (db.tasks.filter fun t => t.tenantId = tenantId ∧ t.engagementId = engagementId).insertionSort
    taskOrder

/-- The join on the task table selects the dependencies of the engagement's
tasks. -/
def listDependencies (tenantId engagementId : String) : List TaskDependency :=
  (db.dependencies.filter fun d => d.tenantId = tenantId ∧
    db.tasks.any fun t => t.taskId = d.taskId ∧ t.engagementId = engagementId).insertionSort
      dependencyOrder

/-- What a worker asks `claim_next` for. -/
structure ClaimFilter where
  engagementId : Option String := none
  taskTypes : Option (List String) := none
  agentRoles : Option (List String) := none

/-- The optional conjuncts of the claim query; an empty list filters nothing. -/
def ClaimFilter.accepts (filter : ClaimFilter) (t : EngagementTask) : Bool :=
  (match filter.engagementId with
    | none => true
    | some e => t.engagementId = e)
  && (match filter.taskTypes with
    | none | some [] => true
    | some types => types.contains t.taskType)
  && (match filter.agentRoles with
    | none | some [] => true
    | some roles => roles.any fun role => t.assignedAgentRole = some role)

/-- `available_at IS NULL OR available_at <= now`. -/
def available (t : EngagementTask) (now : Timestamp) : Bool :=
  t.availableAt = none ∨ elapsed t.availableAt now

def claimable (tenantId : String) (now : Timestamp) (filter : ClaimFilter) :
    List EngagementTask :=
  ((db.tasks.filter fun t =>
    t.tenantId = tenantId ∧ t.status = .ready ∧ available t now
      ∧ ¬ elapsed t.deadlineAt now ∧ filter.accepts t).insertionSort taskOrder).take 20

def tryLease (tenantId workerId : String) (now : Timestamp) (leaseSeconds : Int)
    (candidate : EngagementTask) : Option (Database × EngagementTask) :=
  -- The deadline is tested by the query for the candidates only.
  match db.tasks.find? fun t => t.taskId = candidate.taskId ∧ t.tenantId = tenantId
      ∧ t.status = .ready ∧ available t now with
  | none => none
  | some t =>
    let t := { t with
      status := .running
      leaseOwner := some workerId
      leaseExpiresAt := some (now + timedelta leaseSeconds)
      attemptCount := t.attemptCount + 1
      startedAt := some now
      availableAt := none
      errorClass := none
      lastError := none }
    some (db.putTask t, t)

def claimNext (tenantId workerId : String) (now : Timestamp) (leaseSeconds : Int)
    (filter : ClaimFilter) : Option (Database × EngagementTask) :=
  (db.claimable tenantId now filter).findSome? (db.tryLease tenantId workerId now leaseSeconds)

/-- The `UPDATE` of a heartbeat, with the row it changed. -/
def extendLease (tenantId taskId workerId : String) (now : Timestamp) (leaseSeconds : Int) :
    Option (Database × EngagementTask) :=
  match db.tasks.find? fun t => t.tenantId = tenantId ∧ t.taskId = taskId
      ∧ t.status = .running ∧ t.leaseOwner = some workerId
      ∧ (t.leaseExpiresAt.any fun expiry => now < expiry) with
  | none => none
  | some t =>
    let t := { t with leaseExpiresAt := some (now + timedelta leaseSeconds) }
    some (db.putTask t, t)

def startAttempt (task : EngagementTask) (workerId : String) (now : Timestamp) :
    Option Database :=
  if db.attempts.any fun a => a.number = (task.taskId, task.attemptCount) then none
  else some { db with
    attempts := db.attempts ++
      [{ tenantId := task.tenantId, engagementId := task.engagementId, taskId := task.taskId,
         attemptNo := task.attemptCount, workerId := workerId, startedAt := now,
         leaseExpiresAt := task.leaseExpiresAt }] }

def getAttempt (tenantId taskId : String) (attemptNo : Nat) : Option TaskAttempt :=
  db.attempts.find? fun a => a.tenantId = tenantId ∧ a.taskId = taskId ∧ a.attemptNo = attemptNo

def updateAttemptLease (tenantId taskId : String) (attemptNo : Nat)
    (leaseExpiresAt : Option Timestamp) : Database :=
  { db with
    attempts := db.attempts.map fun a =>
      if a.tenantId = tenantId ∧ a.taskId = taskId ∧ a.attemptNo = attemptNo
          ∧ a.status = .running then
        { a with leaseExpiresAt := leaseExpiresAt }
      else a }

/-- How an attempt ended. -/
structure AttemptOutcome where
  status : AttemptStatus
  failureClass : Option ErrorClass := none
  errorMessage : Option String := none
  result : Option JsonObject := none
  outputRefs : List String := []

/-- The attempt row of `task` after it ended. -/
def AttemptOutcome.close (outcome : AttemptOutcome) (task : EngagementTask) (now : Timestamp)
    (attempt : TaskAttempt) : TaskAttempt :=
  { attempt with
    status := outcome.status
    completedAt := some now
    leaseExpiresAt := task.leaseExpiresAt
    failureClass := outcome.failureClass
    errorMessage := outcome.errorMessage
    result := outcome.result
    outputRefs := outcome.outputRefs }

/-- Close the current attempt of the task; an attempt that is not running is
left alone. -/
def finishAttempt (task : EngagementTask) (now : Timestamp) (outcome : AttemptOutcome) :
    Database :=
  match db.getAttempt task.tenantId task.taskId task.attemptCount with
  | none => db
  | some attempt =>
    -- A second outcome of the same attempt is dropped.
    if attempt.status ≠ .running then db
    else
      { db with
        attempts := Table.put TaskAttempt.number (outcome.close task now attempt) db.attempts }

def expiredRunningTasks (tenantId : String) (now : Timestamp) : List EngagementTask :=
  (db.tasks.filter fun t => t.tenantId = tenantId ∧ t.status = .running
    ∧ elapsed t.leaseExpiresAt now).insertionSort (dueOrder (·.leaseExpiresAt))

def dueRetryTasks (tenantId : String) (now : Timestamp) : List EngagementTask :=
  (db.tasks.filter fun t => t.tenantId = tenantId ∧ t.status = .retryWait
    ∧ elapsed t.availableAt now).insertionSort (dueOrder (·.availableAt))

def overdueNonterminalTasks (tenantId : String) (now : Timestamp) : List EngagementTask :=
  (db.tasks.filter fun t => t.tenantId = tenantId ∧ ¬ t.status.isTerminal
    ∧ elapsed t.deadlineAt now).insertionSort (dueOrder (·.deadlineAt))

end Database

def leaseMatches (task : EngagementTask) (workerId : String) (now : Timestamp) : Bool :=
  task.status = .running ∧ task.leaseOwner = some workerId
    ∧ (task.leaseExpiresAt.any fun expiry => now < expiry)

end Orchestration
