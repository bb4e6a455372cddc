/-
The tables of the orchestrator and the audit ledger
(`db/models/engagement.py`, `db/models/governance.py`, and
`AuditEventRepository`, `OutboxRepository` of `db/repositories.py`).

`Database` holds the rows that the orchestration service reads and writes.
An attribute write on a mapped object is a `putTask` or `putEngagement` of the
changed row; sessions do not autoflush, but every write of the service is
flushed before the next query (each one is followed by an append to the
ledger), so state passing is what the queries see.

An event carries its type-specific payload as one constructor of `Payload`.
The event ids are drawn from an arbitrary stream `uuid`, one per ledger row.
-/
import AssuranceOS.Lib.Table
import AssuranceOS.Orchestration.Definitions

namespace Orchestration

/-- Values of the column `review_status`. -/
inductive ReviewStatus where
  | pending
  | approved
  | rejected
  deriving DecidableEq, Repr

/-- Values of the columns `error_class` of a task and `failure_class` of an
attempt. -/
inductive ErrorClass where
  | failure (c : FailureClass)
  | deadlineExceeded
  | dependencyFailed
  | engagementCancelled
  | administrativeSkip
  deriving DecidableEq, Repr

structure Engagement where
  engagementId : String
  tenantId : String
  status : EngagementStatus := .planned
  startedAt : Option Timestamp := none
  completedAt : Option Timestamp := none
  createdAt : Timestamp

structure EngagementTask where
  taskId : String
  tenantId : String
  engagementId : String
  taskKey : String
  taskType : String
  definitionVersion : String
  status : TaskStatus := .pending
  priority : Nat
  assignedAgentRole : Option String
  attemptCount : Nat := 0
  leaseOwner : Option String := none
  leaseExpiresAt : Option Timestamp := none
  availableAt : Option Timestamp := none
  deadlineAt : Option Timestamp
  startedAt : Option Timestamp := none
  completedAt : Option Timestamp := none
  inputRefs : List String
  outputRefs : List String := []
  result : Option JsonObject := none
  idempotencyKey : String
  executionPolicy : ExecutionPolicy
  modelPolicy : Option String
  toolPolicy : Option String
  humanGate : Option String
  errorClass : Option ErrorClass := none
  lastError : Option String := none
  reviewStatus : Option ReviewStatus := none
  createdAt : Timestamp

inductive AttemptStatus where
  | running
  | succeeded
  | retryScheduled
  | failed
  | leaseExpired
  | cancelled
  deriving DecidableEq, Repr

structure TaskAttempt where
  tenantId : String
  engagementId : String
  taskId : String
  attemptNo : Nat
  workerId : String
  status : AttemptStatus := .running
  startedAt : Timestamp
  completedAt : Option Timestamp := none
  leaseExpiresAt : Option Timestamp
  failureClass : Option ErrorClass := none
  errorMessage : Option String := none
  result : Option JsonObject := none
  outputRefs : List String := []
  traceId : Option String := none

/-- The columns of the unique constraint `uq_task_attempt_number`. -/
def TaskAttempt.number (a : TaskAttempt) : String × Nat := (a.taskId, a.attemptNo)

structure TaskDependency where
  tenantId : String
  taskId : String
  dependsOnTaskId : String
  allowedStatuses : List TaskStatus

/-- The `reason` of a task transition. -/
inductive TransitionReason where
  | workerClaimed
  | postExecutionGateRequired
  | executionSucceeded
  | engagementCancelled
  | administrativeRetry
  | administrativeSkip
  | humanGateApproved
  | humanGateRejected
  | retryDelayElapsed
  | deadlineExceeded
  | retryScheduled
  | executionFailed
  | dependencyFailed
  | preExecutionGateRequired
  | dependenciesSatisfied
  deriving DecidableEq, Repr

/-- The `reason` of an engagement transition. -/
inductive EngagementReason where
  | engagementStarted
  | cancelledByUser
  | allTasksCompleted
  | workInProgress
  | humanDecisionRequired
  | taskFailed
  | dependencyBlocked
  | waitingForDependencies
  deriving DecidableEq, Repr

/-- The further entries of a transition's payload (the argument `extra`). -/
inductive Extra where
  | none
  | lease (workerId : String) (leaseExpiresAt : Option Timestamp)
  | outputs (outputRefs : List String)
  | decision (actorId decisionReason : String)
  | retry (failureClass : FailureClass) (message : String) (retryDelaySeconds : ℚ)
  | failure (failureClass : FailureClass) (message : String) (retryable : Bool)
      (attemptBudgetRemaining : Bool)
  | gate (gate : Option String) (gatePosition : GatePosition) (actorId decisionReason : String)

/-- What an event says; the constructor is the event type. -/
inductive Payload where
  | workflowCompiled (workflowVersion : String) (taskCount : Nat) (metadata : JsonObject)
  | taskCreated (taskKey taskType : String) (status : TaskStatus) (definitionVersion : String)
      (humanGate : Option String)
  | taskTransitioned (taskKey : String) (fromStatus toStatus : TaskStatus)
      (reason : TransitionReason) (attemptCount : Nat) (extra : Extra)
  | taskHeartbeat (workerId : String) (leaseExpiresAt : Option Timestamp) (attemptCount : Nat)
  | engagementTransitioned (fromStatus toStatus : EngagementStatus) (reason : EngagementReason)
      (extra : Extra)

structure AuditEventRow where
  eventId : String
  streamId : String
  sequenceNo : Nat
  tenantId : String
  engagementId : Option String
  taskId : Option String
  occurredAt : Timestamp
  payload : Payload

inductive AggregateType where
  | engagement
  | task
  deriving DecidableEq, Repr

structure OutboxEvent where
  tenantId : String
  aggregateType : AggregateType
  aggregateId : String
  payload : Payload
  idempotencyKey : String

/-- The tables that the orchestrator works on. -/
structure Database where
  engagements : List Engagement
  tasks : List EngagementTask := []
  dependencies : List TaskDependency := []
  attempts : List TaskAttempt := []
  auditEvents : List AuditEventRow := []
  outbox : List OutboxEvent := []
  uuid : Nat → String

namespace Database

def putTask (db : Database) (task : EngagementTask) : Database :=
  { db with tasks := Table.put EngagementTask.taskId task db.tasks }

def putEngagement (db : Database) (engagement : Engagement) : Database :=
  { db with engagements := Table.put Engagement.engagementId engagement db.engagements }

/-- The task with primary key `taskId`. -/
def findTask (db : Database) (taskId : String) : Option EngagementTask :=
  Table.get? EngagementTask.taskId taskId db.tasks

/-- `event.task_id or event.engagement_id or f"tenant:{event.tenant_id}"`. -/
def streamId (tenantId : String) (engagementId taskId : Option String) : String :=
  if PyString.truthy taskId then taskId.getD ""
  else if PyString.truthy engagementId then engagementId.getD ""
  else "tenant:" ++ tenantId

def nextSequence (db : Database) (tenantId streamId : String) : Nat :=
  ((db.auditEvents.filter fun row => row.tenantId = tenantId ∧ row.streamId = streamId).map
    (·.sequenceNo)).foldr max 0 + 1

/-- `AuditEventRepository.append` of the event, and the outbox row that
`Orchestrator._record` writes with it. -/
def record (db : Database) (now : Timestamp) (tenantId : String)
    (engagementId taskId : Option String) (aggregateType : AggregateType)
    (aggregateId : String) (payload : Payload) : Database :=
  let eventId := db.uuid db.auditEvents.length
  let stream := streamId tenantId engagementId taskId
  { db with
    auditEvents := db.auditEvents ++
      [{ eventId := eventId, streamId := stream, sequenceNo := db.nextSequence tenantId stream,
         tenantId := tenantId, engagementId := engagementId, taskId := taskId,
         occurredAt := now, payload := payload }]
    outbox := db.outbox ++
      [{ tenantId := tenantId, aggregateType := aggregateType, aggregateId := aggregateId,
         payload := payload, idempotencyKey := eventId }] }

/-- `Orchestrator._record` on the stream of a task. -/
def recordTask (db : Database) (now : Timestamp) (task : EngagementTask) (payload : Payload) :
    Database :=
  db.record now task.tenantId (some task.engagementId) (some task.taskId) .task task.taskId payload

/-- `Orchestrator._record` on the stream of an engagement. -/
def recordEngagement (db : Database) (now : Timestamp) (tenantId engagementId : String)
    (payload : Payload) : Database :=
  db.record now tenantId (some engagementId) none .engagement engagementId payload

end Database

end Orchestration
