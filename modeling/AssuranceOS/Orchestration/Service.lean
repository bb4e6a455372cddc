/-
The orchestration service (`orchestration/service.py`).

Every public method of `Orchestrator` owns one transaction: it is a function
from the database and a clock reading to `Except`, and an error rolls the
transaction back (`step`).  The `while changed` loop of the reconciliation is
`reconcileLoop`, with one iteration of fuel per task and one to notice that
nothing changed.
-/
import AssuranceOS.Lib.Saturate
import AssuranceOS.Orchestration.Compiler
import AssuranceOS.Orchestration.Repository

namespace Orchestration

structure TaskSnapshot where
  taskId : String
  taskKey : String
  status : TaskStatus
  attemptCount : Nat
  leaseOwner : Option String
  leaseExpiresAt : Option Timestamp
  availableAt : Option Timestamp
  humanGate : Option String
  reviewStatus : Option ReviewStatus
  errorClass : Option ErrorClass
  outputRefs : List String

structure EngagementSnapshot where
  tenantId : String
  engagementId : String
  status : EngagementStatus
  tasks : List TaskSnapshot

/-- The counters that `tick` returns. -/
structure Maintenance where
  expiredLeases : Nat
  overdueTasks : Nat
  promotedRetries : Nat
  reconciledEngagements : Nat

/-- Raise `error` unless `c` holds. -/
def require (c : Prop) [Decidable c] (error : OrchestrationError) :
    Except OrchestrationError Unit :=
  if c then .ok () else .error error

namespace Orchestrator

open Database

def recordTaskCreated (db : Database) (now : Timestamp) (task : EngagementTask) : Database :=
  db.recordTask now task
    (.taskCreated task.taskKey task.taskType task.status task.definitionVersion task.humanGate)

/-- The event of a transition; the payload carries the attempt count that the
row has after it. -/
def recordTaskTransition (db : Database) (now : Timestamp) (task : EngagementTask)
    (fromStatus : TaskStatus) (reason : TransitionReason) (extra : Extra) : Database :=
  db.recordTask now task
    (.taskTransitioned task.taskKey fromStatus task.status reason task.attemptCount extra)

/-- Give the engagement row the status `target`, with an event if that is a
change; the other attributes of the row are written in any case. -/
def transitionEngagement (db : Database) (now : Timestamp) (engagement : Engagement)
    (target : EngagementStatus) (reason : EngagementReason) (extra : Extra) : Database :=
  if engagement.status = target then db.putEngagement engagement
  else
    (db.putEngagement { engagement with status := target }).recordEngagement now
      engagement.tenantId engagement.engagementId
      (.engagementTransitioned engagement.status target reason extra)

def requireEngagement (db : Database) (tenantId engagementId : String) :
    Except OrchestrationError Engagement :=
  match db.getEngagement tenantId engagementId with
  | none => .error (.engagementNotFound engagementId)
  | some engagement => .ok engagement

def requireTask (db : Database) (tenantId taskId : String) :
    Except OrchestrationError EngagementTask :=
  match db.getTask tenantId taskId with
  | none => .error (.taskNotFound taskId)
  | some task => .ok task

def leaseFromTask (task : EngagementTask) : Except OrchestrationError TaskLease :=
  match task.leaseOwner, task.leaseExpiresAt with
  | some leaseOwner, some leaseExpiresAt =>
    .ok { tenantId := task.tenantId, engagementId := task.engagementId, taskId := task.taskId,
          taskKey := task.taskKey, taskType := task.taskType,
          assignedAgentRole := task.assignedAgentRole, attemptCount := task.attemptCount,
          leaseOwner := leaseOwner, leaseExpiresAt := leaseExpiresAt,
          inputRefs := task.inputRefs, executionPolicy := task.executionPolicy,
          modelPolicy := task.modelPolicy, toolPolicy := task.toolPolicy,
          deadlineAt := task.deadlineAt, humanGate := task.humanGate }
  | _, _ => .error .assertionError

def taskSnapshot (task : EngagementTask) : TaskSnapshot where
  taskId := task.taskId
  taskKey := task.taskKey
  status := task.status
  attemptCount := task.attemptCount
  leaseOwner := task.leaseOwner
  leaseExpiresAt := task.leaseExpiresAt
  availableAt := task.availableAt
  humanGate := task.humanGate
  reviewStatus := task.reviewStatus
  errorClass := task.errorClass
  outputRefs := task.outputRefs

/-- `Orchestrator.snapshot`. -/
def snapshot (db : Database) (tenantId engagementId : String) :
    Except OrchestrationError EngagementSnapshot := do
  let engagement ← requireEngagement db tenantId engagementId
  pure { tenantId := engagement.tenantId
         engagementId := engagement.engagementId
         status := engagement.status
         tasks := (db.listTasks engagement.tenantId engagement.engagementId).map taskSnapshot }

/-- The new state together with the snapshot that the call returns. -/
def withSnapshot (db : Database) (tenantId engagementId : String) :
    Except OrchestrationError (Database × EngagementSnapshot) := do
  let result ← snapshot db tenantId engagementId
  pure (db, result)

def dependenciesSatisfied (db : Database) (dependencies : List TaskDependency) : Bool :=
  dependencies.all fun d =>
    (db.findTask d.dependsOnTaskId).any fun row => row.status ∈ d.allowedStatuses

/-- The row and the reason with which a task whose dependencies are satisfied
leaves `pending`. -/
def promote (now : Timestamp) (task : EngagementTask) : EngagementTask × TransitionReason :=
  if elapsed task.deadlineAt now then
    ({ task with
        status := .failed
        completedAt := some now
        errorClass := some .deadlineExceeded
        lastError := some "task deadline elapsed before it became runnable" }, .deadlineExceeded)
  else if PyString.truthy task.humanGate ∧ task.executionPolicy.gatePosition = .before
      ∧ task.reviewStatus ≠ some .approved then
    ({ task with status := .waitingApproval, reviewStatus := some .pending },
      .preExecutionGateRequired)
  else
    ({ task with status := .ready, availableAt := some now }, .dependenciesSatisfied)

/-- The body of the inner loop for one task; `none` when it leaves the task as
it is. -/
def reconcileTask (dependencies : List TaskDependency) (now : Timestamp) (db : Database)
    (taskId : String) : Option Database :=
  match db.findTask taskId with
  | none => none
  | some task =>
    if task.status ≠ .pending then none
    else
      let taskDependencies := dependencies.filter fun d => d.taskId = taskId
      let dependencyRows := taskDependencies.filterMap fun d => db.findTask d.dependsOnTaskId
      -- One failed prerequisite blocks the task, whatever the others are doing.
      if dependencyRows.any fun row => row.status.isFailure then
        let task := { task with
          status := .blocked
          completedAt := some now
          errorClass := some .dependencyFailed
          lastError := some "one or more prerequisite tasks did not complete successfully" }
        some (recordTaskTransition (db.putTask task) now task .pending .dependencyFailed .none)
      else if ¬ dependenciesSatisfied db taskDependencies then none
      else
        let (task, reason) := promote now task
        some (recordTaskTransition (db.putTask task) now task .pending reason .none)

/-- `while changed`: passes over the tasks until one changes nothing. -/
def reconcileLoop (dependencies : List TaskDependency) (now : Timestamp)
    (taskIds : List String) (fuel : Nat) (db : Database) : Database :=
  Saturate.loop (reconcileTask dependencies now) taskIds fuel db

/-- The status an engagement has by its tasks' statuses, the reason, and
whether `completed_at` is set with it. -/
def engagementTarget (statuses : List TaskStatus) : EngagementStatus × EngagementReason × Bool :=
  if ∀ s ∈ statuses, s = .succeeded ∨ s = .skipped then
    (.completed, .allTasksCompleted, true)
  else if ∃ s ∈ statuses, s = .ready ∨ s = .running ∨ s = .retryWait then
    (.running, .workInProgress, false)
  else if .waitingApproval ∈ statuses then
    (.waitingApproval, .humanDecisionRequired, false)
  else if .failed ∈ statuses then
    (.failed, .taskFailed, true)
  else if .blocked ∈ statuses then
    (.blocked, .dependencyBlocked, false)
  else
    (.running, .waitingForDependencies, false)

def reconcileEngagementStatus (db : Database) (now : Timestamp) (engagement : Engagement)
    (tasks : List EngagementTask) : Database :=
  -- A cancelled engagement stays cancelled, whatever becomes of its tasks.
  if engagement.status = .cancelled then db
  else
    let (target, reason, completed) := engagementTarget (tasks.map (·.status))
    let engagement :=
      if completed then { engagement with completedAt := some now } else engagement
    transitionEngagement db now engagement target reason .none

def reconcileEngagement (db : Database) (now : Timestamp) (engagement : Engagement) : Database :=
  let tasks := db.listTasks engagement.tenantId engagement.engagementId
  if tasks.isEmpty then db
  else
    let dependencies := db.listDependencies engagement.tenantId engagement.engagementId
    let taskIds := tasks.map (·.taskId)
    let db := reconcileLoop dependencies now taskIds (taskIds.length + 1) db
    reconcileEngagementStatus db now engagement
      (db.listTasks engagement.tenantId engagement.engagementId)

/-! ### Failures and maintenance -/

/-- Schedule a retry or fail the task; the result also gives the new row. -/
def applyFailure (db : Database) (now : Timestamp) (task : EngagementTask)
    (failureClass : FailureClass) (message : String) (forceRetryable : Option Bool) :
    Database × EngagementTask :=
  let fromStatus := task.status
  let retryPolicy := task.executionPolicy.retryPolicy
  let retryable := forceRetryable.getD (failureClass ∈ retryPolicy.retryableFailures)
  -- The attempt that failed is already counted.
  let withinAttemptBudget := task.attemptCount < retryPolicy.maxAttempts
  let beforeDeadline := ¬ elapsed task.deadlineAt now
  let task := { task with
    leaseOwner := none
    leaseExpiresAt := none
    errorClass := some (.failure failureClass)
    lastError := some message }
  if retryable ∧ withinAttemptBudget ∧ beforeDeadline then
    let delay := retryPolicy.delayForAttempt task.attemptCount
    let task := { task with status := .retryWait, availableAt := some (now + timedelta delay) }
    (recordTaskTransition (db.putTask task) now task fromStatus .retryScheduled
      (.retry failureClass message delay), task)
  else
    let task := { task with status := .failed, availableAt := none, completedAt := some now }
    (recordTaskTransition (db.putTask task) now task fromStatus .executionFailed
      (.failure failureClass message retryable withinAttemptBudget), task)

def leaseExpiredMessage : String := "worker lease expired before task completion"

def recoverExpiredLease (now : Timestamp) (db : Database) (task : EngagementTask) : Database :=
  let (db, task) := applyFailure db now task .leaseExpired leaseExpiredMessage none
  db.finishAttempt task now
    { status := .leaseExpired, failureClass := some (.failure .leaseExpired),
      errorMessage := some leaseExpiredMessage }

def recoverExpiredLeases (db : Database) (tenantId : String) (now : Timestamp) :
    Database × Nat :=
  let tasks := db.expiredRunningTasks tenantId now
  (tasks.foldl (recoverExpiredLease now) db, tasks.length)

def promoteDueRetry (now : Timestamp) (db : Database) (task : EngagementTask) : Database :=
  let task := { task with status := .ready, availableAt := none }
  recordTaskTransition (db.putTask task) now task .retryWait .retryDelayElapsed .none

def promoteDueRetries (db : Database) (tenantId : String) (now : Timestamp) : Database × Nat :=
  let tasks := db.dueRetryTasks tenantId now
  (tasks.foldl (promoteDueRetry now) db, tasks.length)

def deadlineMessage : String := "task deadline elapsed before successful completion"

def failOverdueTask (now : Timestamp) (db : Database) (task : EngagementTask) : Database :=
  let fromStatus := task.status
  let task := { task with
    status := .failed
    completedAt := some now
    leaseOwner := none
    leaseExpiresAt := none
    availableAt := none
    errorClass := some .deadlineExceeded
    lastError := some deadlineMessage }
  let db := db.putTask task
  let db :=
    if fromStatus = .running then
      db.finishAttempt task now
        { status := .failed, failureClass := some .deadlineExceeded,
          errorMessage := some deadlineMessage }
    else db
  recordTaskTransition db now task fromStatus .deadlineExceeded .none

def failOverdueTasks (db : Database) (tenantId : String) (now : Timestamp) : Database × Nat :=
  let tasks := db.overdueNonterminalTasks tenantId now
  (tasks.foldl (failOverdueTask now) db, tasks.length)

def compileWorkflow (db : Database) (now : Timestamp) (tenantId engagementId : String)
    (workflow : WorkflowDefinition) (taskIds : String → String)
    (createdAt : String → Timestamp) :
    Except OrchestrationError (Database × EngagementSnapshot) := do
  let _ ← requireEngagement db tenantId engagementId
  let (db, tasks) ←
    WorkflowCompiler.compile db tenantId engagementId workflow now taskIds createdAt
  let db := tasks.foldl (fun db task => recordTaskCreated db now task) db
  let db := db.recordEngagement now tenantId engagementId
    (.workflowCompiled workflow.workflowVersion tasks.length workflow.metadata)
  withSnapshot db tenantId engagementId

def startEngagement (db : Database) (now : Timestamp) (tenantId engagementId : String) :
    Except OrchestrationError (Database × EngagementSnapshot) := do
  let engagement ← requireEngagement db tenantId engagementId
  require (engagement.status = .planned) (.engagementNotPlanned engagementId engagement.status)
  require (¬ (db.listTasks tenantId engagementId).isEmpty) .noTaskGraph
  let engagement := { engagement with startedAt := some now }
  let db := transitionEngagement db now engagement .running .engagementStarted .none
  -- The reconciliation works on the row that the transition has written.
  let engagement := { engagement with status := .running }
  withSnapshot (reconcileEngagement db now engagement) tenantId engagementId

def tick (db : Database) (now : Timestamp) (tenantId : String) : Database × Maintenance :=
  -- Each sweep selects from the rows as the sweep before left them.
  let (db, expired) := recoverExpiredLeases db tenantId now
  let (db, overdue) := failOverdueTasks db tenantId now
  let (db, promoted) := promoteDueRetries db tenantId now
  let engagements := db.listActiveEngagements tenantId
  (engagements.foldl (fun db engagement => reconcileEngagement db now engagement) db,
    { expiredLeases := expired, overdueTasks := overdue, promotedRetries := promoted,
      reconciledEngagements := engagements.length })

/-- Leases the best task that is ready to the worker. -/
def claimNext (db : Database) (now : Timestamp) (tenantId workerId : String)
    (leaseSeconds : Int) (filter : ClaimFilter) :
    Except OrchestrationError (Database × Option TaskLease) := do
  require (0 < leaseSeconds) (.valueError "lease_seconds must be positive")
  match db.claimNext tenantId workerId now leaseSeconds filter with
  | none => pure (db, none)
  | some (db, task) =>
    match db.startAttempt task workerId now with
    -- The attempt number is taken: the flush raises and the claim is rolled back.
    | none => throw .integrityError
    | some db =>
      let db := recordTaskTransition db now task .ready .workerClaimed
        (.lease workerId task.leaseExpiresAt)
      let lease ← leaseFromTask task
      pure (db, some lease)

def heartbeat (db : Database) (now : Timestamp) (tenantId taskId workerId : String)
    (leaseSeconds : Int) : Except OrchestrationError (Database × TaskLease) := do
  require (0 < leaseSeconds) (.valueError "lease_seconds must be positive")
  match db.extendLease tenantId taskId workerId now leaseSeconds with
  | none => throw .leaseConflict
  | some (db, task) =>
    let db := db.updateAttemptLease tenantId task.taskId task.attemptCount task.leaseExpiresAt
    let db := db.recordTask now task
      (.taskHeartbeat workerId task.leaseExpiresAt task.attemptCount)
    let lease ← leaseFromTask task
    pure (db, lease)

/-- The row and the reason with which an executed task leaves `running`. -/
def executedTask (now : Timestamp) (result : TaskExecutionResult) (task : EngagementTask) :
    EngagementTask × TransitionReason :=
  let task := { task with
    outputRefs := result.outputRefs
    result := some result.result
    leaseOwner := none
    leaseExpiresAt := none
    errorClass := none
    lastError := none }
  if PyString.truthy task.humanGate ∧ task.executionPolicy.gatePosition = .after then
    ({ task with status := .waitingApproval, reviewStatus := some .pending },
      .postExecutionGateRequired)
  else
    ({ task with status := .succeeded, completedAt := some now }, .executionSucceeded)

def completeTask (db : Database) (now : Timestamp) (tenantId taskId workerId : String)
    (result : TaskExecutionResult) :
    Except OrchestrationError (Database × EngagementSnapshot) := do
  let task ← requireTask db tenantId taskId
  require (leaseMatches task workerId now) .leaseConflict
  let fromStatus := task.status
  let (task, reason) := executedTask now result task
  let db := (db.putTask task).finishAttempt task now
    { status := .succeeded, result := some result.result, outputRefs := result.outputRefs }
  let db := recordTaskTransition db now task fromStatus reason (.outputs task.outputRefs)
  let engagement ← requireEngagement db tenantId task.engagementId
  withSnapshot (reconcileEngagement db now engagement) tenantId task.engagementId

def failTask (db : Database) (now : Timestamp) (tenantId taskId workerId : String)
    (failureClass : FailureClass) (message : String) (forceRetryable : Option Bool) :
    Except OrchestrationError (Database × EngagementSnapshot) := do
  let task ← requireTask db tenantId taskId
  require (leaseMatches task workerId now) .leaseConflict
  let (db, task) := applyFailure db now task failureClass message forceRetryable
  let db := db.finishAttempt task now
    { status := if task.status = .retryWait then .retryScheduled else .failed,
      failureClass := some (.failure failureClass), errorMessage := some message }
  let engagement ← requireEngagement db tenantId task.engagementId
  withSnapshot (reconcileEngagement db now engagement) tenantId task.engagementId

def decideTask (now : Timestamp) (task : EngagementTask) (decision : GateDecision)
    (approved : Bool) : EngagementTask :=
  if approved then
    let task := { task with
      reviewStatus := some .approved, errorClass := none, lastError := none }
    -- The approval of a gate after the execution is what completes the task.
    if task.executionPolicy.gatePosition = .before then { task with status := .ready }
    else { task with status := .succeeded, completedAt := some now }
  else
    { task with
      reviewStatus := some .rejected
      errorClass := some (.failure .humanRejected)
      lastError := some decision.reason
      status := .failed
      completedAt := some now }

def decideGate (db : Database) (now : Timestamp) (tenantId taskId : String)
    (decision : GateDecision) (approved : Bool) :
    Except OrchestrationError (Database × EngagementSnapshot) := do
  let task ← requireTask db tenantId taskId
  require (task.status = .waitingApproval ∧ PyString.truthy task.humanGate) .notWaitingAtGate
  let task := decideTask now task decision approved
  let db := recordTaskTransition (db.putTask task) now task .waitingApproval
    (if approved then .humanGateApproved else .humanGateRejected)
    (.gate task.humanGate task.executionPolicy.gatePosition decision.actorId decision.reason)
  let engagement ← requireEngagement db tenantId task.engagementId
  withSnapshot (reconcileEngagement db now engagement) tenantId task.engagementId

def approveGate (db : Database) (now : Timestamp) (tenantId taskId : String)
    (decision : GateDecision) : Except OrchestrationError (Database × EngagementSnapshot) :=
  decideGate db now tenantId taskId decision true

def rejectGate (db : Database) (now : Timestamp) (tenantId taskId : String)
    (decision : GateDecision) : Except OrchestrationError (Database × EngagementSnapshot) :=
  decideGate db now tenantId taskId decision false

def cancelTask (now : Timestamp) (actorId reason : String) (db : Database)
    (task : EngagementTask) : Database :=
  if task.status.isTerminal then db
  else
    let fromStatus := task.status
    let task := { task with
      status := .cancelled
      leaseOwner := none
      leaseExpiresAt := none
      availableAt := none
      completedAt := some now
      errorClass := some .engagementCancelled
      lastError := some reason }
    let db := db.putTask task
    let db :=
      if fromStatus = .running then
        db.finishAttempt task now
          { status := .cancelled, failureClass := some .engagementCancelled,
            errorMessage := some reason }
      else db
    recordTaskTransition db now task fromStatus .engagementCancelled (.decision actorId reason)

def cancelEngagement (db : Database) (now : Timestamp) (tenantId engagementId : String)
    (actorId reason : String) : Except OrchestrationError (Database × EngagementSnapshot) := do
  require (¬ PyString.isBlank reason) (.valueError "cancellation reason is required")
  let engagement ← requireEngagement db tenantId engagementId
  -- A failed engagement can still be cancelled.
  require (engagement.status ≠ .completed ∧ engagement.status ≠ .cancelled)
    (.cannotCancel engagement.status)
  let db := (db.listTasks tenantId engagementId).foldl (cancelTask now actorId reason) db
  let engagement := { engagement with completedAt := some now }
  let db := transitionEngagement db now engagement .cancelled .cancelledByUser
    (.decision actorId reason)
  withSnapshot db tenantId engagementId

/-- The row that `force_retry_task` makes claimable again. -/
def retriedTask (now : Timestamp) (task : EngagementTask) : EngagementTask :=
  { task with
    status := .ready
    availableAt := some now
    completedAt := none
    leaseOwner := none
    leaseExpiresAt := none
    errorClass := none
    lastError := none
    reviewStatus := none }

def forceRetryTask (db : Database) (now : Timestamp) (tenantId taskId : String)
    (actorId reason : String) : Except OrchestrationError (Database × EngagementSnapshot) := do
  require (¬ PyString.isBlank reason) (.valueError "administrative retry reason is required")
  let task ← requireTask db tenantId taskId
  let current := task.status
  -- Only the status counts here: the prerequisites of the task, its gate and the
  -- status of its engagement are not looked at.
  require (current = .failed ∨ current = .blocked ∨ current = .retryWait) (.cannotRetry current)
  let task := retriedTask now task
  let db := recordTaskTransition (db.putTask task) now task current .administrativeRetry
    (.decision actorId reason)
  let engagement ← requireEngagement db tenantId task.engagementId
  -- The engagement is reopened; a cancelled one keeps its status all the same.
  let engagement := { engagement with completedAt := none }
  let db := db.putEngagement engagement
  withSnapshot (reconcileEngagement db now engagement) tenantId task.engagementId

/-- The row that `force_skip_task` leaves. -/
def skippedTask (now : Timestamp) (task : EngagementTask) : EngagementTask :=
  { task with
    status := .skipped
    completedAt := some now
    availableAt := none
    leaseOwner := none
    leaseExpiresAt := none
    errorClass := none
    lastError := none }

def forceSkipTask (db : Database) (now : Timestamp) (tenantId taskId : String)
    (actorId reason : String) : Except OrchestrationError (Database × EngagementSnapshot) := do
  require (¬ PyString.isBlank reason) (.valueError "administrative skip reason is required")
  let task ← requireTask db tenantId taskId
  let current := task.status
  require (¬ (current = .succeeded ∨ current = .skipped ∨ current = .cancelled))
    (.cannotSkip current)
  let db :=
    -- The attempt is closed while the row still holds the lease, which it copies.
    if current = .running then
      db.finishAttempt task now
        { status := .cancelled, failureClass := some .administrativeSkip,
          errorMessage := some reason }
    else db
  let task := skippedTask now task
  let db := recordTaskTransition (db.putTask task) now task current .administrativeSkip
    (.decision actorId reason)
  let engagement ← requireEngagement db tenantId task.engagementId
  -- `completed_at` of the engagement is not cleared first, unlike in a retry.
  withSnapshot (reconcileEngagement db now engagement) tenantId task.engagementId

end Orchestrator

/-- The public operations with their arguments. -/
inductive Op where
  | compileWorkflow (tenantId engagementId : String) (workflow : WorkflowDefinition)
      (taskIds : String → String) (createdAt : String → Timestamp)
  | startEngagement (tenantId engagementId : String)
  | tick (tenantId : String)
  | claimNext (tenantId workerId : String) (leaseSeconds : Int)
      (filter : Database.ClaimFilter)
  | heartbeat (tenantId taskId workerId : String) (leaseSeconds : Int)
  | completeTask (tenantId taskId workerId : String) (result : TaskExecutionResult)
  | failTask (tenantId taskId workerId : String) (failureClass : FailureClass)
      (message : String) (forceRetryable : Option Bool)
  | approveGate (tenantId taskId : String) (decision : GateDecision)
  | rejectGate (tenantId taskId : String) (decision : GateDecision)
  | cancelEngagement (tenantId engagementId : String) (actorId reason : String)
  | forceRetryTask (tenantId taskId : String) (actorId reason : String)
  | forceSkipTask (tenantId taskId : String) (actorId reason : String)

def Op.exec (db : Database) (now : Timestamp) : Op → Except OrchestrationError Database
  | .compileWorkflow tenantId engagementId workflow taskIds createdAt =>
    (Orchestrator.compileWorkflow db now tenantId engagementId workflow taskIds createdAt).map
      Prod.fst
  | .startEngagement tenantId engagementId =>
    (Orchestrator.startEngagement db now tenantId engagementId).map Prod.fst
  | .tick tenantId => .ok (Orchestrator.tick db now tenantId).1
  | .claimNext tenantId workerId leaseSeconds filter =>
    (Orchestrator.claimNext db now tenantId workerId leaseSeconds filter).map Prod.fst
  | .heartbeat tenantId taskId workerId leaseSeconds =>
    (Orchestrator.heartbeat db now tenantId taskId workerId leaseSeconds).map Prod.fst
  | .completeTask tenantId taskId workerId result =>
    (Orchestrator.completeTask db now tenantId taskId workerId result).map Prod.fst
  | .failTask tenantId taskId workerId failureClass message forceRetryable =>
    (Orchestrator.failTask db now tenantId taskId workerId failureClass message
      forceRetryable).map Prod.fst
  | .approveGate tenantId taskId decision =>
    (Orchestrator.approveGate db now tenantId taskId decision).map Prod.fst
  | .rejectGate tenantId taskId decision =>
    (Orchestrator.rejectGate db now tenantId taskId decision).map Prod.fst
  | .cancelEngagement tenantId engagementId actorId reason =>
    (Orchestrator.cancelEngagement db now tenantId engagementId actorId reason).map Prod.fst
  | .forceRetryTask tenantId taskId actorId reason =>
    (Orchestrator.forceRetryTask db now tenantId taskId actorId reason).map Prod.fst
  | .forceSkipTask tenantId taskId actorId reason =>
    (Orchestrator.forceSkipTask db now tenantId taskId actorId reason).map Prod.fst

/-- One call at one clock reading; a call that raises rolls back. -/
def step (db : Database) (call : Timestamp × Op) : Database :=
  match call.2.exec db call.1 with
  | .ok db' => db'
  | .error _ => db

/-- Every operation with the time it is called at. -/
def run (db : Database) (calls : List (Timestamp × Op)) : Database :=
  calls.foldl step db

/-- A database before any workflow is compiled: planned engagements, and empty
tables otherwise. -/
structure Fresh (db : Database) : Prop where
  engagementKeys : (db.engagements.map (·.engagementId)).Nodup
  planned : ∀ e ∈ db.engagements, e.status = .planned ∧ e.completedAt = none
  tasks : db.tasks = []
  dependencies : db.dependencies = []
  attempts : db.attempts = []
  auditEvents : db.auditEvents = []

def sampleDatabase : Database where
  engagements := [{ engagementId := "engagement", tenantId := "tenant", createdAt := 0 }]
  uuid := fun n => String.ofList (List.replicate n 'x')

theorem sampleDatabase_fresh : Fresh sampleDatabase where
  engagementKeys := by decide
  planned := by decide
  tasks := rfl
  dependencies := rfl
  attempts := rfl
  auditEvents := rfl

/-- Compile a workflow for the engagement of `sampleDatabase`; the task ids are
the task keys. -/
def sampleCompile (tasks : List TaskDefinition) (h : tasks ≠ []) : Op :=
  .compileWorkflow "tenant" "engagement"
    { workflowVersion := "1", tasks := tasks, tasks_ne_nil := h } id fun _ => 0

def sampleReport : TaskDefinition where
  key := "report"
  taskType := "report"

/-- Collect evidence, then report; the report waits for a success. -/
def sampleTasks : List TaskDefinition :=
  [{ key := "collect", taskType := "evidence" },
    { sampleReport with
      dependencies := [{ taskKey := "collect", allowedStatuses := [.succeeded] }] }]

theorem sampleTasks_ne_nil : sampleTasks ≠ [] := by simp [sampleTasks]

/-- `sampleTasks` compiled and started. -/
def sampleStart : List (Timestamp × Op) :=
  [(0, sampleCompile sampleTasks sampleTasks_ne_nil),
    (1, .startEngagement "tenant" "engagement")]

/-- Then the first task is claimed and fails, which blocks the second. -/
def sampleFailed : List (Timestamp × Op) :=
  sampleStart ++
    [(2, .claimNext "tenant" "worker" 10 {}),
      (3, .failTask "tenant" "collect" "worker" .configurationError "misconfigured" none)]

end Orchestration
