/-
The workflow compiler (`orchestration/compiler.py`).

`validate` refuses a workflow with repeated keys, unknown, repeated or self
dependencies, or a dependency cycle; `compile` turns an accepted workflow into
task and dependency rows.  The identifiers that `new_id` draws and the
`created_at` defaults are inputs (`taskIds`, `createdAt`, by task key); rows
that break a unique constraint make the transaction fail.
-/
import Mathlib.Data.List.Sort
import Mathlib.Data.String.Basic
import AssuranceOS.Lib.Kahn
import AssuranceOS.Orchestration.Store

namespace Orchestration

inductive WorkflowValidationError where
  | duplicateTaskKeys (duplicates : List String)
  | dependencyTwice (key : String)
  | unknownDependencies (key : String) (missing : List String)
  | selfDependency (key : String)
  | dependencyCycle (cyclic : List String)

/-- Everything an orchestration call can raise. -/
inductive OrchestrationError where
  | valueError (message : String)
  | workflowValidation (error : WorkflowValidationError)
  | workflowAlreadyCompiled (engagementId : String)
  | engagementNotFound (engagementId : String)
  | taskNotFound (taskId : String)
  | engagementNotPlanned (engagementId : String) (status : EngagementStatus)
  | noTaskGraph
  | cannotCancel (status : EngagementStatus)
  | cannotRetry (status : TaskStatus)
  | cannotSkip (status : TaskStatus)
  | notWaitingAtGate
  | leaseConflict
  | integrityError
  | assertionError

namespace WorkflowCompiler

/-- `sorted(list)` on strings. -/
def sorted (l : List String) : List String :=
  l.insertionSort (· ≤ ·)

/-- The keys of the tasks, in their order. -/
def taskKeys (tasks : List TaskDefinition) : List String :=
  tasks.map (·.key)

/-- The tasks that the task depends on. -/
def dependencyKeys (task : TaskDefinition) : List String :=
  task.dependencies.map (·.taskKey)

def validateTask (known : List String) (task : TaskDefinition) :
    Except WorkflowValidationError Unit :=
  let dependencies := dependencyKeys task
  let missing := sorted (dependencies.dedup.filter fun key => key ∉ known)
  if ¬ dependencies.Nodup then .error (.dependencyTwice task.key)
  else if missing ≠ [] then .error (.unknownDependencies task.key missing)
  else if task.key ∈ dependencies then .error (.selfDependency task.key)
  else .ok ()

/-- The in-degrees that `_assert_acyclic` starts from. -/
def indegree (tasks : List TaskDefinition) (key : String) : Int :=
  ((tasks.filter fun task => task.key = key).map fun task => (task.dependencies.length : Int)).sum

/-- `sorted(children[key])`. -/
def children (tasks : List TaskDefinition) (key : String) : List String :=
  sorted (tasks.flatMap fun task =>
    (task.dependencies.filter fun dependency => dependency.taskKey = key).map fun _ => task.key)

/-- Enough iterations for every node to be enqueued once and once per edge. -/
def visitFuel (tasks : List TaskDefinition) : Nat :=
  tasks.length + (tasks.map fun task => task.dependencies.length).sum

def visitAll (tasks : List TaskDefinition) : (String → Int) × List String :=
  let ready := sorted ((taskKeys tasks).filter fun key => indegree tasks key = 0)
  Kahn.visit (children tasks) (visitFuel tasks) (indegree tasks) ready []

def assertAcyclic (tasks : List TaskDefinition) : Except WorkflowValidationError Unit :=
  let (degrees, visited) := visitAll tasks
  if visited.length ≠ tasks.length then
    .error (.dependencyCycle (sorted ((taskKeys tasks).filter fun key => 0 < degrees key)))
  else .ok ()

/-- The keys first, then every task by itself, and the graph last. -/
def validate (workflow : WorkflowDefinition) : Except WorkflowValidationError Unit := do
  let keys := taskKeys workflow.tasks
  if ¬ keys.Nodup then
    throw (.duplicateTaskKeys (sorted (keys.dedup.filter fun key => 1 < keys.count key)))
  workflow.tasks.forM (validateTask keys)
  assertAcyclic workflow.tasks

def taskRow (tenantId engagementId : String) (workflow : WorkflowDefinition)
    (compiledAt : Timestamp) (taskIds : String → String) (createdAt : String → Timestamp)
    (definition : TaskDefinition) : EngagementTask where
  taskId := taskIds definition.key
  tenantId := tenantId
  engagementId := engagementId
  taskKey := definition.key
  taskType := definition.taskType
  definitionVersion := definition.definitionVersion
  priority := definition.priority
  assignedAgentRole := definition.assignedAgentRole
  deadlineAt := definition.deadlineSeconds.map fun seconds => compiledAt + timedelta seconds
  inputRefs := definition.inputRefs
  idempotencyKey := engagementId ++ ":" ++ workflow.workflowVersion ++ ":" ++ definition.key ++
    ":" ++ definition.definitionVersion
  executionPolicy := definition.persistedExecutionPolicy
  modelPolicy := definition.modelPolicy
  toolPolicy := definition.toolPolicy
  humanGate := definition.humanGate
  createdAt := createdAt definition.key

/-- The dependency rows of a definition; the JSON column holds
`sorted(status.value for status in allowed_statuses)`. -/
def dependencyRows (tenantId : String) (taskIds : String → String)
    (definition : TaskDefinition) : List TaskDependency :=
  definition.dependencies.map fun dependency =>
    { tenantId := tenantId
      taskId := taskIds definition.key
      dependsOnTaskId := taskIds dependency.taskKey
      allowedStatuses := [TaskStatus.skipped, .succeeded].filter (· ∈ dependency.allowedStatuses) }

/-- The primary key and the unique constraint on `(tenant_id, idempotency_key)`
hold after the rows are added. -/
def insertable (db : Database) (tenantId : String) (rows : List EngagementTask) : Bool :=
  (rows.map (·.taskId)).Nodup
    && rows.all (fun row => db.tasks.all fun task => task.taskId ≠ row.taskId)
    && (rows.map (·.idempotencyKey)).Nodup
    && rows.all (fun row => db.tasks.all fun task =>
        ¬ (task.tenantId = tenantId ∧ task.idempotencyKey = row.idempotencyKey))

/-- Validate the workflow and insert its rows; the result also lists the new
task rows in definition order. -/
def compile (db : Database) (tenantId engagementId : String) (workflow : WorkflowDefinition)
    (compiledAt : Timestamp) (taskIds : String → String) (createdAt : String → Timestamp) :
    Except OrchestrationError (Database × List EngagementTask) :=
  match validate workflow with
  | .error error => .error (.workflowValidation error)
  | .ok () =>
    if db.tasks.any fun task => task.tenantId = tenantId ∧ task.engagementId = engagementId then
      .error (.workflowAlreadyCompiled engagementId)
    else
      let rows := workflow.tasks.map
        (taskRow tenantId engagementId workflow compiledAt taskIds createdAt)
      if insertable db tenantId rows then
        .ok ({ db with
                tasks := db.tasks ++ rows
                dependencies := db.dependencies ++
                  workflow.tasks.flatMap (dependencyRows tenantId taskIds) }, rows)
      else .error .integrityError

end WorkflowCompiler

end Orchestration
