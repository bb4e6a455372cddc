/-
Workflow definitions and the vocabulary of the orchestrator
(`orchestration/definitions.py`).

A `WorkflowDefinition` is what an engagement is compiled from: tasks with
dependencies, a retry policy, an optional deadline and an optional human
gate.  The pydantic validators of the source are fields of the structures, so
a definition that the source would refuse cannot be built here.

Instants are integer microseconds on the UTC time line.  Delays are exact
rationals where the source has floats; `timedelta` rounds them to
microseconds, half to even, as `datetime.timedelta` does.
-/
import Mathlib.Data.Rat.Floor
import AssuranceOS.PyString
import AssuranceOS.Json

namespace Orchestration

/-- Microseconds since the epoch. -/
abbrev Timestamp := Int

inductive TaskStatus where
  | pending
  | ready
  | running
  | retryWait
  | waitingApproval
  | succeeded
  | failed
  | blocked
  | cancelled
  | skipped
  deriving DecidableEq, Repr

inductive EngagementStatus where
  | planned
  | running
  | waitingApproval
  | blocked
  | failed
  | cancelled
  | completed
  deriving DecidableEq, Repr

inductive FailureClass where
  | transientInfrastructure
  | connectorRateLimit
  | authenticationExpired
  | sourceSchemaChange
  | modelTimeout
  | modelPolicyViolation
  | malformedStructuredOutput
  | deterministicTestFailure
  | insufficientEvidence
  | conflictingEvidence
  | humanResponseOverdue
  | revokedAuthorization
  | securityIncident
  | configurationError
  | internalError
  | leaseExpired
  | humanRejected
  deriving DecidableEq, Repr

def defaultRetryableFailures : List FailureClass :=
  [.transientInfrastructure, .connectorRateLimit, .authenticationExpired, .modelTimeout,
    .malformedStructuredOutput, .internalError, .leaseExpired]

/-- `TERMINAL_TASK_STATUSES` of the service. -/
def TaskStatus.isTerminal : TaskStatus → Bool
  | .succeeded | .failed | .blocked | .cancelled | .skipped => true
  | _ => false

/-- `FAILURE_TASK_STATUSES` of the service. -/
def TaskStatus.isFailure : TaskStatus → Bool
  | .failed | .blocked | .cancelled => true
  | _ => false

def roundHalfEven (q : ℚ) : Int :=
  let f := ⌊q⌋
  let r := q - f
  if r < 1 / 2 then f
  else if 1 / 2 < r then f + 1
  else if f % 2 = 0 then f
  else f + 1

/-- `timedelta(seconds=q)` in microseconds. -/
def timedelta (q : ℚ) : Int :=
  roundHalfEven (q * 1000000)

structure RetryPolicy where
  maxAttempts : Nat := 3
  initialDelaySeconds : ℚ := 5
  backoffMultiplier : ℚ := 2
  maxDelaySeconds : ℚ := 300
  retryableFailures : List FailureClass := defaultRetryableFailures
  one_le_maxAttempts : 1 ≤ maxAttempts := by decide
  maxAttempts_le : maxAttempts ≤ 100 := by decide
  initialDelay_nonneg : 0 ≤ initialDelaySeconds := by decide +kernel
  one_le_multiplier : 1 ≤ backoffMultiplier := by decide +kernel
  maxDelay_nonneg : 0 ≤ maxDelaySeconds := by decide +kernel

/-- The delay after a failed attempt; `attemptCount` is one-based because a
claim increments the count before execution begins. -/
def RetryPolicy.delayForAttempt (policy : RetryPolicy) (attemptCount : Nat) : ℚ :=
  let exponent := attemptCount - 1
  min (policy.initialDelaySeconds * policy.backoffMultiplier ^ exponent) policy.maxDelaySeconds

structure DependencyDefinition where
  taskKey : String
  allowedStatuses : List TaskStatus := [.succeeded, .skipped]
  allowed_ne_nil : allowedStatuses ≠ [] := by decide
  allowed_succeeded_or_skipped :
    ∀ s ∈ allowedStatuses, s = TaskStatus.succeeded ∨ s = TaskStatus.skipped := by decide

inductive GatePosition where
  | before
  | after
  deriving DecidableEq, Repr

/-- The key pattern `^[a-z0-9][a-z0-9._-]*$`, at most 128 characters. -/
def validKey (key : String) : Bool :=
  let first := fun c : Char => c.isLower || c.isDigit
  let rest := fun c : Char => first c || c == '.' || c == '_' || c == '-'
  match key.toList with
  | [] => false
  | c :: cs => first c && cs.all rest && cs.length < 128

structure TaskDefinition where
  key : String
  taskType : String
  definitionVersion : String := "1"
  dependencies : List DependencyDefinition := []
  assignedAgentRole : Option String := none
  inputRefs : List String := []
  executionPolicy : JsonObject := []
  modelPolicy : Option String := none
  toolPolicy : Option String := none
  retryPolicy : RetryPolicy := {}
  priority : Nat := 100
  deadlineSeconds : Option Nat := none
  humanGate : Option String := none
  humanGatePosition : GatePosition := .before
  key_valid : validKey key = true := by decide
  priority_le : priority ≤ 10000 := by decide
  deadline_pos : ∀ s ∈ deadlineSeconds, 1 ≤ s := by decide
  gatePositionRequiresGate : humanGate = none → humanGatePosition = .before := by decide

structure WorkflowDefinition where
  workflowVersion : String
  tasks : List TaskDefinition
  metadata : JsonObject := []
  tasks_ne_nil : tasks ≠ []

/-- The JSON column `execution_policy_json`: the author's entries, with the
two that the compiler writes kept apart.  `humanGatePosition = none` means that
the compiler wrote no position; it is read only for tasks that have a gate,
and for those the compiler always writes one. -/
structure ExecutionPolicy where
  entries : JsonObject
  retryPolicy : RetryPolicy
  humanGatePosition : Option GatePosition

/-- `execution_policy_json.get("human_gate_position", "before")`. -/
def ExecutionPolicy.gatePosition (policy : ExecutionPolicy) : GatePosition :=
  policy.humanGatePosition.getD .before

def TaskDefinition.persistedExecutionPolicy (d : TaskDefinition) : ExecutionPolicy where
  entries := d.executionPolicy
  retryPolicy := d.retryPolicy
  humanGatePosition := if PyString.truthy d.humanGate then some d.humanGatePosition else none

structure TaskExecutionResult where
  outputRefs : List String := []
  result : JsonObject := []

structure GateDecision where
  actorId : String
  reason : String

structure TaskLease where
  tenantId : String
  engagementId : String
  taskId : String
  taskKey : String
  taskType : String
  assignedAgentRole : Option String
  attemptCount : Nat
  leaseOwner : String
  leaseExpiresAt : Timestamp
  inputRefs : List String
  executionPolicy : ExecutionPolicy
  modelPolicy : Option String
  toolPolicy : Option String
  deadlineAt : Option Timestamp
  humanGate : Option String

end Orchestration
