/-
The finding lifecycle and the requests of the adjudication service
(`adjudication/definitions.py`).

`allowedTransitions` is the table that the service consults.  The length bounds
and validators of the request models are fields of the structures, so a request
that the source would refuse cannot be built here; lengths count code points.
-/
import AssuranceOS.Adjudication.Materiality

namespace Adjudication

structure Date where
  year : Nat
  month : Nat
  day : Nat
  year_range : 1 ≤ year ∧ year ≤ 9999 := by decide
  month_range : 1 ≤ month ∧ month ≤ 12 := by decide
  day_range : 1 ≤ day ∧ day ≤ 31 := by decide
  deriving DecidableEq

/-- `a < b`. -/
def Date.lt (a b : Date) : Bool :=
  a.year < b.year || (a.year = b.year && (a.month < b.month || (a.month = b.month && a.day < b.day)))

/-- `date.isoformat()`. -/
def Date.isoformat (d : Date) : String :=
  let digits (width n : Nat) :=
    String.ofList ((List.range width).reverse.map fun i => Nat.digitChar (n / 10 ^ i % 10))
  digits 4 d.year ++ "-" ++ digits 2 d.month ++ "-" ++ digits 2 d.day

inductive FindingStatus where
  | proposed
  | rejected
  | approved
  | disputed
  | withdrawn
  | remediationOpen
  | remediationDeclaredComplete
  | retestInProgress
  | closedVerified
  | reopened
  | riskAccepted
  | deferred
  deriving DecidableEq, Repr

inductive HumanDecision where
  | approve
  | reject
  | returnForRework
  | defer
  | acceptRisk
  deriving DecidableEq, Repr

inductive DisputeGround where
  | criteriaIncorrect
  | conditionInaccurate
  | severityOverstated
  | materialityDisputed
  | evidenceSuperseded
  | compensatingControlOmitted
  | outOfScope
  deriving DecidableEq, Repr

inductive DisputeResolution where
  | upheld
  | modified
  | withdrawn
  deriving DecidableEq, Repr

inductive RetestOutcome where
  | closedVerified
  | partiallyRemediated
  | ineffective
  | insufficientEvidence
  | reopen
  deriving DecidableEq, Repr

/-- Membership in `CLOSING_OUTCOMES`. -/
def RetestOutcome.isClosing (outcome : RetestOutcome) : Bool :=
  outcome = .closedVerified

/-- `ALLOWED_TRANSITIONS`. -/
def allowedTransitions : FindingStatus → List FindingStatus
  | .proposed => [.approved, .rejected, .deferred, .riskAccepted, .disputed]
  | .approved => [.remediationOpen, .disputed]
  | .disputed => [.proposed, .approved, .rejected, .withdrawn]
  | .withdrawn => []
  | .remediationOpen => [.remediationDeclaredComplete]
  | .remediationDeclaredComplete => [.retestInProgress]
  | .retestInProgress => [.closedVerified, .reopened]
  | .reopened => [.remediationOpen]
  | .closedVerified => []
  | .rejected => []
  | .riskAccepted => []
  | .deferred => [.approved, .rejected]

/-- `_DECISION_TARGET` of the service. -/
def decisionTarget : HumanDecision → FindingStatus
  | .approve => .approved
  | .reject => .rejected
  | .defer => .deferred
  | .acceptRisk => .riskAccepted
  -- rework leaves the finding where it is
  | .returnForRework => .proposed

inductive ContradictionKind where
  | approvedException
  | outOfPeriod
  | compensatingControl
  | supersededEvidence
  | duplicateOfExisting
  deriving DecidableEq, Repr

def ContradictionKind.value : ContradictionKind → String
  | .approvedException => "approved_exception"
  | .outOfPeriod => "out_of_period"
  | .compensatingControl => "compensating_control"
  | .supersededEvidence => "superseded_evidence"
  | .duplicateOfExisting => "duplicate_of_existing"

structure Contradiction where
  kind : ContradictionKind
  subjectRef : String
  detail : String
  evidenceIds : List String := []
  detail_length : LengthIn 3 2000 detail

/-- The pattern `^[A-Z][A-Z0-9_-]{2,63}$`. -/
def isCode (s : String) : Bool :=
  let upper (c : Char) := 'A' ≤ c && c ≤ 'Z'
  match s.toList with
  | [] => false
  | c :: cs =>
    upper c && (2 ≤ cs.length && cs.length ≤ 63) &&
      cs.all fun c => upper c || ('0' ≤ c && c ≤ '9') || c = '_' || c = '-'

structure ProposedFinding where
  code : String
  title : String
  severity : Severity
  confidence : ℚ
  criteria : String
  observedCondition : String
  riskStatement : String
  cause : Option String := none
  consequence : Option String := none
  businessObjective : Option String := none
  evidenceIds : List String
  exceptionKeys : List String := []
  affectedPopulation : JsonObject := []
  limitations : List String := []
  sourceRunId : Option String := none
  code_pattern : isCode code := by decide
  title_length : LengthIn 3 255 title := by decide
  confidence_nonneg : 0 ≤ confidence := by decide +kernel
  confidence_le : confidence ≤ 1 := by decide +kernel
  criteria_length : 3 ≤ criteria.length := by decide
  observedCondition_length : 3 ≤ observedCondition.length := by decide
  riskStatement_length : 3 ≤ riskStatement.length := by decide
  must_cite_evidence : evidenceIds ≠ [] := by decide

structure SkepticVerdict where
  supported : Bool
  contradictions : List Contradiction := []
  rationale : String := ""

/-- The distinct names of the kinds, in order, before the rationale. -/
def SkepticVerdict.rejectionReason (v : SkepticVerdict) : String :=
  if v.supported then ""
  else
    let kinds := ", ".intercalate
      (((v.contradictions.map (·.kind.value)).dedup).insertionSort (· ≤ ·))
    if kinds ≠ "" then "contradicted by " ++ kinds ++ ": " ++ v.rationale else v.rationale

structure AdjudicationRequest where
  findingId : String
  decision : HumanDecision
  actorId : String
  reason : String
  idempotencyKey : String
  actorId_length : LengthIn 1 128 actorId := by decide
  reason_length : LengthIn 3 4000 reason := by decide
  idempotencyKey_length : LengthIn 3 255 idempotencyKey := by decide

structure MaterialityRequest where
  findingId : String
  inputs : MaterialityInputs
  policy : Option MaterialityPolicy := none
  assessedBy : String
  assessedBy_length : LengthIn 1 128 assessedBy := by decide

structure SeverityOverrideRequest where
  findingId : String
  severity : Severity
  actorId : String
  reason : String
  actorId_length : LengthIn 1 128 actorId := by decide
  reason_length : LengthIn 10 4000 reason := by decide

structure QualityReviewRequest where
  findingId : String
  reviewerId : String
  notes : Option String := none
  reviewerId_length : LengthIn 1 128 reviewerId := by decide
  notes_length : ∀ s ∈ notes, s.length ≤ 4000 := by simp

structure DisputeRequest where
  findingId : String
  ground : DisputeGround
  statement : String
  raisedBy : String
  evidenceIds : List String := []
  statement_length : LengthIn 10 4000 statement := by decide
  raisedBy_length : LengthIn 1 128 raisedBy := by decide

structure DisputeResolutionRequest where
  disputeId : String
  resolution : DisputeResolution
  reason : String
  resolvedBy : String
  reason_length : LengthIn 10 4000 reason := by decide
  resolvedBy_length : LengthIn 1 128 resolvedBy := by decide

inductive ExternalSystem where
  | none
  | jira
  | servicenow
  deriving DecidableEq, Repr

def ExternalSystem.value : ExternalSystem → String
  | .none => "none"
  | .jira => "jira"
  | .servicenow => "servicenow"

structure RemediationRequest where
  findingId : String
  ownerRef : String
  dueDate : Date
  actionPlan : String
  idempotencyKey : String
  closureEvidenceRequired : Bool := true
  escalationPolicy : JsonObject := []
  externalSystem : ExternalSystem := .none
  externalTarget : Option String := none
  ownerRef_length : LengthIn 1 255 ownerRef := by decide
  actionPlan_length : LengthIn 3 4000 actionPlan := by decide
  idempotencyKey_length : LengthIn 3 255 idempotencyKey := by decide
  externalTarget_length : ∀ s ∈ externalTarget, s.length ≤ 128 := by simp

structure ClosureSubmission where
  actionId : String
  responseText : String
  submittedBy : String
  closureEvidenceIds : List String := []
  actionPlan : Option String := none
  responseText_length : LengthIn 3 4000 responseText := by decide
  submittedBy_length : LengthIn 1 128 submittedBy := by decide

structure RetestRequest where
  actionId : String
  procedureRef : String
  performedBy : String
  idempotencyKey : String
  outcome : RetestOutcome
  evidenceIds : List String := []
  detail : String := ""
  freshEvidenceCollectedAt : Option Timestamp := none
  procedureRef_length : LengthIn 1 255 procedureRef := by decide
  performedBy_length : LengthIn 1 128 performedBy := by decide
  idempotencyKey_length : LengthIn 3 255 idempotencyKey := by decide
  detail_length : detail.length ≤ 4000 := by decide

/-- Which decision the human gate protects. -/
inductive GatedDecision where
  | approval
  | severityOverride
  | disputeResolution
  deriving DecidableEq, Repr

/-- In which role an identity is not independent. -/
inductive ConflictRole where
  | raisedDispute
  | authoredFinding
  | performedQualityReview
  | authorOfTheFinding
  | ownerOfTheRemediation
  | declarerOfCompletion
  deriving DecidableEq, Repr

/-- `adjudication/exceptions.py`, and the errors of the validation and of the
database that a call can end in. -/
inductive AdjudicationError where
  | findingNotFound (findingId : String)
  | remediationNotFound (actionId : String)
  | noActionToReopen (findingId : String)
  | invalidTransition (current requested : FindingStatus)
  | humanGate (actorId : String) (decision : GatedDecision)
  | independence (actorId : String) (role : ConflictRole)
  | closureEvidenceRequired (actionId : String)
  | freshEvidenceRequired (outcome : RetestOutcome)
  | idempotencyConflict (findingId actionId : String)
  | noCurrentAssessment (findingId : String)
  | notBelowFloor (requested floor : Severity)
  | qualityGate (findingId : String) (blockers : List String)
  | disputeAlreadyOpen (findingId : String)
  | disputeNotFound (disputeId : String)
  | disputeNotOpen (disputeId : String)
  | ticketWriterMismatch (actionId registered supplied : String)
  | ticketTargetMissing (actionId externalSystem : String)
  | ticketRefused (externalSystem actionId error : String)
  | validationError
  | integrityError
  deriving DecidableEq, Repr

end Adjudication
