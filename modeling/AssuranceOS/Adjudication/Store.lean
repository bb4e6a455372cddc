/-
The methodology gate (`adjudication/quality.py`) and the tables of the adjudication service
(`db/models/findings.py`), with the audit ledger and the outbox (`db/models/governance.py`).

The texts that explain a verdict of the gate are left out.  An attribute write on a mapped object is a
`Table.put` of the changed row; all writes of a call are flushed before its next query and commit
together.  An event carries its type-specific payload as one constructor of `Payload`.
-/
import AssuranceOS.Adjudication.Definitions
import AssuranceOS.Lib.Table

namespace Adjudication

inductive QualityCheck where
  | evidenceCited
  | contradictionsSearched
  | populationReconciled
  | criteriaStated
  | conditionObserved
  | materialityAssessed
  | severitySupported
  | limitationsDisclosed
  | notSelfReviewed
  deriving DecidableEq, Repr

structure CheckResult where
  check : QualityCheck
  passed : Bool
  deriving DecidableEq, Repr

structure QualityReviewOutcome where
  passed : Bool
  checks : List CheckResult
  contentHash : String
  reviewerId : String
  deriving DecidableEq, Repr

def QualityReviewOutcome.failures (o : QualityReviewOutcome) : List CheckResult :=
  o.checks.filter fun item => !item.passed

/-- What the gate reads of an assessment. -/
structure MaterialityFacts where
  score : ℚ
  severityFloor : Severity
  overrideSeverity : Option Severity

namespace Quality

/-- The severity is at least the floor, or a recorded override explains why it
is lower. -/
def severitySupported (severity : Severity) : Option MaterialityFacts → Bool
  | none => false
  | some m => severityRank m.severityFloor ≤ severityRank severity || m.overrideSeverity.isSome

/-- The reviewer is not the author; a finding without an author is not
reviewable. -/
def notSelfReviewed (u : PyString.UnicodeData) (reviewerId : String) (authoredBy : Option String) :
    Bool :=
  PyString.truthy authoredBy &&
    PyString.lower u (PyString.strip reviewerId) ≠
      PyString.lower u (PyString.strip (authoredBy.getD ""))

def evaluate (u : PyString.UnicodeData) (reviewerId : String) (authoredBy : Option String)
    (severity : Severity) (evidenceIds : List String) (contradictions : List Contradiction)
    (exceptionKeys : List String) (criteria observedCondition : String) (limitations : List String)
    (materiality : Option MaterialityFacts) (skepticRan : Bool) (contentHash : String) :
    QualityReviewOutcome :=
  let checks : List CheckResult :=
    [⟨.evidenceCited, evidenceIds ≠ []⟩,
      -- a search that found nothing is a pass, one that never ran is not
      ⟨.contradictionsSearched, skepticRan⟩,
      ⟨.populationReconciled, exceptionKeys ≠ [] ∨ evidenceIds ≠ []⟩,
      ⟨.criteriaStated, 10 ≤ (PyString.strip criteria).length⟩,
      ⟨.conditionObserved, 10 ≤ (PyString.strip observedCondition).length⟩,
      ⟨.materialityAssessed, materiality.isSome⟩,
      ⟨.severitySupported, severitySupported severity materiality⟩,
      ⟨.limitationsDisclosed, ¬ (contradictions ≠ [] ∧ limitations = [])⟩,
      ⟨.notSelfReviewed, notSelfReviewed u reviewerId authoredBy⟩]
  { passed := checks.all (·.passed)
    checks := checks
    contentHash := contentHash
    reviewerId := reviewerId }

end Quality

structure Finding where
  findingId : String
  tenantId : String
  engagementId : String
  code : String
  version : Nat
  title : String
  status : FindingStatus
  severity : Severity
  confidence : ℚ
  businessObjective : Option String
  riskStatement : String
  criteria : String
  observedCondition : String
  cause : Option String
  consequence : Option String
  affectedPopulation : JsonObject
  limitations : List String
  requiresHumanApproval : Bool := true
  evidenceIds : List String
  contradictions : List Contradiction
  exceptionKeys : List String
  skepticReviewedAt : Option Timestamp
  skepticRationale : Option String
  sourceRunId : Option String
  authoredBy : Option String

/-- Values of the column `decision_type`. -/
inductive DecisionType where
  | skepticReject
  | human (decision : HumanDecision)
  | severityOverride
  | dispute (resolution : DisputeResolution)
  deriving DecidableEq, Repr

structure ApprovalDecision where
  decisionId : String
  tenantId : String
  engagementId : String
  findingId : String
  decisionType : DecisionType
  actorId : String
  reason : String
  decidedAt : Timestamp

structure MaterialityAssessment where
  assessmentId : String
  tenantId : String
  findingId : String
  contentHash : String
  policyId : String
  policy : MaterialityPolicy
  populationSize : Nat
  exceptionCount : Nat
  monetaryExposure : Option ℚ
  factors : List FactorAssertion
  score : ℚ
  material : Bool
  severityFloor : Severity
  assessedBy : String
  assessedAt : Timestamp
  overrideSeverity : Option Severity := none
  overrideReason : Option String := none
  overrideBy : Option String := none

structure QualityReview where
  reviewId : String
  tenantId : String
  findingId : String
  contentHash : String
  reviewerId : String
  passed : Bool
  checks : List CheckResult
  notes : Option String
  reviewedAt : Timestamp

inductive DisputeStatus where
  | open
  | resolved
  deriving DecidableEq, Repr

structure FindingDispute where
  disputeId : String
  tenantId : String
  findingId : String
  roundNo : Nat
  ground : DisputeGround
  statement : String
  raisedBy : String
  raisedAt : Timestamp
  evidenceIds : List String
  priorStatus : FindingStatus
  status : DisputeStatus := .open
  resolution : Option DisputeResolution := none
  resolutionReason : Option String := none
  resolvedBy : Option String := none
  resolvedAt : Option Timestamp := none
  escalated : Bool

inductive ActionStatus where
  | open
  | declaredComplete
  | closed
  | reopened
  deriving DecidableEq, Repr

inductive SyncState where
  | notApplicable
  | pending
  | synced
  | failed
  deriving DecidableEq, Repr

structure RemediationAction where
  actionId : String
  tenantId : String
  findingId : String
  ownerRef : String
  status : ActionStatus := .open
  dueDate : Date
  actionPlan : String
  escalationPolicy : JsonObject
  closureEvidenceRequired : Bool
  declaredCompleteAt : Option Timestamp := none
  idempotencyKey : Option String
  externalSystem : ExternalSystem
  externalTarget : Option String
  externalRef : Option String := none
  externalUrl : Option String := none
  externalSyncState : SyncState
  externalSyncedAt : Option Timestamp := none
  externalError : Option String := none
  completedBy : Option String := none
  createdAt : Timestamp

structure ManagementResponse where
  responseId : String
  tenantId : String
  findingId : String
  version : Nat
  responseText : String
  actionPlan : Option String
  submittedBy : String
  submittedAt : Timestamp
  closureEvidenceIds : List String

/-- `result_json` of a retest. -/
structure RetestResult where
  detail : String
  freshEvidenceCollectedAt : Option Timestamp
  resultingStatus : FindingStatus

/-- `independence_basis_json` of a retest. -/
structure IndependenceBasis where
  authoredBy : Option String
  remediatedBy : Option String
  performedBy : String

structure Retest where
  retestId : String
  tenantId : String
  actionId : String
  engagementId : String
  outcome : RetestOutcome
  procedureRef : String
  performedBy : String
  result : RetestResult
  completedAt : Timestamp
  evidenceIds : List String
  idempotencyKey : String
  independenceBasis : IndependenceBasis
  createdAt : Timestamp

inductive Payload where
  | findingProposed (supported : Bool) (findingId code : String) (version : Nat)
      (severity : Severity) (status : FindingStatus) (authoredBy : String)
      (evidenceIds : List String) (contradictions : List Contradiction)
  | findingDecided (decision : HumanDecision) (findingId code : String) (status : FindingStatus)
      (actorId reason : String)
  | materialityAssessed (findingId assessmentId : String) (score : ℚ) (material : Bool)
      (severityFloor : Severity) (severityEscalatedFrom : Option Severity)
      (policyId assessedBy : String)
  | severityOverridden (findingId : String) (fromSeverity toSeverity computedFloor : Severity)
      (actorId reason : String)
  | qualityReviewed (findingId reviewerId : String) (passed : Bool) (contentHash : String)
      (failedChecks : List QualityCheck)
  | disputed (findingId disputeId : String) (roundNo : Nat) (ground : DisputeGround)
      (raisedBy : String) (priorStatus : FindingStatus) (escalated : Bool)
      (evidenceIds : List String)
  | disputeResolved (findingId disputeId : String) (roundNo : Nat)
      (resolution : DisputeResolution) (resolvedBy : String) (status : FindingStatus)
      (reason : String)
  | remediationOpened (actionId findingId ownerRef : String) (dueDate : Date)
      (externalSystem : ExternalSystem) (closureEvidenceRequired : Bool)
  | closureSubmitted (actionId findingId responseId submittedBy : String)
      (closureEvidenceIds : List String)
  | retested (findingId actionId retestId : String) (outcome : RetestOutcome)
      (performedBy : String) (status : FindingStatus) (evidenceIds : List String)
  | remediationReopened (actionId findingId : String) (dueDate : Date)
  | ticketFailed (actionId findingId externalSystem error : String)
  | ticketFiled (created : Bool) (actionId findingId externalSystem externalRef : String)
      (externalUrl : Option String) (correlationKey : String)

def Payload.eventType : Payload → String
  | .findingProposed true .. => "finding.proposed"
  | .findingProposed false .. => "finding.skeptic_rejected"
  | .findingDecided .approve .. => "finding.approve"
  | .findingDecided .reject .. => "finding.reject"
  | .findingDecided .returnForRework .. => "finding.return_for_rework"
  | .findingDecided .defer .. => "finding.defer"
  | .findingDecided .acceptRisk .. => "finding.accept_risk"
  | .materialityAssessed .. => "finding.materiality_assessed"
  | .severityOverridden .. => "finding.severity_overridden"
  | .qualityReviewed _ _ true .. => "finding.quality_review_passed"
  | .qualityReviewed _ _ false .. => "finding.quality_review_failed"
  | .disputed .. => "finding.disputed"
  | .disputeResolved _ _ _ .upheld .. => "finding.dispute_upheld"
  | .disputeResolved _ _ _ .modified .. => "finding.dispute_modified"
  | .disputeResolved _ _ _ .withdrawn .. => "finding.dispute_withdrawn"
  | .remediationOpened .. => "remediation.opened"
  | .closureSubmitted .. => "remediation.closure_submitted"
  | .retested _ _ _ outcome .. =>
    if outcome.isClosing then "finding.closed_verified" else "finding.reopened"
  | .remediationReopened .. => "remediation.reopened"
  | .ticketFailed .. => "remediation.ticket_failed"
  | .ticketFiled true .. => "remediation.ticket_filed"
  | .ticketFiled false .. => "remediation.ticket_reconciled"

structure AuditEvent where
  eventId : String
  eventType : String
  streamId : String
  sequenceNo : Nat
  tenantId : String
  engagementId : String
  occurredAt : Timestamp
  payload : Payload

inductive AggregateType where
  | finding
  | remediationAction
  deriving DecidableEq, Repr

structure OutboxEvent where
  outboxId : String
  tenantId : String
  aggregateType : AggregateType
  aggregateId : String
  eventType : String
  payload : Payload
  idempotencyKey : String

/-- The tables of the findings and of all that is decided on them. -/
structure Database where
  tenants : List String
  engagements : List String
  findings : List Finding := []
  decisions : List ApprovalDecision := []
  assessments : List MaterialityAssessment := []
  qualityReviews : List QualityReview := []
  disputes : List FindingDispute := []
  actions : List RemediationAction := []
  responses : List ManagementResponse := []
  retests : List Retest := []
  auditEvents : List AuditEvent := []
  outbox : List OutboxEvent := []

/-- Tenant and finding, or tenant and action. -/
abbrev Owner := String × String

/-- The finding that a row belongs to. -/
def Finding.owner (f : Finding) : Owner := (f.tenantId, f.findingId)

def ApprovalDecision.owner (d : ApprovalDecision) : Owner := (d.tenantId, d.findingId)

def MaterialityAssessment.owner (a : MaterialityAssessment) : Owner := (a.tenantId, a.findingId)

def QualityReview.owner (r : QualityReview) : Owner := (r.tenantId, r.findingId)

def FindingDispute.owner (d : FindingDispute) : Owner := (d.tenantId, d.findingId)

def RemediationAction.owner (a : RemediationAction) : Owner := (a.tenantId, a.findingId)

def ManagementResponse.owner (r : ManagementResponse) : Owner := (r.tenantId, r.findingId)

end Adjudication
