/-
The adjudication service (`adjudication/service.py`): from a proposed finding
to a closed, verified one.

Each public operation is a function from the database to a new one or an error;
an operation that raises rolls back.  The configuration of the service is the
structure `AdjudicationService`; SHA-256 and the Unicode tables behind
`str.lower` are part of it and otherwise arbitrary.  A call reads the clock once
(`now`) and draws the random part of each id it creates from `hex`, one for each
kind of id.  The read models change nothing and are left out.
-/
import AssuranceOS.Lib.Runs
import AssuranceOS.Adjudication.Repository
import AssuranceOS.Adjudication.Collaborators

namespace Adjudication

open Checked

/-- The service with what it is given. -/
structure AdjudicationService where
  agentRolePrefixes : List String := ["agent:", "svc:", "system:"]
  requireQualityReview : Bool := true
  maxDisputeRounds : Int := 3
  sha256 : String → String
  unicode : PyString.UnicodeData

/-- `new_id(kind)`. -/
def newId (hex : String → String) (kind : String) : String :=
  kind ++ "_" ++ hex kind

namespace AdjudicationService

variable (S : AdjudicationService)

/-- `actor_id.lower().startswith(self.agent_role_prefixes)`. -/
def isAutomated (actorId : String) : Bool :=
  PyString.startswith (PyString.lower S.unicode actorId) S.agentRolePrefixes

/-- `actor.strip().lower()`, under which identities are compared. -/
def identity (actor : String) : String :=
  PyString.lower S.unicode (PyString.strip actor)

/-- `_content_hash`. -/
def hashOf (f : Finding) : String :=
  contentHash S.sha256 f.code f.title f.severity f.criteria f.observedCondition f.riskStatement
    f.evidenceIds f.exceptionKeys

def requireFinding (db : Database) (tenantId findingId : String) :
    Except AdjudicationError Finding :=
  ofOption (.findingNotFound findingId) (db.getFinding tenantId findingId)

def requireAction (db : Database) (tenantId actionId : String) :
    Except AdjudicationError RemediationAction :=
  ofOption (.remediationNotFound actionId) (db.getAction tenantId actionId)

def requireTransition (current target : FindingStatus) : Except AdjudicationError Unit :=
  require (target ∈ allowedTransitions current) (.invalidTransition current target)

/-- `_emit` with `outbox=False`: the audit event alone. -/
def emitAudit (db : Database) (now : Timestamp) (hex : String → String)
    (tenantId engagementId : String) (payload : Payload) : Except AdjudicationError Database :=
  let stream := Database.streamId tenantId engagementId
  db.appendEvent
    { eventId := newId hex "evt", eventType := payload.eventType, streamId := stream
      sequenceNo := db.nextSequence tenantId stream, tenantId, engagementId
      occurredAt := now, payload }

/-- The audit event and the outbox event, in the transaction of the caller. -/
def emit (db : Database) (now : Timestamp) (hex : String → String)
    (tenantId engagementId : String) (aggregateType : AggregateType) (aggregateId : String)
    (payload : Payload) (idempotencyKey : String) : Except AdjudicationError Database := do
  let db ← emitAudit db now hex tenantId engagementId payload
  db.addOutbox
    { outboxId := newId hex "obx", tenantId, aggregateType, aggregateId
      eventType := payload.eventType, payload, idempotencyKey }

def decisionRow (now : Timestamp) (hex : String → String) (tenantId : String) (finding : Finding)
    (decisionType : DecisionType) (actorId reason : String) : ApprovalDecision where
  decisionId := newId hex "apd"
  tenantId := tenantId
  engagementId := finding.engagementId
  findingId := finding.findingId
  decisionType := decisionType
  actorId := actorId
  reason := reason
  decidedAt := now

def approvalBlockers (db : Database) (tenantId : String) (finding : Finding) : List String :=
  let digest := S.hashOf finding
  (if (db.openDispute tenantId finding.findingId).isSome then
    ["an open dispute must be resolved before approval"] else []) ++
  (if (db.latestAssessment tenantId finding.findingId digest).isNone then
    ["no materiality assessment exists for the current text of the finding"] else []) ++
  (if S.requireQualityReview ∧ (db.passingReview tenantId finding.findingId digest).isNone then
    let stale := (db.qualityReviewsOf tenantId finding.findingId).filter fun item =>
      item.passed ∧ item.contentHash ≠ digest
    [if stale ≠ [] then "the finding changed after its last passing quality review"
      else "no passing quality review exists for the current text of the finding"] else [])

/-- Only the latest passing review is compared with the approver. -/
def requireApprovalPreconditions (db : Database) (tenantId : String) (finding : Finding)
    (approverId : String) : Except AdjudicationError Unit := do
  let blockers := S.approvalBlockers db tenantId finding
  require (blockers = []) (.qualityGate finding.findingId blockers)
  let reviewers := if S.requireQualityReview then
    ((db.passingReview tenantId finding.findingId (S.hashOf finding)).map (·.reviewerId)).toList
    else []
  require (∀ reviewer ∈ reviewers, S.identity reviewer ≠ S.identity approverId)
    (.independence approverId .performedQualityReview)

def requireIndependence (finding : Finding) (action : RemediationAction) (performedBy : String) :
    Except AdjudicationError Unit :=
  let candidate := S.identity performedBy
  let conflicts : List (ConflictRole × String) :=
    [(.authorOfTheFinding, S.identity (finding.authoredBy.getD "")),
      (.ownerOfTheRemediation, S.identity action.ownerRef),
      (.declarerOfCompletion, S.identity (action.completedBy.getD ""))]
  match conflicts.find? fun c => c.2 ≠ "" ∧ c.2 = candidate with
  | some c => .error (.independence performedBy c.1)
  | none => .ok ()

/-- The row that `propose` inserts. -/
def proposedRow (now : Timestamp) (hex : String → String) (tenantId engagementId : String)
    (version : Nat) (finding : ProposedFinding) (authoredBy : String) (verdict : SkepticVerdict) :
    Finding where
  findingId := newId hex "fnd"
  tenantId := tenantId
  engagementId := engagementId
  code := finding.code
  version := version
  title := finding.title
  status := if verdict.supported then .proposed else .rejected
  severity := finding.severity
  confidence := finding.confidence
  businessObjective := finding.businessObjective
  riskStatement := finding.riskStatement
  criteria := finding.criteria
  observedCondition := finding.observedCondition
  cause := finding.cause
  consequence := finding.consequence
  affectedPopulation := finding.affectedPopulation
  limitations := finding.limitations
  evidenceIds := finding.evidenceIds
  contradictions := verdict.contradictions
  exceptionKeys := finding.exceptionKeys
  skepticReviewedAt := some now
  skepticRationale := if verdict.rationale = "" then none else some verdict.rationale
  sourceRunId := finding.sourceRunId
  authoredBy := some authoredBy

def recordVerdict (db : Database) (now : Timestamp) (hex : String → String) (f : Finding)
    (verdict : SkepticVerdict) : Except AdjudicationError Database :=
  if verdict.supported then .ok db
  else db.addDecision (decisionRow now hex f.tenantId f .skepticReject "agent:skeptic"
    verdict.rejectionReason)

def propose (db : Database) (now : Timestamp) (hex : String → String)
    (tenantId engagementId : String) (finding : ProposedFinding) (authoredBy : String)
    (skeptic : Option SkepticReviewer) (exceptionRows : List ExceptionRow) :
    Except AdjudicationError (Database × String × SkepticVerdict) := do
  let verdict ← (skeptic.getD {}).review finding exceptionRows
  let version := match db.findByCode tenantId engagementId finding.code with
    | some existing => existing.version + 1
    | none => 1
  let record := proposedRow now hex tenantId engagementId version finding authoredBy verdict
  let db ← db.addFinding record
  let db ← recordVerdict db now hex record verdict
  let db ← emit db now hex tenantId engagementId .finding record.findingId
    (.findingProposed verdict.supported record.findingId finding.code version finding.severity
      record.status authoredBy finding.evidenceIds verdict.contradictions)
    ("finding-proposed:" ++ record.findingId)
  return (db, record.findingId, verdict)

def requireDecision (db : Database) (tenantId : String) (finding : Finding)
    (request : AdjudicationRequest) : Except AdjudicationError Unit := do
  let target := decisionTarget request.decision
  if request.decision = .returnForRework then
    require (finding.status = .proposed) (.invalidTransition finding.status target)
  else requireTransition finding.status target
  if request.decision = .approve then
    S.requireApprovalPreconditions db tenantId finding request.actorId
  else .ok ()

/-- The same actor has already made the same decision on the finding. -/
def isReplay (db : Database) (tenantId : String) (finding : Finding)
    (request : AdjudicationRequest) : Bool :=
  (db.decisionsOf tenantId finding.findingId).any fun prior =>
    prior.decisionType = .human request.decision ∧ prior.actorId = request.actorId

def adjudicate (db : Database) (now : Timestamp) (hex : String → String) (tenantId : String)
    (request : AdjudicationRequest) : Except AdjudicationError (Database × FindingStatus) := do
  require (¬ S.isAutomated request.actorId) (.humanGate request.actorId .approval)
  let finding ← requireFinding db tenantId request.findingId
  let target := decisionTarget request.decision
  -- The finding has already moved when a duplicate arrives, so the replay check
  -- comes before the transition guard.
  if isReplay db tenantId finding request then return (db, finding.status)
  else
    S.requireDecision db tenantId finding request
    let db ← (db.putFinding { finding with status := target }).addDecision
      (decisionRow now hex tenantId finding (.human request.decision) request.actorId
        request.reason)
    let db ← emit db now hex tenantId finding.engagementId .finding finding.findingId
      (.findingDecided request.decision finding.findingId finding.code target request.actorId
        request.reason)
      ("finding-decision:" ++ request.idempotencyKey)
    return (db, target)

/-- A score may raise the severity to its floor; it never lowers it. -/
def escalated (floor : Severity) (finding : Finding) : Finding :=
  if severityRank finding.severity < severityRank floor then { finding with severity := floor }
  else finding

def assessmentRow (now : Timestamp) (hex : String → String) (tenantId : String) (raised : Finding)
    (request : MaterialityRequest) : MaterialityAssessment :=
  let policy := request.policy.getD defaultPolicy
  let result := assess request.inputs policy
  { assessmentId := newId hex "mat", tenantId, findingId := raised.findingId
    contentHash := S.hashOf raised, policyId := policy.policyId, policy
    populationSize := request.inputs.populationSize
    exceptionCount := request.inputs.exceptionCount
    monetaryExposure := request.inputs.monetaryExposure, factors := request.inputs.factors
    score := result.score, material := result.material, severityFloor := result.severityFloor
    assessedBy := request.assessedBy, assessedAt := now }

def assessMateriality (db : Database) (now : Timestamp) (hex : String → String)
    (tenantId : String) (request : MaterialityRequest) :
    Except AdjudicationError (Database × MaterialityAssessment) := do
  let policy := request.policy.getD defaultPolicy
  let result := assess request.inputs policy
  let finding ← requireFinding db tenantId request.findingId
  let raised := escalated result.severityFloor finding
  let assessment := S.assessmentRow now hex tenantId raised request
  let db ← (db.putFinding raised).addAssessment assessment
  let db ← emit db now hex tenantId finding.engagementId .finding finding.findingId
    (.materialityAssessed finding.findingId assessment.assessmentId result.score result.material
      result.severityFloor
      (if severityRank finding.severity < severityRank result.severityFloor
        then some finding.severity else none)
      policy.policyId request.assessedBy)
    ("materiality:" ++ assessment.assessmentId)
  return (db, assessment)

/-- The override re-binds the assessment to the new text; a review of the old one
is spent. -/
def overriddenRow (lowered : Finding) (request : SeverityOverrideRequest)
    (assessment : MaterialityAssessment) : MaterialityAssessment :=
  { assessment with
    overrideSeverity := some request.severity
    overrideReason := some request.reason
    overrideBy := some request.actorId
    contentHash := S.hashOf lowered }

def overrideSeverity (db : Database) (now : Timestamp) (hex : String → String)
    (tenantId : String) (request : SeverityOverrideRequest) :
    Except AdjudicationError (Database × MaterialityAssessment) := do
  require (¬ S.isAutomated request.actorId) (.humanGate request.actorId .severityOverride)
  let finding ← requireFinding db tenantId request.findingId
  let assessment ← ofOption (.noCurrentAssessment finding.findingId)
    (db.latestAssessment tenantId finding.findingId (S.hashOf finding))
  require (severityRank request.severity < severityRank assessment.severityFloor)
    (.notBelowFloor request.severity assessment.severityFloor)
  let lowered := { finding with severity := request.severity }
  let rebound := S.overriddenRow lowered request assessment
  let db ← ((db.putFinding lowered).putAssessment rebound).addDecision
    (decisionRow now hex tenantId finding .severityOverride request.actorId request.reason)
  let db ← emit db now hex tenantId finding.engagementId .finding finding.findingId
    (.severityOverridden finding.findingId finding.severity request.severity
      assessment.severityFloor request.actorId request.reason)
    ("severity-override:" ++ finding.findingId ++ ":" ++ request.severity.value)
  return (db, rebound)

/-- The checks of the gate over the stored state of the finding. -/
def reviewOutcome (db : Database) (tenantId : String) (finding : Finding) (reviewerId : String) :
    QualityReviewOutcome :=
  let digest := S.hashOf finding
  let materiality := (db.latestAssessment tenantId finding.findingId digest).map fun a =>
    { score := a.score, severityFloor := a.severityFloor, overrideSeverity := a.overrideSeverity }
  Quality.evaluate S.unicode reviewerId finding.authoredBy finding.severity finding.evidenceIds
    finding.contradictions finding.exceptionKeys finding.criteria finding.observedCondition
    finding.limitations materiality finding.skepticReviewedAt.isSome digest

def reviewRow (db : Database) (now : Timestamp) (hex : String → String) (tenantId : String)
    (finding : Finding) (request : QualityReviewRequest) : QualityReview :=
  let outcome := S.reviewOutcome db tenantId finding request.reviewerId
  { reviewId := newId hex "qrv", tenantId, findingId := finding.findingId
    contentHash := S.hashOf finding, reviewerId := request.reviewerId, passed := outcome.passed
    checks := outcome.checks, notes := request.notes, reviewedAt := now }

def reviewQuality (db : Database) (now : Timestamp) (hex : String → String) (tenantId : String)
    (request : QualityReviewRequest) :
    Except AdjudicationError (Database × QualityReviewOutcome) := do
  let finding ← requireFinding db tenantId request.findingId
  let outcome := S.reviewOutcome db tenantId finding request.reviewerId
  let review := S.reviewRow db now hex tenantId finding request
  let db ← db.addQualityReview review
  let db ← emit db now hex tenantId finding.engagementId .finding finding.findingId
    (.qualityReviewed finding.findingId request.reviewerId outcome.passed review.contentHash
      (outcome.failures.map (·.check)))
    ("quality-review:" ++ review.reviewId)
  return (db, outcome)

def disputeRow (db : Database) (now : Timestamp) (hex : String → String) (tenantId : String)
    (finding : Finding) (request : DisputeRequest) : FindingDispute :=
  let roundNo := (db.disputesOf tenantId finding.findingId).length + 1
  { disputeId := newId hex "dsp", tenantId, findingId := finding.findingId, roundNo
    ground := request.ground, statement := request.statement, raisedBy := request.raisedBy
    raisedAt := now, evidenceIds := request.evidenceIds, priorStatus := finding.status
    escalated := S.maxDisputeRounds < roundNo }

def raiseDispute (db : Database) (now : Timestamp) (hex : String → String) (tenantId : String)
    (request : DisputeRequest) : Except AdjudicationError (Database × String) := do
  let finding ← requireFinding db tenantId request.findingId
  require ((db.openDispute tenantId finding.findingId).isNone)
    (.disputeAlreadyOpen finding.findingId)
  requireTransition finding.status .disputed
  let dispute := S.disputeRow db now hex tenantId finding request
  let db ← (db.putFinding { finding with status := .disputed }).addDispute dispute
  let db ← emit db now hex tenantId finding.engagementId .finding finding.findingId
    (.disputed finding.findingId dispute.disputeId dispute.roundNo request.ground request.raisedBy
      finding.status dispute.escalated request.evidenceIds)
    ("dispute-raised:" ++ dispute.disputeId)
  return (db, dispute.disputeId)

def resolutionTarget (dispute : FindingDispute) : DisputeResolution → FindingStatus
  | .upheld => dispute.priorStatus
  | .modified => .proposed
  | .withdrawn => .withdrawn

def resolvedRow (now : Timestamp) (request : DisputeResolutionRequest) (dispute : FindingDispute) :
    FindingDispute :=
  { dispute with
    status := .resolved
    resolution := some request.resolution
    resolutionReason := some request.reason
    resolvedBy := some request.resolvedBy
    resolvedAt := some now }

def resolveDispute (db : Database) (now : Timestamp) (hex : String → String) (tenantId : String)
    (request : DisputeResolutionRequest) :
    Except AdjudicationError (Database × FindingStatus) := do
  require (¬ S.isAutomated request.resolvedBy) (.humanGate request.resolvedBy .disputeResolution)
  let dispute ← ofOption (.disputeNotFound request.disputeId)
    (db.getDispute tenantId request.disputeId)
  require (dispute.status = .open) (.disputeNotOpen dispute.disputeId)
  let finding ← requireFinding db tenantId dispute.findingId
  let resolver := S.identity request.resolvedBy
  require (resolver ≠ S.identity dispute.raisedBy) (.independence request.resolvedBy .raisedDispute)
  require (¬ (PyString.truthy finding.authoredBy ∧
      resolver = S.identity (finding.authoredBy.getD "")))
    (.independence request.resolvedBy .authoredFinding)
  let target := resolutionTarget dispute request.resolution
  -- The transition is checked from `disputed`, whatever the status of the finding is.
  requireTransition .disputed target
  let db ← ((db.putDispute (resolvedRow now request dispute)).putFinding
      { finding with status := target }).addDecision
    (decisionRow now hex tenantId finding (.dispute request.resolution) request.resolvedBy
      request.reason)
  let db ← emit db now hex tenantId finding.engagementId .finding finding.findingId
    (.disputeResolved finding.findingId dispute.disputeId dispute.roundNo request.resolution
      request.resolvedBy target request.reason)
    ("dispute-resolved:" ++ dispute.disputeId)
  return (db, target)

def conflicts (existing : RemediationAction) (request : RemediationRequest) : Bool :=
  PyString.truthy existing.idempotencyKey ∧
    existing.idempotencyKey ≠ some request.idempotencyKey ∧
    existing.actionPlan ≠ request.actionPlan

def actionRow (now : Timestamp) (hex : String → String) (tenantId : String) (finding : Finding)
    (request : RemediationRequest) : RemediationAction where
  actionId := newId hex "rma"
  tenantId := tenantId
  findingId := finding.findingId
  ownerRef := request.ownerRef
  dueDate := request.dueDate
  actionPlan := request.actionPlan
  escalationPolicy := request.escalationPolicy
  closureEvidenceRequired := request.closureEvidenceRequired
  idempotencyKey := some request.idempotencyKey
  externalSystem := request.externalSystem
  externalTarget := request.externalTarget
  externalSyncState := if request.externalSystem = .none then .notApplicable else .pending
  createdAt := now

def openRemediation (db : Database) (now : Timestamp) (hex : String → String)
    (tenantId : String) (request : RemediationRequest) :
    Except AdjudicationError (Database × String × Bool) := do
  let finding ← requireFinding db tenantId request.findingId
  match db.openActionFor tenantId finding.findingId with
  | some existing =>
    require (¬ conflicts existing request)
      (.idempotencyConflict finding.findingId existing.actionId)
    return (db, existing.actionId, false)
  | none =>
    requireTransition finding.status .remediationOpen
    let action := actionRow now hex tenantId finding request
    let db ← (db.putFinding { finding with status := .remediationOpen }).addAction action
    let db ← emit db now hex tenantId finding.engagementId .remediationAction action.actionId
      (.remediationOpened action.actionId finding.findingId request.ownerRef request.dueDate
        request.externalSystem request.closureEvidenceRequired)
      ("remediation-opened:" ++ action.actionId)
    return (db, action.actionId, true)

/-- What `sync_remediation_ticket` returns. -/
structure TicketSync where
  actionId : String
  externalSystem : String
  externalRef : Option String
  externalUrl : Option String
  created : Bool
  reason : Option String := none
  correlationKey : Option String := none

/-- What the read session leaves to the provider and to the transaction after it. -/
structure TicketJob where
  engagementId : String
  findingId : String
  externalSystem : String
  writer : TicketWriter
  request : TicketRequest

def ticketRequest (finding : Finding) (action : RemediationAction) : TicketRequest where
  actionId := action.actionId
  findingCode := finding.code
  title := "[" ++ finding.code ++ "] " ++ finding.title
  description := "Remediation for AssuranceOS finding " ++ finding.code ++ " (severity " ++
    finding.severity.value ++ ").\n\nCriteria: " ++ finding.criteria ++
    "\n\nObserved condition: " ++ finding.observedCondition ++ "\n\nAgreed action: " ++
    action.actionPlan
  ownerRef := action.ownerRef
  dueDate := action.dueDate
  severity := finding.severity
  projectOrTable := if PyString.truthy action.externalTarget then action.externalTarget.getD ""
    else "none"
  labels := ["assuranceos", "finding-" ++ PyString.lower S.unicode finding.code]

def filedBefore (action : RemediationAction) (reason : String) : TicketSync where
  actionId := action.actionId
  externalSystem := action.externalSystem.value
  externalRef := action.externalRef
  externalUrl := action.externalUrl
  created := false
  reason := some reason

def prepareTicket (db : Database) (tenantId actionId : String) (writer : Option TicketWriter) :
    Except AdjudicationError (TicketSync ⊕ TicketJob) := do
  let action ← requireAction db tenantId actionId
  let finding ← requireFinding db tenantId action.findingId
  if PyString.truthy action.externalRef then return .inl (filedBefore action "already filed")
  else
    let writer := writer.getD nullTicketWriter
    require (writer.system = action.externalSystem.value)
      (.ticketWriterMismatch action.actionId action.externalSystem.value writer.system)
    require (¬ (action.externalSystem ≠ .none ∧ ¬ PyString.truthy action.externalTarget))
      (.ticketTargetMissing action.actionId action.externalSystem.value)
    return .inr
      { engagementId := finding.engagementId, findingId := finding.findingId
        externalSystem := action.externalSystem.value, writer
        request := S.ticketRequest finding action }

def ticketFailedRow (error : String) (action : RemediationAction) : RemediationAction :=
  { action with
    externalSyncState := .failed
    externalError := some (PyString.firstChars 4000 error) }

def recordTicketFailure (db : Database) (now : Timestamp) (hex : String → String)
    (tenantId actionId : String) (job : TicketJob) (error : String) :
    Except AdjudicationError Database :=
  let db := match db.getAction tenantId actionId with
    | some failed => db.putAction (ticketFailedRow error failed)
    | none => db
  emitAudit db now hex tenantId job.engagementId
    (.ticketFailed actionId job.findingId job.externalSystem (PyString.firstChars 1000 error))

def ticketFiledRow (now : Timestamp) (ticket : TicketRef) (action : RemediationAction) :
    RemediationAction :=
  { action with
    externalRef := some ticket.externalRef
    externalUrl := ticket.url
    externalSyncState := .synced
    externalSyncedAt := some now
    externalError := none }

def recordTicket (db : Database) (now : Timestamp) (hex : String → String)
    (tenantId actionId : String) (job : TicketJob) (ticket : TicketRef) :
    Except AdjudicationError (Database × TicketSync) := do
  let action ← requireAction db tenantId actionId
  -- Another worker may have filed since the read session; its reference wins.
  if PyString.truthy action.externalRef then return (db, filedBefore action "filed concurrently")
  else
    let db ← emit (db.putAction (ticketFiledRow now ticket action)) now hex tenantId
      job.engagementId .remediationAction actionId
      (.ticketFiled ticket.created actionId job.findingId ticket.system ticket.externalRef
        ticket.url job.request.correlationKey)
      (if ticket.created then "ticket-filed:" ++ actionId
        else "ticket-reconciled:" ++ actionId ++ ":" ++ ticket.externalRef)
    return (db,
      { actionId, externalSystem := ticket.system, externalRef := some ticket.externalRef
        externalUrl := ticket.url, created := ticket.created
        correlationKey := some job.request.correlationKey })

def syncRemediationTicket (db : Database) (now : Timestamp) (hex : String → String)
    (tenantId actionId : String) (writer : Option TicketWriter) :
    Except AdjudicationError (Database × Except AdjudicationError TicketSync) := do
  match ← S.prepareTicket db tenantId actionId writer with
  | .inl sync => return (db, .ok sync)
  | .inr job =>
    match job.writer.createOrGet job.request with
    | .error error =>
      let db ← recordTicketFailure db now hex tenantId actionId job error
      return (db, .error (.ticketRefused job.externalSystem actionId error))
    | .ok ticket =>
      let (db, sync) ← recordTicket db now hex tenantId actionId job ticket
      return (db, .ok sync)

def declaredRow (now : Timestamp) (submission : ClosureSubmission) (action : RemediationAction) :
    RemediationAction :=
  { action with
    status := .declaredComplete
    declaredCompleteAt := some now
    completedBy := some submission.submittedBy }

def responseRow (db : Database) (now : Timestamp) (hex : String → String) (tenantId : String)
    (finding : Finding) (action : RemediationAction) (submission : ClosureSubmission) :
    ManagementResponse where
  responseId := newId hex "mgr"
  tenantId := tenantId
  findingId := finding.findingId
  version := (db.responsesOf tenantId finding.findingId).length + 1
  responseText := submission.responseText
  actionPlan := if PyString.truthy submission.actionPlan then submission.actionPlan
    else some action.actionPlan
  submittedBy := submission.submittedBy
  submittedAt := now
  closureEvidenceIds := submission.closureEvidenceIds

def submitClosure (db : Database) (now : Timestamp) (hex : String → String) (tenantId : String)
    (submission : ClosureSubmission) : Except AdjudicationError (Database × String) := do
  let action ← requireAction db tenantId submission.actionId
  let finding ← requireFinding db tenantId action.findingId
  require (¬ (action.closureEvidenceRequired ∧ submission.closureEvidenceIds = []))
    (.closureEvidenceRequired action.actionId)
  requireTransition finding.status .remediationDeclaredComplete
  let response := responseRow db now hex tenantId finding action submission
  let db ← ((db.putAction (declaredRow now submission action)).putFinding
    { finding with status := .remediationDeclaredComplete }).addResponse response
  let db ← emit db now hex tenantId finding.engagementId .remediationAction action.actionId
    (.closureSubmitted action.actionId finding.findingId response.responseId
      submission.submittedBy submission.closureEvidenceIds)
    ("closure-submitted:" ++ response.responseId)
  return (db, response.responseId)

def retestTarget (outcome : RetestOutcome) : FindingStatus :=
  if outcome.isClosing then .closedVerified else .reopened

def retestRow (now : Timestamp) (hex : String → String) (tenantId : String) (finding : Finding)
    (action : RemediationAction) (request : RetestRequest) : Retest where
  retestId := newId hex "rts"
  tenantId := tenantId
  actionId := action.actionId
  engagementId := finding.engagementId
  outcome := request.outcome
  procedureRef := request.procedureRef
  performedBy := request.performedBy
  result := ⟨request.detail, request.freshEvidenceCollectedAt, retestTarget request.outcome⟩
  completedAt := now
  evidenceIds := request.evidenceIds
  idempotencyKey := request.idempotencyKey
  independenceBasis := ⟨finding.authoredBy, action.completedBy, request.performedBy⟩
  createdAt := now

def retestedRow (outcome : RetestOutcome) (action : RemediationAction) : RemediationAction :=
  { action with status := if outcome.isClosing then .closed else .reopened }

def retest (db : Database) (now : Timestamp) (hex : String → String) (tenantId : String)
    (request : RetestRequest) : Except AdjudicationError (Database × String × FindingStatus) := do
  let action ← requireAction db tenantId request.actionId
  let finding ← requireFinding db tenantId action.findingId
  S.requireIndependence finding action request.performedBy
  match (db.retestsOf tenantId action.actionId).find? fun prior =>
      prior.idempotencyKey = request.idempotencyKey with
  | some prior => return (db, prior.retestId, finding.status)
  | none =>
    requireTransition finding.status .retestInProgress
    require (¬ (request.outcome.isClosing ∧ request.evidenceIds = []))
      (.freshEvidenceRequired request.outcome)
    let row := retestRow now hex tenantId finding action request
    let target := retestTarget request.outcome
    let db ← ((db.putAction (retestedRow request.outcome action)).putFinding
      { finding with status := target }).addRetest row
    let db ← emit db now hex tenantId finding.engagementId .finding finding.findingId
      (.retested finding.findingId action.actionId row.retestId request.outcome
        request.performedBy target request.evidenceIds)
      ("retest-completed:" ++ row.retestId)
    return (db, row.retestId, target)

def reopenedRow (request : RemediationRequest) (action : RemediationAction) :
    RemediationAction :=
  { action with
    status := .open
    dueDate := request.dueDate
    actionPlan := request.actionPlan
    declaredCompleteAt := none
    completedBy := none }

def reopenForRemediation (db : Database) (now : Timestamp) (hex : String → String)
    (tenantId findingId : String) (request : RemediationRequest) :
    Except AdjudicationError (Database × String) := do
  let finding ← requireFinding db tenantId findingId
  requireTransition finding.status .remediationOpen
  let existing ← ofOption (.noActionToReopen findingId) (db.openActionFor tenantId findingId)
  let db := (db.putAction (reopenedRow request existing)).putFinding
    { finding with status := .remediationOpen }
  let db ← emit db now hex tenantId finding.engagementId .remediationAction existing.actionId
    (.remediationReopened existing.actionId findingId request.dueDate)
    ("remediation-reopened:" ++ existing.actionId ++ ":" ++ request.idempotencyKey)
  return (db, existing.actionId)

end AdjudicationService

/-- The public operations with their arguments. -/
inductive Op where
  | propose (tenantId engagementId : String) (finding : ProposedFinding) (authoredBy : String)
      (skeptic : Option SkepticReviewer) (exceptionRows : List ExceptionRow)
  | adjudicate (tenantId : String) (request : AdjudicationRequest)
  | assessMateriality (tenantId : String) (request : MaterialityRequest)
  | overrideSeverity (tenantId : String) (request : SeverityOverrideRequest)
  | reviewQuality (tenantId : String) (request : QualityReviewRequest)
  | raiseDispute (tenantId : String) (request : DisputeRequest)
  | resolveDispute (tenantId : String) (request : DisputeResolutionRequest)
  | openRemediation (tenantId : String) (request : RemediationRequest)
  | syncRemediationTicket (tenantId actionId : String) (writer : Option TicketWriter)
  | submitClosure (tenantId : String) (submission : ClosureSubmission)
  | retest (tenantId : String) (request : RetestRequest)
  | reopenForRemediation (tenantId findingId : String) (request : RemediationRequest)

/-- One call: its clock reading, the random parts of its ids, and the operation. -/
structure Call where
  now : Timestamp
  hex : String → String
  op : Op

variable (S : AdjudicationService)

def Call.exec (db : Database) (call : Call) : Except AdjudicationError Database :=
  match call.op with
  | .propose tenantId engagementId finding authoredBy skeptic exceptionRows =>
    (AdjudicationService.propose db call.now call.hex tenantId engagementId finding authoredBy
      skeptic exceptionRows).map Prod.fst
  | .adjudicate tenantId request =>
    (S.adjudicate db call.now call.hex tenantId request).map Prod.fst
  | .assessMateriality tenantId request =>
    (S.assessMateriality db call.now call.hex tenantId request).map Prod.fst
  | .overrideSeverity tenantId request =>
    (S.overrideSeverity db call.now call.hex tenantId request).map Prod.fst
  | .reviewQuality tenantId request =>
    (S.reviewQuality db call.now call.hex tenantId request).map Prod.fst
  | .raiseDispute tenantId request =>
    (S.raiseDispute db call.now call.hex tenantId request).map Prod.fst
  | .resolveDispute tenantId request =>
    (S.resolveDispute db call.now call.hex tenantId request).map Prod.fst
  | .openRemediation tenantId request =>
    (AdjudicationService.openRemediation db call.now call.hex tenantId request).map Prod.fst
  | .syncRemediationTicket tenantId actionId writer =>
    (S.syncRemediationTicket db call.now call.hex tenantId actionId writer).map Prod.fst
  | .submitClosure tenantId submission =>
    (AdjudicationService.submitClosure db call.now call.hex tenantId submission).map Prod.fst
  | .retest tenantId request =>
    (S.retest db call.now call.hex tenantId request).map Prod.fst
  | .reopenForRemediation tenantId findingId request =>
    (AdjudicationService.reopenForRemediation db call.now call.hex tenantId findingId
      request).map Prod.fst

/-- A call that raises changes nothing. -/
def step (db : Database) (call : Call) : Database :=
  match call.exec S db with
  | .ok db' => db'
  | .error _ => db

/-- The calls one after the other; one that raises changes nothing. -/
def run (db : Database) (calls : List Call) : Database :=
  calls.foldl (step S) db

/-- A database before anything is proposed. -/
structure Fresh (db : Database) : Prop where
  findings : db.findings = []
  decisions : db.decisions = []
  assessments : db.assessments = []
  qualityReviews : db.qualityReviews = []
  disputes : db.disputes = []
  actions : db.actions = []
  responses : db.responses = []
  retests : db.retests = []

/-! ### Inputs for concrete runs -/

def sampleService : AdjudicationService where
  sha256 := id
  unicode := PyString.asciiData

def sampleDatabase : Database where
  tenants := ["tenant"]
  engagements := ["engagement"]

theorem sampleDatabase_fresh : Fresh sampleDatabase :=
  ⟨rfl, rfl, rfl, rfl, rfl, rfl, rfl, rfl⟩

/-- The call number `n`, which numbers the ids it creates. -/
def sampleCall (n : Nat) (op : Op) : Call where
  now := n
  hex _ := n.repr
  op := op

def sampleProposal : ProposedFinding where
  code := "ACC"
  title := "Leavers"
  severity := .high
  confidence := 7 / 10
  criteria := "Access ends"
  observedCondition := "Two remain"
  riskStatement := "Misuse"
  evidenceIds := ["e1"]

/-! The names in the samples have the lengths that the requests ask for. -/

theorem analyst_length : LengthIn 1 128 "analyst" := by decide

theorem reviewer_length : LengthIn 1 128 "reviewer" := by decide

theorem lead_length : LengthIn 1 128 "lead" := by decide

theorem tester_length : LengthIn 1 128 "tester" := by decide

theorem app_length : LengthIn 3 255 "app" := by decide

def sampleInputs : MaterialityInputs := ⟨40, 1, none, [], by simp, by decide, by decide⟩

/-- A finding is proposed, assessed and reviewed; the other calls follow as 4, 5
and so on. -/
def sampleReviewed (author reviewer : String)
    (h : LengthIn 1 128 reviewer := by decide) : List Call :=
  [sampleCall 1 (.propose "tenant" "engagement" sampleProposal author none []),
    sampleCall 2 (.assessMateriality "tenant"
      { findingId := "fnd_1", inputs := sampleInputs, assessedBy := "analyst"
        assessedBy_length := analyst_length }),
    sampleCall 3 (.reviewQuality "tenant"
      { findingId := "fnd_1", reviewerId := reviewer, reviewerId_length := h })]

def sampleDecision (n : Nat) (decision : HumanDecision) (actor key : String)
    (h : LengthIn 1 128 actor := by decide) (k : LengthIn 3 255 key := by decide) : Call :=
  sampleCall n (.adjudicate "tenant"
    { findingId := "fnd_1", decision := decision, actorId := actor, reason := "see file"
      idempotencyKey := key, actorId_length := h, idempotencyKey_length := k })

def samplePlan (owner : String) (h : LengthIn 1 255 owner) : RemediationRequest where
  findingId := "fnd_1"
  ownerRef := owner
  dueDate := ⟨2030, 1, 31, by decide, by decide, by decide⟩
  actionPlan := "revoke"
  idempotencyKey := "plan"
  ownerRef_length := h

/-- The retest that closes it, on evidence collected at `collected`. -/
def sampleRetest (performer : String) (h : LengthIn 1 128 performer)
    (collected : Option Timestamp) : RetestRequest where
  actionId := "rma_5"
  procedureRef := "p1"
  performedBy := performer
  idempotencyKey := "retest"
  outcome := .closedVerified
  evidenceIds := ["e3"]
  freshEvidenceCollectedAt := collected
  performedBy_length := h

end Adjudication
