/-
The risk register: `assess_risk` and `set_official_rating` of `portfolio/service.py`, the tables
they write and the queries of `portfolio/repository.py` they use.

An assessment is a new row; an official rating is written into the latest one.  Both calls append
an audit event and an outbox event in the same transaction (`emit`), and a call that raises rolls
back.  The SQL is that of SQLite, where the width of a text column is not checked.
-/
import AssuranceOS.Adjudication.Service
import AssuranceOS.Portfolio.Scoring

namespace Portfolio

open Adjudication (Timestamp newId orderByDesc)
open Checked

structure Risk where
  riskId : String
  tenantId : String
  code : String
  inherentImpact : Option ℚ := none
  inherentLikelihood : Option ℚ := none
  velocity : Option ℚ := none
  residualRisk : Option ℚ := none
  confidence : ℚ := 0
  evidence : List String := []

structure RiskAssessment where
  assessmentId : String
  tenantId : String
  riskId : String
  version : ℕ
  policyId : String
  policy : ScoringPolicy
  factors : RiskFactors
  components : Components
  inherent : ℚ
  residual : ℚ
  rating : Rating
  confidence : ℚ
  auditPriority : ℚ
  uncovered : Bool
  rationale : String
  assessedBy : String
  asAt : Date
  assessedAt : Timestamp
  officialRating : Option String := none
  officialReason : Option String := none
  officialBy : Option String := none

/-- The payload of an event; what other components write is not read here. -/
inductive Payload where
  | assessed (riskId code : String) (version : ℕ) (inherent residual : ℚ) (rating : Rating)
      (confidence auditPriority : ℚ) (untestedControls : List String) (assessedBy : String)
  | ratingOverridden (riskId code : String) (computedRating : Rating)
      (officialRating actorId reason : String)
  | foreign (text : String)

structure AuditEvent where
  eventId : String
  eventType : String
  streamId : String
  sequenceNo : ℕ
  tenantId : String
  occurredAt : Timestamp
  payload : Payload

structure OutboxEvent where
  outboxId : String
  tenantId : String
  aggregateType : String
  aggregateId : String
  eventType : String
  payload : Payload
  idempotencyKey : String

/-- `tenants` holds the ids that foreign keys refer to. -/
structure Database where
  tenants : List String
  risks : List Risk := []
  assessments : List RiskAssessment := []
  auditEvents : List AuditEvent := []
  outbox : List OutboxEvent := []

inductive PortfolioError where
  | score (error : ScoringError)
  | notRegistered (code : String)
  | noAssessment (code : String)
  | automatedActor (actorId : String)
  | integrityError
  deriving DecidableEq, Repr

namespace Database

variable (db : Database)

def riskByCode (tenantId code : String) : Option Risk :=
  db.risks.find? fun r => r.tenantId = tenantId ∧ r.code = code

def nextAssessmentVersion (riskId : String) : ℕ :=
  ((db.assessments.filter fun a => a.riskId = riskId).map (·.version)).foldr max 0 + 1

def latestAssessment (riskId : String) : Option RiskAssessment :=
  (orderByDesc (·.version) (db.assessments.filter fun a => a.riskId = riskId)).head?

def addAssessment (a : RiskAssessment) : Except PortfolioError Database := do
  require (a.tenantId ∈ db.tenants ∧ a.riskId ∈ db.risks.map (·.riskId)) .integrityError
  require (InUnit a.confidence ∧ InUnit a.residual) .integrityError
  require (∀ b ∈ db.assessments, (b.riskId, b.version) ≠ (a.riskId, a.version)) .integrityError
  let rows ← ofOption .integrityError (Table.insert? RiskAssessment.assessmentId a db.assessments)
  return { db with assessments := rows }

def putAssessment (a : RiskAssessment) : Database :=
  { db with assessments := Table.put RiskAssessment.assessmentId a db.assessments }

def putRisk (r : Risk) : Except PortfolioError Database := do
  require (InUnit r.confidence) .integrityError
  return { db with risks := Table.put Risk.riskId r db.risks }

/-- `_next_sequence`. -/
def nextSequence (tenantId streamId : String) : ℕ :=
  ((db.auditEvents.filter fun e => e.tenantId = tenantId ∧ e.streamId = streamId).map
    (·.sequenceNo)).foldr max 0 + 1

def appendEvent (e : AuditEvent) : Except PortfolioError Database := do
  require (e.tenantId ∈ db.tenants) .integrityError
  require (∀ x ∈ db.auditEvents,
    (x.tenantId, x.streamId, x.sequenceNo) ≠ (e.tenantId, e.streamId, e.sequenceNo)) .integrityError
  let rows ← ofOption .integrityError (Table.insert? AuditEvent.eventId e db.auditEvents)
  return { db with auditEvents := rows }

def addOutbox (e : OutboxEvent) : Except PortfolioError Database := do
  require (e.tenantId ∈ db.tenants) .integrityError
  require (∀ o ∈ db.outbox, (o.tenantId, o.idempotencyKey) ≠ (e.tenantId, e.idempotencyKey))
    .integrityError
  let rows ← ofOption .integrityError (Table.insert? OutboxEvent.outboxId e db.outbox)
  return { db with outbox := rows }

end Database

/-- The service with what it is given. -/
structure PortfolioService where
  agentRolePrefixes : List String := ["agent:", "svc:", "system:"]
  unicode : PyString.UnicodeData

/-- The clock of a call, and the random part of each id it draws. -/
structure Ambient where
  now : Timestamp
  hex : String → String

/-- `risk-assessed:{assessment_id}`. -/
def assessedKey (assessmentId : String) : String := "risk-assessed:" ++ assessmentId

/-- `risk-override:{assessment_id}`. -/
def overrideKey (assessmentId : String) : String := "risk-override:" ++ assessmentId

/-- `_emit`; an event of the portfolio has neither a task nor an engagement, so its stream is the
tenant's. -/
def emit (db : Database) (ambient : Ambient) (tenantId aggregateType aggregateId eventType : String)
    (payload : Payload) (idempotencyKey : String) : Except PortfolioError Database := do
  let stream := "tenant:" ++ tenantId
  let db ← db.appendEvent
    { eventId := newId ambient.hex "evt", eventType, streamId := stream
      sequenceNo := db.nextSequence tenantId stream, tenantId
      occurredAt := ambient.now, payload }
  db.addOutbox
    { outboxId := newId ambient.hex "obx", tenantId, aggregateType, aggregateId, eventType
      payload, idempotencyKey }

/-- `_require_risk`. -/
def requireRisk (db : Database) (tenantId code : String) : Except PortfolioError Risk :=
  ofOption (.notRegistered code) (db.riskByCode tenantId code)

/-- The row that `assess_risk` adds. -/
def assessmentOf (ambient : Ambient) (tenantId riskId : String) (version : ℕ)
    (factors : RiskFactors) (policy : ScoringPolicy) (result : RiskScore) (assessedBy : String)
    (asAt : Date) : RiskAssessment where
  assessmentId := newId ambient.hex "rsa"
  tenantId := tenantId
  riskId := riskId
  version := version
  policyId := policy.policyId
  policy := policy
  factors := factors
  components := result.components
  inherent := result.inherent
  residual := result.residual
  rating := result.rating
  confidence := result.confidence
  auditPriority := result.auditPriority
  uncovered := result.uncovered
  rationale := result.rationale
  assessedBy := assessedBy
  asAt := asAt
  assessedAt := ambient.now

def Risk.scored (risk : Risk) (factors : RiskFactors) (result : RiskScore) : Risk :=
  { risk with
    inherentImpact := some factors.impact
    inherentLikelihood := some factors.likelihood
    velocity := some factors.velocity
    residualRisk := some result.residual
    confidence := result.confidence
    evidence := factors.evidenceIds }

def RiskAssessment.setAside (a : RiskAssessment) (rating reason actorId : String) :
    RiskAssessment :=
  { a with
    officialRating := some rating
    officialReason := some reason
    officialBy := some actorId }

def assessRisk (db : Database) (ambient : Ambient) (tenantId riskCode : String)
    (factors : RiskFactors) (assessedBy : String) (asAt : Date) (policy : Option ScoringPolicy) :
    Except PortfolioError (RiskAssessment × Database) := do
  let policy := policy.getD defaultPolicy
  let result ← (score factors policy asAt).mapError .score
  let risk ← requireRisk db tenantId riskCode
  let version := db.nextAssessmentVersion risk.riskId
  let record :=
    assessmentOf ambient tenantId risk.riskId version factors policy result assessedBy asAt
  let db ← db.addAssessment record
  let db ← db.putRisk (risk.scored factors result)
  let db ← emit db ambient tenantId "risk" risk.riskId "risk.assessed"
    (.assessed risk.riskId riskCode version result.inherent result.residual result.rating
      result.confidence result.auditPriority result.components.untestedControls assessedBy)
    (assessedKey record.assessmentId)
  return (record, db)

namespace PortfolioService

variable (S : PortfolioService)

/-- `actor_id.lower().startswith(self.agent_role_prefixes)`. -/
def isAutomated (actorId : String) : Bool :=
  PyString.startswith (PyString.lower S.unicode actorId) S.agentRolePrefixes

def setOfficialRating (db : Database) (ambient : Ambient)
    (tenantId riskCode rating actorId reason : String) :
    Except PortfolioError (RiskAssessment × Database) := do
  require (S.isAutomated actorId = false) (.automatedActor actorId)
  let risk ← requireRisk db tenantId riskCode
  let assessment ← ofOption (.noAssessment riskCode) (db.latestAssessment risk.riskId)
  let assessment := assessment.setAside rating reason actorId
  let db ← emit (db.putAssessment assessment) ambient tenantId "risk" risk.riskId
    "risk.rating_overridden"
    (.ratingOverridden risk.riskId riskCode assessment.rating rating actorId reason)
    (overrideKey assessment.assessmentId)
  return (assessment, db)

end PortfolioService

end Portfolio
