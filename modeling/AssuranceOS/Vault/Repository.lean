/-
The queries and row insertions of `vault/repository.py`, with
`AuditEventRepository.append` and `OutboxRepository.add` of `db/repositories.py`.

An insertion that violates a primary key, a unique constraint or a foreign key raises;
a null acquisition key violates nothing.
-/
import AssuranceOS.Adjudication.Repository
import AssuranceOS.Vault.Definitions

namespace Vault

open Checked Adjudication

/-- `new_id`, from the digits of a fresh UUID. -/
def newId (kind hex : String) : String :=
  kind ++ "_" ++ hex

/-- The record has not been purged. -/
def EvidenceRecord.Active (r : EvidenceRecord) : Prop := r.deletedAt = none

instance (r : EvidenceRecord) : Decidable r.Active :=
  match h : r.deletedAt with
  | none => .isTrue h
  | some _ => .isFalse (by simp [EvidenceRecord.Active, h])

def EvidenceCustodyEvent.owner (e : EvidenceCustodyEvent) : String × String :=
  (e.tenantId, e.evidenceId)

namespace Database

variable (db : Database)

def getTenant (tenantId : String) : Option String :=
  db.tenants.find? fun t => t = tenantId

def getEngagement (tenantId engagementId : String) : Option String :=
  (db.engagements.find? fun e => e = (tenantId, engagementId)).map Prod.snd

def getTask (tenantId taskId : String) : Option EngagementTask :=
  db.tasks.find? fun t => t.tenantId = tenantId ∧ t.taskId = taskId

def get (tenantId evidenceId : String) (includeDeleted : Bool := false) :
    Option EvidenceRecord :=
  db.evidence.find? fun r =>
    r.tenantId = tenantId ∧ r.evidenceId = evidenceId ∧ (includeDeleted ∨ r.Active)

def getByAcquisitionKey (tenantId acquisitionKey : String) : Option EvidenceRecord :=
  db.evidence.find? fun r => r.tenantId = tenantId ∧ r.acquisitionKey = some acquisitionKey

def activeStorageKeys (tenantId : String) : List String :=
  (db.evidence.filter fun r => r.tenantId = tenantId ∧ r.Active).filterMap (·.storageKey)

def KeyTaken (e r : EvidenceRecord) : Prop :=
  r.tenantId = e.tenantId ∧ e.acquisitionKey ≠ none ∧ r.acquisitionKey = e.acquisitionKey

instance (e r : EvidenceRecord) : Decidable (KeyTaken e r) :=
  inferInstanceAs (Decidable (_ ∧ _))

def addEvidence (e : EvidenceRecord) : Except VaultError Database := do
  require (e.tenantId ∈ db.tenants) .integrityError
  require (∀ id ∈ e.engagementId, id ∈ db.engagements.map Prod.snd) .integrityError
  require (∀ id ∈ e.taskId, id ∈ db.tasks.map EngagementTask.taskId) .integrityError
  require (∀ r ∈ db.evidence, ¬ KeyTaken e r) .integrityError
  let rows ← ofOption .integrityError
    (Table.insert? EvidenceRecord.evidenceId e db.evidence)
  return { db with evidence := rows }

def putEvidence (e : EvidenceRecord) : Database :=
  { db with evidence := Table.put EvidenceRecord.evidenceId e db.evidence }

def addTransformation (t : EvidenceTransformation) : Except VaultError Database := do
  require (∀ u ∈ db.transformations, (u.sourceEvidenceId, u.derivedEvidenceId, u.operation) ≠
    (t.sourceEvidenceId, t.derivedEvidenceId, t.operation)) .integrityError
  let rows ← ofOption .integrityError
    (Table.insert? EvidenceTransformation.transformationId t db.transformations)
  return { db with transformations := rows }

def allTransformations (tenantId : String) : List EvidenceTransformation :=
  orderBy (fun t => toLex (t.createdAt.rank, t.transformationId))
    (db.transformations.filter fun t => t.tenantId = tenantId)

/-- The events of the record, by their numbers. -/
def listCustodyEvents (tenantId evidenceId : String) : List EvidenceCustodyEvent :=
  orderBy (·.sequenceNo) (db.custody.filter fun e =>
    e.tenantId = tenantId ∧ e.evidenceId = evidenceId)

def lastCustodyEvent (tenantId evidenceId : String) : Option EvidenceCustodyEvent :=
  (orderByDesc (·.sequenceNo) (db.custody.filter fun e =>
    e.tenantId = tenantId ∧ e.evidenceId = evidenceId)).head?

def addCustodyEvent (e : EvidenceCustodyEvent) : Except VaultError Database := do
  require (∀ x ∈ db.custody, (x.tenantId, x.evidenceId, x.sequenceNo) ≠
    (e.tenantId, e.evidenceId, e.sequenceNo)) .integrityError
  require (∀ x ∈ db.custody, (x.tenantId, x.eventHash) ≠ (e.tenantId, e.eventHash))
    .integrityError
  let rows ← ofOption .integrityError
    (Table.insert? EvidenceCustodyEvent.custodyEventId e db.custody)
  return { db with custody := rows }

/-- What a service records in the chain of custody. -/
structure CustodyEntry where
  action : String
  actorType : String
  actorId : String
  occurredAt : DateTime
  details : Dict

def nextCustodyEvent (sha256 : Bytes → String) (hex tenantId evidenceId : String)
    (entry : CustodyEntry) : EvidenceCustodyEvent :=
  let previous := db.lastCustodyEvent tenantId evidenceId
  let sequenceNo := (previous.map (·.sequenceNo)).getD 0 + 1
  let previousHash := previous.map (·.eventHash)
  { custodyEventId := newId "cst" hex
    tenantId := tenantId
    evidenceId := evidenceId
    sequenceNo := sequenceNo
    action := entry.action
    actorType := entry.actorType
    actorId := entry.actorId
    occurredAt := entry.occurredAt
    details := entry.details
    previousEventHash := previousHash
    eventHash := custodyEventHash sha256 tenantId evidenceId sequenceNo (.str entry.action)
      (.str entry.actorType) (.str entry.actorId) entry.occurredAt entry.details.value
      (optional previousHash) }

def appendCustodyEvent (sha256 : Bytes → String) (hex tenantId evidenceId : String)
    (entry : CustodyEntry) : Except VaultError (Database × EvidenceCustodyEvent) := do
  let _ ← ofOption (.lookupError evidenceId) (db.get tenantId evidenceId true)
  let event := db.nextCustodyEvent sha256 hex tenantId evidenceId entry
  let db ← db.addCustodyEvent event
  return (db, event)

def streamId (taskId engagementId : Option String) (tenantId : String) : String :=
  if PyString.truthy taskId then taskId.getD ""
  else if PyString.truthy engagementId then engagementId.getD ""
  else "tenant:" ++ tenantId

def nextSequence (tenantId stream : String) : Nat :=
  ((db.auditEvents.filter fun e => e.tenantId = tenantId ∧ e.streamId = stream).map
    (·.sequenceNo)).foldr max 0 + 1

def appendEvent (e : AuditEvent) : Except VaultError Database := do
  let rows ← ofOption .integrityError (Table.insert? AuditEvent.eventId e db.auditEvents)
  return { db with auditEvents := rows }

def addOutbox (e : OutboxEvent) : Except VaultError Database := do
  require (∀ o ∈ db.outbox, (o.tenantId, o.idempotencyKey) ≠ (e.tenantId, e.idempotencyKey))
    .integrityError
  let rows ← ofOption .integrityError (Table.insert? OutboxEvent.outboxId e db.outbox)
  return { db with outbox := rows }

/-- `_append_domain_event`. -/
def appendDomainEvent (eventHex outboxHex : String) (e : EvidenceRecord) (eventType : String)
    (payload : Dict) : Except VaultError Database := do
  let stream := streamId e.taskId e.engagementId e.tenantId
  let event : AuditEvent :=
    { eventId := newId "evt" eventHex
      eventType := eventType
      streamId := stream
      sequenceNo := db.nextSequence e.tenantId stream
      tenantId := e.tenantId
      engagementId := e.engagementId
      taskId := e.taskId
      payload := payload }
  let db ← db.appendEvent event
  db.addOutbox
    { outboxId := newId "obx" outboxHex
      tenantId := e.tenantId
      aggregateType := "evidence"
      aggregateId := e.evidenceId
      eventType := eventType
      payload := payload
      idempotencyKey := eventType ++ ":" ++ event.eventId }

end Database

end Vault
