/-
The evidence vault (`vault/service.py`), without its exports.

An acquisition (`ingest_bytes`, `create_derivative`) reads its scope, looks its
acquisition key up, stores the payload and commits the record; these parts are functions
of their own, because other calls can run between them.  An operation that raises keeps
what it has stored or committed before.
-/
import AssuranceOS.Vault.Repository
import AssuranceOS.Vault.Storage

namespace Vault

open Checked JsonText Adjudication

/-- What a content inspector reports. -/
structure InspectionResult where
  accepted : Bool
  tainted : Bool := false
  findings : List String := []
  metadata : Dict := .empty

/-- `inspect`, from the payload, its mime type and its filename. -/
abbrev ContentInspector := Bytes → Option String → Option String → InspectionResult

structure EvidenceVault where
  sha256 : Bytes → String
  inspector : Option ContentInspector := none

/-- The database and the object store. -/
structure VaultState where
  db : Database
  files : List StoredFile := []

/-- What a call gets from outside: the readings of its clock, the time of the file system
and the digits of its UUIDs. -/
structure Ambient where
  clock : Nat → DateTime
  fileTime : DateTime
  hex : Nat → String

structure IngestRequest where
  tenantId : String
  payload : Bytes
  sourceType : String
  sourceLocator : String
  actorId : String
  actorType : String := "user"
  engagementId : Option String := none
  taskId : Option String := none
  acquisitionKey : Option String := none
  originalFilename : Option String := none
  mimeType : Option String := none
  contentEncoding : Option String := none
  classification : String := "internal"
  sourceTime : Option DateTime := none
  accepted : Bool := false
  tainted : Bool := false
  retentionUntil : Option Date := none
  legalHold : Bool := false
  metadata : Dict := .empty

structure DerivativeRequest where
  tenantId : String
  sourceEvidenceIds : List String
  payload : Bytes
  operation : String
  toolVersion : String
  actorId : String
  actorType : String := "service"
  parameters : Dict := .empty
  sourceLocator : Option String := none
  acquisitionKey : Option String := none
  originalFilename : Option String := none
  mimeType : Option String := none
  contentEncoding : Option String := none
  classification : Option String := none
  accepted : Bool := false
  tainted : Option Bool := none
  retentionUntil : Option Date := none
  metadata : Dict := .empty

/-- An acquisition after it has read its scope. -/
inductive Job where
  /-- `engagementId`, `tainted` and `metadata` of the request are the ones to be stored. -/
  | original (request : IngestRequest)
  | derivative (request : DerivativeRequest) (sources : List EvidenceRecord)

namespace Job

def kind : Job → RecordKind
  | .original _ => .original
  | .derivative .. => .derived

def tenantId : Job → String
  | .original request => request.tenantId
  | .derivative request _ => request.tenantId

def payload : Job → Bytes
  | .original request => request.payload
  | .derivative request _ => request.payload

def acquisitionKey : Job → Option String
  | .original request => request.acquisitionKey
  | .derivative request _ => request.acquisitionKey

end Job

/-- `dict[key] = value`. -/
def Dict.assign (d : Dict) (key : String) (value : Value) (h : value.Distinct) : Dict where
  entries := JsonText.assign d.entries key value
  distinct := assign_distinct d.distinct h

/-- `{**d, **e}`. -/
def Dict.update (d e : Dict) : Dict where
  entries := e.entries.foldl (fun es p => JsonText.assign es p.1 p.2) d.entries
  distinct := foldl_assign_distinct d.distinct e.distinct.2

/-- The engagement of the evidence: the one that is given, or the one of its task. -/
def scopeOf (db : Database) (tenantId : String) (engagementId taskId : Option String) :
    Except VaultError (Option String) := do
  if let some engagementId := engagementId then
    let _ ← ofOption (.engagementNotFound engagementId) (db.getEngagement tenantId engagementId)
  match taskId with
  | none => return engagementId
  | some taskId =>
    let task ← ofOption (.taskNotFound taskId) (db.getTask tenantId taskId)
    require (∀ given ∈ engagementId, task.engagementId = given) .taskOutsideEngagement
    return some (engagementId.getD task.engagementId)

namespace EvidenceVault

variable (S : EvidenceVault)

/-- The content inspection: the taint and the metadata with which to go on. -/
def inspect (request : IngestRequest) : Except VaultError (Bool × Dict) :=
  match S.inspector with
  | none => return (request.tainted, request.metadata)
  | some inspector => do
    let inspection := inspector request.payload request.mimeType request.originalFilename
    require inspection.accepted (.contentInspectionRejected inspection.findings)
    let report := Dict.update { entries := [("findings", strings inspection.findings)] }
      inspection.metadata
    return (request.tainted || inspection.tainted,
      request.metadata.assign "content_inspection" report.value report.distinct)

def readIngest (db : Database) (request : IngestRequest) : Except VaultError Job := do
  let (tainted, metadata) ← S.inspect request
  let _ ← ofOption (.tenantNotFound request.tenantId) (db.getTenant request.tenantId)
  let engagementId ← scopeOf db request.tenantId request.engagementId request.taskId
  return .original
    { request with engagementId := engagementId, tainted := tainted, metadata := metadata }

end EvidenceVault

/-- The active sources, in the order in which they are asked for. -/
def readSources (db : Database) (tenantId : String) :
    List String → Except VaultError (List EvidenceRecord)
  | [] => return []
  | sourceId :: sourceIds => do
    let source ← ofOption (.sourceNotFound sourceId) (db.get tenantId sourceId)
    let sources ← readSources db tenantId sourceIds
    return source :: sources

def single {α : Type} [BEq α] (items : List α) : Option α :=
  match items.eraseDups with
  | [a] => some a
  | _ => none

def readDerivative (db : Database) (request : DerivativeRequest) : Except VaultError Job := do
  require (request.sourceEvidenceIds.eraseDups ≠ []) .noSources
  let sources ← readSources db request.tenantId request.sourceEvidenceIds.eraseDups
  require (request.classification ≠ none ∨ (single (sources.map (·.classification))).isSome)
    .classificationRequired
  return .derivative request sources

/-! ### Committing the record -/

/-- The record that a non-empty acquisition key identifies already. -/
def findAcquisition (db : Database) (job : Job) : Option EvidenceRecord :=
  if PyString.truthy job.acquisitionKey then
    db.getByAcquisitionKey job.tenantId (job.acquisitionKey.getD "")
  else none

def replayed (db : Database) (job : Job) (digest : String) :
    Except VaultError (Option EvidenceItem) :=
  match findAcquisition db job with
  | none => return none
  | some existing => do
    require (existing.contentSha256 = digest) (.differentBytes job.kind)
    return some existing

def originalRecord (request : IngestRequest) (digest : String) (stored : StoredObject)
    (now : DateTime) (hex : Nat → String) : EvidenceRecord where
  evidenceId := newId "evd" (hex 0)
  tenantId := request.tenantId
  engagementId := request.engagementId
  taskId := request.taskId
  acquisitionKey := request.acquisitionKey
  recordKind := .original
  sourceType := request.sourceType
  sourceLocator := request.sourceLocator
  contentSha256 := digest
  storageProvider := stored.provider
  storageKey := some stored.key
  objectUri := some stored.uri
  originalFilename := request.originalFilename
  mimeType := request.mimeType
  contentEncoding := request.contentEncoding
  sizeBytes := stored.sizeBytes
  classification := request.classification
  sourceTime := request.sourceTime
  collectedAt := now
  accepted := request.accepted
  tainted := request.tainted
  integrityStatus := .verified
  lastVerifiedAt := some now
  retentionUntil := request.retentionUntil
  legalHold := request.legalHold
  metadata := request.metadata

/-- `source_locator or f"derived:..."`. -/
def derivedLocator (request : DerivativeRequest) : String :=
  if PyString.truthy request.sourceLocator then request.sourceLocator.getD ""
  else "derived:" ++ request.operation ++ ":" ++
    ",".intercalate (request.sourceEvidenceIds.eraseDups.insertionSort fun a b => a ≤ b)

/-- The record of a derivative of `sources`. -/
def derivedRecord (request : DerivativeRequest) (sources : List EvidenceRecord)
    (digest : String) (stored : StoredObject) (now : DateTime) (hex : Nat → String) :
    EvidenceRecord where
  evidenceId := newId "evd" (hex 0)
  tenantId := request.tenantId
  engagementId := (single (sources.map (·.engagementId))).join
  taskId := (single (sources.map (·.taskId))).join
  acquisitionKey := request.acquisitionKey
  recordKind := .derived
  sourceType := "derived"
  sourceLocator := derivedLocator request
  contentSha256 := digest
  storageProvider := stored.provider
  storageKey := some stored.key
  objectUri := some stored.uri
  originalFilename := request.originalFilename
  mimeType := request.mimeType
  contentEncoding := request.contentEncoding
  sizeBytes := stored.sizeBytes
  classification :=
    request.classification.getD ((single (sources.map (·.classification))).getD "")
  sourceTime := none
  collectedAt := now
  accepted := request.accepted
  tainted := request.tainted.getD (sources.any (·.tainted))
  integrityStatus := .verified
  lastVerifiedAt := some now
  retentionUntil := request.retentionUntil
  legalHold := sources.any (·.legalHold)
  metadata := request.metadata

namespace EvidenceVault

variable (S : EvidenceVault)

/-- The transaction of `ingest_bytes` for a new acquisition. -/
def addOriginal (db : Database) (request : IngestRequest) (stored : StoredObject)
    (record : EvidenceRecord) (now : DateTime) (hex : Nat → String) :
    Except VaultError Database := do
  let db ← db.addEvidence record
  let (db, custody) ← db.appendCustodyEvent S.sha256 (hex 1) record.tenantId record.evidenceId
    { action := "acquired"
      actorType := request.actorType
      actorId := request.actorId
      occurredAt := now
      details :=
        { entries :=
            [("source_type", .str request.sourceType),
              ("source_locator", .str request.sourceLocator),
              ("sha256", .str record.contentSha256),
              ("size_bytes", .int stored.sizeBytes),
              ("object_created", .bool stored.created)] } }
  db.appendDomainEvent (hex 2) (hex 3) record "evidence.acquired"
    { entries :=
        [("evidence_id", .str record.evidenceId),
          ("record_kind", .str "original"),
          ("content_sha256", .str record.contentSha256),
          ("custody_head", .str custody.eventHash)] }

def addSource (request : DerivativeRequest) (derivedId : String) (now : DateTime)
    (hex : Nat → String) (db : Database) (source : EvidenceRecord) (i : Nat) :
    Except VaultError Database := do
  let db ← db.addTransformation
    { transformationId := newId "trn" (hex (2 * i + 1))
      tenantId := request.tenantId
      sourceEvidenceId := source.evidenceId
      derivedEvidenceId := derivedId
      operation := request.operation
      toolVersion := request.toolVersion
      parameters := request.parameters
      createdAt := now }
  let (db, _) ← db.appendCustodyEvent S.sha256 (hex (2 * i + 2)) request.tenantId
    source.evidenceId
    { action := "used_for_derivation"
      actorType := request.actorType
      actorId := request.actorId
      occurredAt := now
      details :=
        { entries :=
            [("derived_evidence_id", .str derivedId),
              ("operation", .str request.operation),
              ("tool_version", .str request.toolVersion)] } }
  return db

def addSources (request : DerivativeRequest) (derivedId : String) (now : DateTime)
    (hex : Nat → String) : Database → List EvidenceRecord → Nat → Except VaultError Database
  | db, [], _ => return db
  | db, source :: sources, i => do
    let db ← S.addSource request derivedId now hex db source i
    addSources request derivedId now hex db sources (i + 1)

/-- The transaction of `create_derivative` for a new acquisition. -/
def addDerivative (db : Database) (request : DerivativeRequest) (record : EvidenceRecord)
    (now : DateTime) (hex : Nat → String) : Except VaultError Database := do
  let sourceIds := request.sourceEvidenceIds.eraseDups
  let currentSources ← readSources db request.tenantId sourceIds
  let db ← db.addEvidence record
  let db ← S.addSources request record.evidenceId now hex db currentSources 0
  let n := 2 * currentSources.length
  let (db, custody) ← db.appendCustodyEvent S.sha256 (hex (n + 1)) record.tenantId
    record.evidenceId
    { action := "derived"
      actorType := request.actorType
      actorId := request.actorId
      occurredAt := now
      details :=
        { entries :=
            [("source_evidence_ids", strings sourceIds),
              ("operation", .str request.operation),
              ("tool_version", .str request.toolVersion),
              ("sha256", .str record.contentSha256)] } }
  db.appendDomainEvent (hex (n + 2)) (hex (n + 3)) record "evidence.derived"
    { entries :=
        [("evidence_id", .str record.evidenceId),
          ("source_evidence_ids", strings sourceIds),
          ("operation", .str request.operation),
          ("custody_head", .str custody.eventHash)] }

/-- The new record of an acquisition and the transaction that adds it. -/
def addRecord (db : Database) (job : Job) (stored : StoredObject) (now : DateTime)
    (hex : Nat → String) : Except VaultError (EvidenceItem × Database) := do
  match job with
  | .original request =>
    let record := originalRecord request (S.sha256 request.payload) stored now hex
    let db ← S.addOriginal db request stored record now hex
    return (record, db)
  | .derivative request sources =>
    let record := derivedRecord request sources (S.sha256 request.payload) stored now hex
    let db ← S.addDerivative db request record now hex
    return (record, db)

def acquire (db : Database) (job : Job) (stored : StoredObject) (now : DateTime)
    (hex : Nat → String) : Except VaultError (EvidenceItem × Database) := do
  match ← replayed db job (S.sha256 job.payload) with
  | some existing => return (existing, db)
  | none => S.addRecord db job stored now hex

/-- The transaction, with its handler of an `IntegrityError`. -/
def commit (db : Database) (job : Job) (stored : StoredObject) (now : DateTime)
    (hex : Nat → String) : Except VaultError (EvidenceItem × Database) :=
  match S.acquire db job stored now hex with
  | .error .integrityError =>
    match findAcquisition db job with
    | some existing =>
      if existing.contentSha256 = S.sha256 job.payload then .ok (existing, db)
      else .error (.acquisitionConflict job.kind)
    | none => .error (.acquisitionConflict job.kind)
  | result => result

/-- An acquisition after it has read its scope: look the key up, store, commit. -/
def acquireBytes (v : VaultState) (ambient : Ambient) (job : Job) :
    Except VaultError EvidenceItem × VaultState :=
  match replayed v.db job (S.sha256 job.payload) with
  | .error error => (.error error, v)
  | .ok (some existing) => (.ok existing, v)
  | .ok none =>
    match LocalObjectStore.putBytes S.sha256 v.files ambient.fileTime job.tenantId job.payload
        (S.sha256 job.payload) with
    | .error error => (.error error, v)
    | .ok (stored, files) =>
      match S.commit v.db job stored (ambient.clock 0) ambient.hex with
      | .error error => (.error error, { v with files := files })
      | .ok (item, db) => (.ok item, { db := db, files := files })

/-- Stores the bytes and records them as evidence. -/
def ingestBytes (v : VaultState) (ambient : Ambient) (request : IngestRequest) :
    Except VaultError EvidenceItem × VaultState :=
  match S.readIngest v.db request with
  | .error error => (.error error, v)
  | .ok job => S.acquireBytes v ambient job

/-- Stores what was made of other evidence, under its protection at least. -/
def createDerivative (v : VaultState) (ambient : Ambient) (request : DerivativeRequest) :
    Except VaultError EvidenceItem × VaultState :=
  match readDerivative v.db request with
  | .error error => (.error error, v)
  | .ok job => S.acquireBytes v ambient job

def getActiveRecord (db : Database) (tenantId evidenceId : String) :
    Except VaultError EvidenceRecord := do
  let record ← ofOption (.evidenceNotFound evidenceId) (db.get tenantId evidenceId true)
  require record.Active (.evidenceDeleted evidenceId)
  return record

def readBytes (v : VaultState) (ambient : Ambient) (tenantId evidenceId actorId : String)
    (actorType purpose : String) : Except VaultError (Bytes × Database) := do
  let record ← getActiveRecord v.db tenantId evidenceId
  let key ← ofOption (.noStoredObject evidenceId) record.storageKey
  let payload ← LocalObjectStore.read v.files tenantId key
  let (db, _) ← v.db.appendCustodyEvent S.sha256 (ambient.hex 0) tenantId evidenceId
    { action := "accessed"
      actorType := actorType
      actorId := actorId
      occurredAt := ambient.clock 0
      details :=
        { entries := [("purpose", .str purpose), ("bytes_read", .int payload.length)] } }
  return (payload, db)

structure IntegrityReport where
  evidenceId : String
  status : IntegrityStatus
  expectedSha256 : String
  actualSha256 : Option String
  expectedSize : Nat
  actualSize : Option Nat
  verifiedAt : DateTime

/-- What the store says about the object of a record: the status, the digest and the size
that are there, and the failure to raise. -/
def examine (v : VaultState) (record : EvidenceRecord) (tenantId key : String) :
    Except VaultError (IntegrityStatus × Option StoredObject × Option VaultError) :=
  match LocalObjectStore.verify S.sha256 v.files tenantId key record.contentSha256
      record.sizeBytes with
  | .ok stored => return (.verified, some stored, none)
  | .error (.objectNotFound tenantId key) =>
    return (.missing, none, some (.objectNotFound tenantId key))
  | .error .immutableObjectConflict =>
    match LocalObjectStore.stat S.sha256 v.files tenantId key with
    | .ok stored => return (.mismatch, some stored, some .immutableObjectConflict)
    | .error (.objectNotFound _ _) => return (.missing, none, some .immutableObjectConflict)
    | .error error => .error error
  | .error error => .error error

def verifyIntegrity (v : VaultState) (ambient : Ambient) (tenantId evidenceId : String)
    (actorId : String := "evidence-vault") :
    Except VaultError (IntegrityReport × Option VaultError × Database) := do
  let record ← getActiveRecord v.db tenantId evidenceId
  let key ← ofOption (.noStoredObject evidenceId) record.storageKey
  let now := ambient.clock 0
  let (status, stored, failure) ← S.examine v record tenantId key
  let current ← ofOption (.evidenceNotFound evidenceId) (v.db.get tenantId evidenceId)
  let db := v.db.putEvidence
    { current with integrityStatus := status, lastVerifiedAt := some now }
  let (db, _) ← db.appendCustodyEvent S.sha256 (ambient.hex 0) tenantId evidenceId
    { action := if status = .verified then "integrity_verified" else "integrity_failed"
      actorType := "service"
      actorId := actorId
      occurredAt := now
      details :=
        { entries :=
            [("status", .str status.value),
              ("expected_sha256", .str record.contentSha256),
              ("actual_sha256", optional (stored.map (·.sha256))),
              ("expected_size", .int record.sizeBytes),
              ("actual_size", (stored.map fun s => Value.int s.sizeBytes).getD .null)]
          distinct := by
            cases stored <;> simp [Value.Distinct, EntriesDistinct, EntryDistinct] } }
  return (⟨evidenceId, status, record.contentSha256, stored.map (·.sha256), record.sizeBytes,
    stored.map (·.sizeBytes), now⟩, failure, db)

def setRetention (db : Database) (ambient : Ambient) (tenantId evidenceId actorId : String)
    (retentionUntil : Option Date) (legalHold : Bool) (reason : String) :
    Except VaultError (EvidenceItem × Database) := do
  let record ← ofOption (.evidenceNotFound evidenceId) (db.get tenantId evidenceId)
  let record := { record with retentionUntil := retentionUntil, legalHold := legalHold }
  let (db, _) ← (db.putEvidence record).appendCustodyEvent S.sha256 (ambient.hex 0) tenantId
    evidenceId
    { action := "retention_updated"
      actorType := "user"
      actorId := actorId
      occurredAt := ambient.clock 0
      details :=
        { entries :=
            [("retention_until", optional (retentionUntil.map (·.isoformat))),
              ("legal_hold", .bool legalHold),
              ("reason", .str reason)] } }
  return (record, db)

def checkRetention (record : EvidenceRecord) (effectiveDate : Date) :
    Except VaultError Unit := do
  require (record.legalHold = false) .legalHold
  let retentionUntil ← ofOption .noRetentionExpiry record.retentionUntil
  require (¬ effectiveDate.lt retentionUntil) (.retainedUntil retentionUntil)

def purge (db : Database) (ambient : Ambient) (tenantId evidenceId actorId reason : String)
    (asOf : Option Date) : Except VaultError (EvidenceItem × Database) := do
  let effectiveDate := asOf.getD (ambient.clock 0).date
  let now := ambient.clock 1
  let record ← ofOption (.evidenceNotFound evidenceId) (db.get tenantId evidenceId true)
  if ¬ record.Active then return (record, db)
  checkRetention record effectiveDate
  let record :=
    { record with
      deletedAt := some now, deletionReason := some reason, integrityStatus := .purged }
  let (db, _) ← (db.putEvidence record).appendCustodyEvent S.sha256 (ambient.hex 0) tenantId
    evidenceId
    { action := "tombstoned"
      actorType := "user"
      actorId := actorId
      occurredAt := now
      details :=
        { entries :=
            [("reason", .str reason), ("effective_date", .str effectiveDate.isoformat)] } }
  let db ← db.appendDomainEvent (ambient.hex 1) (ambient.hex 2) record "evidence.tombstoned"
    { entries := [("evidence_id", .str evidenceId), ("reason", .str reason)] }
  return (record, db)

structure GarbageCollectionReport where
  tenantId : String
  examined : Nat
  deleted : Nat
  retained : Nat
  deletedKeys : List String

/-- One object of the collector's loop: what is left, and whether it was deleted.  The
cutoff is the clock's reading less the grace period. -/
def sweepObject (tenantId : String) (activeKeys : List String) (cutoff : DateTime)
    (files : List StoredFile) (stored : StoredObject) :
    Except VaultError (Bool × List StoredFile) :=
  if stored.key ∈ activeKeys ∨ cutoff.rank < stored.modifiedAt.rank then .ok (false, files)
  else LocalObjectStore.delete files tenantId stored.key

def sweepObjects (tenantId : String) (activeKeys : List String) (cutoff : DateTime) :
    List StoredFile → List StoredObject → Except VaultError (List String) × List StoredFile
  | files, [] => (.ok [], files)
  | files, stored :: objects =>
    match sweepObject tenantId activeKeys cutoff files stored with
    | .error error => (.error error, files)
    | .ok (deleted, files) =>
      let (keys, files) := sweepObjects tenantId activeKeys cutoff files objects
      (keys.map fun keys => if deleted then stored.key :: keys else keys, files)

/-- Deletes the old objects that no active record refers to. -/
def collectGarbage (v : VaultState) (tenantId : String) (cutoff : DateTime) :
    Except VaultError GarbageCollectionReport × VaultState :=
  let activeKeys := v.db.activeStorageKeys tenantId
  match LocalObjectStore.iterObjects S.sha256 v.files tenantId with
  | .error error => (.error error, v)
  | .ok objects =>
    let (keys, files) := sweepObjects tenantId activeKeys cutoff v.files objects
    (keys.map fun keys =>
      { tenantId := tenantId
        examined := objects.length
        deleted := keys.length
        retained := (objects.filter fun stored =>
          stored.key ∈ activeKeys ∨ cutoff.rank < stored.modifiedAt.rank).length
        deletedKeys := keys },
      { v with files := files })

end EvidenceVault

end Vault
