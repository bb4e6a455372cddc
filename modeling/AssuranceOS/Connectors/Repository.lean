/-
The data of the connectors (`connectors/definitions.py`, `connectors/protocol.py`,
`connectors/exceptions.py` and `db/models/connectors.py`).

A connector is what the service asks of it: its descriptor, its health, the scope of a request,
and the pages that a collection yields before it is exhausted or raises.  A cursor is a
dictionary of the provider's own.

The connector rows in the database (`connectors/repository.py`), with the constraints of their
tables, and the registration of instances and grants (`connectors/service.py`).
-/
import AssuranceOS.Vault.Service
import AssuranceOS.Lib.PythonValue

namespace Connectors

open JsonText Vault Checked

/-- Microseconds. -/
abbrev Timestamp := ℤ

inductive HealthStatus where
  | healthy
  | degraded
  | unavailable
  | unauthorized
  deriving DecidableEq, Repr

inductive InstanceStatus where
  | draft
  | active
  | disabled
  | error
  deriving DecidableEq, Repr

inductive GrantStatus where
  | draft
  | active
  | revoked
  | expired
  deriving DecidableEq, Repr

inductive RunStatus where
  | pending
  | running
  | succeeded
  | partialRun
  | failed
  | cancelled
  deriving DecidableEq, Repr

/-- The exceptions that a call can leave with, with the data of their messages. -/
inductive ConnectorError where
  | tenantNotFound (tenantId : String)
  | connectorNotFound (connectorInstanceId : String)
  | grantNotFound (grantId : String)
  | instanceExists
  | grantExists
  | expiryNotInFuture
  | instanceStatus (status : InstanceStatus)
  | typeMismatch
  | grantStatus (status : GrantStatus)
  | grantExpired
  | writeCapable
  | streamNotExposed (stream : String)
  | streamNotPermitted (stream : String)
  | scopeNotPermitted (key : String) (value : Value)
  | unhealthy (status : HealthStatus)
  | versionConflict (sourceObjectId sourceVersion : String)
  | runExists
  /-- the `IntegrityError` of `add_collected_object` -/
  | integrity
  /-- `assert row is not None` -/
  | runMissing
  | vault (error : VaultError)
  /-- what the connector raises -/
  | provider (text : String)
  /-- what the database raises -/
  | database (text : String)

structure ConnectorHealth where
  status : HealthStatus
  checkedAt : Timestamp
  details : Dict := .empty

structure CollectionRequest where
  stream : String
  scope : Dict := .empty
  parameters : Dict := .empty
  engagementId : Option String := none
  taskId : Option String := none
  classification : String := "internal"
  /-- `retention_until.date()` -/
  retentionUntil : Option Adjudication.Date := none

structure SourceObject where
  sourceObjectId : String
  sourceVersion : String
  sourceLocator : String
  payload : Dict
  sourceTime : Option DateTime := none
  mimeType : String := "application/json"
  originalFilename : Option String := none
  classification : Option String := none
  tainted : Bool := false
  metadata : Dict := .empty

/-- `payload_bytes`, the canonical JSON of the payload. -/
def SourceObject.payloadBytes (item : SourceObject) : Bytes := utf8 (dumps item.payload.value)

structure ConnectorPage where
  objects : List SourceObject
  nextCursor : Option Dict := none
  requestMetadata : Dict := .empty

structure ConnectorDescriptor where
  connectorType : String
  streams : List String

/-- What iterating over `collect_pages` yields, and how it ends. -/
structure Collection where
  pages : List ConnectorPage
  raised : Option ConnectorError := none

/-- A connector. -/
structure Connector where
  descriptor : ConnectorDescriptor
  health : Except ConnectorError ConnectorHealth
  scopeFor : CollectionRequest → Except ConnectorError Dict
  collectPages : CollectionRequest → Dict → Collection

structure ConnectorInstanceInput where
  connectorKey : String
  connectorType : String
  displayName : String
  baseUrl : Option String := none
  credentialRef : Option String := none
  config : Dict := .empty

structure CollectionGrantInput where
  grantKey : String
  purpose : String
  allowedStreams : List String
  resourceSelectors : Dict := .empty
  approvedBy : String
  expiresAt : Option Timestamp := none

structure ConnectorInstance where
  connectorInstanceId : String
  tenantId : String
  connectorKey : String
  connectorType : String
  displayName : String
  baseUrl : Option String := none
  status : InstanceStatus
  credentialRef : Option String := none
  config : Dict := .empty
  lastHealthStatus : Option HealthStatus := none
  lastHealthCheckedAt : Option Timestamp := none
  lastHealthDetails : Dict := .empty

structure CollectionGrant where
  grantId : String
  tenantId : String
  connectorInstanceId : String
  grantKey : String
  purpose : String
  status : GrantStatus
  readOnly : Bool
  allowedStreams : List String
  resourceSelectors : Dict
  approvedBy : Option String := none
  approvedAt : Option Timestamp := none
  expiresAt : Option Timestamp := none
  revokedBy : Option String := none
  revokedAt : Option Timestamp := none
  revocationReason : Option String := none
  createdAt : Timestamp

/-- The key of a checkpoint. -/
structure StreamKey where
  tenantId : String
  connectorInstanceId : String
  stream : String
  deriving DecidableEq

structure ConnectorCheckpoint where
  checkpointId : String
  key : StreamKey
  cursor : Dict
  version : ℕ
  updatedAt : Timestamp

structure ConnectorRun where
  runId : String
  tenantId : String
  connectorInstanceId : String
  grantId : String
  stream : String
  status : RunStatus
  idempotencyKey : String
  startedAt : Timestamp
  completedAt : Option Timestamp := none
  checkpointBefore : Dict
  checkpointAfter : Dict
  request : CollectionRequest
  objectsSeen : ℕ := 0
  objectsIngested : ℕ := 0
  objectsUnchanged : ℕ := 0
  schemaFingerprint : Option String := none
  schemaDrift : Bool := false
  /-- `metrics_json["pages"]` -/
  pages : Option ℕ := none
  lastError : Option ConnectorError := none
  createdAt : Timestamp

/-- The columns that the version check goes by. -/
structure VersionKey where
  streamKey : StreamKey
  sourceObjectId : String
  sourceVersion : String
  deriving DecidableEq

structure CollectedSourceObject where
  collectedObjectId : String
  runId : String
  version : VersionKey
  sourceLocator : String
  contentSha256 : String
  evidenceId : String
  collectedAt : Timestamp
  metadata : Dict := .empty

def CollectedSourceObject.tenantId (row : CollectedSourceObject) : String :=
  row.version.streamKey.tenantId

/-- The tables of the connectors. -/
structure Database where
  instances : List ConnectorInstance := []
  grants : List CollectionGrant := []
  checkpoints : List ConnectorCheckpoint := []
  runs : List ConnectorRun := []
  collected : List CollectedSourceObject := []

namespace Database

variable (db : Database)

def getInstance (tenantId connectorInstanceId : String) : Option ConnectorInstance :=
  db.instances.find? fun i => i.tenantId = tenantId ∧ i.connectorInstanceId = connectorInstanceId

def addInstance (row : ConnectorInstance) : Except ConnectorError Database := do
  require (¬ ∃ i ∈ db.instances, i.connectorInstanceId = row.connectorInstanceId ∨
    i.tenantId = row.tenantId ∧ i.connectorKey = row.connectorKey) .instanceExists
  return { db with instances := db.instances ++ [row] }

def putInstance (row : ConnectorInstance) : Database :=
  { db with instances := Table.put ConnectorInstance.connectorInstanceId row db.instances }

def listInstances (tenantId : String) : List ConnectorInstance :=
  (db.instances.filter fun i => i.tenantId = tenantId).insertionSort
    fun a b => a.connectorKey ≤ b.connectorKey

def getGrant (tenantId grantId : String) : Option CollectionGrant :=
  db.grants.find? fun g => g.tenantId = tenantId ∧ g.grantId = grantId

def addGrant (row : CollectionGrant) : Except ConnectorError Database := do
  require (¬ ∃ g ∈ db.grants, g.grantId = row.grantId ∨
    g.tenantId = row.tenantId ∧ g.grantKey = row.grantKey) .grantExists
  return { db with grants := db.grants ++ [row] }

def putGrant (row : CollectionGrant) : Database :=
  { db with grants := Table.put CollectionGrant.grantId row db.grants }

def listGrants (tenantId : String) : List CollectionGrant :=
  (db.grants.filter fun g => g.tenantId = tenantId).insertionSort
    fun a b => a.createdAt ≤ b.createdAt

def addRun (run : ConnectorRun) : Except ConnectorError Database := do
  require (¬ ∃ r ∈ db.runs, r.runId = run.runId ∨
    r.tenantId = run.tenantId ∧ r.idempotencyKey = run.idempotencyKey) .runExists
  return { db with runs := db.runs ++ [run] }

def putRun (run : ConnectorRun) : Database :=
  { db with runs := Table.put ConnectorRun.runId run db.runs }

def getRun (tenantId runId : String) : Option ConnectorRun :=
  db.runs.find? fun r => r.tenantId = tenantId ∧ r.runId = runId

def getRunByIdempotency (tenantId key : String) : Option ConnectorRun :=
  db.runs.find? fun r => r.tenantId = tenantId ∧ r.idempotencyKey = key

def newer (a b : ConnectorRun) : Bool :=
  b.completedAt.getD 0 < a.completedAt.getD 0 ∨
    b.completedAt.getD 0 = a.completedAt.getD 0 ∧ b.createdAt ≤ a.createdAt

def latestSuccessfulRun (key : StreamKey) (excludeRunId : String) : Option ConnectorRun :=
  ((db.runs.filter fun r => r.tenantId = key.tenantId ∧
      r.connectorInstanceId = key.connectorInstanceId ∧ r.stream = key.stream ∧
      r.status = .succeeded ∧ r.runId ≠ excludeRunId).insertionSort
    fun a b => newer a b).head?

def getCheckpoint (key : StreamKey) : Option ConnectorCheckpoint :=
  Table.get? ConnectorCheckpoint.key key db.checkpoints

def saveCheckpoint (checkpointId : String) (key : StreamKey) (cursor : Dict) (now : Timestamp) :
    Database :=
  match db.getCheckpoint key with
  | none =>
    { db with
      checkpoints := db.checkpoints ++
        [{ checkpointId := checkpointId, key := key, cursor := cursor, version := 1
           updatedAt := now }] }
  | some checkpoint =>
    { db with
      checkpoints := Table.put ConnectorCheckpoint.key
        { checkpoint with
          cursor := cursor, version := checkpoint.version + 1, updatedAt := now }
        db.checkpoints }

/-! ### Collected objects -/

/-- The insertion, with the keys that refer to the run and to the evidence. -/
def addCollectedObject (evidence : List EvidenceRecord) (item : CollectedSourceObject) :
    Except ConnectorError Database := do
  require (¬ ∃ c ∈ db.collected, c.collectedObjectId = item.collectedObjectId ∨
    c.runId = item.runId ∧ c.version.sourceObjectId = item.version.sourceObjectId ∧
      c.version.sourceVersion = item.version.sourceVersion) .integrity
  require (∃ run ∈ db.runs, run.runId = item.runId) .integrity
  require (∃ record ∈ evidence, record.evidenceId = item.evidenceId) .integrity
  return { db with collected := db.collected ++ [item] }

def lastCollected (rows : List CollectedSourceObject) : Option CollectedSourceObject :=
  (rows.insertionSort fun a b => b.collectedAt ≤ a.collectedAt).head?

def findAnyCollectedVersion (version : VersionKey) : Option CollectedSourceObject :=
  lastCollected (db.collected.filter fun c => c.version = version)

def findCollectedVersion (version : VersionKey) (contentSha256 : String) :
    Option CollectedSourceObject :=
  lastCollected (db.collected.filter fun c => c.version = version ∧
    c.contentSha256 = contentSha256)

end Database

/-- `register_instance`, from the tenants that there are. -/
def registerInstance (tenants : List String) (db : Database) (connectorInstanceId tenantId : String)
    (data : ConnectorInstanceInput) : Except ConnectorError (ConnectorInstance × Database) := do
  require (tenantId ∈ tenants) (.tenantNotFound tenantId)
  let row : ConnectorInstance :=
    { connectorInstanceId := connectorInstanceId
      tenantId := tenantId
      connectorKey := data.connectorKey
      connectorType := data.connectorType
      displayName := data.displayName
      baseUrl := data.baseUrl
      status := .active
      credentialRef := data.credentialRef
      config := data.config }
  let db ← db.addInstance row
  return (row, db)

/-- `create_grant`. -/
def createGrant (db : Database) (grantId tenantId connectorInstanceId : String)
    (data : CollectionGrantInput) (now : Timestamp) :
    Except ConnectorError (CollectionGrant × Database) := do
  require (∀ expiresAt ∈ data.expiresAt, now < expiresAt) .expiryNotInFuture
  let _ ← ofOption (.connectorNotFound connectorInstanceId)
    (db.getInstance tenantId connectorInstanceId)
  let row : CollectionGrant :=
    { grantId := grantId
      tenantId := tenantId
      connectorInstanceId := connectorInstanceId
      grantKey := data.grantKey
      purpose := data.purpose
      status := .active
      readOnly := true
      allowedStreams := data.allowedStreams
      resourceSelectors := data.resourceSelectors
      approvedBy := some data.approvedBy
      approvedAt := some now
      expiresAt := data.expiresAt
      createdAt := now }
  let db ← db.addGrant row
  return (row, db)

/-- `revoke_grant`. -/
def revokeGrant (db : Database) (tenantId grantId actorId reason : String) (now : Timestamp) :
    Except ConnectorError (CollectionGrant × Database) := do
  let row ← ofOption (.grantNotFound grantId) (db.getGrant tenantId grantId)
  if row.status = .revoked then return (row, db)
  else
    let row := { row with
      status := .revoked
      revokedBy := some actorId
      revokedAt := some now
      revocationReason := some reason }
    return (row, db.putGrant row)

section Validate

variable (real : FloatLiteral → FloatValue)

mutual

/-- `_selector_allows`. -/
def selectorAllows (allowed : Value) : Value → Bool
  | .obj requested =>
    match allowed with
    | .str s => s = "*"
    | .arr items => items.any fun v => equal real (.obj requested) v
    | .obj entries => entriesAllowed entries requested
    | _ => false
  | .arr requested =>
    match allowed with
    | .str s => s = "*"
    | .arr items =>
      requested.all fun value => items.any fun v => oneObject value v || equal real value v
    | _ => false
  | requested =>
    match allowed with
    | .str s => s = "*" || equal real (.str s) requested
    | .arr items => items.any fun v => oneObject requested v || equal real requested v
    | _ => equal real allowed requested

/-- Every key is one that the selector has, with a value that it allows. -/
def entriesAllowed (allowed : Object) : Object → Bool
  | [] => true
  | (key, value) :: entries =>
    (match allowed.lookup key with
      | some selector => selectorAllows selector value
      | none => false) && entriesAllowed allowed entries

end

def scopePermitted (allowed : Object) : Object → Except ConnectorError Unit
  | [] => .ok ()
  | (key, value) :: entries => do
    require (∃ selector ∈ allowed.lookup key, selectorAllows real selector value)
      (.scopeNotPermitted key value)
    scopePermitted allowed entries

/-- `_validate`. -/
def validate (connectorInstance : ConnectorInstance) (grant : CollectionGrant)
    (connector : Connector) (request : CollectionRequest) (now : Timestamp) :
    Except ConnectorError Unit := do
  require (connectorInstance.status = .active) (.instanceStatus connectorInstance.status)
  require (connectorInstance.connectorType = connector.descriptor.connectorType) .typeMismatch
  require (grant.status = .active) (.grantStatus grant.status)
  require (∀ expiresAt ∈ grant.expiresAt, now < expiresAt) .grantExpired
  require grant.readOnly .writeCapable
  require (request.stream ∈ connector.descriptor.streams) (.streamNotExposed request.stream)
  require (request.stream ∈ grant.allowedStreams) (.streamNotPermitted request.stream)
  let requested ← connector.scopeFor request
  scopePermitted real grant.resourceSelectors.entries requested.entries

end Validate

end Connectors
