/-
A collection run (`ConnectorService.run`).

A transaction, a read session and an acquisition of the vault are operations of a program
(`Op`); `Environment.exec` says what each answers and what it leaves behind.  Any operation can
fail, before it has done anything or after it is done (`Environment.fault`), and what was
committed before stays.  The locals of the loops that outlive an exception are `Progress`.
-/
import AssuranceOS.Connectors.Repository
import AssuranceOS.Lib.Trace

namespace Connectors

open JsonText Vault Checked

/-- How an operation on the database fails: it is rolled back, or it is done and the answer is
lost. -/
inductive Fault where
  | before (text : String)
  | after (text : String)

/-- The vault, and what the service gets from outside at each operation. -/
structure Environment where
  vault : EvidenceVault
  real : FloatLiteral → FloatValue
  clock : ℕ → Timestamp
  ambient : ℕ → Ambient
  hex : ℕ → String
  fault : ℕ → Option Fault := fun _ => none

/-- The database with its vault, and the number of operations so far. -/
structure World where
  db : Database := {}
  vault : VaultState
  ticks : ℕ := 0

/-- `ensure_ascii`, of a text in which quotes and control characters are escaped already. -/
def ascii (text : List Char) : List Char :=
  text.flatMap fun c => if c.toNat < 127 then [c] else Json.escapeChar c

/-- `_canonical_shape_key`. -/
def canonicalShapeKey (shape : Value) : String := String.ofList (ascii (dumps shape))

/-- `sorted` of a set of texts. -/
def sortedSet (texts : List String) : List String := texts.eraseDups.insertionSort (· ≤ ·)

mutual

/-- `_schema_shape`. -/
def schemaShape : Value → Value
  | .obj entries => .obj (shapeEntries entries)
  | .arr items => .arr [strings (sortedSet (shapeKeys items))]
  | .null => .str "null"
  | .bool _ => .str "bool"
  | .int _ => .str "int"
  | .float _ => .str "float"
  | .str _ => .str "str"

def shapeEntries : List (String × Value) → List (String × Value)
  | [] => []
  | (key, item) :: entries => (key, schemaShape item) :: shapeEntries entries

def shapeKeys : List Value → List String
  | [] => []
  | item :: items => canonicalShapeKey (schemaShape item) :: shapeKeys items

end

/-- `{**d, key: value}`. -/
def withDict (d : Dict) (key : String) (value : Dict) : Dict :=
  d.assign key value.value value.distinct

def withText (d : Dict) (key value : String) : Dict := d.assign key (.str value) trivial

/-- The arguments of `run`. -/
structure RunCall where
  tenantId : String
  connectorInstanceId : String
  grantId : String
  connector : Connector
  request : CollectionRequest
  idempotencyKey : String

namespace RunCall

variable (call : RunCall)

def streamKey : StreamKey where
  tenantId := call.tenantId
  connectorInstanceId := call.connectorInstanceId
  stream := call.request.stream

def version (item : SourceObject) : VersionKey where
  streamKey := call.streamKey
  sourceObjectId := item.sourceObjectId
  sourceVersion := item.sourceVersion

end RunCall

/-- What the first transaction answers: the run that the key stands for, or a new one. -/
inductive Opening where
  | existing (run : ConnectorRun)
  | opened (runId : String) (checkpointBefore : Dict)

/-- What a collection has come to. -/
structure Progress where
  seen : ℕ := 0
  ingested : ℕ := 0
  unchanged : ℕ := 0
  pages : ℕ := 0
  shapes : List Value := []
  checkpointAfter : Dict

/-- A row of `collected_source_objects` but for its id and its time. -/
structure CollectedLink where
  runId : String
  version : VersionKey
  sourceLocator : String
  contentSha256 : String
  evidenceId : String
  metadata : Dict

/-- The operations of a collection. -/
inductive Op where
  | openRun (call : RunCall)
  | recordHealth (tenantId connectorInstanceId : String) (health : ConnectorHealth)
  | findAnyVersion (version : VersionKey)
  | findVersion (version : VersionKey) (contentSha256 : String)
  | ingest (request : IngestRequest)
  | addCollected (link : CollectedLink)
  /-- `page` is the loop's count of pages, which the transaction does not look at -/
  | saveCheckpoint (page : ℕ) (key : StreamKey) (cursor : Dict)
  | finishRun (key : StreamKey) (runId : String) (progress : Progress)
      (error : Option ConnectorError)

/-- What an operation of a collection answers with. -/
abbrev Op.Answer : Op → Type
  | .openRun _ => Opening
  | .recordHealth .. => Unit
  | .findAnyVersion _ => Option CollectedSourceObject
  | .findVersion .. => Option CollectedSourceObject
  | .ingest _ => EvidenceItem
  | .addCollected _ => Unit
  | .saveCheckpoint .. => Unit
  | .finishRun .. => ConnectorRun

namespace Environment

variable (env : Environment)

def contentSha256 (item : SourceObject) : String := env.vault.sha256 item.payloadBytes

/-- The text `kind_…` of an id that is drawn at an operation. -/
def newId (kind : String) (tick : ℕ) : String := Vault.newId kind (env.hex tick)

def checkpointBefore (db : Database) (key : StreamKey) : Dict :=
  match db.getCheckpoint key with
  | some checkpoint => checkpoint.cursor
  | none => .empty

def newRun (tick : ℕ) (call : RunCall) (checkpointBefore : Dict) : ConnectorRun where
  runId := env.newId "run" tick
  tenantId := call.tenantId
  connectorInstanceId := call.connectorInstanceId
  grantId := call.grantId
  stream := call.request.stream
  status := .running
  idempotencyKey := call.idempotencyKey
  startedAt := env.clock tick
  checkpointBefore := checkpointBefore
  checkpointAfter := checkpointBefore
  request := call.request
  createdAt := env.clock tick

def openRun (db : Database) (tick : ℕ) (call : RunCall) :
    Except ConnectorError (Opening × Database) := do
  match db.getRunByIdempotency call.tenantId call.idempotencyKey with
  | some existing => return (.existing existing, db)
  | none =>
    let connectorInstance ← ofOption (.connectorNotFound call.connectorInstanceId)
      (db.getInstance call.tenantId call.connectorInstanceId)
    let grant ← ofOption (.grantNotFound call.grantId) (db.getGrant call.tenantId call.grantId)
    require (grant.connectorInstanceId = call.connectorInstanceId) (.grantNotFound call.grantId)
    let checkpointBefore := checkpointBefore db call.streamKey
    validate env.real connectorInstance grant call.connector call.request (env.clock tick)
    let run := env.newRun tick call checkpointBefore
    let db ← db.addRun run
    return (.opened run.runId checkpointBefore, db)

/-- `_record_health`. -/
def recordHealth (db : Database) (tenantId connectorInstanceId : String)
    (health : ConnectorHealth) : Except ConnectorError Database := do
  let connectorInstance ← ofOption (.connectorNotFound connectorInstanceId)
    (db.getInstance tenantId connectorInstanceId)
  return db.putInstance { connectorInstance with
    lastHealthStatus := some health.status
    lastHealthCheckedAt := some health.checkedAt
    lastHealthDetails := health.details }

def collectedRow (tick : ℕ) (link : CollectedLink) : CollectedSourceObject where
  collectedObjectId := env.newId "cso" tick
  runId := link.runId
  version := link.version
  sourceLocator := link.sourceLocator
  contentSha256 := link.contentSha256
  evidenceId := link.evidenceId
  collectedAt := env.clock tick
  metadata := link.metadata

def schemaFingerprint (shapes : List Value) : Option String :=
  if shapes = [] then none
  else some (env.vault.sha256
    (utf8 (dumps (strings (sortedSet (shapes.map canonicalShapeKey))))))

def finishRun (db : Database) (tick : ℕ) (key : StreamKey) (runId : String) (progress : Progress)
    (error : Option ConnectorError) : Except ConnectorError (ConnectorRun × Database) := do
  let row ← ofOption .runMissing (db.getRun key.tenantId runId)
  let fingerprint := env.schemaFingerprint progress.shapes
  let drift : Bool :=
    match db.latestSuccessfulRun key runId with
    | none => false
    | some previous =>
      PyString.truthy previous.schemaFingerprint && PyString.truthy fingerprint &&
        previous.schemaFingerprint ≠ fingerprint
  let row := { row with
    objectsSeen := progress.seen
    objectsIngested := progress.ingested
    objectsUnchanged := progress.unchanged
    checkpointAfter := progress.checkpointAfter
    schemaFingerprint := fingerprint
    schemaDrift := drift
    pages := some progress.pages
    completedAt := some (env.clock tick)
    status := if error.isSome then if 0 < progress.seen then .partialRun else .failed
      else .succeeded
    lastError := error }
  return (row, db.putRun row)

def transact {α : Type} (w : World) (result : Except ConnectorError (α × World)) :
    Except ConnectorError α × World :=
  match result with
  | .ok (answer, w') => (.ok answer, w')
  | .error e => (.error e, w)

def effect (w : World) : (op : Op) → Except ConnectorError op.Answer × World
  | .openRun call => transact w do
    let (opening, db) ← env.openRun w.db w.ticks call
    return (opening, { w with db := db })
  | .recordHealth tenantId connectorInstanceId health => transact w do
    let db ← recordHealth w.db tenantId connectorInstanceId health
    return ((), { w with db := db })
  | .findAnyVersion version => (.ok (w.db.findAnyCollectedVersion version), w)
  | .findVersion version contentSha256 =>
    (.ok (w.db.findCollectedVersion version contentSha256), w)
  | .ingest request =>
    let (result, vault) := env.vault.ingestBytes w.vault (env.ambient w.ticks) request
    (result.mapError .vault, { w with vault := vault })
  | .addCollected link => transact w do
    let db ← w.db.addCollectedObject w.vault.db.evidence (env.collectedRow w.ticks link)
    return ((), { w with db := db })
  | .saveCheckpoint _ key cursor =>
    (.ok (), { w with
      db := w.db.saveCheckpoint (env.newId "ckp" w.ticks) key cursor (env.clock w.ticks) })
  | .finishRun key runId progress error => transact w do
    let (row, db) ← env.finishRun w.db w.ticks key runId progress error
    return (row, { w with db := db })

/-- The database fails before an operation, after it, or not at all. -/
def exec (op : Op) (w : World) : Except ConnectorError op.Answer × World :=
  match env.fault w.ticks with
  | some (.before text) => (.error (.database text), { w with ticks := w.ticks + 1 })
  | some (.after text) =>
    (.error (.database text), { (env.effect w op).2 with ticks := w.ticks + 1 })
  | none => ((env.effect w op).1, { (env.effect w op).2 with ticks := w.ticks + 1 })

end Environment

/-! ### A run -/

abbrev Method (α : Type) : Type := Program Op.Answer ConnectorError α

section Run

open Program (perform raise forEachUntil)

variable (env : Environment) (call : RunCall)

/-- `_acquisition_key`. -/
def acquisitionKey (item : SourceObject) : String :=
  "connector:" ++ env.vault.sha256 (utf8 ("\x1f".intercalate [call.connectorInstanceId,
    call.request.stream, item.sourceObjectId, item.sourceVersion,
    env.contentSha256 item]).toList)

/-- The arguments of `ingest_bytes`. -/
def ingestRequest (page : ConnectorPage) (item : SourceObject) : IngestRequest where
  tenantId := call.tenantId
  payload := item.payloadBytes
  sourceType := call.connector.descriptor.connectorType
  sourceLocator := item.sourceLocator
  actorId := "connector:" ++ call.connectorInstanceId
  actorType := "service"
  engagementId := call.request.engagementId
  taskId := call.request.taskId
  acquisitionKey := some (acquisitionKey env call item)
  originalFilename := item.originalFilename
  mimeType := some item.mimeType
  classification :=
    if PyString.truthy item.classification then item.classification.getD ""
    else call.request.classification
  sourceTime := item.sourceTime
  accepted := true
  tainted := item.tainted
  retentionUntil := call.request.retentionUntil
  metadata :=
    withText (withText (withText (withText (withText
      (withDict item.metadata "collection_request" page.requestMetadata)
      "connector_instance_id" call.connectorInstanceId)
      "collection_grant_id" call.grantId)
      "connector_stream" call.request.stream)
      "source_object_id" item.sourceObjectId)
      "source_version" item.sourceVersion

def collectedLink (runId : String) (page : ConnectorPage) (item : SourceObject)
    (evidenceId : String) : CollectedLink where
  runId := runId
  version := call.version item
  sourceLocator := item.sourceLocator
  contentSha256 := env.contentSha256 item
  evidenceId := evidenceId
  metadata := withDict item.metadata "collection_request" page.requestMetadata

/-- The read session: no other content under this version, and the row of this one. -/
def findPrior (item : SourceObject) :
    Method (Option CollectedSourceObject) := do
  let anyPrior : Option CollectedSourceObject ← perform (Op.findAnyVersion (call.version item))
  if ∃ prior ∈ anyPrior, prior.contentSha256 ≠ env.contentSha256 item then
    raise (.versionConflict item.sourceObjectId item.sourceVersion)
  else perform (Op.findVersion (call.version item) (env.contentSha256 item))

/-- The evidence of an object: the one of the prior row, or a new one. -/
def evidenceOf (page : ConnectorPage) (item : SourceObject) :
    Option CollectedSourceObject → Method String
  | some prior => pure prior.evidenceId
  | none => do
    let evidence : EvidenceItem ← perform (Op.ingest (ingestRequest env call page item))
    return evidence.evidenceId

def Progress.see (progress : Progress) (item : SourceObject) : Progress :=
  { progress with
    seen := progress.seen + 1, shapes := progress.shapes ++ [schemaShape item.payload.value] }

def Progress.count (progress : Progress) (prior : Option CollectedSourceObject) : Progress :=
  if prior.isSome then { progress with unchanged := progress.unchanged + 1 }
  else { progress with ingested := progress.ingested + 1 }

variable (runId : String)

def collectObject (page : ConnectorPage) (progress : Progress) (item : SourceObject) :
    Method (Progress × Option ConnectorError) := do
  let progress := progress.see item
  match ← (findPrior env call item).attempt with
  | .error e => return (progress, some e)
  | .ok prior =>
    match ← (evidenceOf env call page item prior).attempt with
    | .error e => return (progress, some e)
    | .ok evidenceId =>
      let progress := progress.count prior
      let link := collectedLink env call runId page item evidenceId
      match ← (perform (Op.addCollected link)).attempt with
      | .error e => return (progress, some e)
      | .ok _ => return (progress, none)

def collectPage (progress : Progress) (page : ConnectorPage) :
    Method (Progress × Option ConnectorError) := do
  let progress := { progress with pages := progress.pages + 1 }
  match ← forEachUntil (collectObject env call runId page) page.objects progress with
  | (progress, some e) => return (progress, some e)
  | (progress, none) =>
    match page.nextCursor with
    | none => return (progress, none)
    | some cursor =>
      let progress := { progress with checkpointAfter := cursor }
      match ← (perform (Op.saveCheckpoint progress.pages call.streamKey cursor)).attempt with
      | .error e => return (progress, some e)
      | .ok _ => return (progress, none)

def checkHealth : Method Unit := do
  match call.connector.health with
  | .error e => raise e
  | .ok health =>
    let _ ← perform (Op.recordHealth call.tenantId call.connectorInstanceId health)
    if health.status = .healthy then return () else raise (.unhealthy health.status)

/-- The `try` of `run`: what it has come to, and the error that it has caught. -/
def collect (checkpointBefore : Dict) :
    Method (Progress × Option ConnectorError) := do
  let progress : Progress := { checkpointAfter := checkpointBefore }
  match ← (checkHealth call).attempt with
  | .error e => return (progress, some e)
  | .ok _ =>
    let collection := call.connector.collectPages call.request checkpointBefore
    match ← forEachUntil (collectPage env call runId) collection.pages progress with
    | (progress, some e) => return (progress, some e)
    | (progress, none) => return (progress, collection.raised)

end Run

/-- `ConnectorService.run`. -/
def run (env : Environment) (call : RunCall) : Method ConnectorRun := do
  let opening : Opening ← Program.perform (Op.openRun call)
  match opening with
  | .existing row => return row
  | .opened runId checkpointBefore =>
    let (progress, error) ← collect env call runId checkpointBefore
    let row : ConnectorRun ← Program.perform (Op.finishRun call.streamKey runId progress error)
    match error with
    | some e => Program.raise e
    | none => return row

end Connectors
