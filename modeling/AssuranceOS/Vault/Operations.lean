/-
`create_export` of the vault (`vault/service.py`).

An export selects the requested evidence with its lineage ancestors, collects the objects,
writes a package and verifies it, and records the export in the custody of every record in
it.  The package itself is what `exportPackage` gives.

The operations of the vault, run one at a time.

An `Op` is a call with everything it gets from outside.  Whatever a call returns or raises,
what it leaves in the database is a path of writes (`step_writes`), so that what every write
keeps holds after every run (`run_writes_invariant`).
-/
import AssuranceOS.Lib.Saturate
import AssuranceOS.Vault.Export
import AssuranceOS.Lib.Runs
import AssuranceOS.Vault.Effects

namespace Vault

open Checked JsonText Adjudication

/-- A vault with what its exports need.  `zoned` says whether the database hands times back
with their zone. -/
structure ExportingVault extends EvidenceVault where
  library : ExportLibrary
  library_sha256 : library.sha256 = sha256
  exportSigner : Option ManifestSigner := none
  zoned : Bool := false

structure ExportRequest where
  tenantId : String
  evidenceIds : List String
  actorId : String
  purpose : String
  includeAncestors : Bool := true

/-- The source of the edge is selected, if its derivative is and it is not yet. -/
def addAncestor (selected : List String) (edge : EvidenceTransformation) :
    Option (List String) :=
  if edge.derivedEvidenceId ∈ selected ∧ edge.sourceEvidenceId ∉ selected then
    some (selected ++ [edge.sourceEvidenceId])
  else none

/-- The requested evidence and its ancestors; every round of the loop but the last selects
the source of some edge. -/
def withAncestors (edges : List EvidenceTransformation) (requested : List String) :
    List String :=
  Saturate.loop addAncestor edges (edges.length + 1) requested

def selection (request : ExportRequest) (edges : List EvidenceTransformation) : List String :=
  let requested := request.evidenceIds.eraseDups
  if request.includeAncestors then withAncestors edges requested else requested

def exportRecords (db : Database) (tenantId : String) :
    List String → Except VaultError (List EvidenceRecord)
  | [] => return []
  | evidenceId :: evidenceIds => do
    let record ← ofOption (.evidenceNotFound evidenceId) (db.get tenantId evidenceId)
    require (record.storageKey ≠ none) (.noStoredObject evidenceId)
    let records ← exportRecords db tenantId evidenceIds
    return record :: records

/-- The objects of the records by their digests, after those that are collected already. -/
def exportObjects (sha256 : Bytes → String) (files : List StoredFile) (tenantId : String) :
    List (String × Bytes) → List EvidenceRecord → Except VaultError (List (String × Bytes))
  | objects, [] => return objects
  | objects, record :: records => do
    let key ← ofOption (.noStoredObject record.evidenceId) record.storageKey
    let _ ← LocalObjectStore.verify sha256 files tenantId key record.contentSha256
      record.sizeBytes
    let payload ← LocalObjectStore.read files tenantId key
    let objects :=
      if record.contentSha256 ∈ objects.map Prod.fst then objects
      else objects ++ [(record.contentSha256, payload)]
    exportObjects sha256 files tenantId objects records

/-- A custody event as the package lists it. -/
def custodyEntry (zoned : Bool) (e : EvidenceCustodyEvent) : Value :=
  .obj
    [("sequence_no", .int e.sequenceNo),
      ("action", .str e.action),
      ("actor_type", .str e.actorType),
      ("actor_id", .str e.actorId),
      ("occurred_at", .str (e.occurredAt.isoformat zoned)),
      ("details", e.details.value),
      ("previous_event_hash", optional e.previousEventHash),
      ("event_hash", .str e.eventHash)]

def evidenceEntry (zoned : Bool) (custody : List EvidenceCustodyEvent)
    (record : EvidenceRecord) : Value :=
  .obj
    [("evidence_id", .str record.evidenceId),
      ("record_kind", .str record.recordKind.value),
      ("source_type", .str record.sourceType),
      ("source_locator", .str record.sourceLocator),
      ("content_sha256", .str record.contentSha256),
      ("size_bytes", .int record.sizeBytes),
      ("mime_type", optional record.mimeType),
      ("classification", .str record.classification),
      ("source_time", optional (record.sourceTime.map (·.isoformat zoned))),
      ("collected_at", .str (record.collectedAt.isoformat zoned)),
      ("accepted", .bool record.accepted),
      ("tainted", .bool record.tainted),
      ("custody_head", optional (custody.getLast?.map (·.eventHash))),
      ("custody", .arr (custody.map (custodyEntry zoned))),
      ("metadata", record.metadata.value)]

def lineageEntry (zoned : Bool) (edge : EvidenceTransformation) : Value :=
  .obj
    [("transformation_id", .str edge.transformationId),
      ("source_evidence_id", .str edge.sourceEvidenceId),
      ("derived_evidence_id", .str edge.derivedEvidenceId),
      ("operation", .str edge.operation),
      ("tool_version", .str edge.toolVersion),
      ("parameters", edge.parameters.value),
      ("created_at", .str (edge.createdAt.isoformat zoned))]

def objectEntry (object : String × Bytes) : Value :=
  .obj [("sha256", .str object.1), ("size_bytes", .int object.2.length)]

namespace ExportingVault

variable (S : ExportingVault)

def manifestEntries (db : Database) (request : ExportRequest) (ambient : Ambient)
    (records : List EvidenceRecord) (edges : List EvidenceTransformation)
    (objects : List (String × Bytes)) : Object :=
  [("schema", .str (if S.exportSigner.isSome then schemaV2 else schemaV1)),
    ("export_id", .str (newId "exp" (ambient.hex 0))),
    ("tenant_id", .str request.tenantId),
    ("generated_at", .str ((ambient.clock 0).isoformat true)),
    ("purpose", .str request.purpose),
    ("requested_evidence_ids", strings (orderBy id request.evidenceIds.eraseDups)),
    ("evidence", .arr (records.map fun record => evidenceEntry S.zoned
      (db.listCustodyEvents request.tenantId record.evidenceId) record)),
    ("lineage", .arr (edges.map (lineageEntry S.zoned))),
    ("objects", .arr ((orderBy Prod.fst objects).map objectEntry))]

/-- An export up to its package: the selection, the records, the package, its checksum and
the one of the manifest. -/
def exportPackage (v : VaultState) (ambient : Ambient) (request : ExportRequest) :
    Except VaultError (List String × List EvidenceRecord × Bytes × String × String) := do
  require (request.evidenceIds.eraseDups ≠ []) .emptyExport
  let allEdges := v.db.allTransformations request.tenantId
  let selected := selection request allEdges
  let records ← exportRecords v.db request.tenantId (orderBy id selected)
  let edges := allEdges.filter fun edge =>
    edge.sourceEvidenceId ∈ selected ∧ edge.derivedEvidenceId ∈ selected
  let objects ← exportObjects S.sha256 v.files request.tenantId [] records
  let manifest := S.manifestEntries v.db request ambient records edges objects
  let (package, packageSha256, manifestSha256) ←
    (writeExportPackage S.library (.obj manifest) objects S.exportSigner).mapError .raised
  return (selected, records, package, packageSha256, manifestSha256)

def recordExport (tenantId : String) (entry : Database.CustodyEntry) (hex : Nat → String) :
    Database → List EvidenceRecord → Nat → Except VaultError Database
  | db, [], _ => return db
  | db, record :: records, i => do
    let (db, _) ← db.appendCustodyEvent S.sha256 (hex i) tenantId record.evidenceId entry
    recordExport tenantId entry hex db records (i + 1)

/-- `create_export`: the verification, the package at the destination and the database. -/
def createExport (v : VaultState) (ambient : Ambient) (request : ExportRequest) :
    Except VaultError (ExportVerification × Bytes × Database) := do
  let (selected, records, package, packageSha256, manifestSha256) ←
    S.exportPackage v ambient request
  let verification ← (verifyExportPackage S.library (some package)).mapError .raised
  require verification.valid (.exportFailedVerification verification.errors)
  let exportId := newId "exp" (ambient.hex 0)
  let db ← S.recordExport request.tenantId
    { action := "exported"
      actorType := "user"
      actorId := request.actorId
      occurredAt := ambient.clock 1
      details :=
        { entries :=
            [("export_id", .str exportId),
              ("purpose", .str request.purpose),
              ("package_sha256", .str packageSha256),
              ("manifest_sha256", .str manifestSha256)] } }
    ambient.hex v.db records 1
  let db ← db.addOutbox
    { outboxId := newId "obx" (ambient.hex (records.length + 1))
      tenantId := request.tenantId
      aggregateType := "evidence_export"
      aggregateId := exportId
      eventType := "evidence.export.created"
      payload :=
        { entries :=
            [("export_id", .str exportId),
              ("evidence_ids", strings (orderBy id selected)),
              ("package_sha256", .str packageSha256),
              ("manifest_sha256", .str manifestSha256)] }
      idempotencyKey := "evidence.export.created:" ++ exportId }
  return (verification, package, db)

end ExportingVault

/-- The operations of the vault. -/
inductive Op where
  | ingestBytes (ambient : Ambient) (request : IngestRequest)
  | createDerivative (ambient : Ambient) (request : DerivativeRequest)
  | readBytes (ambient : Ambient) (tenantId evidenceId actorId actorType purpose : String)
  | verifyIntegrity (ambient : Ambient) (tenantId evidenceId actorId : String)
  | setRetention (ambient : Ambient) (tenantId evidenceId actorId : String)
      (retentionUntil : Option Date) (legalHold : Bool) (reason : String)
  | purge (ambient : Ambient) (tenantId evidenceId actorId reason : String) (asOf : Option Date)
  | collectGarbage (tenantId : String) (cutoff : DateTime)
  | createExport (ambient : Ambient) (request : ExportRequest)

/-- The database that a call returns, or the old one when it raises. -/
def VaultState.after {α : Type} (v : VaultState) (db : α → Database)
    (result : Except VaultError α) : VaultState :=
  match result with
  | .ok a => { v with db := db a }
  | .error _ => v

namespace ExportingVault

variable (S : ExportingVault)

def step (v : VaultState) : Op → VaultState
  | .ingestBytes ambient request => (S.ingestBytes v ambient request).2
  | .createDerivative ambient request => (S.createDerivative v ambient request).2
  | .readBytes ambient tenantId evidenceId actorId actorType purpose =>
    v.after Prod.snd (S.readBytes v ambient tenantId evidenceId actorId actorType purpose)
  | .verifyIntegrity ambient tenantId evidenceId actorId =>
    v.after (fun r => r.2.2) (S.verifyIntegrity v ambient tenantId evidenceId actorId)
  | .setRetention ambient tenantId evidenceId actorId retentionUntil legalHold reason =>
    v.after Prod.snd
      (S.setRetention v.db ambient tenantId evidenceId actorId retentionUntil legalHold reason)
  | .purge ambient tenantId evidenceId actorId reason asOf =>
    v.after Prod.snd (S.purge v.db ambient tenantId evidenceId actorId reason asOf)
  | .collectGarbage tenantId cutoff => (S.collectGarbage v tenantId cutoff).2
  | .createExport ambient request =>
    v.after (fun r => r.2.2) (S.createExport v ambient request)

/-- The operations one after the other. -/
def run (v : VaultState) (ops : List Op) : VaultState :=
  ops.foldl S.step v

end ExportingVault

/-- A vault in which nothing has been acquired. -/
structure VaultState.Fresh (v : VaultState) : Prop where
  evidence : v.db.evidence = []
  transformations : v.db.transformations = []
  custody : v.db.custody = []
  files : v.files = []

variable {S : ExportingVault} {v : VaultState} {db : Database} {ambient : Ambient}
variable {α : Type}

theorem after_writes {sha256 : Bytes → String} {result : Except VaultError α} {f : α → Database}
    (h : ∀ a, result = .ok a → Writes sha256 v.db (f a)) :
    Writes sha256 v.db (v.after f result).db := by
  cases result with
  | ok a => exact h a rfl
  | error e => exact .refl

@[simp] theorem after_files {result : Except VaultError α} {f : α → Database} :
    (v.after f result).files = v.files := by
  cases result <;> rfl

theorem run_concat (S : ExportingVault) (v : VaultState) (ops : List Op) (op : Op) :
    S.run v (ops ++ [op]) = S.step (S.run v ops) op := by
  rw [ExportingVault.run, List.foldl_append]
  rfl

theorem purge_files (S : ExportingVault) (v : VaultState) (ambient : Ambient)
    (tenantId evidenceId actorId reason : String) (asOf : Option Date) :
    (S.step v (.purge ambient tenantId evidenceId actorId reason asOf)).files = v.files :=
  after_files

theorem acquireBytes_writes {S : EvidenceVault} (job : Job) :
    Writes S.sha256 v.db (S.acquireBytes v ambient job).2.db := by
  unfold EvidenceVault.acquireBytes
  split
  · exact .refl
  · exact .refl
  · split
    · exact .refl
    · split
      · exact .refl
      · rename_i hcommit
        rcases commit_cases hcommit with ⟨-, -, rfl⟩ | ⟨-, -, -, hwrites, -⟩
        · exact .refl
        · exact hwrites

theorem recordExport_writes {tenantId : String} {entry : Database.CustodyEntry}
    {hex : Nat → String} {records : List EvidenceRecord} : ∀ {db db' : Database} {i : Nat},
    S.recordExport tenantId entry hex db records i = .ok db' →
      Writes S.sha256 db db' ∧ db'.evidence = db.evidence := by
  induction records with
  | nil =>
    intro db db' i h
    cases h
    exact ⟨.refl, rfl⟩
  | cons record records ih =>
    intro db db' i h
    unfold ExportingVault.recordExport at h
    rw [bind_eq_ok] at h
    obtain ⟨⟨db₁, e⟩, hcustody, h⟩ := h
    obtain ⟨hwrite, hsame⟩ := appendCustodyEvent_writes hcustody
    obtain ⟨hrest, hsame'⟩ := ih h
    exact ⟨.head hwrite hrest, hsame'.trans hsame⟩

theorem addOutbox_eq_ok {db' : Database} {e : OutboxEvent} (h : db.addOutbox e = .ok db') :
    ∃ outbox, db' = { db with outbox := outbox } := by
  unfold Database.addOutbox at h
  rw [require_bind_eq_ok] at h
  obtain ⟨-, h⟩ := h
  rw [ofOption_bind_eq_ok] at h
  obtain ⟨outbox, -, h⟩ := h
  cases h
  exact ⟨outbox, rfl⟩

theorem createExport_writes {request : ExportRequest} {verification : ExportVerification}
    {package : Bytes} (h : S.createExport v ambient request = .ok (verification, package, db)) :
    Writes S.sha256 v.db db ∧ db.evidence = v.db.evidence := by
  unfold ExportingVault.createExport at h
  rw [bind_eq_ok] at h
  obtain ⟨⟨selected, records, package', packageSha256, manifestSha256⟩, -, h⟩ := h
  rw [bind_eq_ok] at h
  obtain ⟨verified, -, h⟩ := h
  rw [require_bind_eq_ok] at h
  obtain ⟨-, h⟩ := h
  rw [bind_eq_ok] at h
  obtain ⟨db₁, hrecord, h⟩ := h
  rw [bind_eq_ok] at h
  obtain ⟨db₂, houtbox, h⟩ := h
  cases h
  obtain ⟨hwrites, hsame⟩ := recordExport_writes hrecord
  obtain ⟨outbox, rfl⟩ := addOutbox_eq_ok houtbox
  exact ⟨hwrites.tail (.events db₁.auditEvents outbox), hsame⟩

/-- **One call.**  Whatever it does to the database is a path of writes. -/
theorem step_writes (S : ExportingVault) (v : VaultState) (op : Op) :
    Writes S.sha256 v.db (S.step v op).db := by
  cases op with
  | ingestBytes ambient request =>
    unfold ExportingVault.step EvidenceVault.ingestBytes
    simp only
    split
    · exact .refl
    · exact acquireBytes_writes _
  | createDerivative ambient request =>
    unfold ExportingVault.step EvidenceVault.createDerivative
    simp only
    split
    · exact .refl
    · exact acquireBytes_writes _
  | readBytes ambient tenantId evidenceId actorId actorType purpose =>
    exact after_writes fun a h => (readBytes_writes h).1
  | verifyIntegrity ambient tenantId evidenceId actorId =>
    refine after_writes fun a h => ?_
    obtain ⟨r, -, r', -, -, hwrites, -⟩ := verifyIntegrity_writes h
    exact hwrites
  | setRetention ambient tenantId evidenceId actorId retentionUntil legalHold reason =>
    refine after_writes fun a h => ?_
    obtain ⟨r, -, -, -, -, -, hwrites, -⟩ := setRetention_writes h
    exact hwrites
  | purge ambient tenantId evidenceId actorId reason asOf =>
    refine after_writes fun a h => ?_
    obtain ⟨r, -, -, -, ⟨-, hsame⟩ | ⟨-, -, -, hwrites, -⟩⟩ := purge_writes h
    · rw [hsame]
    · exact hwrites
  | collectGarbage tenantId cutoff =>
    unfold ExportingVault.step EvidenceVault.collectGarbage
    simp only
    split
    · exact .refl
    · exact .refl
  | createExport ambient request =>
    exact after_writes fun a h => (createExport_writes h).1

theorem run_writes_invariant {I : Database → Prop}
    (hwrite : ∀ db db', Write S.sha256 db db' → I db → I db') (hv : I v.db) (ops : List Op) :
    I (S.run v ops).db :=
  Runs.run_invariant_always (I := fun v => I v.db)
    (fun v op hI => Runs.path_invariant hwrite (step_writes S v op) hI) hv ops

end Vault
