/-
Reading back what has been ingested, and what the readers of the store hand out.

The item that `ingest_bytes` returns is active and its bytes are the payload, unless the acquisition
key belongs to a record that has been purged (`ingest_reads_back_iff`): the lookup by acquisition key
does not leave out tombstones (`replay_returns_tombstone`).

An export verifies every object before it packs it; `read_bytes` does not, so its bytes are those of
the record as long as the object is intact (`bytes_hash_iff`).
-/
import AssuranceOS.Vault.TamperEvidence

namespace Vault

open Checked JsonText Adjudication

theorem access_distinct (purpose : String) (payload : Bytes) :
    (Value.obj [("purpose", .str purpose), ("bytes_read", .int payload.length)]).Distinct := by
  simp [Value.Distinct, EntriesDistinct, EntryDistinct]

def accessEvent (S : EvidenceVault) (db : Database) (ambient : Ambient) (item : EvidenceItem)
    (actorId actorType purpose : String) (payload : Bytes) : EvidenceCustodyEvent :=
  db.nextCustodyEvent S.sha256 (ambient.hex 0) item.tenantId item.evidenceId
    { action := "accessed"
      actorType := actorType
      actorId := actorId
      occurredAt := ambient.clock 0
      details :=
        { entries := [("purpose", .str purpose), ("bytes_read", .int payload.length)]
          distinct := access_distinct purpose payload } }

/-- The id of the event is fresh, and so is its hash in its tenant. -/
structure FreshEvent (db : Database) (e : EvidenceCustodyEvent) : Prop where
  id : e.custodyEventId ∉ db.custody.map EvidenceCustodyEvent.custodyEventId
  hash : ∀ x ∈ db.custody, (x.tenantId, x.eventHash) ≠ (e.tenantId, e.eventHash)

/-- Whoever reads the item gets this payload. -/
def ReadsBack (S : EvidenceVault) (v : VaultState) (item : EvidenceItem) (payload : Bytes) :
    Prop :=
  ∀ (ambient : Ambient) (actorId actorType purpose : String),
    FreshEvent v.db (accessEvent S v.db ambient item actorId actorType purpose payload) →
      ∃ db, S.readBytes v ambient item.tenantId item.evidenceId actorId actorType purpose =
        .ok (payload, db)

/-- The acquisition key of the request belongs to a purged record. -/
def KeyTombstoned (db : Database) (request : IngestRequest) : Prop :=
  ∃ r ∈ db.evidence, ¬ r.Active ∧ r.tenantId = request.tenantId ∧
    PyString.truthy request.acquisitionKey ∧ r.acquisitionKey = request.acquisitionKey

section Reads

variable {S : EvidenceVault} {v : VaultState} {r : EvidenceRecord}

theorem appendable_nextCustodyEvent {sha256 : Bytes → String} {db : Database}
    {hex tenantId evidenceId : String} {entry : Database.CustodyEntry}
    (hchains : ChainsLinked sha256 db)
    (hfresh : FreshEvent db (db.nextCustodyEvent sha256 hex tenantId evidenceId entry)) :
    Appendable db (db.nextCustodyEvent sha256 hex tenantId evidenceId entry) := by
  refine ⟨fun x hx heq => ?_, hfresh.hash, hfresh.id⟩
  obtain ⟨htenant, hpair⟩ := Prod.mk.inj heq
  obtain ⟨hevidence, hsequence⟩ := Prod.mk.inj hpair
  have hmem : x ∈ db.custodyOf tenantId evidenceId :=
    Table.mem_ownedBy.mpr ⟨hx, Prod.ext htenant hevidence⟩
  have hlt := linked_increasing
    (@linked_nextCustodyEvent sha256 db tenantId evidenceId hchains hex entry)
  have hbefore := (List.pairwise_append.mp hlt).2.2 x hmem _ (List.mem_singleton_self _)
  omega

theorem readBytes_of_kept (hunique : Unique v.db) (hchains : ChainsLinked S.sha256 v.db)
    (hr : r ∈ v.db.evidence) (hactive : r.Active) (hkept : Kept S.sha256 v.files r) :
    ∃ p f, fileAt v.files p = some f ∧ S.sha256 f.bytes = r.contentSha256 ∧
      ReadsBack S v r f.bytes := by
  obtain ⟨f, hf, hsha, -⟩ := hkept.held
  refine ⟨_, f, hf, hsha, fun ambient actorId actorType purpose hfresh => ?_⟩
  have hget := hunique.get hr
  have hread := read_keyOf hkept.segment hkept.isDigest hf
  have happend := appendable_nextCustodyEvent hchains hfresh
  have hcustody := appendCustodyEvent_eq_ok.mpr ⟨by rw [hget]; rfl, happend, rfl, rfl⟩
  have hrecord : EvidenceVault.getActiveRecord v.db r.tenantId r.evidenceId = .ok r :=
    ofOption_bind_eq_ok.mpr ⟨r, hget, require_bind_eq_ok.mpr ⟨hactive, rfl⟩⟩
  exact ⟨_, bind_eq_ok.mpr ⟨r, hrecord, ofOption_bind_eq_ok.mpr ⟨_, hkept.storageKey,
    bind_eq_ok.mpr ⟨_, hread, bind_eq_ok.mpr ⟨_, hcustody, rfl⟩⟩⟩⟩⟩

end Reads

section Ingests

variable {S : ExportingVault} {v v' : VaultState} {ambient : Ambient} {request : IngestRequest}
  {item : EvidenceItem}

theorem findAcquisition_of_tombstoned {db : Database} (hunique : Unique db) {job : Job}
    {r : EvidenceRecord} (hr : r ∈ db.evidence) (htenant : r.tenantId = job.tenantId)
    (htruthy : PyString.truthy job.acquisitionKey) (hkey : r.acquisitionKey = job.acquisitionKey) :
    findAcquisition db job = some r := by
  obtain ⟨key, hjob⟩ : ∃ key, job.acquisitionKey = some key := by
    cases hjob : job.acquisitionKey with
    | none => simp [hjob, PyString.truthy] at htruthy
    | some key => exact ⟨key, rfl⟩
  cases hfound : db.getByAcquisitionKey job.tenantId key with
  | none =>
    have hnone := List.find?_eq_none.mp hfound r hr
    simp [htenant, hkey, hjob] at hnone
  | some x =>
    obtain ⟨hx, hxtenant, hxkey⟩ := getByAcquisitionKey_eq_some hfound
    have htaken : Database.KeyTaken x r :=
      ⟨htenant.trans hxtenant.symm, by simp [hxkey], by rw [hkey, hjob, hxkey]⟩
    rw [findAcquisition, if_pos htruthy, hjob, Option.getD_some, hfound,
      hunique.keys x hx r hr htaken]

theorem ingestBytes_eq_ok (hunique : Unique v.db)
    (h : S.ingestBytes v ambient request = (.ok item, v')) :
    item.contentSha256 = S.sha256 request.payload ∧ item ∈ v'.db.evidence ∧
      (∀ p f, fileAt v'.files p = some f → f ∈ v.files ∨ f.bytes = request.payload) ∧
      (item.Active ↔ ¬ KeyTombstoned v.db request) := by
  unfold EvidenceVault.ingestBytes at h
  split at h
  case h_1 => cases h
  case h_2 job hread =>
    obtain ⟨engagementId, tainted, metadata, hjob⟩ := readIngest_eq_ok hread
    have htenant : job.tenantId = request.tenantId := by rw [hjob]; rfl
    have hpayload : job.payload = request.payload := by rw [hjob]; rfl
    have hkey : job.acquisitionKey = request.acquisitionKey := by rw [hjob]; rfl
    have hold : ∀ p f, fileAt v.files p = some f → f ∈ v.files ∨ f.bytes = request.payload :=
      fun p f hf => Or.inl (Table.mem_of_get? hf)
    rcases acquireBytes_eq_ok h with ⟨hfound, hdigest, rfl⟩ | ⟨stored, files, hstored, rfl, hnone,
      rfl, hevidence, -⟩
    · obtain ⟨hmem, hitemTenant, hitemKey, htruthy⟩ := findAcquisition_eq_some hfound
      refine ⟨by rw [hdigest, hpayload], hmem, hold, fun hactive htombstoned => ?_, fun hfree => ?_⟩
      · obtain ⟨r, hr, hpurged, hrtenant, hrtruthy, hrkey⟩ := htombstoned
        have hfound' := findAcquisition_of_tombstoned hunique hr (hrtenant.trans htenant.symm)
          (hkey ▸ hrtruthy) (hrkey.trans hkey.symm)
        rw [hfound] at hfound'
        exact hpurged (Option.some.inj hfound' ▸ hactive)
      · by_contra hpurged
        exact hfree ⟨item, hmem, hpurged, hitemTenant.trans htenant, hkey ▸ htruthy,
          hitemKey.trans hkey⟩
    · refine ⟨by simp [hpayload], by simp [hevidence], fun p f hf => ?_,
        iff_of_true (job.record_active stored) ?_⟩
      · rcases hstored.origin p f hf with hf | ⟨-, hbytes⟩
        · exact hold p f hf
        · exact Or.inr (hbytes.trans hpayload)
      · rintro ⟨r, hr, -, hrtenant, hrtruthy, hrkey⟩
        rw [findAcquisition_of_tombstoned hunique hr (hrtenant.trans htenant.symm)
          (hkey ▸ hrtruthy) (hrkey.trans hkey.symm)] at hnone
        cases hnone

/-- The item of a successful ingestion is active and reads back, exactly when no purged
record has its acquisition key. -/
theorem ingest_reads_back_iff (hv : v.Fresh) (ops : List Op)
    (h : S.ingestBytes (S.run v ops) ambient request = (.ok item, v'))
    (hcollision : ∀ f ∈ (S.run v ops).files, S.sha256 f.bytes = S.sha256 request.payload →
      f.bytes = request.payload) :
    (item.Active ∧ ReadsBack S.toEvidenceVault v' item request.payload) ↔
      ¬ KeyTombstoned (S.run v ops).db request := by
  have hrun : v' = S.run v (ops ++ [.ingestBytes ambient request]) := by
    rw [run_concat]
    exact (congrArg Prod.snd h).symm
  obtain ⟨hdigest, hmem, hfiles, hactive⟩ := ingestBytes_eq_ok (run_unique hv ops) h
  rw [← hactive, and_iff_left_iff_imp]
  intro hitem
  have hkept : Kept S.sha256 v'.files item := by
    rw [hrun] at hmem ⊢
    exact run_objectsKept hv _ item hmem hitem
  have hunique : Unique v'.db := hrun ▸ run_unique hv _
  have hchains : ChainsLinked S.sha256 v'.db := hrun ▸ run_chainsLinked hv _
  obtain ⟨p, f, hf, hsha, hreads⟩ := readBytes_of_kept hunique hchains hmem hitem hkept
  have hbytes : f.bytes = request.payload := by
    rcases hfiles p f hf with hold | hnew
    · exact hcollision f hold (hsha.trans hdigest)
    · exact hnew
  exact hbytes ▸ hreads

end Ingests

def sampleKeyed : IngestRequest :=
  { sampleRequest with acquisitionKey := some "k" }

def sampleAmbient (day : Nat) : Ambient :=
  ⟨fun _ => sampleTime day, sampleTime day, sampleHex day⟩

def sampleAcquired : List Op := [.ingestBytes (sampleAmbient 1) sampleKeyed]

def sampleTombstoned : List Op :=
  sampleAcquired ++ [.purge (sampleAmbient 3) "t" "evd_1.0" "a" "r" none]

theorem eq_ok_of_isSome {α σ : Type} {x : Except VaultError α × σ}
    (h : x.1.toOption.isSome) : ∃ a, x = (.ok a, x.2) := by
  obtain ⟨e | a, s⟩ := x
  · cases h
  · exact ⟨a, rfl⟩

def sampleStore : ExportingVault where
  sha256 := sampleSha256
  library :=
    { sampleLibrary with sha256 := sampleSha256 }
  library_sha256 := rfl

def headStore : ExportingVault where
  sha256 := headSha256
  library :=
    { sampleLibrary with sha256 := headSha256 }
  library_sha256 := rfl

theorem sampleStore_isDigest (bytes : Bytes) : IsDigest (sampleStore.sha256 bytes) :=
  sampleSha256_isDigest bytes

theorem headStore_isDigest (bytes : Bytes) : IsDigest (headStore.sha256 bytes) :=
  headVault_isDigest bytes

section Acquired

variable {S : ExportingVault}

theorem acquireBytes_new {v : VaultState} {ambient : Ambient} {job : Job} {stored : StoredObject}
    {files : List StoredFile} (hnew : replayed v.db job (S.sha256 job.payload) = .ok none)
    (hput : LocalObjectStore.putBytes S.sha256 v.files ambient.fileTime job.tenantId job.payload
      (S.sha256 job.payload) = .ok (stored, files)) :
    (S.acquireBytes v ambient job).2 =
      { db := (S.commit v.db job stored (ambient.clock 0) ambient.hex).toOption.elim v.db Prod.snd
        files := files } := by
  unfold EvidenceVault.acquireBytes
  simp only [hnew, hput]
  cases S.commit v.db job stored (ambient.clock 0) ambient.hex <;> rfl

def sampleHolding (S : ExportingVault) : VaultState where
  db := (S.commit sampleWorkers.vault.db (.original sampleKeyed)
    { sampleObject S.toEvidenceVault sampleKeyed.payload 1 with created := true }
    (sampleTime 1) (sampleHex 1)).toOption.elim sampleWorkers.vault.db Prod.snd
  files := [sampleFile S.toEvidenceVault sampleKeyed.payload 1]

theorem run_sampleAcquired (hinspector : S.inspector = none)
    (hdigest : ∀ bytes, IsDigest (S.sha256 bytes)) :
    S.run sampleWorkers.vault sampleAcquired = sampleHolding S := by
  have hread : S.readIngest sampleWorkers.vault.db sampleKeyed = .ok (.original sampleKeyed) := by
    simp [EvidenceVault.readIngest, EvidenceVault.inspect, hinspector, sampleWorkers, sampleKeyed,
      sampleRequest, Database.getTenant, scopeOf, ofOption, bind, Except.bind, pure, Except.pure]
  have hsegment : isSegment "t" := by decide
  show (S.ingestBytes sampleWorkers.vault (sampleAmbient 1) sampleKeyed).2 = _
  rw [EvidenceVault.ingestBytes, hread]
  exact acquireBytes_new rfl (putBytes_new hsegment (hdigest _) rfl)

theorem sampleAcquired_files (hinspector : S.inspector = none)
    (hdigest : ∀ bytes, IsDigest (S.sha256 bytes)) :
    ∀ f ∈ (S.run sampleWorkers.vault sampleAcquired).files, f.bytes = sampleKeyed.payload := by
  simp [run_sampleAcquired hinspector hdigest, sampleHolding, sampleFile]

end Acquired

/-- A retry of an acquisition whose record is active. -/
theorem ingest_reads_back_sample : ∃ item,
    (sampleStore.ingestBytes
        (sampleStore.run sampleWorkers.vault sampleAcquired) (sampleAmbient 2)
        sampleKeyed).1 = .ok item ∧ item.Active := by
  have hholding := run_sampleAcquired (S := sampleStore) rfl sampleStore_isDigest
  have hsome : (sampleStore.ingestBytes
      (sampleStore.run sampleWorkers.vault sampleAcquired) (sampleAmbient 2)
      sampleKeyed).1.toOption.isSome := by
    rw [hholding]
    decide +kernel
  have hactive : ∀ r ∈ (sampleStore.run sampleWorkers.vault sampleAcquired).db.evidence,
      r.Active := by
    rw [hholding]
    decide +kernel
  obtain ⟨item, hrun⟩ := eq_ok_of_isSome hsome
  refine ⟨item, congrArg Prod.fst hrun, ?_⟩
  have hiff := ingest_reads_back_iff (S := sampleStore) ⟨rfl, rfl, rfl, rfl⟩ sampleAcquired
    hrun fun f hf _ => sampleAcquired_files rfl sampleStore_isDigest f hf
  exact (hiff.mpr fun ⟨r, hr, hpurged, _⟩ => hpurged (hactive r hr)).1

theorem replay_returns_tombstone : ¬ ∀ (S : ExportingVault) (v v' : VaultState) (ops : List Op)
    (ambient : Ambient) (request : IngestRequest) (item : EvidenceItem), v.Fresh →
    S.ingestBytes (S.run v ops) ambient request = (.ok item, v') →
    (∀ f ∈ (S.run v ops).files, S.sha256 f.bytes = S.sha256 request.payload →
      f.bytes = request.payload) →
    item.Active ∧ ReadsBack S.toEvidenceVault v' item request.payload := by
  intro h
  have hfiles : ∀ f ∈ (headStore.run sampleWorkers.vault sampleTombstoned).files,
      f.bytes = sampleKeyed.payload := by
    rw [sampleTombstoned, run_concat, purge_files]
    exact sampleAcquired_files rfl headStore_isDigest
  have hdeleted : (headStore.ingestBytes
      (headStore.run sampleWorkers.vault sampleTombstoned) (sampleAmbient 5)
      sampleKeyed).1.toOption.map (·.deletedAt.isSome) = some true := by
    rw [sampleTombstoned, run_concat, run_sampleAcquired rfl headStore_isDigest]
    decide +kernel
  obtain ⟨item, hitem, hpurged⟩ := Option.map_eq_some_iff.mp hdeleted
  obtain ⟨item', hrun⟩ := eq_ok_of_isSome (Option.isSome_of_eq_some hitem)
  rw [hrun] at hitem
  have hsame : item' = item := Option.some.inj hitem
  have hactive := (h headStore _ _ sampleTombstoned _ _ item' ⟨rfl, rfl, rfl, rfl⟩ hrun
    fun f hf _ => hfiles f hf).1
  rw [hsame, EvidenceRecord.Active] at hactive
  simp [hactive] at hpurged

section Exports

variable {sha256 : Bytes → String} {files : List StoredFile} {tenantId key : String}

theorem read_verified {expected : String} {size : ℕ} {stored : StoredObject} {payload : Bytes}
    (hverified : LocalObjectStore.verify sha256 files tenantId key expected size = .ok stored)
    (hread : LocalObjectStore.read files tenantId key = .ok payload) :
    sha256 payload = expected := by
  obtain ⟨p, f, hp, hf, -, hsha, -⟩ := verify_eq_ok hverified
  unfold LocalObjectStore.read at hread
  rw [hp] at hread
  obtain ⟨q, hq, hread⟩ := bind_eq_ok.mp hread
  cases hq
  obtain ⟨g, hg, hread⟩ := ofOption_bind_eq_ok.mp hread
  cases hread
  have hsame : f = g := Option.some.inj (hf.symm.trans hg)
  rw [← hsame, hsha]

/-- Each object hashes to the digest that it is kept under, and each record has one. -/
structure Hashing (sha256 : Bytes → String) (records : List EvidenceRecord)
    (objects : List (String × Bytes)) : Prop where
  hashed : ∀ object ∈ objects, sha256 object.2 = object.1
  packed : ∀ record ∈ records, ∃ payload, (record.contentSha256, payload) ∈ objects

theorem exportObjects_hashing : ∀ {records : List EvidenceRecord}
    {collected objects : List (String × Bytes)},
    exportObjects sha256 files tenantId collected records = .ok objects →
    (∀ object ∈ collected, sha256 object.2 = object.1) →
      Hashing sha256 records objects ∧ collected ⊆ objects := by
  intro records
  induction records with
  | nil =>
    intro collected objects h hcollected
    cases h
    exact ⟨⟨hcollected, by simp⟩, List.Subset.refl _⟩
  | cons record records ih =>
    intro collected objects h hcollected
    rw [exportObjects] at h
    obtain ⟨key, -, h⟩ := ofOption_bind_eq_ok.mp h
    obtain ⟨stored, hverified, h⟩ := bind_eq_ok.mp h
    obtain ⟨payload, hread, h⟩ := bind_eq_ok.mp h
    have hsha := read_verified hverified hread
    dsimp only at h
    split at h
    · -- another record has brought these bytes
      rename_i hmem
      obtain ⟨hashing, hsub⟩ := ih h hcollected
      refine ⟨⟨hashing.hashed, ?_⟩, hsub⟩
      intro r hr
      rcases List.mem_cons.mp hr with rfl | hr
      · obtain ⟨object, hobject, hdigest⟩ := List.mem_map.mp hmem
        exact ⟨object.2, hsub (hdigest ▸ hobject)⟩
      · exact hashing.packed r hr
    · obtain ⟨hashing, hsub⟩ := ih h (by
        intro object hobject
        rcases List.mem_append.mp hobject with hobject | hobject
        · exact hcollected object hobject
        · rw [List.mem_singleton.mp hobject]
          exact hsha)
      refine ⟨⟨hashing.hashed, ?_⟩, fun object hobject => hsub (List.mem_append_left _ hobject)⟩
      intro r hr
      rcases List.mem_cons.mp hr with rfl | hr
      · exact ⟨payload, hsub (List.mem_append_right _ (List.mem_singleton.mpr rfl))⟩
      · exact hashing.packed r hr

end Exports

section Readers

variable {S : ExportingVault} {v : VaultState}

/-- A package: what describes it, and the objects of the records under their digests. -/
structure Packs (S : ExportingVault) (records : List EvidenceRecord) (package : Bytes) : Prop where
  packs : ∃ head objects, Hashing S.sha256 records objects ∧
    (∀ entry ∈ head, entry.1 ∈ [manifestName, checksumName, signatureName, publicKeyName]) ∧
    package = S.library.zip (head ++ (orderBy Prod.fst objects).map fun o => (objectName o.1, o.2))

theorem signed_names {lib : ExportLibrary} {signer : Option ManifestSigner} {manifest : Bytes}
    {entries : List (String × Bytes)} (h : signed lib signer manifest = .ok entries) :
    ∀ entry ∈ entries, entry.1 ∈ signatureEntries := by
  cases signer with
  | none =>
    cases h
    simp
  | some signer =>
    obtain ⟨document, -, h⟩ := bind_eq_ok.mp h
    cases h
    simp [signatureEntries]

variable {ambient : Ambient} {db : Database}
variable {request : ExportRequest} {package : Bytes}

theorem exportPackage_packs {selected : List String} {records : List EvidenceRecord}
    {sums : String × String}
    (h : S.exportPackage v ambient request = .ok (selected, records, package, sums)) :
    Packs S records package := by
  unfold ExportingVault.exportPackage at h
  obtain ⟨-, h⟩ := require_bind_eq_ok.mp h
  obtain ⟨exported, -, h⟩ := bind_eq_ok.mp h
  obtain ⟨objects, hobjects, h⟩ := bind_eq_ok.mp h
  obtain ⟨written, hwritten, h⟩ := bind_eq_ok.mp h
  cases h
  unfold writeExportPackage at hwritten
  obtain ⟨entries, hentries, hwritten⟩ := bind_eq_ok.mp (mapError_eq_ok.mp hwritten)
  cases hwritten
  refine ⟨_ :: _ :: entries, objects, (exportObjects_hashing hobjects (by simp)).1, ?_, rfl⟩
  intro entry hentry
  rcases List.mem_cons.mp hentry with rfl | hentry
  · simp
  rcases List.mem_cons.mp hentry with rfl | hentry
  · simp
  have hsigned := signed_names hentries entry hentry
  simp only [signatureEntries, List.mem_cons] at hsigned ⊢
  exact Or.inr (Or.inr hsigned)

theorem createExport_exportPackage {verification : ExportVerification}
    (h : S.createExport v ambient request = .ok (verification, package, db)) :
    ∃ selected records sums,
      S.exportPackage v ambient request = .ok (selected, records, package, sums) := by
  unfold ExportingVault.createExport at h
  obtain ⟨⟨selected, records, packed, sums⟩, hpackage, h⟩ := bind_eq_ok.mp h
  obtain ⟨verified, -, h⟩ := bind_eq_ok.mp h
  obtain ⟨-, h⟩ := require_bind_eq_ok.mp h
  obtain ⟨recorded, -, h⟩ := bind_eq_ok.mp h
  obtain ⟨added, -, h⟩ := bind_eq_ok.mp h
  cases h
  exact ⟨selected, records, sums, hpackage⟩

/-- A call of `read_bytes`. -/
structure ReadRequest where
  tenantId : String
  evidenceId : String
  actorId : String
  actorType : String := "user"
  purpose : String

/-- The custody event of a read of `payload`. -/
def ReadRequest.access (request : ReadRequest) (ambient : Ambient) (payload : Bytes) :
    Database.CustodyEntry where
  action := "accessed"
  actorType := request.actorType
  actorId := request.actorId
  occurredAt := ambient.clock 0
  details :=
    { entries := [("purpose", .str request.purpose), ("bytes_read", .int payload.length)] }

/-- What a reading returns has the digest of its record. -/
def ReadHashes (S : ExportingVault) (v : VaultState) (ambient : Ambient)
    (request : ReadRequest) : Prop :=
  ∀ payload db, S.readBytes v ambient request.tenantId request.evidenceId request.actorId
    request.actorType request.purpose = .ok (payload, db) →
      ∃ record, EvidenceVault.getActiveRecord v.db request.tenantId request.evidenceId =
        .ok record ∧ S.sha256 payload = record.contentSha256

/-- What an export packs has the digests of its records. -/
def ExportHashes (S : ExportingVault) (v : VaultState) (ambient : Ambient)
    (request : ExportRequest) : Prop :=
  ∀ verification package db, S.createExport v ambient request = .ok (verification, package, db) →
    ∃ selected records sums,
      S.exportPackage v ambient request = .ok (selected, records, package, sums) ∧
        Packs S records package

/-- The store holds the object of the record as it was recorded, if the read comes so far that its
custody event can be added. -/
def IntactFor (S : ExportingVault) (v : VaultState) (ambient : Ambient) (request : ReadRequest) :
    Prop :=
  ∀ record key payload,
    EvidenceVault.getActiveRecord v.db request.tenantId request.evidenceId = .ok record →
    record.storageKey = some key →
    LocalObjectStore.read v.files request.tenantId key = .ok payload →
    Appendable v.db (v.db.nextCustodyEvent S.sha256 (ambient.hex 0) request.tenantId
      request.evidenceId (request.access ambient payload)) →
    S.sha256 payload = record.contentSha256

theorem readBytes_eq_ok {request : ReadRequest} {payload : Bytes} :
    S.readBytes v ambient request.tenantId request.evidenceId request.actorId request.actorType
        request.purpose = .ok (payload, db) ↔
      ∃ record key,
        EvidenceVault.getActiveRecord v.db request.tenantId request.evidenceId = .ok record ∧
        record.storageKey = some key ∧
        LocalObjectStore.read v.files request.tenantId key = .ok payload ∧
        ∃ event, v.db.appendCustodyEvent S.sha256 (ambient.hex 0) request.tenantId
          request.evidenceId (request.access ambient payload) = .ok (db, event) := by
  unfold EvidenceVault.readBytes
  rw [bind_eq_ok]
  constructor
  · rintro ⟨record, hrecord, h⟩
    obtain ⟨key, hkey, h⟩ := ofOption_bind_eq_ok.mp h
    obtain ⟨bytes, hread, h⟩ := bind_eq_ok.mp h
    obtain ⟨⟨db', event⟩, happend, h⟩ := bind_eq_ok.mp h
    cases h
    exact ⟨record, key, hrecord, hkey, hread, event, happend⟩
  · rintro ⟨record, key, hrecord, hkey, hread, event, happend⟩
    exact ⟨record, hrecord, ofOption_bind_eq_ok.mpr ⟨key, hkey,
      bind_eq_ok.mpr ⟨payload, hread, bind_eq_ok.mpr ⟨(db, event), happend, rfl⟩⟩⟩⟩

theorem get_of_active_record {tenantId evidenceId : String} {record : EvidenceRecord}
    (h : EvidenceVault.getActiveRecord db tenantId evidenceId = .ok record) :
    (db.get tenantId evidenceId true).isSome := by
  obtain ⟨found, hfound, -⟩ := ofOption_bind_eq_ok.mp h
  rw [hfound]
  rfl

theorem readHashes_iff {request : ReadRequest} :
    ReadHashes S v ambient request ↔ IntactFor S v ambient request := by
  constructor
  · intro h record key payload hrecord hkey hread happend
    obtain ⟨found, hfound, hsha⟩ := h payload _ (readBytes_eq_ok.mpr ⟨record, key, hrecord, hkey,
      hread, _, appendCustodyEvent_eq_ok.mpr ⟨get_of_active_record hrecord, happend, rfl, rfl⟩⟩)
    rw [hrecord] at hfound
    cases hfound
    exact hsha
  · intro h payload db hok
    obtain ⟨record, key, hrecord, hkey, hread, event, happend⟩ := readBytes_eq_ok.mp hok
    obtain ⟨-, happendable, rfl, -⟩ := appendCustodyEvent_eq_ok.mp happend
    exact ⟨record, hrecord, h record key payload hrecord hkey hread happendable⟩

/-- **Bytes of the store.**  Whatever the files hold, an export packs what its records say, and a
read returns what its record says if and only if the object that it finds is intact. -/
theorem bytes_hash_iff (S : ExportingVault) (v : VaultState) (ambient : Ambient)
    (readRequest : ReadRequest) (exportRequest : ExportRequest) :
    ReadHashes S v ambient readRequest ∧ ExportHashes S v ambient exportRequest ↔
      IntactFor S v ambient readRequest := by
  have hexport : ExportHashes S v ambient exportRequest := by
    intro verification package db h
    obtain ⟨selected, records, sums, hpackage⟩ := createExport_exportPackage h
    exact ⟨selected, records, sums, hpackage, exportPackage_packs hpackage⟩
  rw [readHashes_iff]
  exact and_iff_left hexport

/-! #### A file that is written over -/

/-- The vault after an acquisition, and other bytes in the file. -/
def overwritten : VaultState :=
  let acquired := headStore.run sampleWorkers.vault sampleAcquired
  { acquired with files := acquired.files.map fun f => { f with bytes := [0] } }

def sampleRead : ReadRequest where
  tenantId := "t"
  evidenceId := "evd_1.0"
  actorId := "a"
  purpose := "p"

theorem overwritten_eq : overwritten =
    { sampleHolding headStore with
      files := [{ sampleFile headStore.toEvidenceVault sampleKeyed.payload 1 with bytes := [0] }] } := by
  rw [overwritten, run_sampleAcquired rfl headStore_isDigest]
  rfl

theorem overwritten_read : LocalObjectStore.read overwritten.files "t"
    (keyOf (headStore.sha256 sampleKeyed.payload)) = .ok [0] := by
  have hsegment : isSegment "t" := by decide
  have hfile : fileAt overwritten.files ("t", headStore.sha256 sampleKeyed.payload) =
      some { sampleFile headStore.toEvidenceVault sampleKeyed.payload 1 with bytes := [0] } := by
    simp [overwritten_eq, fileAt, Table.get?, sampleFile, StoredFile.path]
  exact read_keyOf hsegment (headStore_isDigest _) hfile

theorem overwritten_record : ∃ record,
    EvidenceVault.getActiveRecord overwritten.db "t" "evd_1.0" = .ok record ∧
      record.storageKey = some (keyOf (headStore.sha256 sampleKeyed.payload)) ∧
      record.contentSha256 = headStore.sha256 sampleKeyed.payload := by
  rw [overwritten_eq]
  exact ⟨_, rfl, rfl, rfl⟩

theorem overwritten_bytes_returned : ¬ ∀ (S : ExportingVault) (v : VaultState) (ambient : Ambient)
    (readRequest : ReadRequest) (exportRequest : ExportRequest),
    ReadHashes S v ambient readRequest ∧ ExportHashes S v ambient exportRequest := by
  intro h
  have hread := (h headStore overwritten (sampleAmbient 2) sampleRead
    { tenantId := "t", evidenceIds := [], actorId := "a", purpose := "p" }).1
  rw [readHashes_iff] at hread
  obtain ⟨record, hrecord, hkey, hsha⟩ := overwritten_record
  have happend : Appendable overwritten.db (overwritten.db.nextCustodyEvent headStore.sha256
      ((sampleAmbient 2).hex 0) "t" "evd_1.0" (sampleRead.access (sampleAmbient 2) [0])) := by
    rw [overwritten_eq]
    exact ⟨by decide +kernel, by decide +kernel, by decide +kernel⟩
  have hsame := hread record _ [0] hrecord hkey overwritten_read happend
  rw [hsha] at hsame
  exact absurd hsame (by decide +kernel)

end Readers

end Vault
