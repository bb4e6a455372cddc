/-
What a valid export package is like, and how far the verifier can be relied on.

`WellFormed` says what a package, its manifest, its objects, its evidence and the chains of
custody have to be.  Whatever the verifier calls valid is well formed (`wellFormed_of_valid`); it
does so for every input that makes it answer, and for no other (`verifier_robust_iff`).
-/
import AssuranceOS.Vault.Answers
import AssuranceOS.Vault.Pinning
import Mathlib.Data.List.Dedup

namespace Vault

open Checked JsonText Report Adjudication

variable (lib : ExportLibrary)

/-- The events go on from the place and the hash, up to the head. -/
def ChainFrom (tenantId evidenceId : String) : Value → Nat → List Value → Value → Prop
  | previous, _, [], head => equal lib.real head previous = true
  | previous, expected, .obj event :: events, head =>
    equal lib.real (get event "sequence_no") (.int expected) = true ∧
    equal lib.real (get event "previous_event_hash") previous = true ∧
    (∃ hash, calculatedHash lib tenantId evidenceId expected previous event = .ok hash ∧
      equal lib.real (get event "event_hash") (.str hash) = true) ∧
    ChainFrom tenantId evidenceId (get event "event_hash") (expected + 1) events head
  | _, _, _ :: _, _ => False

/-- The entry declares an object of the package, with its digest and its size. -/
def ObjectRead (archive : Archive) (item : Value) (declared : String × ℤ) : Prop :=
  ∃ entry payload, item = .obj entry ∧ digest? (get entry "sha256") = some declared.1 ∧
    size? (get entry "size_bytes") = some declared.2 ∧
    archive.read (objectName declared.1) = .ok payload ∧ lib.sha256 payload = declared.1 ∧
    payload.length = declared.2

/-- The entry is an evidence record: its object is declared, and its chain of custody holds. -/
def EvidenceRead (tenantId : String) (sizes : ObjectSizes) (item : Value) (id : String) : Prop :=
  ∃ entry, item = .obj entry ∧ get entry "evidence_id" = .str id ∧ id ≠ "" ∧
    (∃ o ∈ sizes, get entry "content_sha256" = .str o.1 ∧
      equal lib.real (get entry "size_bytes") (.int o.2) = true) ∧
    ∃ events, get entry "custody" = .arr events ∧
      ChainFrom lib tenantId id .null 1 events (get entry "custody_head")

def EdgeRead (ids : List String) (edge : Value) : Prop :=
  ∃ entry, edge = .obj entry ∧ ∃ source ∈ ids, ∃ derived ∈ ids,
    get entry "source_evidence_id" = .str source ∧ get entry "derived_evidence_id" = .str derived

/-- The manifest declares all that is in the package, and what it says fits together. -/
structure WellFormedManifest (archive : Archive) (manifest : Object) : Prop where
  schema : get manifest "schema" = .str schemaV1 ∨ get manifest "schema" = .str schemaV2
  lists : ∀ key ∈ ["evidence", "objects", "lineage", "requested_evidence_ids"],
    (manifest.lookup key).getD (.arr []) = .arr (listOf manifest key)
  content : ∃ tenantId sizes ids, get manifest "tenant_id" = .str tenantId ∧ tenantId ≠ "" ∧
    List.Forall₂ (ObjectRead lib archive) (listOf manifest "objects") sizes ∧
    (sizes.map Prod.fst).Nodup ∧
    (∀ name ∈ archive.names, name ∈ requiredEntries ∨ name ∈ signatureEntries ∨
      ∃ o ∈ sizes, name = objectName o.1) ∧
    List.Forall₂ (EvidenceRead lib tenantId sizes) (listOf manifest "evidence") ids ∧ ids.Nodup ∧
    (∀ v ∈ listOf manifest "requested_evidence_ids", ∃ id ∈ ids, v = .str id) ∧
    ∀ edge ∈ listOf manifest "lineage", EdgeRead ids edge

/-- There is no signature, or it is one of the manifest under a key that is trusted. -/
def SignatureRead (archive : Archive) (trusted : Option (List (String × Bytes)))
    (manifestBytes : Bytes) : Prop :=
  (∀ name ∈ signatureEntries, name ∉ archive.names) ∨
    ∃ document signature embeddedKey key, archive.read signatureName = .ok document ∧
      lib.loads document = .ok (.obj signature) ∧ archive.read publicKeyName = .ok embeddedKey ∧
      trustedKey (trusted.getD []) (get signature "key_id") = .ok key ∧
      (trusted = none ∨ key ≠ none) ∧
      SignedBy lib.toCryptography manifestBytes signature (keyInUse key embeddedKey)

structure WellFormedArchive (archive : Archive) (trusted : Option (List (String × Bytes)))
    (manifestBytes checksum : Bytes) (manifest : Object) : Prop where
  distinct : archive.names.Nodup
  safe : ∀ name ∈ archive.names, ¬ isUnsafe name
  required : ∀ name ∈ requiredEntries, name ∈ archive.names
  checksum : ∃ text, decodeAscii checksum = .ok text ∧
    words text = [lib.sha256 manifestBytes, manifestName]
  signature : SignatureRead lib archive trusted manifestBytes
  /-- the second schema has a signature -/
  signed : get manifest "schema" = .str schemaV2 → archive.Signed
  manifest : WellFormedManifest lib archive manifest

/-- The file is a package in which every check of the verifier passes. -/
def WellFormed (file : Option Bytes) (trusted : Option (List (String × Bytes))) : Prop :=
  ∃ package archive manifestBytes checksum manifest, file = some package ∧
    lib.unzip package = .ok archive ∧ archive.read manifestName = .ok manifestBytes ∧
    archive.read checksumName = .ok checksum ∧
    lib.loads manifestBytes = .ok (.obj manifest) ∧
    WellFormedArchive lib archive trusted manifestBytes checksum manifest

/-! ### What is valid is well formed -/

section Valid

variable {lib} {archive : Archive}
variable {tenantId : String} {sizes : ObjectSizes} {ids : List String} {manifest : Object}
  {u : Unit}
variable {evidenceId : String} {item : Value}

theorem quiet_custodyEvent {previous head : Value} {event : Value × ℕ} :
    Quiet Note.Silent (verifyCustodyEvent lib tenantId evidenceId previous event) head →
      ∃ entry, event.1 = .obj entry ∧
        equal lib.real (get entry "sequence_no") (.int event.2) = true ∧
        equal lib.real (get entry "previous_event_hash") previous = true ∧
        (∃ hash, calculatedHash lib tenantId evidenceId event.2 previous entry = .ok hash ∧
          equal lib.real (get entry "event_hash") (.str hash) = true) ∧
        head = get entry "event_hash" := by
  intro h
  unfold verifyCustodyEvent at h
  split at h
  case h_1 entry expected =>
    split at h
    case isTrue hplace =>
      split at h
      case h_1 hash hhash =>
        rw [quiet_reportUnless_bind, quiet_reportUnless_bind, quiet_pure] at h
        exact ⟨entry, rfl, hplace, h.1, ⟨hash, hhash, h.2.1⟩, h.2.2.symm⟩
      all_goals simp at h
    case isFalse => simp at h
  case h_2 => simp at h

theorem chainFrom_of_quiet {declared : Value} :
    ∀ {events : List Value} {previous head : Value} {expected : ℕ},
    Quiet Note.Silent
      ((events.zipIdx expected).foldlM (verifyCustodyEvent lib tenantId evidenceId) previous) head →
    equal lib.real declared head = true →
    ChainFrom lib tenantId evidenceId previous expected events declared := by
  intro events
  induction events with
  | nil =>
    intro previous head expected h hhead
    rw [List.zipIdx_nil, List.foldlM_nil, quiet_pure] at h
    subst h
    exact hhead
  | cons event events ih =>
    intro previous head expected h hhead
    rw [List.zipIdx_cons, List.foldlM_cons, quiet_bind] at h
    obtain ⟨next, hevent, hevents⟩ := h
    obtain ⟨entry, hentry, hplace, hprevious, hhash, rfl⟩ := quiet_custodyEvent hevent
    subst hentry
    exact ⟨hplace, hprevious, hhash, ih hevents hhead⟩

theorem quiet_checkObject {sizes' : ObjectSizes} :
    Quiet Note.Silent (checkObject lib archive sizes item) sizes' →
      ∃ declared, ObjectRead lib archive item declared ∧ declared.1 ∉ sizes.map Prod.fst ∧
        sizes' = sizes ++ [declared] := by
  intro h
  unfold checkObject at h
  split at h
  case h_1 entry =>
    split at h
    case h_1 => simp at h
    case h_2 found digest hdigest =>
      split at h
      case isTrue => simp at h
      case isFalse hnew =>
        split at h
        case h_1 => simp at h
        case h_2 size hsize =>
          rw [quiet_bind] at h
          obtain ⟨u, hpayload, hsizes⟩ := h
          unfold checkPayload at hpayload
          split at hpayload
          case h_1 payload hread =>
            rw [quiet_reportUnless_bind, quiet_reportUnless] at hpayload
            exact ⟨(digest, size), ⟨entry, payload, rfl, hdigest, hsize, hread, hpayload⟩, hnew,
              (quiet_pure.mp hsizes).symm⟩
          all_goals simp at hpayload
  case h_2 => simp at h

theorem quiet_checkEvidence {ids' : List String} :
    Quiet Note.Silent (checkEvidence lib tenantId sizes ids item) ids' →
      ∃ found, EvidenceRead lib tenantId sizes item found ∧ id found ∉ ids.map id ∧
        ids' = ids ++ [found] := by
  intro h
  unfold checkEvidence at h
  split at h
  case h_1 entry =>
    split at h
    case h_1 evidenceId hid =>
      split at h
      case isTrue => simp at h
      case isFalse hne =>
        rw [quiet_reportUnless_bind] at h
        obtain ⟨hnew, h⟩ := h
        rw [quiet_bind] at h
        obtain ⟨u, hcontent, h⟩ := h
        rw [quiet_bind] at h
        obtain ⟨u, hcustody, h⟩ := h
        have hobject : ∃ o ∈ sizes, get entry "content_sha256" = .str o.1 ∧
            equal lib.real (get entry "size_bytes") (.int o.2) = true := by
          unfold checkContent at hcontent
          dsimp only at hcontent
          rw [quiet_bind] at hcontent
          obtain ⟨u, -, hcontent⟩ := hcontent
          split at hcontent
          case h_1 => simp at hcontent
          case h_2 o ho =>
            have hdigest : isStr (get entry "content_sha256") o.1 = true :=
              (List.find?_eq_some_iff_append.mp ho).1
            exact ⟨o, List.mem_of_find?_eq_some ho, isStr_iff.mp hdigest,
              quiet_reportUnless.mp hcontent⟩
        have hchain : ∃ events, get entry "custody" = .arr events ∧
            ChainFrom lib tenantId evidenceId .null 1 events (get entry "custody_head") := by
          unfold verifyCustody at hcustody
          split at hcustody
          case h_1 events hevents =>
            rw [quiet_bind] at hcustody
            obtain ⟨head, hloop, hhead⟩ := hcustody
            exact ⟨events, hevents, chainFrom_of_quiet hloop (quiet_reportUnless.mp hhead)⟩
          case h_2 => simp at hcustody
        exact ⟨evidenceId, ⟨entry, rfl, hid, hne, hobject, hchain⟩, by simpa using hnew,
          (quiet_pure.mp h).symm⟩
    case h_2 => simp at h
  case h_2 => simp at h

theorem isMember_iff {v : Value} :
    isMember ids v = true ↔ ∃ id ∈ ids, v = .str id := by
  cases v <;> simp [isMember]

theorem quiet_checkRequested (h : Quiet Note.Silent (checkRequested manifest ids) u) :
    (manifest.lookup "requested_evidence_ids").getD (.arr []) =
      .arr (listOf manifest "requested_evidence_ids") ∧
    ∀ v ∈ listOf manifest "requested_evidence_ids", ∃ id ∈ ids, v = .str id := by
  unfold checkRequested at h
  unfold listOf
  split at h
  case h_1 requested hrequested =>
    rw [quiet_bind] at h
    obtain ⟨u, -, h⟩ := h
    rw [hrequested]
    exact ⟨rfl, fun v hv => isMember_iff.mp (quiet_reportUnless.mp h v hv)⟩
  case h_2 => simp at h

theorem quiet_checkEdge {edge : Value} (h : Quiet Note.Silent (checkEdge ids edge) u) :
    EdgeRead ids edge := by
  have hend : ∀ {v : Value} {absent : ExportError} {u : Unit},
      Quiet Note.Silent (checkEnd ids v absent) u → ∃ id ∈ ids, v = .str id := by
    intro v absent u h
    rw [checkEnd, quiet_bind] at h
    obtain ⟨u, -, h⟩ := h
    exact isMember_iff.mp (quiet_reportUnless.mp h)
  unfold checkEdge at h
  split at h
  case h_1 entry =>
    rw [quiet_bind] at h
    obtain ⟨u, hsource, hderived⟩ := h
    obtain ⟨source, hsource, hsource'⟩ := hend hsource
    obtain ⟨derived, hderived, hderived'⟩ := hend hderived
    exact ⟨entry, rfl, source, hsource, derived, hderived, hsource', hderived'⟩
  case h_2 => simp at h

theorem quiet_readList {key : String} {items : List Value}
    (h : Quiet Note.Silent (readList manifest key) items) :
    items = listOf manifest key ∧
      (manifest.lookup key).getD (.arr []) = .arr (listOf manifest key) := by
  unfold readList at h
  unfold listOf
  split at h
  case h_1 found hfound =>
    rw [hfound]
    exact ⟨(quiet_pure.mp h).symm, rfl⟩
  case h_2 => simp at h

theorem quiet_readTenant (h : Quiet Note.Silent (readTenant manifest) tenantId) :
    get manifest "tenant_id" = .str tenantId ∧ tenantId ≠ "" := by
  unfold readTenant at h
  split at h
  case h_1 found hfound =>
    rw [quiet_reportUnless_bind, quiet_pure] at h
    obtain ⟨hne, rfl⟩ := h
    exact ⟨hfound, hne⟩
  case h_2 => simp at h

theorem quiet_checkEntries {names : List String}
    (h : Quiet Note.Silent (checkEntries names sizes) u) :
    ∀ name ∈ names, name ∈ requiredEntries ∨ name ∈ signatureEntries ∨
      ∃ o ∈ sizes, name = objectName o.1 := by
  intro name hname
  have hnone := quiet_reportUnless.mp h
  have hallowed : name ∈ requiredEntries ++ signatureEntries ++
      sizes.map fun o => objectName o.1 := by
    by_contra hnot
    have hmem : name ∈ orderBy id ((names.filter (· ∉ requiredEntries ++ signatureEntries ++
        sizes.map fun o => objectName o.1)).dedup) := by
      rw [mem_orderBy, List.mem_dedup, List.mem_filter]
      exact ⟨hname, by simpa using hnot⟩
    rw [hnone] at hmem
    exact List.not_mem_nil hmem
  rw [List.mem_append, List.mem_append, List.mem_map] at hallowed
  rcases hallowed with (h | h) | ⟨o, ho, rfl⟩
  · exact Or.inl h
  · exact Or.inr (Or.inl h)
  · exact Or.inr (Or.inr ⟨o, ho, rfl⟩)

theorem quiet_checkManifest {manifestBytes : Bytes} {signatureValid : Option Bool}
    (h : Quiet Note.Silent (checkManifest lib archive manifestBytes signatureValid) u) :
    ∃ manifest, lib.loads manifestBytes = .ok (.obj manifest) ∧
      WellFormedManifest lib archive manifest ∧
      (get manifest "schema" = .str schemaV2 → signatureValid = some true) := by
  unfold checkManifest at h
  rw [quiet_bind] at h
  obtain ⟨manifest, hmanifest, h⟩ := h
  rw [quiet_bind] at h
  obtain ⟨u₁, hschema, h⟩ := h
  simp only [quiet_bind] at h
  obtain ⟨tenantId, htenant, evidence, hevidence, objects, hobjects, lineage, hlineage, u₂, -,
    sizes, hsizes, u₃, hentries, ids, hids, u₄, hrequested, hedges⟩ := h
  rw [checkSchema, quiet_bind] at hschema
  obtain ⟨u₅, -, hschema⟩ := hschema
  rw [quiet_reportUnless_bind, quiet_reportUnless, isStr_iff, isStr_iff] at hschema
  obtain ⟨rfl, hevidenceList⟩ := quiet_readList hevidence
  obtain ⟨rfl, hobjectsList⟩ := quiet_readList hobjects
  obtain ⟨rfl, hlineageList⟩ := quiet_readList hlineage
  obtain ⟨htenant, hne⟩ := quiet_readTenant htenant
  obtain ⟨declared, rfl, hdeclared, hdistinct⟩ := quiet_collect (R := ObjectRead lib archive)
    (fun _ _ _ => quiet_checkObject) (by simp) hsizes
  have hnone : (([] : List String).map id).Nodup := by simp
  obtain ⟨found, rfl, hfound, honce⟩ := quiet_collect (f := checkEvidence lib tenantId sizes)
    (fun _ _ _ => quiet_checkEvidence) hnone hids
  obtain ⟨hrequestedList, hrequested⟩ := quiet_checkRequested hrequested
  refine ⟨manifest, readManifest_eq_ok.mp (quiet_lift.mp hmanifest), ⟨hschema.1, ?_, tenantId,
    sizes, ids, htenant, hne, hdeclared, hdistinct, quiet_checkEntries hentries, hfound, ?_,
    hrequested, fun edge hedge => quiet_checkEdge (quiet_forM.mp hedges edge hedge)⟩, hschema.2⟩
  · simp [hevidenceList, hobjectsList, hlineageList, hrequestedList]
  · simpa using honce

theorem wellFormed_of_valid {file : Option Bytes} {trusted : Option (List (String × Bytes))}
    {v : ExportVerification} (h : verifyExportPackage lib file trusted = .ok v)
    (hvalid : v.valid = true) : WellFormed lib file trusted := by
  cases file with
  | none =>
    cases h
    cases hvalid
  | some package =>
    have hquiet := quiet_of_valid h hvalid
    unfold checkPackage at hquiet
    simp only [quiet_bind, quiet_lift] at hquiet
    obtain ⟨archive, harchive, u₁, hnames, manifestBytes, hmanifestBytes, checksum, hchecksum, u₂,
      hline, valid, hsignature, u₃, -, hmanifest⟩ := hquiet
    obtain ⟨manifest, hloads, hwell, hschema⟩ := quiet_checkManifest hmanifest
    unfold checkNames at hnames
    simp only [quiet_bind, quiet_forM, quiet_reportUnless, quiet_lift, require_eq_ok] at hnames
    obtain ⟨u₄, hdistinct, u₅, hsafe, hrequired⟩ := hnames
    unfold checkChecksum at hline
    simp only [quiet_bind, quiet_lift, quiet_reportUnless] at hline
    obtain ⟨text, htext, u₆, -, u₇, hwords, hsum⟩ := hline
    have hread : SignatureRead lib archive trusted manifestBytes ∧
        (valid = some true → archive.Signed) := by
      rcases quiet_checkSignature.mp hsignature with ⟨hnone, hvalid⟩ | ⟨hall, hsigned⟩
      · exact ⟨Or.inl hnone, fun h => by rw [← hvalid] at h; cases h⟩
      · obtain ⟨document, signature, embeddedKey, key, hdocument, hroot, hembedded, hkey, htrusted,
          hby, -⟩ := quiet_checkSigned.mp hsigned
        exact ⟨Or.inr ⟨document, signature, embeddedKey, key, hdocument, hroot, hembedded, hkey,
          htrusted, hby⟩, fun _ => hall⟩
    have hparts : words text = [lib.sha256 manifestBytes, manifestName] := by
      rcases hparts : words text with _ | ⟨a, _ | ⟨b, _ | ⟨c, rest⟩⟩⟩ <;> simp_all
    refine ⟨package, archive, manifestBytes, checksum, manifest, rfl, harchive, hmanifestBytes,
      hchecksum, hloads, hdistinct, hsafe, ?_, ⟨text, htext, hparts⟩, hread.1,
      fun hv2 => hread.2 (hschema hv2), hwell⟩
    simpa [List.filter_eq_nil_iff] using hrequired

end Valid

/-- The verifier returns a result, which is invalid for all that is not well formed, exactly where
what is at the path makes it answer. -/
theorem verifier_robust_iff {lib : ExportLibrary} (hlib : lib.Lawful) (file : Option Bytes)
    (trusted : Option (List (String × Bytes))) :
    ((∃ v, verifyExportPackage lib file trusted = .ok v) ∧
      ∀ v, verifyExportPackage lib file trusted = .ok v → ¬ WellFormed lib file trusted →
        v.valid = false) ↔ Answers lib file trusted := by
  rw [← answers_iff hlib]
  refine and_iff_left fun v hv hmalformed => ?_
  by_contra hvalid
  exact hmalformed (wellFormed_of_valid hv (by simpa using hvalid))

theorem sampleLibrary_lawful : sampleLibrary.Lawful where
  loads bytes e h := by
    simp only [sampleLibrary] at h
    split at h <;> cases h
    exact id
  fromisoformat text e h := by
    cases h
    exact id
  loadPemPublicKey pem e h := by
    simp only [sampleLibrary] at h
    split at h <;> cases h
    exact id

theorem verifier_robust_sample : Answers sampleLibrary (some barePackage) (some sampleKeys) := by
  refine (verifier_robust_iff sampleLibrary_lawful _ _).mp ⟨?_, fun v hv hmalformed => ?_⟩
  · obtain ⟨v, hv, -⟩ := exists_valid_barePackage
    exact ⟨v, hv⟩
  · by_contra hvalid
    exact hmalformed (wellFormed_of_valid hv (by simpa using hvalid))

/-- A ZIP file with an empty manifest, and a checksum that is no text. -/
def garbledPackage : Bytes :=
  storedZip [([67, 191, 166, 163], manifestName, canonicalJson (.obj [])),
    ([0, 0, 0, 255], checksumName, [255])]

def garbledArchive : Archive :=
  [(manifestName, .ok (canonicalJson (.obj []))), (checksumName, .ok [255])]

def garbledLibrary : ExportLibrary :=
  { sampleLibrary with
    unzip := unzipOnly garbledPackage garbledArchive }

theorem garbledLibrary_lawful : garbledLibrary.Lawful :=
  ⟨sampleLibrary_lawful.loads, sampleLibrary_lawful.fromisoformat,
    sampleLibrary_lawful.loadPemPublicKey⟩

theorem garbledPackage_raises : (checkPackage garbledLibrary garbledPackage none).result =
    .error (.valueError "ordinal not in range(128)") := by
  have honly : garbledLibrary.unzip = unzipOnly garbledPackage garbledArchive := rfl
  unfold checkPackage
  rw [honly, unzipOnly_self, result_bind_ok (result_lift _)]
  rfl

/-- A package whose checksum is no text makes the verifier raise. -/
theorem garbled_checksum_raises : ¬ ∀ lib : ExportLibrary, lib.Lawful →
    ∀ (file : Option Bytes) (trusted : Option (List (String × Bytes))),
      (∃ v, verifyExportPackage lib file trusted = .ok v) ∧
      ∀ v, verifyExportPackage lib file trusted = .ok v → ¬ WellFormed lib file trusted →
        v.valid = false := by
  intro h
  obtain ⟨⟨v, hv⟩, -⟩ := h garbledLibrary garbledLibrary_lawful (some garbledPackage) none
  unfold verifyExportPackage at hv
  dsimp only at hv
  rw [garbledPackage_raises] at hv
  cases hv

end Vault
