/-
When the verifier of export packages answers.

Some exceptions are turned into errors of the result, and others leave the verifier.  `Answers` says
what a package must be like for none of those to be raised; `answers_iff` is that the verifier
returns a result exactly for these packages.
-/
import AssuranceOS.Vault.Acceptance

namespace Vault

open Checked JsonText Report Adjudication

def Raised.IsReported : Raised → Prop
  | .reported _ => True
  | _ => False

/-- `except (KeyError, ValueError, json.JSONDecodeError)` -/
def Raised.SpoilsSignature : Raised → Prop
  | .keyError _ | .valueError _ | .decodeError _ => True
  | _ => False

/-- `except (KeyError, TypeError, ValueError)` -/
def Raised.SpoilsEvent : Raised → Prop
  | .keyError _ | .typeError _ | .valueError _ | .decodeError _ => True
  | _ => False

/-- Only ZIP files raise what the verifier takes for a broken package. -/
structure ExportLibrary.Lawful (lib : ExportLibrary) : Prop where
  loads : ∀ bytes e, lib.loads bytes = .error e → ¬ e.IsReported
  fromisoformat : ∀ text e, lib.fromisoformat text = .error e → ¬ e.IsReported
  loadPemPublicKey : ∀ pem e, lib.loadPemPublicKey pem = .error e → ¬ e.IsReported

variable (lib : ExportLibrary)

/-! ### What a package must be like -/

def listOf (manifest : Object) (key : String) : List Value :=
  match (manifest.lookup key).getD (.arr []) with
  | .arr items => items
  | _ => []

def declaredDigest : Value → Option String
  | .obj item =>
    match digest? (get item "sha256"), size? (get item "size_bytes") with
    | some digest, some _ => some digest
    | _, _ => none
  | _ => none

def payloadError (archive : Archive) (digest : String) : Option Raised :=
  match archive.read (objectName digest) with
  | .ok _ | .error (.keyError _) => none
  | .error e => some e

def payloadErrors (archive : Archive) (objects : List Value) : List Raised :=
  (objects.filterMap declaredDigest).filterMap (payloadError archive)

def occurrence (event : Object) : Except Raised DateTime := do
  let _ ← item event "action"
  let _ ← item event "actor_type"
  let _ ← item event "actor_id"
  let occurredAt ← item event "occurred_at"
  parseDatetime lib occurredAt

/-- An event in its place has a time that can be read or is refused as a value. -/
def EventAnswers : Value × Nat → Prop
  | (.obj event, expected) => equal lib.real (get event "sequence_no") (.int expected) = true →
    ∀ e, occurrence lib event = .error e → e.SpoilsEvent
  | _ => True

def CustodyAnswers : Value → Prop
  | .arr events => ∀ event ∈ events.zipIdx 1, EventAnswers lib event
  | _ => True

/-- Evidence with an id has a digest that can be looked up, and its custody answers. -/
def EvidenceAnswers : Value → Prop
  | .obj item => ∀ evidenceId, get item "evidence_id" = .str evidenceId → evidenceId ≠ "" →
    hashable (get item "content_sha256") = .ok () ∧ CustodyAnswers lib (get item "custody")
  | _ => True

def EdgeAnswers : Value → Prop
  | .obj edge => hashable (get edge "source_evidence_id") = .ok () ∧
    hashable (get edge "derived_evidence_id") = .ok ()
  | _ => True

structure ManifestAnswers (archive : Archive) (manifest : Object) : Prop where
  schema : hashable (get manifest "schema") = .ok ()
  payloads : ∀ e ∈ (payloadErrors archive (listOf manifest "objects")).head?, e.IsReported
  /-- when no payload has stopped the verifier -/
  evidence : payloadErrors archive (listOf manifest "objects") = [] →
    ∀ item ∈ listOf manifest "evidence", EvidenceAnswers lib item
  requested : payloadErrors archive (listOf manifest "objects") = [] →
    ∀ id ∈ listOf manifest "requested_evidence_ids", hashable id = .ok ()
  lineage : payloadErrors archive (listOf manifest "objects") = [] →
    ∀ edge ∈ listOf manifest "lineage", EdgeAnswers edge

def ShownKeyId (keyId : Value) : Prop :=
  keyId = .null ∨ ∃ text, keyId = .str text

/-- The key id can be shown, and the key loads or is refused as a value. -/
structure SignatureAnswers (archive : Archive) (trusted : Option (List (String × Bytes)))
    (signature : Object) : Prop where
  keyId : ShownKeyId (get signature "key_id")
  embedded : ∀ e, archive.read publicKeyName = .error e → e.SpoilsSignature ∨ e.IsReported
  loaded : ∀ embeddedKey key e, archive.read publicKeyName = .ok embeddedKey →
    trustedKey (trusted.getD []) (get signature "key_id") = .ok key →
    trusted = none ∨ key ≠ none → isStr (get signature "algorithm") "Ed25519" = true →
    lib.loadPemPublicKey (keyInUse key embeddedKey) = .error e → e.SpoilsSignature

def Archive.Signed (archive : Archive) : Prop :=
  ∀ name ∈ signatureEntries, name ∈ archive.names

def SignatureStops (archive : Archive) : Prop :=
  archive.Signed ∧ ∃ e, e.IsReported ∧ (archive.read signatureName = .error e ∨
    ∃ document signature, archive.read signatureName = .ok document ∧
      lib.loads document = .ok (.obj signature) ∧ archive.read publicKeyName = .error e)

structure ArchiveAnswers (archive : Archive) (trusted : Option (List (String × Bytes))) : Prop where
  manifest : ∀ e, archive.read manifestName = .error e → e.IsReported
  checksum : ∀ bytes, archive.read manifestName = .ok bytes →
    ∀ e, archive.read checksumName = .error e → e.IsReported
  ascii : ∀ bytes checksum, archive.read manifestName = .ok bytes →
    archive.read checksumName = .ok checksum → checksum.all (· < 128) = true
  signature : ∀ bytes checksum, archive.read manifestName = .ok bytes →
    archive.read checksumName = .ok checksum → archive.Signed →
      (∀ e, archive.read signatureName = .error e → e.SpoilsSignature ∨ e.IsReported) ∧
      ∀ document, archive.read signatureName = .ok document →
        (∀ e, lib.loads document = .error e → e.SpoilsSignature) ∧
        ∀ signature, lib.loads document = .ok (.obj signature) →
          SignatureAnswers lib archive trusted signature
  text : ∀ bytes checksum, archive.read manifestName = .ok bytes →
    archive.read checksumName = .ok checksum → ¬ SignatureStops lib archive →
      ∀ e, lib.loads bytes = .error e → ∃ text, e = .decodeError text
  content : ∀ bytes checksum manifest, archive.read manifestName = .ok bytes →
    archive.read checksumName = .ok checksum → ¬ SignatureStops lib archive →
      lib.loads bytes = .ok (.obj manifest) → ManifestAnswers lib archive manifest

/-- No exception leaves the verifier, by what it reads of the file. -/
def Answers (file : Option Bytes) (trusted : Option (List (String × Bytes))) : Prop :=
  ∀ package ∈ file,
    (∀ e, lib.unzip package = .error e → e.IsReported) ∧
    ∀ archive, lib.unzip package = .ok archive → (∀ name ∈ requiredEntries, name ∈ archive.names) →
      ArchiveAnswers lib archive trusted

section Parts

variable {lib} {archive : Archive}

@[simp] theorem result_reportUnless (c : Prop) [Decidable c] (e : ExportError) :
    (reportUnless c e).result = .ok () := by
  unfold reportUnless noteUnless
  split <;> rfl

variable {v : Value} {tenantId evidenceId : String} {event manifest : Object} {e : Raised}
  {sizes : ObjectSizes} {ids names : List String} {manifestBytes payload package : Bytes} {α : Type}
  {p : Raised → Prop} {trusted : Option (List (String × Bytes))}

theorem settles_hashable :
    Settles Raised.IsReported (lift (hashable v) : Verifying Unit) ↔ hashable v = .ok () := by
  rw [settles_lift]
  cases v with
  | arr _ => exact iff_of_false (fun h => h _ rfl) (by simp [hashable])
  | obj _ => exact iff_of_false (fun h => h _ rfl) (by simp [hashable])
  | _ => exact iff_of_true (fun e he => by cases he) rfl

variable {previous edge : Value} {key : String} {signatureValid : Option Bool} {β : Type}
  {y : Except Raised α} {pem checksum : Bytes} {signature : Object}

theorem calculatedHash_error {expected : ℕ} :
    calculatedHash lib tenantId evidenceId expected previous event = .error e ↔
      occurrence lib event = .error e := by
  unfold calculatedHash occurrence
  cases item event "action" with
  | error => simp [bind, Except.bind]
  | ok action =>
    cases item event "actor_type" with
    | error => simp [bind, Except.bind]
    | ok actorType =>
      cases item event "actor_id" with
      | error => simp [bind, Except.bind]
      | ok actorId =>
        cases item event "occurred_at" with
        | error => simp [bind, Except.bind]
        | ok occurredAt =>
          simp only [bind, Except.bind, pure, Except.pure]
          generalize parseDatetime lib occurredAt = occurred
          cases occurred <;> simp

theorem item_refuses :
    Refuses (fun e : Raised => ¬ e.IsReported) (item event key) :=
  refuses_ofOption id

theorem parseDatetime_refuses (hlib : lib.Lawful) :
    Refuses (fun e : Raised => ¬ e.IsReported) (parseDatetime lib v) := by
  cases v with
  | str text => exact hlib.fromisoformat _
  | _ => exact refuses_error id

theorem occurrence_refuses (hlib : lib.Lawful) :
    Refuses (fun e : Raised => ¬ e.IsReported) (occurrence lib event) :=
  item_refuses.bind fun _ _ => item_refuses.bind fun _ _ => item_refuses.bind fun _ _ =>
    item_refuses.bind fun _ _ => parseDatetime_refuses hlib

theorem settles_verifyCustodyEvent (hlib : lib.Lawful) {event : Value × ℕ} :
    (Settles Raised.IsReported (verifyCustodyEvent lib tenantId evidenceId previous event) ↔
      EventAnswers lib event) ∧
    (EventAnswers lib event →
      ∃ head, (verifyCustodyEvent lib tenantId evidenceId previous event).result = .ok head) := by
  rcases event with ⟨v, expected⟩
  cases v with
  | obj event =>
    unfold verifyCustodyEvent EventAnswers
    dsimp only
    by_cases hplace : equal lib.real (get event "sequence_no") (.int expected) = true
    · rw [if_pos hplace, imp_iff_right hplace]
      have herror : ∀ e, calculatedHash lib tenantId evidenceId expected previous event = .error e ↔
          occurrence lib event = .error e := fun e => calculatedHash_error
      cases hhash : calculatedHash lib tenantId evidenceId expected previous event with
      | ok calculated =>
        have hreturns : ∃ head, (do
            reportUnless (equal lib.real (get event "previous_event_hash") previous)
              (.custodyPrevious evidenceId expected)
            reportUnless (equal lib.real (get event "event_hash") (.str calculated))
              (.custodyHash evidenceId expected)
            return get event "event_hash" : Verifying Value).result = .ok head :=
          ⟨_, (result_bind_ok (result_reportUnless _ _)).trans
            (result_bind_ok (result_reportUnless _ _))⟩
        have hanswers : ∀ e, occurrence lib event = .error e → e.SpoilsEvent := fun e he => by
          rw [← herror, hhash] at he
          cases he
        exact ⟨iff_of_true (settles_of_ok hreturns.choose_spec) hanswers, fun _ => hreturns⟩
      | error e =>
        have hoccurrence : occurrence lib event = .error e := (herror e).mp hhash
        have hanswers : (∀ e, occurrence lib event = .error e → e.SpoilsEvent) ↔ e.SpoilsEvent := by
          rw [hoccurrence]
          exact ⟨fun h => h e rfl, fun h e' he' => by cases he'; exact h⟩
        rw [hanswers]
        cases e with
        | reported error => exact absurd trivial (occurrence_refuses hlib _ hoccurrence)
        | other text => exact ⟨iff_of_false (fun h => h _ rfl) id, False.elim⟩
        | _ => exact ⟨iff_of_true (settles_of_ok rfl) trivial, fun _ => ⟨_, rfl⟩⟩
    · rw [if_neg hplace]
      exact ⟨iff_of_true (settles_of_ok rfl) fun h => absurd h hplace, fun _ => ⟨_, rfl⟩⟩
  | _ => exact ⟨iff_of_true (settles_of_ok rfl) trivial, fun _ => ⟨_, rfl⟩⟩

theorem settles_verifyCustody (hlib : lib.Lawful) {events declaredHead : Value} :
    (Settles Raised.IsReported (verifyCustody lib tenantId evidenceId events declaredHead) ↔
      CustodyAnswers lib events) ∧
    (CustodyAnswers lib events →
      (verifyCustody lib tenantId evidenceId events declaredHead).result = .ok ()) := by
  cases events with
  | arr events =>
    have hloop : Settles Raised.IsReported
        ((events.zipIdx 1).foldlM (verifyCustodyEvent lib tenantId evidenceId) .null) ↔
          ∀ event ∈ events.zipIdx 1, EventAnswers lib event :=
      settles_foldlM (fun _ _ _ => (settles_verifyCustodyEvent hlib).1) fun _ _ _ h =>
        (settles_verifyCustodyEvent hlib).2 ((settles_verifyCustodyEvent hlib).1.mp h)
    unfold verifyCustody CustodyAnswers
    constructor
    · rw [settles_bind, hloop]
      exact and_iff_left fun _ _ => settles_of_ok (result_reportUnless _ _)
    · intro hanswers
      obtain ⟨head, hhead⟩ := foldlM_returns (p := Raised.IsReported)
        (fun _ _ _ h => (settles_verifyCustodyEvent hlib).2
          ((settles_verifyCustodyEvent hlib).1.mp h)) (hloop.mpr hanswers)
      exact (result_bind_ok hhead).trans (result_reportUnless _ _)
  | _ => exact ⟨iff_of_true (settles_of_ok rfl) trivial, fun _ => rfl⟩

/-! ### Evidence and lineage -/

theorem checkContent_result {item : Object} :
    (checkContent lib sizes evidenceId item).result = hashable (get item "content_sha256") := by
  unfold checkContent
  dsimp only
  cases hhash : hashable (get item "content_sha256") with
  | error e => exact result_bind_error rfl
  | ok u =>
    rw [result_bind_ok (a := u) rfl]
    split
    · rfl
    · exact result_reportUnless _ _

theorem settles_checkContent {item : Object} :
    Settles Raised.IsReported (checkContent lib sizes evidenceId item) ↔
      hashable (get item "content_sha256") = .ok () := by
  rw [← settles_hashable, settles_lift, Settles, checkContent_result]

theorem settles_checkEvidence (hlib : lib.Lawful) {item : Value} :
    (Settles Raised.IsReported (checkEvidence lib tenantId sizes ids item) ↔
      EvidenceAnswers lib item) ∧
    (EvidenceAnswers lib item →
      ∃ ids', (checkEvidence lib tenantId sizes ids item).result = .ok ids') := by
  have hskipped : ∀ {e : ExportError} {P : Prop}, P →
      (Settles Raised.IsReported (report e >>= fun _ => (pure ids : Verifying (List String))) ↔ P) ∧
      (P → ∃ ids', (report e >>= fun _ => (pure ids : Verifying (List String))).result =
        .ok ids') := fun hP =>
    ⟨iff_of_true (settles_of_ok rfl) hP, fun _ => ⟨_, rfl⟩⟩
  unfold checkEvidence EvidenceAnswers
  cases item with
  | obj item =>
    dsimp only
    cases hid : get item "evidence_id" with
    | str evidenceId =>
      dsimp only
      by_cases hempty : evidenceId = ""
      · rw [if_pos hempty]
        refine hskipped fun id hid hne => absurd ?_ hne
        cases hid
        exact hempty
      · have hanswers : (∀ id, Value.str evidenceId = .str id → id ≠ "" →
            hashable (get item "content_sha256") = .ok () ∧ CustodyAnswers lib (get item "custody")) ↔
            hashable (get item "content_sha256") = .ok () ∧
              CustodyAnswers lib (get item "custody") :=
          ⟨fun h => h _ rfl hempty, fun h id hid _ => h⟩
        rw [if_neg hempty, hanswers, settles_bind_ok (result_reportUnless _ _), settles_bind,
          settles_checkContent]
        constructor
        · refine and_congr_right fun hhash => ?_
          have hcontent : (checkContent lib sizes evidenceId item).result = .ok () :=
            checkContent_result.trans hhash
          have hcustody : Settles Raised.IsReported (verifyCustody lib tenantId evidenceId
              (get item "custody") (get item "custody_head")) ↔
              CustodyAnswers lib (get item "custody") := (settles_verifyCustody hlib).1
          rw [← hcustody]
          constructor
          · exact fun h => (settles_bind.mp (h () hcontent)).1
          · exact fun h _ _ => settles_bind.mpr ⟨h, fun _ _ => settles_of_ok rfl⟩
        · rintro ⟨hhash, hcustody⟩
          refine ⟨ids ++ [evidenceId], ?_⟩
          rw [result_bind_ok (result_reportUnless _ _),
            result_bind_ok (checkContent_result.trans hhash),
            result_bind_ok ((settles_verifyCustody hlib).2 hcustody)]
          rfl
    | _ => exact hskipped fun id hid => by cases hid
  | _ => exact hskipped trivial

theorem settles_checkRequested {manifest : Object} {ids : List String} :
    Settles Raised.IsReported (checkRequested manifest ids) ↔
      ∀ id ∈ listOf manifest "requested_evidence_ids", hashable id = .ok () := by
  unfold checkRequested listOf
  cases (manifest.lookup "requested_evidence_ids").getD (.arr []) with
  | arr requested =>
    dsimp only
    rw [settles_bind, and_iff_left fun _ _ => settles_of_ok (result_reportUnless _ _)]
    exact settles_forM (fun _ _ => settles_hashable) fun v _ h => settles_hashable.mp h
  | _ => exact iff_of_true (settles_of_ok rfl) (by simp)

theorem checkRequested_returns (h : Settles Raised.IsReported (checkRequested manifest ids)) :
    (checkRequested manifest ids).result = .ok () := by
  have hhash := settles_checkRequested.mp h
  revert hhash
  unfold checkRequested listOf
  cases (manifest.lookup "requested_evidence_ids").getD (.arr []) with
  | arr requested =>
    intro hhash
    have hloop : (forM requested fun v => (lift (hashable v) : Verifying Unit)).result = .ok () :=
      forM_returns hhash
    exact (result_bind_ok hloop).trans (result_reportUnless _ _)
  | _ => exact fun _ => rfl

theorem checkEnd_result {id : Value} {absent : ExportError} :
    (checkEnd ids id absent).result = hashable id := by
  unfold checkEnd
  cases hhash : hashable id with
  | error e => exact result_bind_error rfl
  | ok u => exact (result_bind_ok (a := u) rfl).trans (result_reportUnless _ _)

theorem settles_checkEdge :
    Settles Raised.IsReported (checkEdge ids edge) ↔ EdgeAnswers edge := by
  have hend : ∀ {id : Value} {absent : ExportError},
      Settles Raised.IsReported (checkEnd ids id absent) ↔ hashable id = .ok () := by
    intro id absent
    rw [← settles_hashable, settles_lift, Settles, checkEnd_result]
  unfold checkEdge EdgeAnswers
  cases edge with
  | obj edge =>
    dsimp only
    rw [settles_bind, hend]
    exact and_congr_right fun h => ⟨fun hs => hend.mp (hs () (checkEnd_result.trans h)),
      fun hs _ _ => hend.mpr hs⟩
  | _ => exact iff_of_true (settles_of_ok rfl) trivial

theorem checkEdge_returns (h : Settles Raised.IsReported (checkEdge ids edge)) :
    (checkEdge ids edge).result = .ok () := by
  have hanswers := settles_checkEdge.mp h
  cases edge with
  | obj edge =>
    have hsource : (checkEnd ids (get edge "source_evidence_id") .absentSource).result = .ok () :=
      checkEnd_result.trans hanswers.1
    exact (result_bind_ok hsource).trans (checkEnd_result.trans hanswers.2)
  | _ => rfl

theorem checkPayload_result {digest : String} {size : ℤ} :
    (payloadError archive digest = none ∧
      (checkPayload lib archive digest size).result = .ok ()) ∨
    ∃ e, payloadError archive digest = some e ∧
      (checkPayload lib archive digest size).result = .error e := by
  unfold checkPayload payloadError
  cases archive.read (objectName digest) with
  | ok payload => exact Or.inl ⟨rfl, (result_bind_ok (result_reportUnless _ _)).trans
      (result_reportUnless _ _)⟩
  | error e =>
    cases e with
    | keyError text => exact Or.inl ⟨rfl, rfl⟩
    | _ => exact Or.inr ⟨_, rfl, rfl⟩

def PayloadsRead (archive : Archive) (sizes : ObjectSizes) : Prop :=
  ∀ digest ∈ sizes.map Prod.fst, payloadError archive digest = none

theorem checkObject_result {item : Value} (hread : PayloadsRead archive sizes) :
    (∃ e, (declaredDigest item).bind (payloadError archive) = some e ∧
      (checkObject lib archive sizes item).result = .error e) ∨
    ((declaredDigest item).bind (payloadError archive) = none ∧
      ∃ sizes', (checkObject lib archive sizes item).result = .ok sizes' ∧
        PayloadsRead archive sizes') := by
  unfold checkObject declaredDigest
  cases item with
  | obj item =>
    dsimp only
    cases digest? (get item "sha256") with
    | none => exact Or.inr ⟨rfl, sizes, rfl, hread⟩
    | some digest =>
      dsimp only
      by_cases hagain : digest ∈ sizes.map Prod.fst
      · rw [if_pos hagain]
        refine Or.inr ⟨?_, sizes, rfl, hread⟩
        cases size? (get item "size_bytes") with
        | none => rfl
        | some size => exact hread digest hagain
      · rw [if_neg hagain]
        cases size? (get item "size_bytes") with
        | none => exact Or.inr ⟨rfl, sizes, rfl, hread⟩
        | some size =>
          rcases @checkPayload_result lib archive digest size with ⟨hnone, hok⟩ | ⟨e, he, herror⟩
          · refine Or.inr ⟨hnone, sizes ++ [(digest, size)], result_bind_ok hok, ?_⟩
            intro d hd
            rw [List.map_append, List.mem_append] at hd
            rcases hd with hd | hd
            · exact hread d hd
            · obtain rfl := List.mem_singleton.mp hd
              exact hnone
          · exact Or.inl ⟨e, he, result_bind_error herror⟩
  | _ => exact Or.inr ⟨rfl, sizes, rfl, hread⟩

theorem checkObjects_result {objects : List Value} :
    (∃ e, (payloadErrors archive objects).head? = some e ∧
      (objects.foldlM (checkObject lib archive) []).result = .error e) ∨
    (payloadErrors archive objects = [] ∧
      ∃ sizes, (objects.foldlM (checkObject lib archive) []).result = .ok sizes) := by
  have herrors : payloadErrors archive objects =
      objects.filterMap fun item => (declaredDigest item).bind (payloadError archive) :=
    List.filterMap_filterMap
  rw [herrors]
  have hnothing : PayloadsRead archive [] := fun _ h => absurd h List.not_mem_nil
  rcases foldlM_result (f := checkObject lib archive)
    (fun sizes item (_ : item ∈ objects) (hread : PayloadsRead archive sizes) =>
      checkObject_result hread) hnothing with h | ⟨hnone, sizes, hsizes, -⟩
  · exact Or.inl h
  · exact Or.inr ⟨hnone, sizes, hsizes⟩

theorem checkSchema_result :
    (checkSchema manifest signatureValid).result = hashable (get manifest "schema") := by
  unfold checkSchema
  dsimp only
  cases hhash : hashable (get manifest "schema") with
  | error e => exact result_bind_error rfl
  | ok u =>
    rw [result_bind_ok (a := u) rfl, result_bind_ok (result_reportUnless _ _)]
    exact result_reportUnless _ _

theorem readTenant_result {manifest : Object} :
    ∃ tenantId, (readTenant manifest).result = .ok tenantId := by
  unfold readTenant
  cases get manifest "tenant_id" with
  | str tenantId => exact ⟨tenantId, result_bind_ok (result_reportUnless _ _)⟩
  | _ => exact ⟨"", rfl⟩

theorem readList_result :
    (readList manifest key).result = .ok (listOf manifest key) := by
  unfold readList listOf
  cases (manifest.lookup key).getD (.arr []) <;> rfl

theorem readManifest_eq_ok :
    readManifest lib manifestBytes = .ok manifest ↔
      lib.loads manifestBytes = .ok (.obj manifest) := by
  unfold readManifest
  split
  · rename_i m hm
    rw [hm]
    simp
  · rename_i v hv hm
    rw [hm]
    exact iff_of_false (by simp) fun h => hv _ (Except.ok.inj h)
  · rename_i text hm
    exact iff_of_false (by simp) (by simp [hm])
  · rename_i e he hm
    exact iff_of_false (by simp) (by simp [hm])

theorem readManifest_settles (hlib : lib.Lawful) :
    (∀ e, readManifest lib manifestBytes = .error e → e.IsReported) ↔
      ∀ e, lib.loads manifestBytes = .error e → ∃ text, e = .decodeError text := by
  unfold readManifest
  split
  · rename_i m hm
    exact iff_of_true (by simp) (by simp [hm])
  · rename_i v hv hm
    refine iff_of_true (fun e he => ?_) (by simp [hm])
    cases he
    trivial
  · rename_i text hm
    refine iff_of_true (fun e he => ?_) fun e he => ⟨text, ?_⟩
    · cases he
      trivial
    · rw [hm] at he
      cases he
      rfl
  · rename_i e hdecode hm
    refine iff_of_false (fun h => hlib.loads _ _ hm (h e rfl)) fun h => ?_
    obtain ⟨text, rfl⟩ := h e hm
    exact hdecode text rfl

theorem settles_evidence (hlib : lib.Lawful) :
    Settles Raised.IsReported (do
      let ids ← (listOf manifest "evidence").foldlM (checkEvidence lib tenantId sizes) []
      checkRequested manifest ids
      forM (listOf manifest "lineage") (checkEdge ids)) ↔
    (∀ item ∈ listOf manifest "evidence", EvidenceAnswers lib item) ∧
      (∀ id ∈ listOf manifest "requested_evidence_ids", hashable id = .ok ()) ∧
      ∀ edge ∈ listOf manifest "lineage", EdgeAnswers edge := by
  have hreturns : ∀ ids, ∀ item ∈ listOf manifest "evidence",
      Settles Raised.IsReported (checkEvidence lib tenantId sizes ids item) →
      ∃ ids', (checkEvidence lib tenantId sizes ids item).result = .ok ids' :=
    fun _ _ _ h => (settles_checkEvidence hlib).2 ((settles_checkEvidence hlib).1.mp h)
  have hloop : Settles Raised.IsReported
      ((listOf manifest "evidence").foldlM (checkEvidence lib tenantId sizes) []) ↔
        ∀ item ∈ listOf manifest "evidence", EvidenceAnswers lib item :=
    settles_foldlM (fun _ _ _ => (settles_checkEvidence hlib).1) hreturns
  rw [settles_bind, hloop]
  refine and_congr_right fun hevidence => ?_
  obtain ⟨ids, hids⟩ := foldlM_returns hreturns (hloop.mpr hevidence)
  have hlineage : Settles Raised.IsReported (forM (listOf manifest "lineage") (checkEdge ids)) ↔
      ∀ edge ∈ listOf manifest "lineage", EdgeAnswers edge :=
    settles_forM (fun _ _ => settles_checkEdge) fun _ _ => checkEdge_returns
  have hrest : Settles Raised.IsReported
      (checkRequested manifest ids >>= fun _ => forM (listOf manifest "lineage") (checkEdge ids)) ↔
      (∀ id ∈ listOf manifest "requested_evidence_ids", hashable id = .ok ()) ∧
        ∀ edge ∈ listOf manifest "lineage", EdgeAnswers edge := by
    rw [settles_bind, ← @settles_checkRequested manifest ids, ← hlineage]
    exact and_congr_right fun h => ⟨fun hs => hs () (checkRequested_returns h), fun hs _ _ => hs⟩
  rw [← hrest]
  constructor
  · exact fun h => h ids hids
  · intro h ids' hids'
    rw [hids] at hids'
    cases hids'
    exact h

theorem checkEntries_result :
    (checkEntries names sizes).result = .ok () :=
  result_reportUnless _ _

theorem settles_objects (hlib : lib.Lawful) :
    Settles Raised.IsReported (do
      let sizes ← (listOf manifest "objects").foldlM (checkObject lib archive) []
      checkEntries archive.names sizes
      let ids ← (listOf manifest "evidence").foldlM (checkEvidence lib tenantId sizes) []
      checkRequested manifest ids
      forM (listOf manifest "lineage") (checkEdge ids)) ↔
    (∀ e ∈ (payloadErrors archive (listOf manifest "objects")).head?, e.IsReported) ∧
      (payloadErrors archive (listOf manifest "objects") = [] →
        (∀ item ∈ listOf manifest "evidence", EvidenceAnswers lib item) ∧
        (∀ id ∈ listOf manifest "requested_evidence_ids", hashable id = .ok ()) ∧
        ∀ edge ∈ listOf manifest "lineage", EdgeAnswers edge) := by
  rcases @checkObjects_result lib archive (listOf manifest "objects") with
    ⟨e, he, herror⟩ | ⟨hnone, sizes, hsizes⟩
  · have hstopped : payloadErrors archive (listOf manifest "objects") ≠ [] := by
      intro hnil
      simp [hnil] at he
    rw [settles_bind_error herror, he]
    simp [hstopped]
  · rw [settles_bind_ok hsizes, settles_bind_ok checkEntries_result, settles_evidence hlib, hnone]
    simp

theorem settles_checkManifest (hlib : lib.Lawful) :
    Settles Raised.IsReported (checkManifest lib archive manifestBytes signatureValid) ↔
      (∀ e, lib.loads manifestBytes = .error e → ∃ text, e = .decodeError text) ∧
      ∀ manifest, lib.loads manifestBytes = .ok (.obj manifest) →
        ManifestAnswers lib archive manifest := by
  unfold checkManifest
  rw [settles_bind, settles_lift, readManifest_settles hlib]
  refine and_congr_right fun _ => forall_congr' fun manifest => ?_
  rw [result_lift, readManifest_eq_ok]
  refine imp_congr_right fun _ => ?_
  have hschema : Settles Raised.IsReported (checkSchema manifest signatureValid) ↔
      hashable (get manifest "schema") = .ok () := by
    rw [← settles_hashable, settles_lift, Settles, checkSchema_result]
  obtain ⟨tenantId, htenant⟩ := @readTenant_result manifest
  rw [settles_bind, hschema]
  simp only [settles_bind_ok htenant, settles_bind_ok readList_result,
    settles_bind_ok (x := note (Note.counts _ _)) rfl, settles_objects hlib]
  constructor
  · rintro ⟨hhash, h⟩
    obtain ⟨hpayloads, hrest⟩ := h () (checkSchema_result.trans hhash)
    exact ⟨hhash, hpayloads, fun hnone => (hrest hnone).1, fun hnone => (hrest hnone).2.1,
      fun hnone => (hrest hnone).2.2⟩
  · intro h
    exact ⟨h.schema, fun _ _ => ⟨h.payloads, fun hnone =>
      ⟨h.evidence hnone, h.requested hnone, h.lineage hnone⟩⟩⟩

/-- The note shows no key id but one in `S`. -/
def Note.KeyIdIn (S : Value → Prop) (n : Note) : Prop :=
  ∀ v, n = .signingKeyId v → S v

section KeyIds

variable {S : Value → Prop}

@[simp] theorem notes_report {e : ExportError} : Notes (Note.KeyIdIn S) (report e) :=
  notes_note.mpr fun _ h => by cases h

@[simp] theorem notes_reportUnless {c : Prop} [Decidable c] {e : ExportError} :
    Notes (Note.KeyIdIn S) (reportUnless c e) :=
  notes_noteUnless fun _ h => by cases h

variable {tenantId : String}

theorem notes_verifyCustodyEvent {previous : Value} {event : Value × ℕ} :
    Notes (Note.KeyIdIn S) (verifyCustodyEvent lib tenantId evidenceId previous event) := by
  unfold verifyCustodyEvent
  split
  · split
    · split <;> simp [notes_bind]
    · simp [notes_bind]
  · simp [notes_bind]

theorem notes_verifyCustody {events declaredHead : Value} :
    Notes (Note.KeyIdIn S) (verifyCustody lib tenantId evidenceId events declaredHead) := by
  unfold verifyCustody
  split
  · exact (notes_foldlM fun _ _ => notes_verifyCustodyEvent).bind fun _ => notes_reportUnless
  · exact notes_report

theorem notes_checkObject {item : Value} :
    Notes (Note.KeyIdIn S) (checkObject lib archive sizes item) := by
  have hpayload : ∀ {digest : String} {size : ℤ},
      Notes (Note.KeyIdIn S) (checkPayload lib archive digest size) := by
    intro digest size
    unfold checkPayload
    split <;> simp [notes_bind]
  unfold checkObject
  split
  · split
    · simp [notes_bind]
    · split
      · simp [notes_bind]
      · split <;> simp [notes_bind, hpayload]
  · simp [notes_bind]

theorem notes_checkEvidence {item : Value} :
    Notes (Note.KeyIdIn S) (checkEvidence lib tenantId sizes ids item) := by
  have hcontent : ∀ {evidenceId : String} {item : Object},
      Notes (Note.KeyIdIn S) (checkContent lib sizes evidenceId item) := by
    intro evidenceId item
    refine notes_lift.bind fun _ => ?_
    split <;> simp
  unfold checkEvidence
  split
  · split
    · split <;> simp [notes_bind, hcontent, notes_verifyCustody]
    · simp [notes_bind]
  · simp [notes_bind]

theorem notes_checkManifest {signatureValid : Option Bool} :
    Notes (Note.KeyIdIn S) (checkManifest lib archive manifestBytes signatureValid) := by
  have hlist : ∀ {manifest : Object} {key : String},
      Notes (Note.KeyIdIn S) (readList manifest key) := by
    intro manifest key
    unfold readList
    split <;> simp [notes_bind]
  have htenant : ∀ {manifest : Object}, Notes (Note.KeyIdIn S) (readTenant manifest) := by
    intro manifest
    unfold readTenant
    split <;> simp [notes_bind]
  have hrequested : ∀ {manifest : Object} {ids : List String},
      Notes (Note.KeyIdIn S) (checkRequested manifest ids) := by
    intro manifest ids
    unfold checkRequested
    split
    · exact (notes_forM fun _ => notes_lift).bind fun _ => notes_reportUnless
    · exact notes_report
  have hedge : ∀ {ids : List String} {edge : Value},
      Notes (Note.KeyIdIn S) (checkEdge ids edge) := by
    intro ids edge
    unfold checkEdge
    split <;> simp [checkEnd, notes_bind]
  have hschema : ∀ {manifest : Object},
      Notes (Note.KeyIdIn S) (checkSchema manifest signatureValid) := by
    intro manifest
    simp [checkSchema, notes_bind]
  exact notes_lift.bind fun _ => hschema.bind fun _ => htenant.bind fun _ => hlist.bind fun _ =>
    hlist.bind fun _ => hlist.bind fun _ => (notes_note.mpr fun _ h => by cases h).bind fun _ =>
    (notes_foldlM fun _ _ => notes_checkObject).bind fun _ => notes_reportUnless.bind fun _ =>
    (notes_foldlM fun _ _ => notes_checkEvidence).bind fun _ => hrequested.bind fun _ =>
    notes_forM fun _ => hedge

theorem notes_checkNames : Notes (Note.KeyIdIn S) (checkNames names) :=
  notes_reportUnless.bind fun _ => (notes_forM fun _ => notes_reportUnless).bind fun _ =>
    notes_lift

theorem notes_checkChecksum {checksum : Bytes} :
    Notes (Note.KeyIdIn S) (checkChecksum lib manifestBytes checksum) :=
  notes_lift.bind fun _ => (notes_note.mpr fun _ h => by cases h).bind fun _ =>
    notes_reportUnless.bind fun _ => notes_reportUnless

end KeyIds

/-- The computation ends as `p` allows, and shows no key id that the result cannot. -/
def EndsWell {α : Type} (p : Raised → Prop) (x : Verifying α) : Prop :=
  Settles p x ∧ Notes (Note.KeyIdIn ShownKeyId) x

theorem endsWell_bind {x : Verifying α} {f : α → Verifying β} :
    EndsWell p (x >>= f) ↔ EndsWell p x ∧ ∀ a, x.result = .ok a → EndsWell p (f a) := by
  unfold EndsWell
  rw [settles_bind, notes_bind]
  constructor
  · rintro ⟨⟨hx, hf⟩, hnotes, hrest⟩
    exact ⟨⟨hx, hnotes⟩, fun a ha => ⟨hf a ha, hrest a ha⟩⟩
  · rintro ⟨⟨hx, hnotes⟩, hf⟩
    exact ⟨⟨hx, fun a ha => (hf a ha).1⟩, hnotes, fun a ha => (hf a ha).2⟩

theorem endsWell_lift :
    EndsWell p (lift y : Verifying α) ↔ ∀ e, y = .error e → p e :=
  and_iff_left notes_lift

theorem endsWell_lift_bind {f : α → Verifying β} :
    EndsWell p (lift y >>= f) ↔
      (∀ e, y = .error e → p e) ∧ ∀ a, y = .ok a → EndsWell p (f a) := by
  rw [endsWell_bind, endsWell_lift]
  rfl

def Raised.EndsSignature (e : Raised) : Prop :=
  e.SpoilsSignature ∨ e.IsReported

theorem endsSignature_iff (h : ¬ e.IsReported) :
    e.EndsSignature ↔ e.SpoilsSignature :=
  or_iff_left h

theorem trustedKey_of_shown {trusted : List (String × Bytes)} {keyId : Value}
    (h : ShownKeyId keyId) : ∃ key, trustedKey trusted keyId = .ok key := by
  rcases h with rfl | ⟨text, rfl⟩
  · exact ⟨_, rfl⟩
  · exact ⟨_, rfl⟩

theorem verifySignature_ends (hlib : lib.Lawful) :
    (∀ e, verifySignature lib.toCryptography payload signature pem = .error e → e.EndsSignature) ↔
      (isStr (get signature "algorithm") "Ed25519" = true →
        ∀ e, lib.loadPemPublicKey pem = .error e → e.SpoilsSignature) := by
  have hload : ∀ e, lib.loadPemPublicKey pem = .error e →
      loadEd25519 lib.toCryptography pem = .error e ∧
      publicKeyFingerprint lib.toCryptography pem = .error e := by
    intro e he
    simp [publicKeyFingerprint, loadEd25519, he, bind, Except.bind]
  unfold verifySignature
  constructor
  · intro h halgorithm e he
    refine (endsSignature_iff (hlib.loadPemPublicKey pem e he)).mp (h e ?_)
    simp [require, halgorithm, (hload e he).2, bind, Except.bind]
  · intro h
    have hvalue : ∀ text, (Raised.valueError text).EndsSignature := fun _ => Or.inl trivial
    by_cases halgorithm : isStr (get signature "algorithm") "Ed25519" = true
    · have hkey : Refuses Raised.EndsSignature (loadEd25519 lib.toCryptography pem) := by
        refine Refuses.bind (fun e he => Or.inl (h halgorithm e he)) fun key _ => ?_
        cases key with
        | ed25519 raw => exact refuses_ok raw
        | other => exact refuses_error (hvalue _)
      exact (refuses_require (hvalue _)).bind fun _ _ =>
        (hkey.bind fun _ _ => refuses_ok _).bind fun _ _ =>
        (refuses_require (hvalue _)).bind fun _ _ => (refuses_ofOption (hvalue _)).bind fun _ _ =>
        hkey.bind fun _ _ => refuses_require (hvalue _)
    · exact (refuses_require (hvalue _)).bind fun _ hok => absurd (require_eq_ok.mp hok) halgorithm

theorem trustedKey_refuses {trusted : List (String × Bytes)} {keyId : Value} :
    Refuses (fun e : Raised => ¬ e.IsReported) (trustedKey trusted keyId) := by
  cases keyId with
  | arr _ => exact refuses_error id
  | obj _ => exact refuses_error id
  | _ => exact refuses_ok _

theorem verifySignature_refuses (hlib : lib.Lawful) :
    Refuses (fun e : Raised => ¬ e.IsReported)
      (verifySignature lib.toCryptography payload signature pem) := by
  have hkey : Refuses (fun e : Raised => ¬ e.IsReported)
      (loadEd25519 lib.toCryptography pem) := by
    refine Refuses.bind (hlib.loadPemPublicKey pem) fun key _ => ?_
    cases key with
    | ed25519 raw => exact refuses_ok raw
    | other => exact refuses_error id
  exact (refuses_require id).bind fun _ _ => (hkey.bind fun _ _ => refuses_ok _).bind fun _ _ =>
    (refuses_require id).bind fun _ _ => (refuses_ofOption id).bind fun _ _ =>
    hkey.bind fun _ _ => refuses_require id

theorem endsWell_checkSigned (hlib : lib.Lawful) :
    EndsWell Raised.EndsSignature (checkSigned lib archive trusted manifestBytes) ↔
      (∀ e, archive.read signatureName = .error e → e.EndsSignature) ∧
      ∀ document, archive.read signatureName = .ok document →
        (∀ e, lib.loads document = .error e → e.SpoilsSignature) ∧
        ∀ signature, lib.loads document = .ok (.obj signature) →
          SignatureAnswers lib archive trusted signature := by
  unfold checkSigned
  rw [endsWell_lift_bind]
  refine and_congr_right fun _ => forall₂_congr fun document _ => ?_
  rw [endsWell_lift_bind]
  refine and_congr (forall₂_congr fun e he => endsSignature_iff (hlib.loads _ _ he)) ?_
  have hkeys : ∀ {keyId : Value}, EndsWell Raised.EndsSignature (note (.signingKeyId keyId)) ↔
      ShownKeyId keyId := fun {keyId} =>
    (and_iff_right (settles_of_ok rfl)).trans (notes_note.trans
      ⟨fun h => h keyId rfl, fun h v hv => by cases hv; exact h⟩)
  have hobject : ∀ signature : Object, EndsWell Raised.EndsSignature (do
      note (.signingKeyId (get signature "key_id"))
      let embeddedKey ← lift (archive.read publicKeyName)
      let key ← lift (trustedKey (trusted.getD []) (get signature "key_id"))
      lift (require (trusted = none ∨ key ≠ none)
        (.valueError "manifest signing key is not trusted"))
      lift (verifySignature lib.toCryptography manifestBytes signature (keyInUse key embeddedKey))
      return some true) ↔ SignatureAnswers lib archive trusted signature := by
    intro signature
    rw [endsWell_bind, hkeys]
    simp only [endsWell_lift_bind, verifySignature_ends hlib, require_eq_ok]
    constructor
    · rintro ⟨hshown, h⟩
      refine ⟨hshown, (h () rfl).1, fun embeddedKey key e hembedded hkey htrusted halg he => ?_⟩
      exact (((h () rfl).2 embeddedKey hembedded).2 key hkey).2 () htrusted |>.1 halg e he
    · intro h
      refine ⟨h.keyId, fun _ _ => ⟨h.embedded, fun embeddedKey hembedded => ⟨?_, ?_⟩⟩⟩
      · obtain ⟨key, hkey⟩ := @trustedKey_of_shown (trusted.getD []) _ h.keyId
        intro e he
        rw [hkey] at he
        cases he
      · refine fun key hkey => ⟨refuses_require (Or.inl trivial), fun _ htrusted => ⟨?_, ?_⟩⟩
        · exact fun halg e he => h.loaded embeddedKey key e hembedded hkey htrusted halg he
        · exact fun _ _ => ⟨settles_of_ok rfl, notes_pure⟩
  constructor
  · exact fun h signature hloads => (hobject signature).mp (h _ hloads)
  · intro h root hroot
    cases root with
    | obj signature => exact (hobject signature).mpr (h signature hroot)
    | _ => exact ⟨fun e he => by cases he; exact Or.inl trivial, notes_raise⟩

theorem checkSigned_stops (hlib : lib.Lawful) (he : e.IsReported) :
    (checkSigned lib archive trusted manifestBytes).result = .error e ↔
      archive.read signatureName = .error e ∨
        ∃ document signature, archive.read signatureName = .ok document ∧
          lib.loads document = .ok (.obj signature) ∧ archive.read publicKeyName = .error e := by
  constructor
  · intro h
    have hsettles : Settles (fun e => e.IsReported → archive.read signatureName = .error e ∨
        ∃ document signature, archive.read signatureName = .ok document ∧
          lib.loads document = .ok (.obj signature) ∧ archive.read publicKeyName = .error e)
        (checkSigned lib archive trusted manifestBytes) := by
      refine settles_bind.mpr ⟨fun e he _ => Or.inl he, fun document hdocument => ?_⟩
      refine settles_bind.mpr ⟨fun e he hrep => absurd hrep (hlib.loads _ _ he), fun v hv => ?_⟩
      cases v with
      | obj signature =>
        refine settles_bind.mpr ⟨settles_of_ok rfl, fun _ _ => settles_bind.mpr
          ⟨fun e he _ => Or.inr ⟨document, signature, hdocument, hv, he⟩, fun embeddedKey _ => ?_⟩⟩
        -- what follows raises values and types only
        refine settles_bind.mpr ⟨fun e he hrep => absurd hrep (trustedKey_refuses e he),
          fun key _ => settles_bind.mpr
            ⟨fun e he hrep => absurd hrep
              (refuses_require (P := fun e : Raised => ¬ e.IsReported) id e he),
              fun _ _ => settles_bind.mpr
                ⟨fun e he hrep => absurd hrep (verifySignature_refuses hlib e he),
                  fun _ _ => settles_of_ok rfl⟩⟩⟩
      | _ => exact fun e he hrep => by cases he; exact hrep.elim
    exact hsettles e h he
  · rintro (h | ⟨document, signature, hdocument, hloads, hkey⟩)
    · exact result_bind_error h
    · unfold checkSigned
      rw [result_bind_ok (x := lift (archive.read signatureName)) hdocument,
        result_bind_ok (x := lift (lib.loads document)) hloads]
      exact (result_bind_ok rfl).trans (result_bind_error hkey)

theorem signed_iff : signatureEntries.filter (· ∈ archive.names) = signatureEntries ↔
    archive.Signed := by
  simp [List.filter_eq_self, Archive.Signed]

theorem not_signed_of_none (h : signatureEntries.filter (· ∈ archive.names) = []) :
    ¬ archive.Signed := by
  intro hsigned
  rw [signed_iff.mpr hsigned] at h
  cases h

theorem endsWell_checkSignature :
    EndsWell Raised.IsReported (checkSignature lib archive trusted manifestBytes) ↔
      (archive.Signed →
        EndsWell Raised.EndsSignature (checkSigned lib archive trusted manifestBytes)) := by
  unfold checkSignature
  dsimp only
  by_cases hnone : signatureEntries.filter (· ∈ archive.names) = []
  · rw [if_pos hnone]
    exact iff_of_true ⟨settles_of_ok rfl, notes_pure⟩ fun h =>
      absurd h (not_signed_of_none hnone)
  · rw [if_neg hnone]
    by_cases hall : signatureEntries.filter (· ∈ archive.names) = signatureEntries
    · rw [if_pos hall, imp_iff_right (signed_iff.mp hall), EndsWell, settles_handle, notes_handle]
      refine and_congr (forall₂_congr fun e _ => ?_) (and_iff_left fun e _ => ?_)
      · cases e with
        | other text => exact iff_of_false (fun h => h _ rfl) (Or.rec id id)
        | typeError text => exact iff_of_false (fun h => h _ rfl) (Or.rec id id)
        | reported error => exact iff_of_true (fun e he => by cases he; trivial) (Or.inr trivial)
        | _ => exact iff_of_true (settles_of_ok rfl) (Or.inl trivial)
      · cases e <;> simp [notes_bind]
    · rw [if_neg hall]
      exact iff_of_true ⟨settles_of_ok rfl, notes_report.bind fun _ => notes_pure⟩ fun h =>
        absurd (signed_iff.mpr h) hall

theorem checkSignature_returns (hlib : lib.Lawful)
    (h : EndsWell Raised.IsReported (checkSignature lib archive trusted manifestBytes)) :
    (∃ valid, (checkSignature lib archive trusted manifestBytes).result = .ok valid) ↔
      ¬ SignatureStops lib archive := by
  have hstops : ∀ e, (checkSignature lib archive trusted manifestBytes).result = .error e ↔
      e.IsReported ∧ archive.Signed ∧
        (checkSigned lib archive trusted manifestBytes).result = .error e := by
    intro e
    by_cases hsigned : archive.Signed
    · have hall := signed_iff.mpr hsigned
      have hnone : ¬ signatureEntries.filter (· ∈ archive.names) = [] :=
        fun hnone => not_signed_of_none hnone hsigned
      have hrun : checkSignature lib archive trusted manifestBytes =
          (checkSigned lib archive trusted manifestBytes).handle fun
            | .keyError text | .valueError text | .decodeError text => do
              report (.signature text)
              return some false
            | e => raise e := by
        unfold checkSignature
        dsimp only
        exact (if_neg hnone).trans (if_pos hall)
      constructor
      · intro he
        refine ⟨h.1 e he, hsigned, ?_⟩
        rw [hrun] at he
        rcases hresult : (checkSigned lib archive trusted manifestBytes).result with e' | valid
        · rw [handle_result_error hresult] at he
          cases e' <;> first | exact he | cases he
        · rw [handle_result_ok hresult] at he
          cases he
      · rintro ⟨hreported, -, he⟩
        rw [hrun, handle_result_error he]
        cases e with
        | reported error => rfl
        | _ => exact hreported.elim
    · refine iff_of_false (fun he => ?_) fun he => hsigned he.2.1
      unfold checkSignature at he
      dsimp only at he
      split at he
      · cases he
      · split at he
        · exact hsigned (signed_iff.mp ‹_›)
        · cases he
  constructor
  · rintro ⟨valid, hvalid⟩ ⟨hsigned, e, hreported, hread⟩
    have := (hstops e).mpr ⟨hreported, hsigned, (checkSigned_stops hlib hreported).mpr hread⟩
    rw [hvalid] at this
    cases this
  · intro hnot
    rcases hresult : (checkSignature lib archive trusted manifestBytes).result with e | valid
    · obtain ⟨hreported, hsigned, he⟩ := (hstops e).mp hresult
      exact absurd ⟨hsigned, e, hreported, (checkSigned_stops hlib hreported).mp he⟩ hnot
    · exact ⟨valid, rfl⟩

theorem checkNames_result :
    (checkNames names).result =
      require (requiredEntries.filter (· ∉ names) = [])
        (.reported (.missingEntries (requiredEntries.filter (· ∉ names)))) := by
  unfold checkNames
  rw [result_bind_ok (result_reportUnless _ _),
    result_bind_ok (forM_returns fun _ _ => result_reportUnless _ _)]
  rfl

theorem endsWell_checkNames :
    EndsWell Raised.IsReported (checkNames names) := by
  refine ⟨fun e he => ?_, notes_checkNames⟩
  rw [checkNames_result] at he
  have hmissing : (Raised.reported
      (.missingEntries (requiredEntries.filter (· ∉ names)))).IsReported := trivial
  exact refuses_require hmissing e he

theorem checkNames_eq_ok {u : Unit} :
    (checkNames names).result = .ok u ↔ ∀ name ∈ requiredEntries, name ∈ names := by
  rw [checkNames_result, require_eq_ok]
  simp [List.filter_eq_nil_iff]

theorem decodeAscii_error :
    (∀ e, decodeAscii payload = .error e → e.IsReported) ↔ payload.all (· < 128) = true := by
  unfold decodeAscii
  by_cases hascii : payload.all (· < 128) = true
  · exact iff_of_true (fun e he => by simp [require, hascii, bind, Except.bind, pure,
      Except.pure] at he) hascii
  · exact iff_of_false (fun h => h (.valueError "ordinal not in range(128)")
      (by simp only [require, if_neg hascii]; rfl)) hascii

theorem endsWell_checkChecksum :
    EndsWell Raised.IsReported (checkChecksum lib manifestBytes checksum) ↔
      checksum.all (· < 128) = true := by
  rw [EndsWell, and_iff_left notes_checkChecksum, ← decodeAscii_error]
  unfold checkChecksum
  rw [settles_bind, settles_lift]
  refine and_iff_left fun text _ => ?_
  rw [settles_bind_ok rfl, settles_bind_ok (result_reportUnless _ _)]
  exact settles_of_ok (result_reportUnless _ _)

theorem checkChecksum_returns (h : checksum.all (· < 128) = true) :
    (checkChecksum lib manifestBytes checksum).result = .ok () := by
  have hdecode : ∃ text, decodeAscii checksum = .ok text :=
    ⟨_, by simp only [decodeAscii, require, if_pos h]; rfl⟩
  obtain ⟨text, htext⟩ := hdecode
  unfold checkChecksum
  rw [result_bind_ok (x := lift (decodeAscii checksum)) htext, result_bind_ok rfl,
    result_bind_ok (result_reportUnless _ _)]
  exact result_reportUnless _ _

theorem endsWell_signed (hlib : lib.Lawful) :
    EndsWell Raised.IsReported (do
      let signatureValid ← checkSignature lib archive trusted manifestBytes
      note (.signatureValid signatureValid)
      checkManifest lib archive manifestBytes signatureValid) ↔
    (archive.Signed → EndsWell Raised.EndsSignature (checkSigned lib archive trusted manifestBytes)) ∧
      (¬ SignatureStops lib archive →
        (∀ e, lib.loads manifestBytes = .error e → ∃ text, e = .decodeError text) ∧
        ∀ manifest, lib.loads manifestBytes = .ok (.obj manifest) →
          ManifestAnswers lib archive manifest) := by
  have hrest : ∀ valid : Option Bool, EndsWell Raised.IsReported
      (note (.signatureValid valid) >>= fun _ => checkManifest lib archive manifestBytes valid) ↔
      (∀ e, lib.loads manifestBytes = .error e → ∃ text, e = .decodeError text) ∧
        ∀ manifest, lib.loads manifestBytes = .ok (.obj manifest) →
          ManifestAnswers lib archive manifest := by
    intro valid
    have hnotes : Notes (Note.KeyIdIn ShownKeyId) (note (.signatureValid valid) >>= fun _ =>
        checkManifest lib archive manifestBytes valid) :=
      (notes_note.mpr fun _ h => by cases h).bind fun _ => notes_checkManifest
    rw [EndsWell, and_iff_left hnotes, settles_bind_ok rfl, settles_checkManifest hlib]
  rw [endsWell_bind, ← endsWell_checkSignature]
  refine and_congr_right fun hends => ?_
  rw [← checkSignature_returns hlib hends]
  constructor
  · rintro h ⟨valid, hvalid⟩
    exact (hrest valid).mp (h valid hvalid)
  · exact fun h valid hvalid => (hrest valid).mpr (h ⟨valid, hvalid⟩)

theorem endsWell_checkPackage (hlib : lib.Lawful) :
    EndsWell Raised.IsReported (checkPackage lib package trusted) ↔
      (∀ e, lib.unzip package = .error e → e.IsReported) ∧
      ∀ archive, lib.unzip package = .ok archive →
        (∀ name ∈ requiredEntries, name ∈ archive.names) →
        ArchiveAnswers lib archive trusted := by
  unfold checkPackage
  rw [endsWell_lift_bind]
  refine and_congr_right fun _ => forall₂_congr fun archive _ => ?_
  rw [endsWell_bind, and_iff_right endsWell_checkNames]
  simp only [checkNames_eq_ok, forall_const]
  refine imp_congr_right fun _ => ?_
  rw [endsWell_lift_bind]
  simp only [endsWell_lift_bind, endsWell_bind (x := checkChecksum lib _ _),
    endsWell_checkChecksum, endsWell_signed hlib]
  constructor
  · rintro ⟨hmanifest, h⟩
    have hafter : ∀ bytes checksum, archive.read manifestName = .ok bytes →
        archive.read checksumName = .ok checksum → checksum.all (· < 128) = true ∧ _ :=
      fun bytes checksum hbytes hchecksum =>
        ⟨((h bytes hbytes).2 checksum hchecksum).1, ((h bytes hbytes).2 checksum hchecksum).2 ()
          (checkChecksum_returns ((h bytes hbytes).2 checksum hchecksum).1)⟩
    exact {
      manifest := hmanifest
      checksum := fun bytes hbytes => (h bytes hbytes).1
      ascii := fun bytes checksum hbytes hchecksum => (hafter bytes checksum hbytes hchecksum).1
      signature := fun bytes checksum hbytes hchecksum hsigned =>
        (endsWell_checkSigned hlib).mp ((hafter bytes checksum hbytes hchecksum).2.1 hsigned)
      text := fun bytes checksum hbytes hchecksum hstops =>
        ((hafter bytes checksum hbytes hchecksum).2.2 hstops).1
      content := fun bytes checksum manifest hbytes hchecksum hstops =>
        ((hafter bytes checksum hbytes hchecksum).2.2 hstops).2 manifest }
  · intro h
    refine ⟨h.manifest, fun bytes hbytes => ⟨h.checksum bytes hbytes, fun checksum hchecksum =>
      ⟨h.ascii bytes checksum hbytes hchecksum, fun _ _ => ⟨fun hsigned => ?_, fun hstops => ?_⟩⟩⟩⟩
    · exact (endsWell_checkSigned hlib).mpr (h.signature bytes checksum hbytes hchecksum hsigned)
    · exact ⟨h.text bytes checksum hbytes hchecksum hstops,
        fun manifest => h.content bytes checksum manifest hbytes hchecksum hstops⟩

def KeyIdOf (lib : ExportLibrary) (package : Bytes) (keyId : Value) : Prop :=
  ∃ archive document signature, lib.unzip package = .ok archive ∧
    archive.read signatureName = .ok document ∧ lib.loads document = .ok (.obj signature) ∧
    keyId = get signature "key_id"

theorem notes_checkPackage :
    Notes (Note.KeyIdIn (KeyIdOf lib package)) (checkPackage lib package trusted) := by
  refine notes_bind.mpr ⟨notes_lift, fun archive harchive => ?_⟩
  have hsigned : ∀ {manifestBytes : Bytes}, Notes (Note.KeyIdIn (KeyIdOf lib package))
      (checkSigned lib archive trusted manifestBytes) := by
    intro manifestBytes
    refine notes_bind.mpr ⟨notes_lift, fun document hdocument => ?_⟩
    refine notes_bind.mpr ⟨notes_lift, fun root hroot => ?_⟩
    cases root with
    | obj signature =>
      refine (notes_note.mpr fun v hv => ?_).bind fun _ => notes_lift.bind fun _ =>
        notes_lift.bind fun _ => notes_lift.bind fun _ => notes_lift.bind fun _ => notes_pure
      cases hv
      exact ⟨archive, document, signature, harchive, hdocument, hroot, rfl⟩
    | _ => exact notes_raise
  have hsignature : ∀ {manifestBytes : Bytes}, Notes (Note.KeyIdIn (KeyIdOf lib package))
      (checkSignature lib archive trusted manifestBytes) := by
    intro manifestBytes
    unfold checkSignature
    dsimp only
    split
    · exact notes_pure
    · split
      · refine notes_handle.mpr ⟨hsigned, fun e _ => ?_⟩
        split <;> simp [notes_bind]
      · exact notes_report.bind fun _ => notes_pure
  exact notes_checkNames.bind fun _ => notes_lift.bind fun _ => notes_lift.bind fun _ =>
    notes_checkChecksum.bind fun _ => hsignature.bind fun _ =>
    (notes_note.mpr fun _ h => by cases h).bind fun _ => notes_checkManifest

theorem keyIdOf_unique {w : Value} (hv : KeyIdOf lib package v) (hw : KeyIdOf lib package w) :
    v = w := by
  obtain ⟨archive, document, signature, harchive, hdocument, hsignature, rfl⟩ := hv
  obtain ⟨archive', document', signature', harchive', hdocument', hsignature', rfl⟩ := hw
  rw [harchive] at harchive'
  cases harchive'
  rw [hdocument] at hdocument'
  cases hdocument'
  rw [hsignature] at hsignature'
  cases hsignature'
  rfl

theorem shownKeyId_eq_ok {v : Option Value} :
    (∃ keyId, shownKeyId v = .ok keyId) ↔ ∀ w ∈ v, ShownKeyId w := by
  cases v with
  | none => exact iff_of_true ⟨none, rfl⟩ (by simp)
  | some w =>
    cases w with
    | null => exact iff_of_true ⟨none, rfl⟩ (by simp [ShownKeyId])
    | str text => exact iff_of_true ⟨some text, rfl⟩ (by simp [ShownKeyId])
    | _ => exact iff_of_false (by simp [shownKeyId]) (by simp [ShownKeyId])

theorem verificationOf_returns {packageSha256 : String} {notes : List Note} {S : Value → Prop}
    (hunique : ∀ v w, S v → S w → v = w) (hnotes : ∀ n ∈ notes, Note.KeyIdIn S n) :
    (∃ v, verificationOf packageSha256 notes = .ok v) ↔
      ∀ n ∈ notes, Note.KeyIdIn ShownKeyId n := by
  have hmem : ∀ v, v ∈ notes.filterMap Note.signingKeyId? ↔ Note.signingKeyId v ∈ notes := by
    intro v
    rw [List.mem_filterMap]
    constructor
    · rintro ⟨n, hn, hv⟩
      cases n <;> cases hv
      exact hn
    · exact fun h => ⟨_, h, rfl⟩
  have hreturns : (∃ v, verificationOf packageSha256 notes = .ok v) ↔
      ∃ keyId, shownKeyId (notes.filterMap Note.signingKeyId?).getLast? = .ok keyId := by
    unfold verificationOf
    constructor
    · rintro ⟨v, hv⟩
      obtain ⟨keyId, hkeyId, -⟩ := bind_eq_ok.mp hv
      exact ⟨keyId, hkeyId⟩
    · rintro ⟨keyId, hkeyId⟩
      exact ⟨_, bind_eq_ok.mpr ⟨keyId, hkeyId, rfl⟩⟩
  rw [hreturns, shownKeyId_eq_ok]
  constructor
  · rintro h n hn v rfl
    obtain ⟨w, hw⟩ : ∃ w, (notes.filterMap Note.signingKeyId?).getLast? = some w :=
      Option.ne_none_iff_exists'.mp fun hnone => by
        rw [List.getLast?_eq_none_iff] at hnone
        have hv := (hmem v).mpr hn
        rw [hnone] at hv
        exact List.not_mem_nil hv
    have hwmem : Note.signingKeyId w ∈ notes := (hmem w).mp (List.mem_of_getLast? hw)
    rw [hunique v w (hnotes _ hn v rfl) (hnotes _ hwmem w rfl)]
    exact h w hw
  · intro h w hw
    exact h _ ((hmem w).mp (List.mem_of_getLast? hw)) w rfl

theorem answers_iff (hlib : lib.Lawful) {file : Option Bytes} :
    (∃ v, verifyExportPackage lib file trusted = .ok v) ↔ Answers lib file trusted := by
  cases file with
  | none => exact iff_of_true ⟨_, rfl⟩ (by simp [Answers])
  | some package =>
    have hanswers : Answers lib (some package) trusted ↔
        EndsWell Raised.IsReported (checkPackage lib package trusted) := by
      rw [endsWell_checkPackage hlib]
      simp [Answers]
    have hnotes : Notes (Note.KeyIdIn (KeyIdOf lib package)) (checkPackage lib package trusted) :=
      notes_checkPackage
    have hunique : ∀ v w, KeyIdOf lib package v → KeyIdOf lib package w → v = w :=
      fun _ _ => keyIdOf_unique
    rw [hanswers, EndsWell, Settles, Notes]
    unfold verifyExportPackage
    dsimp only
    split
    · rename_i u hok
      rw [verificationOf_returns hunique hnotes, hok]
      simp
    · rename_i error herror
      rw [verificationOf_returns hunique, herror]
      · simp [Raised.IsReported, or_imp, forall_and, Note.KeyIdIn]
      · intro n hn
        rcases List.mem_append.mp hn with hn | hn
        · exact hnotes n hn
        · intro v hv
          rw [List.mem_singleton.mp hn] at hv
          cases hv
    · rename_i e hreported herror
      refine iff_of_false (by simp) fun h => ?_
      have he := h.1 e herror
      cases e with
      | reported error => exact hreported error rfl
      | _ => exact he

end Parts

end Vault
