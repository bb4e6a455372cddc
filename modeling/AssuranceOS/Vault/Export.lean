/-
Signatures of export manifests (`vault/signing.py`).

Hashes, PEM files, Base64 and Ed25519 are the parameters of `Cryptography`.

Export packages (`vault/export.py`).

A package is a ZIP file with a manifest, its checksum, possibly a signature, and the
objects.  The verifier is a `Report`: it makes a note for every error it finds and goes on,
until an exception ends it.

What is below it is the parameter `ExportLibrary`: ZIP files, JSON read from bytes, times
read from text, the values of floats, and cryptography.
-/
import AssuranceOS.Lib.JsonAccess
import AssuranceOS.Lib.Report
import AssuranceOS.Vault.Storage

namespace Vault

open Checked JsonText Report Adjudication

/-- A public key that has been loaded: one for Ed25519 by its raw bytes, or another one. -/
inductive PublicKey where
  | ed25519 (raw : Bytes)
  | other
  deriving DecidableEq

structure Cryptography where
  /-- the hexadecimal digest -/
  sha256 : Bytes → String
  loadPemPublicKey : Bytes → Except Raised PublicKey
  b64encode : Bytes → String
  /-- Base64 with its alphabet checked -/
  b64decode : String → Option Bytes
  /-- `ed25519Verify raw signature payload` -/
  ed25519Verify : Bytes → Bytes → Bytes → Bool

structure ManifestSigner where
  keyId : String
  algorithm : String
  sign : Bytes → Bytes
  publicKeyPem : Bytes

variable (c : Cryptography)

def loadEd25519 (publicKeyPem : Bytes) : Except Raised Bytes := do
  match ← c.loadPemPublicKey publicKeyPem with
  | .ed25519 raw => return raw
  | .other => throw (.valueError "manifest public key must be Ed25519")

def publicKeyFingerprint (publicKeyPem : Bytes) : Except Raised String := do
  let raw ← loadEd25519 c publicKeyPem
  return c.sha256 raw

def signatureDocument (signer : ManifestSigner) (payload : Bytes) : Except Raised Value := do
  let fingerprint ← publicKeyFingerprint c signer.publicKeyPem
  return .obj
    [("algorithm", .str signer.algorithm), ("key_id", .str signer.keyId),
      ("public_key_sha256", .str fingerprint),
      ("signature_base64", .str (c.b64encode (signer.sign payload)))]

def isStr (v : Value) (s : String) : Bool :=
  match v with
  | .str t => t = s
  | _ => false

@[simp] theorem isStr_iff {v : Value} {s : String} : isStr v s ↔ v = .str s := by
  cases v <;> simp [isStr]

def rawSignature (signature : Object) : Option Bytes :=
  match get signature "signature_base64" with
  | .str text => c.b64decode text
  | _ => none

def verifySignature (payload : Bytes) (signature : Object) (publicKeyPem : Bytes) :
    Except Raised Unit := do
  require (isStr (get signature "algorithm") "Ed25519")
    (.valueError "unsupported manifest signature algorithm")
  let fingerprint ← publicKeyFingerprint c publicKeyPem
  require (isStr (get signature "public_key_sha256") fingerprint)
    (.valueError "manifest public key fingerprint mismatch")
  let raw ← ofOption (.valueError "manifest signature is not valid base64")
    (rawSignature c signature)
  let key ← loadEd25519 c publicKeyPem
  require (c.ed25519Verify key raw payload)
    (.valueError "manifest signature verification failed")

/-- The document holds a signature of the payload that verifies under the key. -/
structure SignedBy (payload : Bytes) (signature : Object) (publicKeyPem : Bytes) : Prop where
  algorithm : get signature "algorithm" = .str "Ed25519"
  key : ∃ key, c.loadPemPublicKey publicKeyPem = .ok (.ed25519 key) ∧
    get signature "public_key_sha256" = .str (c.sha256 key) ∧
    ∃ raw, rawSignature c signature = some raw ∧ c.ed25519Verify key raw payload

variable {c} {payload publicKeyPem : Bytes} {signature : Object}

theorem loadEd25519_eq_ok {key : Bytes} : loadEd25519 c publicKeyPem = .ok key ↔
    c.loadPemPublicKey publicKeyPem = .ok (.ed25519 key) := by
  unfold loadEd25519
  rw [bind_eq_ok]
  constructor
  · rintro ⟨loaded, hloaded, h⟩
    cases loaded with
    | ed25519 raw =>
      cases h
      exact hloaded
    | other => cases h
  · intro h
    exact ⟨.ed25519 key, h, rfl⟩

theorem publicKeyFingerprint_eq_ok {fingerprint : String} :
    publicKeyFingerprint c publicKeyPem = .ok fingerprint ↔
      ∃ key, c.loadPemPublicKey publicKeyPem = .ok (.ed25519 key) ∧
        c.sha256 key = fingerprint := by
  unfold publicKeyFingerprint
  simp [bind_eq_ok, loadEd25519_eq_ok, pure, Except.pure]

theorem verifySignature_eq_ok {u : Unit} :
    verifySignature c payload signature publicKeyPem = .ok u ↔
      SignedBy c payload signature publicKeyPem := by
  unfold verifySignature
  rw [require_bind_eq_ok]
  simp only [bind_eq_ok (x := publicKeyFingerprint c publicKeyPem), require_bind_eq_ok,
    ofOption_bind_eq_ok, bind_eq_ok (x := loadEd25519 c publicKeyPem),
    publicKeyFingerprint_eq_ok, loadEd25519_eq_ok, require_eq_ok, isStr_iff]
  constructor
  · rintro ⟨halgorithm, _, ⟨key, hkey, rfl⟩, hfingerprint, raw, hraw, key', hkey', hverify⟩
    obtain rfl : key = key' := by simpa [hkey] using hkey'
    exact ⟨halgorithm, key, hkey, hfingerprint, raw, hraw, hverify⟩
  · rintro ⟨halgorithm, key, hkey, hfingerprint, raw, hraw, hverify⟩
    exact ⟨halgorithm, _, ⟨key, hkey, rfl⟩, hfingerprint, raw, hraw, key, hkey, hverify⟩

/-- The entries of a ZIP file: their names, and what reading them gives. -/
abbrev Archive := List (String × Except Raised Bytes)

/-- `namelist`. -/
def Archive.names (archive : Archive) : List String :=
  archive.map Prod.fst

def Archive.read (archive : Archive) (name : String) : Except Raised Bytes :=
  match archive.reverse.lookup name with
  | some payload => payload
  | none => .error (.keyError "There is no item with this name in the archive")

/-- What the verifier calls outside the repository. -/
structure ExportLibrary extends Cryptography where
  unzip : Bytes → Except Raised Archive
  zip : List (String × Bytes) → Bytes
  /-- `json.loads` of bytes -/
  loads : Bytes → Except Raised Value
  /-- `datetime.fromisoformat`, in UTC -/
  fromisoformat : String → Except Raised DateTime
  real : FloatLiteral → FloatValue

def manifestName : String := "manifest.json"

def checksumName : String := "manifest.sha256"

def signatureName : String := "manifest.signature.json"

def publicKeyName : String := "manifest.public.pem"

def objectName (digest : String) : String :=
  String.ofList (objectsRoot ++ digest.toList)

/-- `_REQUIRED_ENTRIES`, in order. -/
def requiredEntries : List String := [manifestName, checksumName]

/-- `_SIGNATURE_ENTRIES`. -/
def signatureEntries : List String := [signatureName, publicKeyName]

def schemaV1 : String := "assurance.evidence_export.v1"

def schemaV2 : String := "assurance.evidence_export.v2"

variable (lib : ExportLibrary)

def checksumLine (manifestSha256 : String) : Bytes :=
  utf8 (manifestSha256.toList ++ ' ' :: ' ' :: manifestName.toList ++ ['\n'])

/-- The entries of a signed package that an unsigned one does not have. -/
def signed (signer : Option ManifestSigner) (manifestBytes : Bytes) :
    Except Raised (List (String × Bytes)) := do
  match signer with
  | none => return []
  | some signer =>
    let document ← signatureDocument lib.toCryptography signer manifestBytes
    return [(signatureName, canonicalJson document), (publicKeyName, signer.publicKeyPem)]

def writeExportPackage (manifest : Value) (objects : List (String × Bytes))
    (signer : Option ManifestSigner) : Except Raised (Bytes × String × String) := do
  let manifestBytes := canonicalJson manifest
  let manifestSha256 := lib.sha256 manifestBytes
  let signed ← signed lib signer manifestBytes
  let package := lib.zip
    ((manifestName, manifestBytes) :: (checksumName, checksumLine manifestSha256) :: signed ++
      (orderBy Prod.fst objects).map fun o => (objectName o.1, o.2))
  return (package, lib.sha256 package, manifestSha256)

/-- An error, or the value of a variable that the result shows. -/
inductive Note where
  | error (e : ExportError)
  | manifestSha256 (value : Option String)
  | signingKeyId (value : Value)
  | signatureValid (value : Option Bool)
  | counts (evidence objects : Nat)

abbrev Verifying (α : Type) := Report Note Raised α

def report (e : ExportError) : Verifying Unit :=
  note (.error e)

def reportUnless (c : Prop) [Decidable c] (e : ExportError) : Verifying Unit :=
  noteUnless c (.error e)

def hashable : Value → Except Raised Unit
  | .arr _ => .error (.typeError "unhashable type: 'list'")
  | .obj _ => .error (.typeError "unhashable type: 'dict'")
  | _ => .ok ()

/-- `event[key]`. -/
def item (event : Object) (key : String) : Except Raised Value :=
  ofOption (.keyError key) (event.lookup key)

/-- `_parse_datetime`. -/
def parseDatetime : Value → Except Raised DateTime
  | .str text => lib.fromisoformat (String.ofList
      (text.toList.flatMap fun c => if c = 'Z' then ['+', '0', '0', ':', '0', '0'] else [c]))
  | _ => .error (.valueError "custody timestamp is not a string")

def calculatedHash (tenantId evidenceId : String) (expected : Nat) (previous : Value)
    (event : Object) : Except Raised String := do
  let action ← item event "action"
  let actorType ← item event "actor_type"
  let actorId ← item event "actor_id"
  let occurredAt ← item event "occurred_at"
  let occurredAt ← parseDatetime lib occurredAt
  return custodyEventHash lib.sha256 tenantId evidenceId expected action actorType actorId
    occurredAt ((event.lookup "details").getD (.obj [])) previous

/-- One round of the loop of `_verify_custody`, with the previous hash before and after it. -/
def verifyCustodyEvent (tenantId evidenceId : String) (previous : Value) :
    Value × Nat → Verifying Value
  | (.obj event, expected) =>
    if equal lib.real (get event "sequence_no") (.int expected) then
      match calculatedHash lib tenantId evidenceId expected previous event with
      | .ok calculated => do
        reportUnless (equal lib.real (get event "previous_event_hash") previous)
          (.custodyPrevious evidenceId expected)
        reportUnless (equal lib.real (get event "event_hash") (.str calculated))
          (.custodyHash evidenceId expected)
        return get event "event_hash"
      | .error (.keyError text) | .error (.typeError text) | .error (.valueError text)
      | .error (.decodeError text) => do
        report (.custodyMalformed evidenceId text)
        return previous
      | .error e => raise e
    else do
      report (.custodySequence evidenceId expected)
      return previous
  | _ => do
    report (.custodyNotObject evidenceId)
    return previous

/-- `_verify_custody`. -/
def verifyCustody (tenantId evidenceId : String) (events declaredHead : Value) :
    Verifying Unit :=
  match events with
  | .arr events => do
    let head ← (events.zipIdx 1).foldlM (verifyCustodyEvent lib tenantId evidenceId) .null
    reportUnless (equal lib.real declaredHead head) (.custodyHead evidenceId)
  | _ => report (.custodyNotList evidenceId)

def isUnsafe (name : String) : Bool :=
  name.toList.head? = some '/' || (name.toList.splitOn '/').contains ['.', '.']

def checkNames (names : List String) : Verifying Unit := do
  reportUnless names.Nodup .duplicateNames
  forM names fun name => reportUnless (¬ isUnsafe name) (.unsafePath name)
  let missing := requiredEntries.filter (· ∉ names)
  lift (require (missing = []) (.reported (.missingEntries missing)))

/-- `payload.decode("ascii")`. -/
def decodeAscii (payload : Bytes) : Except Raised (List Char) := do
  require (payload.all (· < 128)) (.valueError "ordinal not in range(128)")
  return payload.map fun b => Char.ofNat b.toNat

/-- `text.split()`. -/
def words (text : List Char) : List String :=
  ((text.splitOnP PyString.isSpace).filter (· ≠ [])).map String.ofList

def checkChecksum (manifestBytes checksum : Bytes) : Verifying Unit := do
  let text ← lift (decodeAscii checksum)
  let parts := words text
  note (.manifestSha256 parts.head?)
  reportUnless (parts.length = 2 ∧ parts[1]? = some manifestName) .checksumFormat
  reportUnless (parts.head? = some (lib.sha256 manifestBytes)) .checksumMismatch

/-- `trusted.get(key_id)`. -/
def trustedKey (trusted : List (String × Bytes)) (keyId : Value) :
    Except Raised (Option Bytes) := do
  hashable keyId
  return match keyId with
    | .str keyId => trusted.lookup keyId
    | _ => none

/-- `trusted_key or embedded_key`. -/
def keyInUse (trustedKey : Option Bytes) (embeddedKey : Bytes) : Bytes :=
  match trustedKey with
  | none | some [] => embeddedKey
  | some key => key

/-- The `try` block of the signature. -/
def checkSigned (archive : Archive) (trusted : Option (List (String × Bytes)))
    (manifestBytes : Bytes) : Verifying (Option Bool) := do
  let document ← lift (archive.read signatureName)
  match ← lift (lib.loads document) with
  | .obj signature =>
    let keyId := get signature "key_id"
    note (.signingKeyId keyId)
    let embeddedKey ← lift (archive.read publicKeyName)
    let key ← lift (trustedKey (trusted.getD []) keyId)
    lift (require (trusted = none ∨ key ≠ none)
      (.valueError "manifest signing key is not trusted"))
    lift (verifySignature lib.toCryptography manifestBytes signature
      (keyInUse key embeddedKey))
    return some true
  | _ => raise (.valueError "signature document is not an object")

def checkSignature (archive : Archive) (trusted : Option (List (String × Bytes)))
    (manifestBytes : Bytes) : Verifying (Option Bool) :=
  let present := signatureEntries.filter (· ∈ archive.names)
  if present = [] then return none
  else if present = signatureEntries then
    (checkSigned lib archive trusted manifestBytes).handle fun
      | .keyError text | .valueError text | .decodeError text => do
        report (.signature text)
        return some false
      | e => raise e
  else do
    report .incompleteSignature
    return some false

def readManifest (manifestBytes : Bytes) : Except Raised Object :=
  match lib.loads manifestBytes with
  | .ok (.obj manifest) => .ok manifest
  | .ok _ => .error (.reported .manifestNotObject)
  | .error (.decodeError _) => .error (.reported .manifestNotJson)
  | .error e => .error e

def checkSchema (manifest : Object) (signatureValid : Option Bool) : Verifying Unit := do
  let schema := get manifest "schema"
  lift (hashable schema)
  reportUnless (isStr schema schemaV1 ∨ isStr schema schemaV2) .unsupportedSchema
  reportUnless (isStr schema schemaV2 → signatureValid = some true) .signatureRequired

def readTenant (manifest : Object) : Verifying String :=
  match get manifest "tenant_id" with
  | .str tenantId => do
    reportUnless (tenantId ≠ "") .tenantMissing
    return tenantId
  | _ => do
    report .tenantMissing
    return ""

def readList (manifest : Object) (key : String) : Verifying (List Value) :=
  match (manifest.lookup key).getD (.arr []) with
  | .arr items => return items
  | _ => do
    report (.notAList key)
    return []

/-- `object_sizes`. -/
abbrev ObjectSizes := List (String × ℤ)

def size? : Value → Option ℤ
  | .int n => if 0 ≤ n then some n else none
  | .bool b => some b.toNat
  | _ => none

def digest? : Value → Option String
  | .str digest => if IsDigest digest then some digest else none
  | _ => none

def checkPayload (archive : Archive) (digest : String) (size : ℤ) : Verifying Unit :=
  match archive.read (objectName digest) with
  | .ok payload => do
    reportUnless (lib.sha256 payload = digest) (.objectChecksum digest)
    reportUnless (payload.length = size) (.objectSize digest)
  | .error (.keyError _) => report (.missingObject digest)
  | .error e => raise e

def checkObject (archive : Archive) (sizes : ObjectSizes) : Value → Verifying ObjectSizes
  | .obj item =>
    match digest? (get item "sha256"), size? (get item "size_bytes") with
    | none, _ => do
      report .invalidDigest
      return sizes
    | some digest, size =>
      if digest ∈ sizes.map Prod.fst then do
        report (.duplicateObject digest)
        return sizes
      else
        match size with
        | none => do
          report (.invalidSize digest)
          return sizes
        | some size => do
          checkPayload lib archive digest size
          return sizes ++ [(digest, size)]
  | _ => do
    report .objectNotObject
    return sizes

/-- Nothing is in the package that the manifest does not declare. -/
def checkEntries (names : List String) (sizes : ObjectSizes) : Verifying Unit :=
  let allowed := requiredEntries ++ signatureEntries ++ sizes.map fun o => objectName o.1
  let unexpected := orderBy id (names.filter (· ∉ allowed)).dedup
  reportUnless (unexpected = []) (.undeclaredEntries unexpected)

def checkContent (sizes : ObjectSizes) (evidenceId : String) (item : Object) :
    Verifying Unit := do
  let digest := get item "content_sha256"
  lift (hashable digest)
  match sizes.find? fun o => isStr digest o.1 with
  | none => report (.undeclaredObject evidenceId)
  | some o =>
    reportUnless (equal lib.real (get item "size_bytes") (.int o.2)) (.evidenceSize evidenceId)

def checkEvidence (tenantId : String) (sizes : ObjectSizes) (ids : List String) :
    Value → Verifying (List String)
  | .obj item =>
    match get item "evidence_id" with
    | .str evidenceId =>
      if evidenceId = "" then do
        report .evidenceWithoutId
        return ids
      else do
        reportUnless (evidenceId ∉ ids) (.duplicateEvidence evidenceId)
        checkContent lib sizes evidenceId item
        verifyCustody lib tenantId evidenceId (get item "custody") (get item "custody_head")
        return ids ++ [evidenceId]
    | _ => do
      report .evidenceWithoutId
      return ids
  | _ => do
    report .evidenceNotObject
    return ids

/-- `value in evidence_ids`. -/
def isMember (ids : List String) : Value → Bool
  | .str id => ids.contains id
  | _ => false

def checkRequested (manifest : Object) (ids : List String) : Verifying Unit :=
  match (manifest.lookup "requested_evidence_ids").getD (.arr []) with
  | .arr requested => do
    forM requested fun v => lift (hashable v)
    reportUnless (∀ v ∈ requested, isMember ids v) .requestedMissing
  | _ => report .requestedMissing

def checkEnd (ids : List String) (id : Value) (absent : ExportError) : Verifying Unit := do
  lift (hashable id)
  reportUnless (isMember ids id) absent

def checkEdge (ids : List String) : Value → Verifying Unit
  | .obj edge => do
    checkEnd ids (get edge "source_evidence_id") .absentSource
    checkEnd ids (get edge "derived_evidence_id") .absentDerived
  | _ => report .edgeNotObject

def checkManifest (archive : Archive) (manifestBytes : Bytes) (signatureValid : Option Bool) :
    Verifying Unit := do
  let manifest ← lift (readManifest lib manifestBytes)
  checkSchema manifest signatureValid
  let tenantId ← readTenant manifest
  let evidence ← readList manifest "evidence"
  let objects ← readList manifest "objects"
  let lineage ← readList manifest "lineage"
  note (.counts evidence.length objects.length)
  let sizes ← objects.foldlM (checkObject lib archive) []
  checkEntries archive.names sizes
  let ids ← evidence.foldlM (checkEvidence lib tenantId sizes) []
  checkRequested manifest ids
  forM lineage (checkEdge ids)

def checkPackage (package : Bytes) (trusted : Option (List (String × Bytes))) :
    Verifying Unit := do
  let archive ← lift (lib.unzip package)
  checkNames archive.names
  let manifestBytes ← lift (archive.read manifestName)
  let checksum ← lift (archive.read checksumName)
  checkChecksum lib manifestBytes checksum
  let signatureValid ← checkSignature lib archive trusted manifestBytes
  note (.signatureValid signatureValid)
  checkManifest lib archive manifestBytes signatureValid

structure ExportVerification where
  valid : Bool
  packageSha256 : String
  manifestSha256 : Option String
  evidenceCount : Nat
  objectCount : Nat
  signatureValid : Option Bool
  signingKeyId : Option String
  errors : List ExportError

namespace Note

def error? : Note → Option ExportError
  | error e => some e
  | _ => none

def manifestSha256? : Note → Option (Option String)
  | manifestSha256 value => some value
  | _ => none

def signingKeyId? : Note → Option Value
  | signingKeyId value => some value
  | _ => none

def signatureValid? : Note → Option (Option Bool)
  | signatureValid value => some value
  | _ => none

def counts? : Note → Option (Nat × Nat)
  | counts evidence objects => some (evidence, objects)
  | _ => none

end Note

def shownKeyId : Option Value → Except Raised (Option String)
  | none | some .null => .ok none
  | some (.str keyId) => .ok (some keyId)
  | some _ => .error (.other "validation error")

def verificationOf (packageSha256 : String) (notes : List Note) :
    Except Raised ExportVerification := do
  let errors := notes.filterMap Note.error?
  let counts := (notes.filterMap Note.counts?).getLast?.getD (0, 0)
  let keyId ← shownKeyId (notes.filterMap Note.signingKeyId?).getLast?
  return {
    valid := errors.isEmpty
    packageSha256 := packageSha256
    manifestSha256 := (notes.filterMap Note.manifestSha256?).getLast?.join
    evidenceCount := counts.1
    objectCount := counts.2
    signatureValid := (notes.filterMap Note.signatureValid?).getLast?.join
    signingKeyId := keyId
    errors := errors }

/-- `verify_export_package`; `file` is what is at the path, if there is a file. -/
def verifyExportPackage (file : Option Bytes)
    (trusted : Option (List (String × Bytes)) := none) : Except Raised ExportVerification :=
  match file with
  | none => verificationOf "" [.error .noFile]
  | some package =>
    let verification := checkPackage lib package trusted
    match verification.result with
    | .ok () => verificationOf (lib.sha256 package) verification.notes
    | .error (.reported e) =>
      verificationOf (lib.sha256 package) (verification.notes ++ [.error e])
    | .error e => .error e

end Vault
