/-
Verifying an export package with pinned keys.

The signature counts only where it is there: a package with both signature entries is
valid only when the signature verifies under the trusted key that it names, and a package
without them is valid without any signature (`valid_signed_iff`).  A trusted file that is
empty trusts the key in the package.
-/
import AssuranceOS.Vault.Acceptance

namespace Vault

open Checked JsonText Report Adjudication

/-- The package holds a manifest and a signature document. -/
def Holds (lib : ExportLibrary) (package manifestBytes : Bytes) (signature : Object) : Prop :=
  ∃ archive document, lib.unzip package = .ok archive ∧
    archive.read manifestName = .ok manifestBytes ∧
    archive.read signatureName = .ok document ∧ lib.loads document = .ok (.obj signature)

/-- The package carries a signature over its manifest that verifies under one of the keys,
which are PEM files by their key ids. -/
def SignedUnder (lib : ExportLibrary) (package : Bytes) (keys : List (String × Bytes)) : Prop :=
  ∃ manifestBytes signature, Holds lib package manifestBytes signature ∧
    ∃ k ∈ keys, SignedBy lib.toCryptography manifestBytes signature k.2

/-- The package has the entries of a signature. -/
def CarriesSignature (lib : ExportLibrary) (package : Bytes) : Prop :=
  ∃ archive, lib.unzip package = .ok archive ∧
    ∀ name ∈ signatureEntries, name ∈ archive.names

/-- The trusted file under the document's key id is not empty, so the verifier uses it; in
place of an empty one it would use the key in the package. -/
def UsesTrustedFile (lib : ExportLibrary) (package : Bytes) (keys : List (String × Bytes)) :
    Prop :=
  ∃ manifestBytes signature pem, Holds lib package manifestBytes signature ∧
    trustedKey keys (get signature "key_id") = .ok (some pem) ∧ pem ≠ []

/-- `verify_signature` accepts the document under a trusted file. -/
def AcceptedUnder (lib : ExportLibrary) (package : Bytes) (keys : List (String × Bytes)) : Prop :=
  ∃ manifestBytes signature, Holds lib package manifestBytes signature ∧
    ∃ k ∈ keys, verifySignature lib.toCryptography manifestBytes signature k.2 = .ok ()

variable {lib : ExportLibrary}

theorem mem_names_of_read {archive : Archive} {name : String} {payload : Bytes}
    (h : archive.read name = .ok payload) : name ∈ archive.names := by
  unfold Archive.read at h
  split at h
  case h_1 hlookup =>
    have hmem := List.mem_reverse.mp (mem_of_lookup hlookup)
    exact List.mem_map_of_mem (f := Prod.fst) hmem
  case h_2 => cases h

variable {pem : Bytes}

theorem mem_of_trustedKey {keys : List (String × Bytes)} {keyId : Value}
    (h : trustedKey keys keyId = .ok (some pem)) : ∃ k ∈ keys, k.2 = pem := by
  unfold trustedKey at h
  obtain ⟨-, -, hlookup⟩ := bind_eq_ok.mp h
  cases keyId with
  | str id => exact ⟨(id, pem), mem_of_lookup (by simpa [pure, Except.pure] using hlookup), rfl⟩
  | _ => simp [pure, Except.pure] at hlookup

theorem keyInUse_of_ne_nil (h : pem ≠ []) (embeddedKey : Bytes) :
    keyInUse (some pem) embeddedKey = pem := by
  cases pem with
  | nil => exact absurd rfl h
  | cons b bs => rfl

theorem Holds.unique {package manifestBytes manifestBytes' : Bytes} {signature signature' : Object}
    (h : Holds lib package manifestBytes signature)
    (h' : Holds lib package manifestBytes' signature') :
    manifestBytes = manifestBytes' ∧ signature = signature' := by
  obtain ⟨archive, document, harchive, hmanifest, hdocument, hroot⟩ := h
  obtain ⟨archive', document', harchive', hmanifest', hdocument', hroot'⟩ := h'
  obtain rfl : archive = archive' := by simpa [harchive] using harchive'
  obtain rfl : document = document' := by simpa [hdocument] using hdocument'
  exact ⟨by simpa [hmanifest] using hmanifest', by simpa [hroot] using hroot'⟩

/-- The signature of a valid package has been verified under a trusted key exactly where the
package has its entries and the trusted file that they name is in use, or where another trusted
file would have been accepted. -/
theorem valid_signed_iff {package : Bytes} (keys : List (String × Bytes)) {v : ExportVerification}
    (h : verifyExportPackage lib (some package) (some keys) = .ok v) (hvalid : v.valid) :
    SignedUnder lib package keys ↔ CarriesSignature lib package ∧
      (UsesTrustedFile lib package keys ∨ AcceptedUnder lib package keys) := by
  have hquiet := quiet_of_valid h hvalid
  unfold checkPackage at hquiet
  simp only [quiet_bind, quiet_lift] at hquiet
  obtain ⟨archive, harchive, -, -, manifestBytes, hmanifest, -, -, -, -, valid, hsignature, -⟩ :=
    hquiet
  have hsignature := quiet_checkSignature.mp hsignature
  constructor
  · rintro ⟨manifestBytes', signature, hholds, k, hk, hby⟩
    refine ⟨?_, .inr ⟨manifestBytes', signature, hholds, k, hk, verifySignature_eq_ok.mpr hby⟩⟩
    obtain ⟨archive', document, harchive', -, hdocument, -⟩ := hholds
    obtain rfl : archive = archive' := by simpa [harchive] using harchive'
    rcases hsignature with ⟨hnone, -⟩ | ⟨hall, -⟩
    · exact absurd (mem_names_of_read hdocument) (hnone _ List.mem_cons_self)
    · exact ⟨archive, harchive, hall⟩
  · rintro ⟨⟨archive', harchive', hall⟩, huse⟩
    obtain rfl : archive = archive' := by simpa [harchive] using harchive'
    rcases hsignature with ⟨hnone, -⟩ | ⟨-, hsigned⟩
    · exact absurd (hall _ List.mem_cons_self) (hnone _ List.mem_cons_self)
    · obtain ⟨document, signature, embeddedKey, key, hdocument, hroot, -, hkey, -, hby, -⟩ :=
        quiet_checkSigned.mp hsigned
      have hholds : Holds lib package manifestBytes signature :=
        ⟨archive, document, harchive, hmanifest, hdocument, hroot⟩
      rcases huse with ⟨bytes, signature', pem, hholds', hpem, hne⟩ |
        ⟨bytes, signature', hholds', k, hk, haccepted⟩
      · obtain ⟨rfl, rfl⟩ := hholds.unique hholds'
        obtain rfl : key = some pem := Except.ok.inj (hkey.symm.trans hpem)
        rw [keyInUse_of_ne_nil hne] at hby
        obtain ⟨k, hk, rfl⟩ := mem_of_trustedKey hpem
        exact ⟨manifestBytes, signature, hholds, k, hk, hby⟩
      · exact ⟨bytes, signature', hholds', k, hk, verifySignature_eq_ok.mp haccepted⟩

/-! ### A package without a signature, and a signed one -/

/-- A number in two bytes, the lower one first. -/
def twoBytes (n : ℕ) : Bytes := [.ofNat n, .ofNat (n / 256)]

/-- What the headers of an entry say: its CRC-32, its size (it is not compressed) and the length
of its name. -/
def entryHeader (crc : Bytes) (name : String) (payload : Bytes) : Bytes :=
  [20, 0, 0, 0, 0, 0, 0, 0, 33, 0] ++ crc ++ twoBytes payload.length ++ [0, 0] ++
    twoBytes payload.length ++ [0, 0] ++ twoBytes name.length ++ [0, 0]

def localEntry (e : Bytes × String × Bytes) : Bytes :=
  [80, 75, 3, 4] ++ entryHeader e.1 e.2.1 e.2.2 ++ utf8 e.2.1.toList ++ e.2.2

def directoryEntry (entries : List (Bytes × String × Bytes)) (e : (Bytes × String × Bytes) × ℕ) :
    Bytes :=
  [80, 75, 1, 2, 20, 3] ++ entryHeader e.1.1 e.1.2.1 e.1.2.2 ++ [0, 0, 0, 0, 0, 0, 0, 0, 128, 1] ++
    twoBytes ((entries.take e.2).flatMap localEntry).length ++ [0, 0] ++ utf8 e.1.2.1.toList

/-- A ZIP file of entries that are not compressed: the CRC-32, the name and the bytes of each. -/
def storedZip (entries : List (Bytes × String × Bytes)) : Bytes :=
  let files := entries.flatMap localEntry
  let directory := entries.zipIdx.flatMap (directoryEntry entries)
  files ++ directory ++ [80, 75, 5, 6, 0, 0, 0, 0] ++ twoBytes entries.length ++
    twoBytes entries.length ++ twoBytes directory.length ++ [0, 0] ++ twoBytes files.length ++
    [0, 0, 0, 0]

def bareManifest : Value :=
  .obj [("schema", .str schemaV1), ("tenant_id", .str "t")]

def bareManifestSha256 : String :=
  "f6c16b99859256fcd66538e48563f088c4572ce956e3e0148dc3412ecf4a249c"

def barePackage : Bytes :=
  storedZip [([61, 92, 171, 76], manifestName, canonicalJson bareManifest),
    ([184, 146, 72, 49], checksumName, checksumLine bareManifestSha256)]

def samplePem : Bytes :=
  utf8 ("-----BEGIN PUBLIC KEY-----\n" ++
    "MCowBQYDK2VwAyEA11qYAYKxCrfVS/7TyWQHOg7hcvPapiMlrwIaaPcHURo=\n" ++
    "-----END PUBLIC KEY-----\n").toList

def sampleRaw : Bytes :=
  [215, 90, 152, 1, 130, 177, 10, 183, 213, 75, 254, 211, 201, 100, 7, 58, 14, 225, 114, 243, 218,
    166, 35, 37, 175, 2, 26, 104, 247, 7, 81, 26]

theorem samplePem_ne_nil : samplePem ≠ [] := by
  decide +kernel

def bareArchive : Archive :=
  [(manifestName, .ok (canonicalJson bareManifest)),
    (checksumName, .ok (checksumLine bareManifestSha256))]

def unzipOnly (package : Bytes) (archive : Archive) (bytes : Bytes) : Except Raised Archive :=
  if bytes = package then .ok archive else .error (.reported (.unreadable "not a zip file"))

theorem unzipOnly_self (package : Bytes) (archive : Archive) :
    unzipOnly package archive package = .ok archive :=
  if_pos rfl

def sampleLibrary : ExportLibrary where
  sha256 bytes :=
    if bytes = canonicalJson bareManifest then bareManifestSha256
    else "8eaa34cb6712356364cb16b63559844b8e3f5a73a969f597602b4443166e47ef"
  loadPemPublicKey pem :=
    if pem = samplePem then .ok (.ed25519 sampleRaw) else .error (.valueError "no PEM file")
  b64encode _ := ""
  b64decode _ := none
  ed25519Verify _ _ _ := false
  unzip := unzipOnly barePackage bareArchive
  zip _ := barePackage
  loads bytes :=
    if bytes = canonicalJson bareManifest then .ok bareManifest
    else .error (.decodeError "Expecting value")
  fromisoformat _ := .error (.valueError "Invalid isoformat string")
  real _ := .nan

def sampleKeys : List (String × Bytes) := [("release-key-1", samplePem)]

theorem barePackage_valid :
    (verifyExportPackage sampleLibrary (some barePackage) (some sampleKeys)).toOption.map
      ExportVerification.valid = some true := by
  decide +kernel

theorem exists_valid_barePackage : ∃ v, verifyExportPackage sampleLibrary (some barePackage)
    (some sampleKeys) = .ok v ∧ v.valid := by
  obtain ⟨v, hv, hvalid⟩ := Option.map_eq_some_iff.mp barePackage_valid
  refine ⟨v, ?_, hvalid⟩
  cases hrun : verifyExportPackage sampleLibrary (some barePackage) (some sampleKeys) with
  | ok w => simpa [hrun, Except.toOption] using hv
  | error e => simp [hrun, Except.toOption] at hv

theorem unzip_barePackage : sampleLibrary.unzip barePackage = .ok bareArchive := by
  have hunzip : sampleLibrary.unzip = unzipOnly barePackage bareArchive := rfl
  rw [hunzip, unzipOnly_self]

/-- A package whose signature has been stripped is valid for a verifier that pins a key. -/
theorem stripped_package_valid : ¬ ∀ (lib : ExportLibrary) (package : Bytes)
    (keys : List (String × Bytes)) (v : ExportVerification), keys ≠ [] →
    verifyExportPackage lib (some package) (some keys) = .ok v → v.valid →
    SignedUnder lib package keys := by
  intro h
  obtain ⟨v, hv, hvalid⟩ := exists_valid_barePackage
  obtain ⟨-, -, ⟨archive, document, harchive, -, hdocument, -⟩, -⟩ :=
    h sampleLibrary barePackage sampleKeys v (by simp [sampleKeys]) hv hvalid
  obtain rfl : bareArchive = archive := Except.ok.inj (unzip_barePackage.symm.trans harchive)
  exact absurd (mem_names_of_read hdocument) (by decide +kernel)

def signedManifest : Value :=
  .obj [("schema", .str schemaV2), ("tenant_id", .str "t")]

def signedManifestSha256 : String :=
  "67ac9ed2f73d3d03a685be75c7721f8dc02644217413f3f572085cede414a9f7"

/-- The Ed25519 signature of the manifest under the sample key. -/
def sampleSignature : Bytes :=
  [64, 105, 155, 122, 78, 13, 189, 112, 152, 29, 17, 31, 211, 23, 13, 138, 63, 239, 27, 95, 203, 189,
    172, 46, 219, 28, 178, 208, 98, 217, 3, 81, 4, 177, 4, 217, 5, 33, 188, 104, 35, 238, 27, 156,
    47, 195, 27, 10, 134, 193, 235, 222, 70, 239, 213, 131, 253, 95, 220, 147, 185, 46, 162, 3]

def sampleBase64 : String :=
  "QGmbek4NvXCYHREf0xcNij/vG1/Lvawu2xyy0GLZA1EEsQTZBSG8aCPuG5wvwxsKhsHr3kbv1YP9X9yTuS6iAw=="

def sampleFingerprint : String :=
  "21fe31dfa154a261626bf854046fd2271b7bed4b6abe45aa58877ef47f9721b9"

def sampleDocument : Object :=
  [("algorithm", .str "Ed25519"), ("key_id", .str "release-key-1"),
    ("public_key_sha256", .str sampleFingerprint), ("signature_base64", .str sampleBase64)]

def signedEntries : List (Bytes × String × Bytes) :=
  [([148, 218, 253, 239], manifestName, canonicalJson signedManifest),
    ([5, 109, 18, 182], checksumName, checksumLine signedManifestSha256),
    ([7, 127, 58, 245], signatureName, canonicalJson (.obj sampleDocument)),
    ([203, 175, 234, 149], publicKeyName, samplePem)]

def signedPackage : Bytes := storedZip signedEntries

def signedArchive : Archive := signedEntries.map fun e => (e.2.1, .ok e.2.2)

def signedLoads (bytes : Bytes) : Except Raised Value :=
  if bytes = canonicalJson signedManifest then .ok signedManifest
  else if bytes = canonicalJson (.obj sampleDocument) then .ok (.obj sampleDocument)
  else .error (.decodeError "Expecting value")

def signedLibrary : ExportLibrary :=
  { sampleLibrary with
    sha256 := fun bytes =>
      if bytes = canonicalJson signedManifest then signedManifestSha256
      else if bytes = sampleRaw then sampleFingerprint
      else "908f121cf2c704da48a899b1ccd0b093c54a0ad33cfe6e7165c64e09be8076e8"
    b64encode := fun bytes => if bytes = sampleSignature then sampleBase64 else ""
    b64decode := fun text => if text = sampleBase64 then some sampleSignature else none
    ed25519Verify := fun raw signature payload =>
      raw = sampleRaw ∧ signature = sampleSignature ∧ payload = canonicalJson signedManifest
    unzip := unzipOnly signedPackage signedArchive
    loads := signedLoads }

theorem signedPackage_valid :
    (verifyExportPackage signedLibrary (some signedPackage) (some sampleKeys)).toOption.map
      ExportVerification.valid = some true := by
  decide +kernel

theorem unzip_signedPackage : signedLibrary.unzip signedPackage = .ok signedArchive := by
  have hunzip : signedLibrary.unzip = unzipOnly signedPackage signedArchive := rfl
  rw [hunzip, unzipOnly_self]

theorem loads_sampleDocument :
    signedLibrary.loads (canonicalJson (.obj sampleDocument)) = .ok (.obj sampleDocument) := by
  have hother : canonicalJson (.obj sampleDocument) ≠ canonicalJson signedManifest := by
    decide +kernel
  have hloads : signedLibrary.loads = signedLoads := rfl
  rw [hloads, signedLoads, if_neg hother, if_pos rfl]

theorem signedPackage_holds : Holds signedLibrary signedPackage (canonicalJson signedManifest)
    sampleDocument :=
  ⟨signedArchive, canonicalJson (.obj sampleDocument), unzip_signedPackage, by rfl, by rfl,
    loads_sampleDocument⟩

/-- The package signed under the pinned key is accepted, and its signature is there. -/
theorem valid_signed_sample : ∃ v : ExportVerification,
    verifyExportPackage signedLibrary (some signedPackage) (some sampleKeys) = .ok v ∧ v.valid ∧
      SignedUnder signedLibrary signedPackage sampleKeys := by
  obtain ⟨v, hv, hvalid⟩ := Option.map_eq_some_iff.mp signedPackage_valid
  have hrun := toOption_eq_some.mp hv
  have hnamed : trustedKey sampleKeys (get sampleDocument "key_id") = .ok (some samplePem) := by
    rfl
  refine ⟨v, hrun, hvalid, (valid_signed_iff sampleKeys hrun hvalid).mpr ⟨?_, .inl ?_⟩⟩
  · exact ⟨signedArchive, unzip_signedPackage, by decide +kernel⟩
  · exact ⟨_, _, samplePem, signedPackage_holds, hnamed, samplePem_ne_nil⟩

end Vault
