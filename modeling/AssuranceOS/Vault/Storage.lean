/-
Tenant-scoped immutable content-addressed storage (`vault/storage.py`).

`files` are the objects on disk.  A file is addressed by its tenant and the digest in
its name; a key is the text of the path below the tenant's directory.  The hash is the
parameter `sha256`, which gives the hexadecimal digest of its input.

`putBytes_stored` says what storing leaves on disk, and `delete_eq_ok` what deleting does.
-/
import AssuranceOS.Adjudication.Repository
import AssuranceOS.Vault.Definitions

namespace Vault

open Checked Adjudication

def isAlphanumeric (c : Char) : Bool :=
  ('A' ≤ c && c ≤ 'Z') || ('a' ≤ c && c ≤ 'z') || c.isDigit

/-- `_SEGMENT`. -/
def isSegment (s : String) : Bool :=
  match s.toList with
  | [] => false
  | c :: cs => isAlphanumeric c && cs.length ≤ 127 &&
      cs.all fun c => isAlphanumeric c || c = '_' || c = '.' || c = '-'

def isHex (c : Char) : Bool :=
  c.isDigit || ('a' ≤ c && c ≤ 'f')

def IsDigest (digest : String) : Prop :=
  digest.length = 64 ∧ ∀ c ∈ digest.toList, isHex c

instance (digest : String) : Decidable (IsDigest digest) :=
  decidable_of_iff (digest.length = 64 ∧ digest.toList.all isHex)
    (by rw [List.all_eq_true, IsDigest])

/-- `objects/`. -/
def objectsRoot : List Char := ['o', 'b', 'j', 'e', 'c', 't', 's', '/']

def keyOf (digest : String) : String :=
  let cs := digest.toList
  String.ofList (objectsRoot ++ cs.take 2 ++ '/' :: (cs.drop 2).take 2 ++ '/' :: cs)

/-- `_OBJECT_KEY`: the digest that the key captures. -/
def objectKey? (key : String) : Option String :=
  let cs := key.toList
  let digest := String.ofList (cs.drop 14)
  if cs.take 8 = objectsRoot ∧ ((cs.drop 8).take 2).all isHex ∧
      cs[10]? = some '/' ∧ ((cs.drop 11).take 2).all isHex ∧ cs[13]? = some '/' ∧
      IsDigest digest then
    some digest
  else none

structure StoredObject where
  provider : String
  key : String
  uri : String
  sha256 : String
  sizeBytes : Nat
  created : Bool
  modifiedAt : DateTime

/-- An object on disk. -/
structure StoredFile where
  tenantId : String
  digest : String
  bytes : Bytes
  modifiedAt : DateTime

def StoredFile.path (f : StoredFile) : String × String := (f.tenantId, f.digest)

namespace LocalObjectStore

def providerName : String := "local"

def keyForDigest (digest : String) : Except VaultError String := do
  require (IsDigest digest) .invalidDigest
  return keyOf digest

/-- `_tenant_root`. -/
def tenantRoot (tenantId : String) : Except VaultError String := do
  require (isSegment tenantId) .unsafeTenantSegment
  return tenantId

/-- `_path`. -/
def path (tenantId key : String) : Except VaultError (String × String) := do
  let digest ← ofOption .invalidKey (objectKey? key)
  let root ← tenantRoot tenantId
  return (root, digest)

def uri (tenantId key : String) : String :=
  "vault+file://" ++ tenantId ++ "/" ++ key

variable (sha256 : Bytes → String) (files : List StoredFile)

def statOf (tenantId key : String) (f : StoredFile) : StoredObject where
  provider := providerName
  key := key
  uri := uri tenantId key
  sha256 := sha256 f.bytes
  sizeBytes := f.bytes.length
  created := false
  modifiedAt := f.modifiedAt

def stat (tenantId key : String) : Except VaultError StoredObject := do
  let path ← path tenantId key
  let f ← ofOption (.objectNotFound tenantId key) (Table.get? StoredFile.path path files)
  return statOf sha256 tenantId key f

def verify (tenantId key expectedSha256 : String) (expectedSize : Nat) :
    Except VaultError StoredObject := do
  let stored ← stat sha256 files tenantId key
  require (stored.sha256 = expectedSha256 ∧ stored.sizeBytes = expectedSize)
    .immutableObjectConflict
  return stored

/-- `open(...).read()`. -/
def read (tenantId key : String) : Except VaultError Bytes := do
  let path ← path tenantId key
  let f ← ofOption (.objectNotFound tenantId key) (Table.get? StoredFile.path path files)
  return f.bytes

/-- `now` is the time at which the file system creates the object. -/
def putBytes (now : DateTime) (tenantId : String) (payload : Bytes) (expectedSha256 : String) :
    Except VaultError (StoredObject × List StoredFile) := do
  require (sha256 payload = expectedSha256) (.objectIntegrity (sha256 payload) expectedSha256)
  let key ← keyForDigest expectedSha256
  let target ← path tenantId key
  match Table.get? StoredFile.path target files with
  | some _ =>
    let existing ← verify sha256 files tenantId key expectedSha256 payload.length
    return ({ existing with created := false }, files)
  | none =>
    let stored : StoredObject :=
      { provider := providerName, key := key, uri := uri tenantId key, sha256 := expectedSha256
        sizeBytes := payload.length, created := true, modifiedAt := now }
    return (stored, files ++ [⟨target.1, target.2, payload, now⟩])

def delete (tenantId key : String) : Except VaultError (Bool × List StoredFile) := do
  let path ← path tenantId key
  return ((Table.get? StoredFile.path path files).isSome,
    files.filter fun f => f.path ≠ path)

/-- The objects of the tenant, in the order of their keys. -/
def iterObjects (tenantId : String) : Except VaultError (List StoredObject) := do
  let root ← tenantRoot tenantId
  return (orderBy (fun f => keyOf f.digest) (files.filter fun f => f.tenantId = root)).map
    fun f => statOf sha256 tenantId (keyOf f.digest) f

end LocalObjectStore

/-! ### What the store does -/

variable {digest captured : String}

theorem objectKey?_keyOf (h : IsDigest digest) :
    objectKey? (keyOf digest) = some digest := by
  obtain ⟨hlength, hhex⟩ := h
  have htext := String.ofList_toList (s := digest)
  generalize hcs : digest.toList = cs at hhex htext
  have hsize : cs.length = 64 := by rw [← hcs, String.length_toList, hlength]
  obtain ⟨a, b, c, d, rest, rfl⟩ : ∃ a b c d rest, cs = a :: b :: c :: d :: rest := by
    rcases cs with _ | ⟨a, _ | ⟨b, _ | ⟨c, _ | ⟨d, rest⟩⟩⟩⟩
    all_goals simp only [List.length_nil, List.length_cons] at hsize
    · omega
    · omega
    · omega
    · omega
    · exact ⟨a, b, c, d, rest, rfl⟩
  have hkey : (keyOf digest).toList = 'o' :: 'b' :: 'j' :: 'e' :: 'c' :: 't' :: 's' :: '/' ::
      a :: b :: '/' :: c :: d :: '/' :: a :: b :: c :: d :: rest := by
    simp [keyOf, objectsRoot, hcs]
  simp only [List.mem_cons, forall_eq_or_imp] at hhex
  obtain ⟨ha, hb, hc, hd, hrest⟩ := hhex
  have hvalid : IsDigest digest := by
    refine ⟨hlength, ?_⟩
    rw [hcs]
    simpa [ha, hb, hc, hd] using hrest
  simp [objectKey?, objectsRoot, hkey, htext, hvalid, ha, hb, hc, hd]

theorem objectKey?_eq_some {key : String} (h : objectKey? key = some captured) :
    captured = String.ofList (key.toList.drop 14) ∧ IsDigest captured := by
  unfold objectKey? at h
  dsimp only at h
  split at h
  · rename_i hshape
    rw [← Option.some.inj h]
    exact ⟨rfl, hshape.2.2.2.2.2⟩
  · exact absurd h (by simp)

theorem objectKey?_keyOf_eq_some (h : objectKey? (keyOf digest) = some captured) :
    captured = digest := by
  obtain ⟨hdrop, hlength, -⟩ := objectKey?_eq_some h
  rw [hdrop, String.length_ofList, List.length_drop] at hlength
  have htext := String.ofList_toList (s := digest)
  unfold keyOf at hlength hdrop
  generalize hcs : digest.toList = cs at hlength hdrop htext
  rcases cs with _ | ⟨a, _ | ⟨b, _ | ⟨c, _ | ⟨d, rest⟩⟩⟩⟩
  · simp [objectsRoot] at hlength
  · simp [objectsRoot] at hlength
  · simp [objectsRoot] at hlength
  · simp [objectsRoot] at hlength
  · rw [hdrop, ← htext]
    simp [objectsRoot]

section Store

variable {sha256 : Bytes → String} {files files' : List StoredFile} {tenantId key digest : String}
  {f : StoredFile} {p : String × String}

def fileAt (files : List StoredFile) (p : String × String) : Option StoredFile :=
  Table.get? StoredFile.path p files

theorem path_eq_ok (h : LocalObjectStore.path tenantId key = .ok p) :
    isSegment tenantId ∧ ∃ digest, objectKey? key = some digest ∧ p = (tenantId, digest) := by
  unfold LocalObjectStore.path LocalObjectStore.tenantRoot at h
  rw [ofOption_bind_eq_ok] at h
  obtain ⟨digest, hdigest, h⟩ := h
  rw [bind_eq_ok] at h
  obtain ⟨root, hroot, h⟩ := h
  rw [require_bind_eq_ok] at hroot
  obtain ⟨hsegment, hroot⟩ := hroot
  cases hroot
  cases h
  exact ⟨hsegment, digest, hdigest, rfl⟩

theorem path_keyOf (hsegment : isSegment tenantId) (hdigest : IsDigest digest) :
    LocalObjectStore.path tenantId (keyOf digest) = .ok (tenantId, digest) := by
  rw [LocalObjectStore.path, objectKey?_keyOf hdigest]
  simp [LocalObjectStore.tenantRoot, ofOption, require, hsegment, bind, Except.bind, pure,
    Except.pure]

theorem read_keyOf (hsegment : isSegment tenantId) (hdigest : IsDigest digest)
    (hf : fileAt files (tenantId, digest) = some f) :
    LocalObjectStore.read files tenantId (keyOf digest) = .ok f.bytes := by
  have hget : Table.get? StoredFile.path (tenantId, digest) files = some f := hf
  simp [LocalObjectStore.read, path_keyOf hsegment hdigest, hget, ofOption, bind, Except.bind,
    pure, Except.pure]

variable {stored : StoredObject}

theorem verify_eq_ok {expected : String} {size : Nat}
    (h : LocalObjectStore.verify sha256 files tenantId key expected size = .ok stored) :
    ∃ p f, LocalObjectStore.path tenantId key = .ok p ∧ fileAt files p = some f ∧
      stored = LocalObjectStore.statOf sha256 tenantId key f ∧
      sha256 f.bytes = expected ∧ f.bytes.length = size := by
  unfold LocalObjectStore.verify LocalObjectStore.stat at h
  rw [bind_eq_ok] at h
  obtain ⟨found, hfound, h⟩ := h
  rw [bind_eq_ok] at hfound
  obtain ⟨p, hp, hfound⟩ := hfound
  rw [ofOption_bind_eq_ok] at hfound
  obtain ⟨f, hf, hfound⟩ := hfound
  cases hfound
  rw [require_bind_eq_ok] at h
  obtain ⟨⟨hsha, hsize⟩, h⟩ := h
  cases h
  exact ⟨p, f, hp, hf, rfl, hsha, hsize⟩

/-- What a successful `put_bytes` leaves: the object is there with the digest and the size
of the payload, and every other object is as it was. -/
structure Stored (sha256 : Bytes → String) (files files' : List StoredFile) (tenantId : String)
    (payload : Bytes) (digest : String) (stored : StoredObject) : Prop where
  digest_eq : digest = sha256 payload
  isDigest : IsDigest digest
  segment : isSegment tenantId
  key : stored.key = keyOf digest
  size : stored.sizeBytes = payload.length
  held : ∃ f, fileAt files' (tenantId, digest) = some f ∧ sha256 f.bytes = digest ∧
    f.bytes.length = payload.length
  kept : ∀ p f, fileAt files p = some f → fileAt files' p = some f
  origin : ∀ p f, fileAt files' p = some f → fileAt files p = some f ∨
    p = (tenantId, digest) ∧ f.bytes = payload

theorem putBytes_stored {now : DateTime} {payload : Bytes}
    (h : LocalObjectStore.putBytes sha256 files now tenantId payload digest =
      .ok (stored, files')) :
    Stored sha256 files files' tenantId payload digest stored := by
  unfold LocalObjectStore.putBytes LocalObjectStore.keyForDigest at h
  rw [require_bind_eq_ok] at h
  obtain ⟨hsha, h⟩ := h
  rw [bind_eq_ok] at h
  obtain ⟨key, hkey, h⟩ := h
  rw [require_bind_eq_ok] at hkey
  obtain ⟨hdigest, hkey⟩ := hkey
  cases hkey
  rw [bind_eq_ok] at h
  obtain ⟨p, hp, h⟩ := h
  obtain ⟨hsegment, captured, hcaptured, rfl⟩ := path_eq_ok hp
  rw [objectKey?_keyOf hdigest] at hcaptured
  cases hcaptured
  split at h
  · rw [bind_eq_ok] at h
    obtain ⟨existing, hverify, h⟩ := h
    cases h
    obtain ⟨q, f, hq, hf, rfl, hbytes, hsize⟩ := verify_eq_ok hverify
    rw [hp] at hq
    cases hq
    exact ⟨hsha.symm, hdigest, hsegment, rfl, hsize, ⟨f, hf, hbytes, hsize⟩, fun _ _ h => h,
      fun _ _ h => Or.inl h⟩
  · rename_i hnone
    cases h
    have hat : ∀ q, fileAt (files ++ [⟨tenantId, digest, payload, now⟩]) q =
        (fileAt files q).or (if q = (tenantId, digest) then
          some ⟨tenantId, digest, payload, now⟩ else none) := by
      intro q
      unfold fileAt Table.get?
      rw [List.find?_append]
      by_cases hq : q = (tenantId, digest)
      · simp [StoredFile.path, hq]
      · simp [StoredFile.path, hq, Ne.symm hq]
    have hfree : fileAt files (tenantId, digest) = none := hnone
    have hnew : fileAt (files ++ [⟨tenantId, digest, payload, now⟩]) (tenantId, digest) =
        some ⟨tenantId, digest, payload, now⟩ := by
      rw [hat, hfree, if_pos rfl]
      rfl
    refine ⟨hsha.symm, hdigest, hsegment, rfl, rfl, ⟨_, hnew, hsha, rfl⟩, ?_, ?_⟩
    · intro q f hf
      rw [hat, hf]
      rfl
    · intro q f hf
      rw [hat] at hf
      rcases hold : fileAt files q with _ | g
      · rw [hold] at hf
        by_cases hq : q = (tenantId, digest)
        · rw [if_pos hq] at hf
          cases hf
          exact Or.inr ⟨hq, rfl⟩
        · rw [if_neg hq] at hf
          cases hf
      · rw [hold] at hf
        exact Or.inl hf

theorem putBytes_new {now : DateTime} {payload : Bytes} (hsegment : isSegment tenantId)
    (hdigest : IsDigest (sha256 payload)) (hfree : fileAt files (tenantId, sha256 payload) = none) :
    LocalObjectStore.putBytes sha256 files now tenantId payload (sha256 payload) = .ok
      ({ LocalObjectStore.statOf sha256 tenantId (keyOf (sha256 payload))
           ⟨tenantId, sha256 payload, payload, now⟩ with created := true },
        files ++ [⟨tenantId, sha256 payload, payload, now⟩]) := by
  have hget : Table.get? StoredFile.path (tenantId, sha256 payload) files = none := hfree
  simp [LocalObjectStore.putBytes, LocalObjectStore.keyForDigest, path_keyOf hsegment hdigest,
    hget, hdigest, LocalObjectStore.statOf, require, bind, Except.bind, pure, Except.pure]

theorem putBytes_held {now : DateTime} {payload : Bytes} (hsegment : isSegment tenantId)
    (hdigest : IsDigest (sha256 payload))
    (hf : fileAt files (tenantId, sha256 payload) = some f) (hbytes : f.bytes = payload) :
    LocalObjectStore.putBytes sha256 files now tenantId payload (sha256 payload) = .ok
      (LocalObjectStore.statOf sha256 tenantId (keyOf (sha256 payload)) f, files) := by
  have hget : Table.get? StoredFile.path (tenantId, sha256 payload) files = some f := hf
  simp [LocalObjectStore.putBytes, LocalObjectStore.keyForDigest, LocalObjectStore.verify,
    LocalObjectStore.stat, path_keyOf hsegment hdigest, hget, hdigest, hbytes,
    LocalObjectStore.statOf, ofOption, require, bind, Except.bind, pure, Except.pure]

theorem fileAt_filter (p q : String × String) :
    fileAt (files.filter fun f => f.path ≠ p) q = if q = p then none else fileAt files q := by
  unfold fileAt Table.get?
  rw [List.find?_filter]
  split
  · rename_i hq
    subst hq
    rw [List.find?_eq_none]
    simp
  · rename_i hq
    congr 1
    funext f
    by_cases hf : f.path = q
    · simp [hf, hq]
    · simp [hf]

theorem delete_eq_ok {found : Bool}
    (h : LocalObjectStore.delete files tenantId key = .ok (found, files')) :
    ∃ digest, objectKey? key = some digest ∧
      ∀ q, fileAt files' q = if q = (tenantId, digest) then none else fileAt files q := by
  unfold LocalObjectStore.delete at h
  rw [bind_eq_ok] at h
  obtain ⟨p, hp, h⟩ := h
  obtain ⟨-, digest, hdigest, rfl⟩ := path_eq_ok hp
  cases h
  exact ⟨digest, hdigest, fileAt_filter _⟩

theorem iterObjects_key {objects : List StoredObject}
    (h : LocalObjectStore.iterObjects sha256 files tenantId = .ok objects) {object : StoredObject}
    (hobject : object ∈ objects) : ∃ digest, object.key = keyOf digest := by
  unfold LocalObjectStore.iterObjects at h
  rw [bind_eq_ok] at h
  obtain ⟨root, -, h⟩ := h
  cases h
  obtain ⟨f, -, rfl⟩ := List.mem_map.mp hobject
  exact ⟨f.digest, rfl⟩

end Store

end Vault
