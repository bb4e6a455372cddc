/-
Workload identities (`governance/identity.py`): the credential that the control plane signs for one
invocation, and its verification.

What pydantic and the cryptography library do is taken from outside: reading a credential from its
text, loading a key, SHA-256 and the check of a signature.  `verify_eq_ok` says what a credential
that is verified has passed.
-/
import AssuranceOS.Governance.Gateway
import AssuranceOS.Lib.Civil

namespace Governance

open JsonText Checked Civil

def dayLength : ℤ := 86400000000

def isShown (clock : ℤ) : Bool :=
  0 ≤ clock ∧ clock < 3652059 * dayLength

/-- A `datetime`: what the clock of its zone shows, in microseconds since the beginning of the
year 1, and the offset of the zone, if it has one. -/
structure Datetime where
  clock : ℤ
  offset : Option ℤ
  clock_shown : isShown clock = true
  offset_range : ∀ o ∈ offset, -dayLength < o ∧ o < dayLength

namespace Datetime

def instant (t : Datetime) : Option Timestamp :=
  t.offset.map fun o => t.clock - o

/-- `_utc`. -/
def utc (t : Datetime) (fieldName : String) : Except VerificationError Timestamp := do
  let instant ← ofOption (.raised (fieldName ++ " must include a timezone")) t.instant
  require (isShown instant = true) (.raised "date value out of range")
  return instant

def fractionText (microseconds : ℕ) : List Char :=
  if microseconds = 0 then [] else '.' :: padded 6 microseconds

def minuteText (microseconds : ℕ) : List Char :=
  padded 2 (microseconds / 3600000000) ++ ':' :: padded 2 (microseconds / 60000000 % 60)

def secondText (microseconds : ℕ) : List Char :=
  ':' :: padded 2 (microseconds / 1000000 % 60) ++ fractionText (microseconds % 1000000)

def offsetText (offset : ℤ) : List Char :=
  let n := offset.natAbs
  (if offset < 0 then '-' else '+') ::
    minuteText n ++ if n % 60000000 = 0 then [] else secondText n

def isoformat (t : Datetime) : String :=
  let time := (t.clock % dayLength).toNat
  String.ofList (dateText ['-'] (t.clock / dayLength + 1) ++ 'T' :: minuteText time ++
    secondText time ++ (t.offset.map offsetText).getD [])

end Datetime

def sextet (c : Char) : Option ℕ :=
  if 'A' ≤ c ∧ c ≤ 'Z' then some (c.toNat - 65)
  else if 'a' ≤ c ∧ c ≤ 'z' then some (c.toNat - 71)
  else if '0' ≤ c ∧ c ≤ '9' then some (c.toNat + 4)
  else if c = '+' then some 62
  else if c = '/' then some 63
  else none

def quantum (bytes : ℕ) (a b c d : ℕ) : List UInt8 :=
  let n := ((a * 64 + b) * 64 + c) * 64 + d
  [UInt8.ofNat (n / 65536), UInt8.ofNat (n / 256), UInt8.ofNat n].take bytes

/-- `base64.b64decode(text, validate=True)`: four characters at a time, the last of them padded. -/
def b64decode : List Char → Option (List UInt8)
  | [] => some []
  | [a, b, '=', '='] => do return quantum 1 (← sextet a) (← sextet b) 0 0
  | [a, b, c, '='] => do return quantum 2 (← sextet a) (← sextet b) (← sextet c) 0
  | a :: b :: c :: d :: rest => do
    let bytes := quantum 3 (← sextet a) (← sextet b) (← sextet c) (← sextet d)
    return bytes ++ (← b64decode rest)
  | _ => none

def texts (items : List String) : Value := .arr (items.map .str)

def textOrNull : Option String → Value
  | none => .null
  | some s => .str s

/-- `model_dump(mode="json")`. -/
def AgentIdentity.modelDump (identity : AgentIdentity) : Object :=
  [("identity_id", .str identity.identityId),
    ("workload_uri", .str identity.workloadUri),
    ("tenant_id", .str identity.tenantId),
    ("agent_role", .str identity.agentRole),
    ("agent_version", .str identity.agentVersion),
    ("release_id", textOrNull identity.releaseId),
    ("engagement_id", .str identity.engagementId),
    ("task_id", .str identity.taskId),
    ("attempt", .int identity.attempt),
    ("lease_owner", textOrNull identity.leaseOwner),
    ("granted_tools", texts identity.grantedTools),
    ("granted_evidence_scopes", texts identity.grantedEvidenceScopes),
    ("forbidden_actions", texts identity.forbiddenActions),
    ("independence_subject", textOrNull identity.independenceSubject),
    ("independence_constraints", texts identity.independenceConstraints),
    ("human_gate", textOrNull identity.humanGate),
    ("model_policy", .str identity.modelPolicy)]

/-- `SignedAgentIdentity`; the schema and the algorithm are constants. -/
structure SignedAgentIdentity where
  keyId : String
  publicKeySha256 : String
  issuedAt : Datetime
  expiresAt : Datetime
  nonce : String
  identity : AgentIdentity
  signatureBase64 : String

def SignedAgentIdentity.signingDocument (signed : SignedAgentIdentity) : Object :=
  [("schema", .str "assurance.signed_agent_identity.v1"),
    ("algorithm", .str "Ed25519"),
    ("key_id", .str signed.keyId),
    ("public_key_sha256", .str signed.publicKeySha256),
    ("issued_at", .str signed.issuedAt.isoformat),
    ("expires_at", .str signed.expiresAt.isoformat),
    ("nonce", .str signed.nonce),
    ("identity", .obj signed.identity.modelDump)]

/-- What is handed to `verify`: a credential, or the JSON text of one. -/
inductive Credential where
  | signed (document : SignedAgentIdentity)
  | json (text : String)

/-- What is outside the code; `K` are the Ed25519 keys. -/
structure IdentityLibrary (K : Type) where
  /-- `model_validate_json`, or the text of the exception -/
  readJson : String → Except String SignedAgentIdentity
  /-- `load_pem_public_key`; `none` is a key of another algorithm -/
  loadPublicKey : String → Except String (Option K)
  publicBytes : K → List UInt8
  /-- in hexadecimal digits -/
  sha256 : List UInt8 → String
  /-- whether the signature of the text is one of the key -/
  verifies : K → List UInt8 → List Char → Bool

/-- Accepts a credential or refuses it. -/
structure AgentIdentityVerifier where
  trustedPublicKeys : List (String × String)
  maximumTtl : Timestamp
  clockSkew : Timestamp
  /-- `revocations.is_revoked` -/
  isRevoked : String → Except String Bool
  trusts_some : trustedPublicKeys ≠ []
  maximumTtl_pos : 0 < maximumTtl

namespace AgentIdentityVerifier

/-- What a credential is bound to, and whether the envelope agrees. -/
def bindings (identity : AgentIdentity) (envelope : ExecutionEnvelope) : List (String × Bool) :=
  [("tenant", identity.tenantId = envelope.tenantId),
    ("engagement", identity.engagementId = envelope.engagementId),
    ("task", identity.taskId = envelope.taskId),
    ("agent role", identity.agentRole = envelope.agentRole),
    ("agent version", identity.agentVersion = envelope.agentVersion),
    ("attempt", identity.attempt = envelope.attemptCount)]

/-- `_assert_bound`. -/
def assertBound (identity : AgentIdentity) (envelope : ExecutionEnvelope) :
    Except VerificationError Unit :=
  let mismatches := ((bindings identity envelope).filter fun b => !b.2).map Prod.fst
  require (mismatches = []) (.refused ("agent identity is not bound to this execution envelope: " ++
    ", ".intercalate (mismatches.insertionSort (· ≤ ·))))

section Verify

variable {K : Type} (lib : IdentityLibrary K) (v : AgentIdentityVerifier)

def read : Credential → Except VerificationError SignedAgentIdentity
  | .signed document => .ok document
  | .json text => (lib.readJson text).mapError .raised

def checkWindow (signed : SignedAgentIdentity) (now : Timestamp) :
    Except VerificationError Unit := do
  let issuedAt ← signed.issuedAt.utc "issued_at"
  let expiresAt ← signed.expiresAt.utc "expires_at"
  require (issuedAt < expiresAt) (.refused "agent identity has an invalid validity window")
  require (expiresAt - issuedAt ≤ v.maximumTtl) (.refused "agent identity exceeds the maximum TTL")
  require (isShown (now + v.clockSkew) = true) (.raised "date value out of range")
  require (issuedAt ≤ now + v.clockSkew) (.refused "agent identity is not valid yet")
  require (isShown (now - v.clockSkew) = true) (.raised "date value out of range")
  require (now - v.clockSkew ≤ expiresAt) (.refused "agent identity has expired")

def checkSignature (signed : SignedAgentIdentity) : Except VerificationError Unit := do
  let publicKeyPem ← ofOption (.refused "agent-identity signing key is not trusted")
    (v.trustedPublicKeys.lookup signed.keyId)
  let loaded ← (lib.loadPublicKey publicKeyPem).mapError .raised
  let key ← ofOption (.refused "agent-identity trust key must be Ed25519") loaded
  require (signed.publicKeySha256 = lib.sha256 (lib.publicBytes key))
    (.refused "agent-identity public-key fingerprint does not match")
  let signature ← ofOption (.refused "agent-identity signature is not valid base64")
    (b64decode signed.signatureBase64.toList)
  require (lib.verifies key signature (dumps (.obj signed.signingDocument)) = true)
    (.refused "agent-identity signature verification failed")

/-- `verify`, with an envelope. -/
def verify (credential : Credential) (envelope : ExecutionEnvelope) (now : Timestamp) :
    Except VerificationError AgentIdentity := do
  let signed ← read lib credential
  v.checkWindow signed now
  v.checkSignature lib signed
  let revoked ← (v.isRevoked signed.identity.identityId).mapError .raised
  require (revoked = false) (.refused "agent identity has been revoked")
  assertBound signed.identity envelope
  return signed.identity

end Verify

section Verified

variable {K : Type} {lib : IdentityLibrary K} {v : AgentIdentityVerifier}
  {signed : SignedAgentIdentity} {now : Timestamp}

/-- The instant is within the time of the credential, up to the skew, and the credential does not
live too long. -/
structure Current (v : AgentIdentityVerifier) (signed : SignedAgentIdentity) (now : Timestamp)
    (issuedAt expiresAt : Timestamp) : Prop where
  issued : signed.issuedAt.instant = some issuedAt
  expires : signed.expiresAt.instant = some expiresAt
  ordered : issuedAt < expiresAt
  short : expiresAt - issuedAt ≤ v.maximumTtl
  begun : issuedAt ≤ now + v.clockSkew
  unexpired : now - v.clockSkew ≤ expiresAt

/-- The signature of the credential is one of a trusted key, the one that it names. -/
structure Signed (lib : IdentityLibrary K) (v : AgentIdentityVerifier)
    (signed : SignedAgentIdentity) (key : K) (signature : List UInt8) : Prop where
  trusted : ∃ pem, v.trustedPublicKeys.lookup signed.keyId = some pem ∧
    lib.loadPublicKey pem = .ok (some key)
  fingerprint : signed.publicKeySha256 = lib.sha256 (lib.publicBytes key)
  decoded : b64decode signed.signatureBase64.toList = some signature
  verifies : lib.verifies key signature (dumps (.obj signed.signingDocument)) = true

/-- The credential is bound to the envelope. -/
structure Bound (identity : AgentIdentity) (envelope : ExecutionEnvelope) : Prop where
  tenant : identity.tenantId = envelope.tenantId
  engagement : identity.engagementId = envelope.engagementId
  task : identity.taskId = envelope.taskId
  role : identity.agentRole = envelope.agentRole
  version : identity.agentVersion = envelope.agentVersion
  attempt : identity.attempt = envelope.attemptCount

theorem utc_eq_ok {t : Datetime} {fieldName : String} {instant : Timestamp}
    (h : t.utc fieldName = .ok instant) : t.instant = some instant := by
  unfold Datetime.utc at h
  obtain ⟨found, hfound, h⟩ := ofOption_bind_eq_ok.mp h
  obtain ⟨-, h⟩ := require_bind_eq_ok.mp h
  cases h
  exact hfound

theorem current_of_checkWindow (h : v.checkWindow signed now = .ok ()) :
    ∃ issuedAt expiresAt, Current v signed now issuedAt expiresAt := by
  unfold checkWindow at h
  obtain ⟨issuedAt, hissued, h⟩ := bind_eq_ok.mp h
  obtain ⟨expiresAt, hexpires, h⟩ := bind_eq_ok.mp h
  obtain ⟨hordered, h⟩ := require_bind_eq_ok.mp h
  obtain ⟨hshort, h⟩ := require_bind_eq_ok.mp h
  obtain ⟨-, h⟩ := require_bind_eq_ok.mp h
  obtain ⟨hbegun, h⟩ := require_bind_eq_ok.mp h
  obtain ⟨-, h⟩ := require_bind_eq_ok.mp h
  exact ⟨issuedAt, expiresAt, utc_eq_ok hissued, utc_eq_ok hexpires, hordered, hshort, hbegun,
    require_eq_ok.mp h⟩

theorem signed_of_checkSignature (h : v.checkSignature lib signed = .ok ()) :
    ∃ key signature, Signed lib v signed key signature := by
  unfold checkSignature at h
  obtain ⟨pem, hpem, h⟩ := ofOption_bind_eq_ok.mp h
  obtain ⟨loaded, hloaded, h⟩ := bind_eq_ok.mp h
  obtain ⟨key, hkey, h⟩ := ofOption_bind_eq_ok.mp h
  obtain ⟨hfingerprint, h⟩ := require_bind_eq_ok.mp h
  obtain ⟨signature, hsignature, h⟩ := ofOption_bind_eq_ok.mp h
  refine ⟨key, signature, ⟨pem, hpem, ?_⟩, hfingerprint, hsignature, require_eq_ok.mp h⟩
  rw [← hkey]
  exact mapError_eq_ok.mp hloaded

variable {identity : AgentIdentity} {envelope : ExecutionEnvelope}

theorem bound_of_assertBound (h : assertBound identity envelope = .ok ()) :
    Bound identity envelope := by
  unfold assertBound at h
  have hnone := require_eq_ok.mp h
  rw [List.map_eq_nil_iff, List.filter_eq_nil_iff] at hnone
  have hagrees : ∀ b ∈ bindings identity envelope, b.2 = true := by
    intro b hb
    simpa using hnone b hb
  unfold bindings at hagrees
  simp only [List.forall_mem_cons, decide_eq_true_eq] at hagrees
  obtain ⟨htenant, hengagement, htask, hrole, hversion, hattempt, -⟩ := hagrees
  exact ⟨htenant, hengagement, htask, hrole, hversion, hattempt⟩

/-- A credential that is verified is current and signed, is not revoked, and is bound to the
envelope. -/
theorem verify_eq_ok {credential : Credential}
    (h : v.verify lib credential envelope now = .ok identity) :
    ∃ signed, read lib credential = .ok signed ∧ signed.identity = identity ∧
      (∃ issuedAt expiresAt, Current v signed now issuedAt expiresAt) ∧
      (∃ key signature, Signed lib v signed key signature) ∧
      v.isRevoked identity.identityId = .ok false ∧ Bound identity envelope := by
  unfold verify at h
  obtain ⟨signed, hread, h⟩ := bind_eq_ok.mp h
  obtain ⟨_, hwindow, h⟩ := bind_eq_ok.mp h
  obtain ⟨_, hsignature, h⟩ := bind_eq_ok.mp h
  obtain ⟨revoked, hrevoked, h⟩ := bind_eq_ok.mp h
  obtain ⟨hnot, h⟩ := require_bind_eq_ok.mp h
  obtain ⟨_, hbound, h⟩ := bind_eq_ok.mp h
  cases h
  refine ⟨signed, hread, rfl, current_of_checkWindow hwindow, signed_of_checkSignature hsignature,
    ?_, bound_of_assertBound hbound⟩
  rw [← hnot]
  exact mapError_eq_ok.mp hrevoked

end Verified

end AgentIdentityVerifier

end Governance
