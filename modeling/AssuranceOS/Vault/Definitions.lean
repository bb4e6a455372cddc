/-
The data of the evidence vault (`vault/definitions.py`, `vault/exceptions.py` and
`db/models/evidence.py`).

A datetime is the reading of a UTC clock in its civil fields.  Some databases hand it
back with its zone and some without it, which `isoformat` shows and
`canonicalDatetime` does not.  A `Dict` is a dictionary that can be written as JSON.

The hash of a custody event (`vault/custody.py`).

The fields that enter a hash are the JSON document `custodyDocument`; its canonical
text is hashed.  The service fills it with strings, the verifier of an export with what
it finds in the manifest.
-/
import AssuranceOS.Lib.JsonParse
import AssuranceOS.Adjudication.Definitions

namespace Vault

open JsonText Adjudication

/-- A file's content. -/
abbrev Bytes := List UInt8

/-- `text.encode("utf-8")`. -/
def utf8 (cs : List Char) : Bytes :=
  cs.flatMap String.utf8EncodeChar

theorem utf8_injective : Function.Injective utf8 := by
  intro cs ds h
  have harray : cs.utf8Encode = ds.utf8Encode := congrArg List.toByteArray h
  rw [← String.toByteArray_ofList, ← String.toByteArray_ofList, String.toByteArray_inj] at harray
  exact String.ofList_injective harray

theorem toNat_ofNat_byte : ∀ n < 256, (Char.ofNat n).toNat = n := by
  decide +kernel

theorem ofNat_toNat_injective : Function.Injective fun b : UInt8 => Char.ofNat b.toNat := by
  intro b c h
  have hnat := congrArg Char.toNat h
  rw [toNat_ofNat_byte _ b.toNat_lt, toNat_ofNat_byte _ c.toNat_lt] at hnat
  exact UInt8.toNat_inj.mp hnat

def spelled (bytes : Bytes) : String :=
  String.ofList (bytes.map fun b => Char.ofNat b.toNat)

theorem spelled_injective : Function.Injective spelled := by
  intro a b h
  exact List.map_injective_iff.mpr ofNat_toNat_injective (String.ofList_injective h)

/-- `n` in decimal with `width` digits. -/
def digits (width n : Nat) : List Char :=
  (List.range width).reverse.map fun i => Nat.digitChar (n / 10 ^ i % 10)

/-- A time in UTC. -/
structure DateTime where
  date : Date
  hour : Nat := 0
  minute : Nat := 0
  second : Nat := 0
  microsecond : Nat := 0
  hour_range : hour < 24 := by decide
  minute_range : minute < 60 := by decide
  second_range : second < 60 := by decide
  microsecond_range : microsecond < 1000000 := by decide
  deriving DecidableEq

namespace DateTime

def rank (t : DateTime) : Nat :=
  (((((t.date.year * 13 + t.date.month) * 32 + t.date.day) * 24 + t.hour) * 60 + t.minute) * 60
    + t.second) * 1000000 + t.microsecond

def civil (t : DateTime) : List Char :=
  t.date.isoformat.toList ++ 'T' :: digits 2 t.hour ++ ':' :: digits 2 t.minute ++
    ':' :: digits 2 t.second ++
    (if t.microsecond = 0 then [] else '.' :: digits 6 t.microsecond)

/-- `isoformat()` of a time that the database hands back, with its zone or without it. -/
def isoformat (zoned : Bool) (t : DateTime) : String :=
  String.ofList (t.civil ++ if zoned then ['+', '0', '0', ':', '0', '0'] else [])

end DateTime

/-- `canonical_datetime`. -/
def canonicalDatetime (t : DateTime) : String :=
  String.ofList (t.civil ++ ['Z'])

def strings (items : List String) : Value :=
  .arr (items.map .str)

@[simp] theorem strings_distinct (items : List String) : (strings items).Distinct :=
  itemsDistinct_iff.mpr (by simp [Value.Distinct])

/-- `None` or a string. -/
def optional : Option String → Value
  | none => .null
  | some s => .str s

@[simp] theorem optional_distinct (s : Option String) : (optional s).Distinct := by
  cases s <;> trivial

/-- A dictionary of JSON values. -/
structure Dict where
  entries : Object
  distinct : (Value.obj entries).Distinct := by
    simp [Value.Distinct, EntriesDistinct, EntryDistinct]

namespace Dict

def empty : Dict := { entries := [] }

def value (d : Dict) : Value := .obj d.entries

end Dict

inductive RecordKind where
  | original
  | derived
  deriving DecidableEq, Repr

def RecordKind.value : RecordKind → String
  | .original => "original"
  | .derived => "derived"

inductive IntegrityStatus where
  | unverified
  | verified
  | mismatch
  | missing
  | purged
  deriving DecidableEq, Repr

def IntegrityStatus.value : IntegrityStatus → String
  | .unverified => "unverified"
  | .verified => "verified"
  | .mismatch => "mismatch"
  | .missing => "missing"
  | .purged => "purged"

/-- Canonical identity and provenance for one evidence acquisition. -/
structure EvidenceRecord where
  evidenceId : String
  tenantId : String
  engagementId : Option String
  taskId : Option String
  acquisitionKey : Option String
  recordKind : RecordKind
  sourceType : String
  sourceLocator : String
  contentSha256 : String
  storageProvider : String
  storageKey : Option String
  objectUri : Option String
  originalFilename : Option String
  mimeType : Option String
  contentEncoding : Option String
  sizeBytes : Nat
  classification : String
  sourceTime : Option DateTime
  collectedAt : DateTime
  accepted : Bool
  tainted : Bool
  integrityStatus : IntegrityStatus
  lastVerifiedAt : Option DateTime
  retentionUntil : Option Date
  legalHold : Bool
  deletedAt : Option DateTime := none
  deletionReason : Option String := none
  metadata : Dict

/-- `_evidence_item`: the item has the columns of the record. -/
abbrev EvidenceItem := EvidenceRecord

structure EvidenceTransformation where
  transformationId : String
  tenantId : String
  sourceEvidenceId : String
  derivedEvidenceId : String
  operation : String
  toolVersion : String
  parameters : Dict
  createdAt : DateTime

/-- Append-only, hash-chained custody event for one evidence record. -/
structure EvidenceCustodyEvent where
  custodyEventId : String
  tenantId : String
  evidenceId : String
  sequenceNo : Nat
  action : String
  actorType : String
  actorId : String
  occurredAt : DateTime
  details : Dict
  previousEventHash : Option String
  eventHash : String

/-- A task, as far as the vault reads it. -/
structure EngagementTask where
  taskId : String
  tenantId : String
  engagementId : String
  deriving DecidableEq, Repr

structure AuditEvent where
  eventId : String
  eventType : String
  streamId : String
  sequenceNo : Nat
  tenantId : String
  engagementId : Option String
  taskId : Option String
  payload : Dict

structure OutboxEvent where
  outboxId : String
  tenantId : String
  aggregateType : String
  aggregateId : String
  eventType : String
  payload : Dict
  idempotencyKey : String

/-- The tables; an engagement is its tenant and its id. -/
structure Database where
  tenants : List String
  engagements : List (String × String) := []
  tasks : List EngagementTask := []
  evidence : List EvidenceRecord := []
  transformations : List EvidenceTransformation := []
  custody : List EvidenceCustodyEvent := []
  auditEvents : List AuditEvent := []
  outbox : List OutboxEvent := []

/-- The errors that the verification of an export reports, with the data of their
messages. -/
inductive ExportError where
  | noFile
  | unreadable (text : String)
  | duplicateNames
  | unsafePath (name : String)
  | missingEntries (names : List String)
  | checksumFormat
  | checksumMismatch
  | incompleteSignature
  | signature (text : String)
  | manifestNotJson
  | manifestNotObject
  | unsupportedSchema
  | signatureRequired
  | tenantMissing
  | notAList (key : String)
  | objectNotObject
  | invalidDigest
  | duplicateObject (digest : String)
  | invalidSize (digest : String)
  | missingObject (digest : String)
  | objectChecksum (digest : String)
  | objectSize (digest : String)
  | undeclaredEntries (names : List String)
  | evidenceNotObject
  | evidenceWithoutId
  | duplicateEvidence (evidenceId : String)
  | undeclaredObject (evidenceId : String)
  | evidenceSize (evidenceId : String)
  | custodyNotList (evidenceId : String)
  | custodyNotObject (evidenceId : String)
  | custodySequence (evidenceId : String) (expected : Nat)
  | custodyMalformed (evidenceId text : String)
  | custodyPrevious (evidenceId : String) (expected : Nat)
  | custodyHash (evidenceId : String) (expected : Nat)
  | custodyHead (evidenceId : String)
  | requestedMissing
  | edgeNotObject
  | absentSource
  | absentDerived
  deriving DecidableEq

/-- The exceptions that can leave a part of the verification. -/
inductive Raised where
  /-- `OSError`, `BadZipFile` or `ExportPackageError` -/
  | reported (error : ExportError)
  | keyError (text : String)
  | valueError (text : String)
  /-- the `ValueError` that says that a text is not JSON -/
  | decodeError (text : String)
  | typeError (text : String)
  | other (text : String)
  deriving DecidableEq

/-- The exceptions of the vault, with the data of their messages. -/
inductive VaultError where
  | contentInspectionRejected (findings : List String)
  | tenantNotFound (tenantId : String)
  | engagementNotFound (engagementId : String)
  | taskNotFound (taskId : String)
  | taskOutsideEngagement
  | evidenceNotFound (evidenceId : String)
  | sourceNotFound (evidenceId : String)
  | evidenceDeleted (evidenceId : String)
  | differentBytes (kind : RecordKind)
  | acquisitionConflict (kind : RecordKind)
  | noSources
  | classificationRequired
  | unsafeTenantSegment
  | invalidDigest
  | invalidKey
  | objectIntegrity (actual expected : String)
  | immutableObjectConflict
  | objectNotFound (tenantId key : String)
  | noStoredObject (evidenceId : String)
  | legalHold
  | noRetentionExpiry
  | retainedUntil (day : Date)
  | emptyExport
  | exportFailedVerification (errors : List ExportError)
  | raised (exception : Raised)
  | lookupError (evidenceId : String)
  | integrityError
  deriving DecidableEq

def custodyDocument (tenantId evidenceId : String) (sequenceNo : Nat)
    (action actorType actorId : Value) (occurredAt : DateTime) (details previous : Value) :
    Value :=
  .obj
    [("action", action), ("actor_id", actorId), ("actor_type", actorType), ("details", details),
      ("evidence_id", .str evidenceId), ("occurred_at", .str (canonicalDatetime occurredAt)),
      ("previous_event_hash", previous), ("sequence_no", .int sequenceNo),
      ("tenant_id", .str tenantId)]

/-- `canonical_json_bytes`. -/
def canonicalJson (v : Value) : Bytes :=
  utf8 (dumps v)

/-- `custody_event_hash`. -/
def custodyEventHash (sha256 : Bytes → String) (tenantId evidenceId : String) (sequenceNo : Nat)
    (action actorType actorId : Value) (occurredAt : DateTime) (details previous : Value) :
    String :=
  sha256 (canonicalJson (custodyDocument tenantId evidenceId sequenceNo action actorType actorId
    occurredAt details previous))

end Vault
