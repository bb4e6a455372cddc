/-
The texts of times, and the two verifiers of a chain of custody.

The text of a time determines it (`canonicalDatetime_injective`).  `verifyCustodyChain` works on the
rows of the database, and `verifyCustody` reads the chain from an export.  Both accept exactly the
linked chains (`chainError_eq_none`, `quiet_verifyCustody`).  Where hashes do not collide, the head
determines the chain (`same_of_head`).
-/
import AssuranceOS.Lib.HashChain
import AssuranceOS.Vault.Acceptance
import AssuranceOS.Vault.Repository

namespace Vault

open Checked JsonText Report Adjudication

@[simp] theorem digits_length (width n : Nat) : (digits width n).length = width := by
  simp [digits]

theorem digits_succ (width n : Nat) :
    digits (width + 1) n = Nat.digitChar (n / 10 ^ width % 10) :: digits width n := by
  simp [digits, List.range_succ]

def number (cs : List Char) : Nat :=
  cs.foldl (fun n c => 10 * n + (c.toNat - 48)) 0

theorem digitChar_value : ∀ d < 10, (Nat.digitChar d).toNat - 48 = d := by
  decide

theorem foldl_digits (width n : Nat) : ∀ start : Nat,
    (digits width n).foldl (fun n c => 10 * n + (c.toNat - 48)) start =
      start * 10 ^ width + n % 10 ^ width := by
  induction width with
  | zero =>
    intro start
    simp [digits, Nat.mod_one]
  | succ width ih =>
    intro start
    have hdigit := digitChar_value (n / 10 ^ width % 10) (Nat.mod_lt _ (by decide))
    rw [digits_succ, List.foldl_cons, ih, hdigit, Nat.mod_pow_succ]
    ring

theorem number_digits {width n : Nat} (h : n < 10 ^ width) : number (digits width n) = n := by
  rw [number, foldl_digits, Nat.zero_mul, Nat.zero_add, Nat.mod_eq_of_lt h]

theorem isoformat_toList (d : Date) : d.isoformat.toList =
    digits 4 d.year ++ '-' :: (digits 2 d.month ++ '-' :: digits 2 d.day) := by
  simp [Date.isoformat, digits]

namespace DateTime

def fraction (t : DateTime) : List Char :=
  if t.microsecond = 0 then [] else '.' :: digits 6 t.microsecond

theorem civil_eq (t : DateTime) : t.civil = digits 4 t.date.year ++ '-' ::
    (digits 2 t.date.month ++ '-' :: (digits 2 t.date.day ++ 'T' :: (digits 2 t.hour ++ ':' ::
      (digits 2 t.minute ++ ':' :: (digits 2 t.second ++ t.fraction))))) := by
  simp [civil, fraction, isoformat_toList]

/-- The fields of a time, unchecked. -/
structure Fields where
  year : Nat
  month : Nat
  day : Nat
  hour : Nat
  minute : Nat
  second : Nat
  microsecond : Nat

def fields (t : DateTime) : Fields :=
  ⟨t.date.year, t.date.month, t.date.day, t.hour, t.minute, t.second, t.microsecond⟩

def readFields (cs : List Char) : Fields :=
  let field (start width : Nat) := number ((cs.drop start).take width)
  ⟨field 0 4, field 5 2, field 8 2, field 11 2, field 14 2, field 17 2,
    if cs[19]? = some '.' then field 20 6 else 0⟩

def ofFields? (f : Fields) : Option DateTime :=
  if h : ((1 ≤ f.year ∧ f.year ≤ 9999) ∧ (1 ≤ f.month ∧ f.month ≤ 12) ∧
      (1 ≤ f.day ∧ f.day ≤ 31)) ∧ f.hour < 24 ∧ f.minute < 60 ∧ f.second < 60 ∧
      f.microsecond < 1000000 then
    some ⟨⟨f.year, f.month, f.day, h.1.1, h.1.2.1, h.1.2.2⟩, f.hour, f.minute, f.second,
      f.microsecond, h.2.1, h.2.2.1, h.2.2.2.1, h.2.2.2.2⟩
  else none

theorem ofFields?_fields (t : DateTime) : ofFields? t.fields = some t := by
  have hranges : ((1 ≤ t.date.year ∧ t.date.year ≤ 9999) ∧
      (1 ≤ t.date.month ∧ t.date.month ≤ 12) ∧ (1 ≤ t.date.day ∧ t.date.day ≤ 31)) ∧
      t.hour < 24 ∧ t.minute < 60 ∧ t.second < 60 ∧ t.microsecond < 1000000 :=
    ⟨⟨t.date.year_range, t.date.month_range, t.date.day_range⟩, t.hour_range, t.minute_range,
      t.second_range, t.microsecond_range⟩
  exact dif_pos hranges

theorem readFields_civil (t : DateTime) {rest : List Char} (hrest : rest.head? ≠ some '.') :
    readFields (t.civil ++ rest) = t.fields := by
  have hyear : number (digits 4 t.date.year) = t.date.year :=
    number_digits (by have := t.date.year_range; norm_num; omega)
  have hmonth : number (digits 2 t.date.month) = t.date.month :=
    number_digits (by have := t.date.month_range; norm_num; omega)
  have hday : number (digits 2 t.date.day) = t.date.day :=
    number_digits (by have := t.date.day_range; norm_num; omega)
  have hhour : number (digits 2 t.hour) = t.hour :=
    number_digits (by have := t.hour_range; norm_num; omega)
  have hminute : number (digits 2 t.minute) = t.minute :=
    number_digits (by have := t.minute_range; norm_num; omega)
  have hsecond : number (digits 2 t.second) = t.second :=
    number_digits (by have := t.second_range; norm_num; omega)
  have hmicrosecond : number (digits 6 t.microsecond) = t.microsecond :=
    number_digits (by have := t.microsecond_range; norm_num; omega)
  -- the texts of the fields, character by character
  obtain ⟨_, _, _, _, hy⟩ : ∃ a b c d, digits 4 t.date.year = [a, b, c, d] := ⟨_, _, _, _, rfl⟩
  have htwo : ∀ n, ∃ a b, digits 2 n = [a, b] := fun n => ⟨_, _, rfl⟩
  obtain ⟨_, _, hmo⟩ := htwo t.date.month
  obtain ⟨_, _, hd⟩ := htwo t.date.day
  obtain ⟨_, _, hh⟩ := htwo t.hour
  obtain ⟨_, _, hmi⟩ := htwo t.minute
  obtain ⟨_, _, hs⟩ := htwo t.second
  rw [hy] at hyear
  rw [hmo] at hmonth
  rw [hd] at hday
  rw [hh] at hhour
  rw [hmi] at hminute
  rw [hs] at hsecond
  have hcivil := t.civil_eq
  rw [hy, hmo, hd, hh, hmi, hs] at hcivil
  rw [hcivil]
  simp only [readFields, fields, List.cons_append, List.nil_append, List.drop_succ_cons,
    List.drop_zero, List.take_succ_cons, List.take_zero, List.getElem?_cons_succ, hyear, hmonth,
    hday, hhour, hminute, hsecond, Fields.mk.injEq, true_and]
  unfold fraction
  split
  case isTrue hzero =>
    cases rest with
    | nil => simp [hzero]
    | cons c rest => simp_all
  case isFalse hnonzero =>
    simp [hmicrosecond]

end DateTime

/-- `datetime.fromisoformat`, for the texts that `isoformat` writes. -/
def readIsoformat? (text : String) : Option DateTime :=
  DateTime.ofFields? (DateTime.readFields text.toList)

theorem readIsoformat?_isoformat (zoned : Bool) (t : DateTime) :
    readIsoformat? (t.isoformat zoned) = some t := by
  have hrest : (if zoned then ['+', '0', '0', ':', '0', '0'] else []).head? ≠ some '.' := by
    cases zoned <;> decide
  rw [readIsoformat?, DateTime.isoformat, String.toList_ofList, DateTime.readFields_civil t hrest,
    DateTime.ofFields?_fields]

theorem canonicalDatetime_injective : Function.Injective canonicalDatetime := by
  intro t u h
  have hread : ∀ t : DateTime,
      DateTime.ofFields? (DateTime.readFields (canonicalDatetime t).toList) = some t := by
    intro t
    rw [canonicalDatetime, String.toList_ofList, DateTime.readFields_civil t (by decide),
      DateTime.ofFields?_fields]
  have ht := hread t
  rw [h, hread u] at ht
  exact (Option.some.inj ht).symm

theorem not_Z_isoformat (zoned : Bool) (t : DateTime) : 'Z' ∉ (t.isoformat zoned).toList := by
  have hdigit : ∀ d < 10, Nat.digitChar d ≠ 'Z' := by decide
  have hdigits : ∀ width n, 'Z' ∉ digits width n := by
    intro width n h
    obtain ⟨i, -, hi⟩ := List.mem_map.mp h
    exact hdigit _ (Nat.mod_lt _ (by decide)) hi
  have hfraction : 'Z' ∉ t.fraction := by
    unfold DateTime.fraction
    split <;> simp [hdigits]
  rw [DateTime.isoformat, String.toList_ofList, DateTime.civil_eq]
  cases zoned <;> simp [hdigits, hfraction]

def custodyChain (sha256 : Bytes → String) (tenantId evidenceId : String) :
    HashChain EvidenceCustodyEvent String where
  number := EvidenceCustodyEvent.sequenceNo
  previous := EvidenceCustodyEvent.previousEventHash
  hash := EvidenceCustodyEvent.eventHash
  digest previous e := custodyEventHash sha256 tenantId evidenceId e.sequenceNo (.str e.action)
    (.str e.actorType) (.str e.actorId) e.occurredAt e.details.value (optional previous)

/-- The error of a verification, with the data of its message. -/
inductive CustodyError where
  | sequence (expected found : Nat)
  | hashMismatch (sequenceNo : Nat)
  deriving DecidableEq

structure CustodyVerification where
  evidenceId : String
  valid : Bool
  eventCount : Nat
  headHash : Option String
  error : Option CustodyError

/-- The loop of `verify_custody_chain`, which ends at the first error. -/
def chainError (sha256 : Bytes → String) (tenantId evidenceId : String) :
    Option String → Nat → List EvidenceCustodyEvent → Option CustodyError
  | _, _, [] => none
  | previous, expected, e :: events =>
    if e.sequenceNo ≠ expected then some (.sequence expected e.sequenceNo)
    else if e.previousEventHash ≠ previous ∨
        e.eventHash ≠ (custodyChain sha256 tenantId evidenceId).digest previous e then
      some (.hashMismatch e.sequenceNo)
    else chainError sha256 tenantId evidenceId (some e.eventHash) (expected + 1) events

/-- Recomputes the chain of a record from its events. -/
def verifyCustodyChain (sha256 : Bytes → String) (db : Database)
    (tenantId evidenceId : String) : Except VaultError CustodyVerification := do
  let _ ← ofOption (.evidenceNotFound evidenceId) (db.get tenantId evidenceId true)
  let events := db.listCustodyEvents tenantId evidenceId
  let error := chainError sha256 tenantId evidenceId none 1 events
  return {
    evidenceId := evidenceId
    valid := error.isNone
    eventCount := events.length
    headHash := events.getLast?.map (·.eventHash)
    error := error }

section Service

variable {sha256 : Bytes → String} {tenantId evidenceId : String}

theorem chainError_eq_none {events : List EvidenceCustodyEvent} :
    ∀ {previous : Option String} {n : Nat},
      chainError sha256 tenantId evidenceId previous n events = none ↔
        (custodyChain sha256 tenantId evidenceId).Linked previous n events := by
  induction events with
  | nil => simp [chainError, HashChain.Linked]
  | cons e events ih =>
    intro previous n
    unfold chainError HashChain.Linked
    split
    case isTrue hnumber =>
      have hne : (custodyChain sha256 tenantId evidenceId).number e ≠ n := hnumber
      simp [hne]
    case isFalse hnumber =>
      rw [not_not] at hnumber
      split
      case isTrue hhash =>
        refine iff_of_false (by simp) fun h => ?_
        rcases hhash with hprevious | hdigest
        · exact hprevious h.2.1
        · exact hdigest h.2.2.1
      case isFalse hhash =>
        rw [not_or, not_not, not_not] at hhash
        rw [ih]
        exact ⟨fun h => ⟨hnumber, hhash.1, hhash.2, h⟩, fun h => h.2.2.2⟩

theorem head_eq_getLast? (events : List EvidenceCustodyEvent) :
    (custodyChain sha256 tenantId evidenceId).head none events =
      events.getLast?.map (·.eventHash) := by
  cases events using List.reverseRecOn with
  | nil => rfl
  | append_singleton events e => simp [custodyChain]

theorem verifyCustodyChain_valid {db : Database} {r : CustodyVerification}
    (h : verifyCustodyChain sha256 db tenantId evidenceId = .ok r) :
    (r.valid ↔ (custodyChain sha256 tenantId evidenceId).Linked none 1
        (db.listCustodyEvents tenantId evidenceId)) ∧
      r.headHash = (custodyChain sha256 tenantId evidenceId).head none
        (db.listCustodyEvents tenantId evidenceId) := by
  unfold verifyCustodyChain at h
  rw [ofOption_bind_eq_ok] at h
  obtain ⟨record, -, h⟩ := h
  cases h
  rw [Option.isNone_iff_eq_none, chainError_eq_none, head_eq_getLast?]
  exact ⟨Iff.rfl, rfl⟩

theorem exists_verifyCustodyChain {db : Database}
    (h : (db.get tenantId evidenceId true).isSome) :
    ∃ r, verifyCustodyChain sha256 db tenantId evidenceId = .ok r := by
  obtain ⟨record, hrecord⟩ := Option.isSome_iff_exists.mp h
  unfold verifyCustodyChain
  rw [hrecord]
  exact ⟨_, rfl⟩

end Service

/-! ### The export's verifier -/

/-- The value is an event of an export that stands for the row. -/
structure Represents (lib : ExportLibrary) (entries : Object) (e : EvidenceCustodyEvent) :
    Prop where
  sequenceNo : get entries "sequence_no" = .int e.sequenceNo
  action : entries.lookup "action" = some (.str e.action)
  actorType : entries.lookup "actor_type" = some (.str e.actorType)
  actorId : entries.lookup "actor_id" = some (.str e.actorId)
  occurredAt : ∃ v, entries.lookup "occurred_at" = some v ∧ parseDatetime lib v = .ok e.occurredAt
  details : ((entries.lookup "details").getD (.obj [])).sorted = e.details.value.sorted
  previousEventHash : get entries "previous_event_hash" = optional e.previousEventHash
  eventHash : get entries "event_hash" = .str e.eventHash

/-- The values are these events, one by one, as an export shows them. -/
def RepresentsAll (lib : ExportLibrary) : List Value → List EvidenceCustodyEvent → Prop :=
  List.Forall₂ fun v e => ∃ entries, v = .obj entries ∧ Represents lib entries e

section Export

variable {lib : ExportLibrary} {tenantId evidenceId : String}
variable {n : Nat} {entries : Object} {e : EvidenceCustodyEvent} {events : List Value}
  {rows : List EvidenceCustodyEvent}

theorem custodyEventHash_congr {sha256 : Bytes → String}
    {action actorType actorId previous details details' : Value} {t : DateTime}
    (h : details.sorted = details'.sorted) :
    custodyEventHash sha256 tenantId evidenceId n action actorType actorId t details previous =
      custodyEventHash sha256 tenantId evidenceId n action actorType actorId t details'
        previous := by
  have hentries : ∀ d : Value, sortedEntries
      [("action", action), ("actor_id", actorId), ("actor_type", actorType), ("details", d),
        ("evidence_id", .str evidenceId), ("occurred_at", .str (canonicalDatetime t)),
        ("previous_event_hash", previous), ("sequence_no", .int n), ("tenant_id", .str tenantId)]
      = [("action", action.sorted), ("actor_id", actorId.sorted),
        ("actor_type", actorType.sorted), ("details", d.sorted),
        ("evidence_id", .str evidenceId), ("occurred_at", .str (canonicalDatetime t)),
        ("previous_event_hash", previous.sorted), ("sequence_no", .int n),
        ("tenant_id", .str tenantId)] := by
    intro d
    rw [sortedEntries_eq]
    rfl
  simp only [custodyEventHash, canonicalJson, custodyDocument, dumps, Value.sorted, hentries, h]

theorem calculatedHash_of_represents (h : Represents lib entries e) (previous : Option String) :
    calculatedHash lib tenantId evidenceId e.sequenceNo (optional previous) entries =
      .ok ((custodyChain lib.sha256 tenantId evidenceId).digest previous e) := by
  obtain ⟨v, hv, ht⟩ := h.occurredAt
  simp only [calculatedHash, item, h.action, h.actorType, h.actorId, hv, ofOption, ht, bind,
    Except.bind, pure, Except.pure, custodyChain]
  rw [custodyEventHash_congr h.details]

@[simp] theorem optional_sorted (s : Option String) : (optional s).sorted = optional s := by
  cases s <;> rfl

theorem optional_injective : Function.Injective optional := by
  intro p q h
  cases p <;> cases q <;> simp_all [optional]

theorem equal_optional {real : FloatLiteral → FloatValue} {p q : Option String} :
    equal real (optional p) (optional q) ↔ p = q := by
  cases p <;> cases q <;> simp [optional]

theorem quiet_verifyCustodyEvent (h : Represents lib entries e) {previous : Option String}
    {v : Value} :
    Quiet Note.Silent
        (verifyCustodyEvent lib tenantId evidenceId (optional previous) (.obj entries, n)) v ↔
      (e.sequenceNo = n ∧ e.previousEventHash = previous ∧
        e.eventHash = (custodyChain lib.sha256 tenantId evidenceId).digest previous e) ∧
      v = .str e.eventHash := by
  unfold verifyCustodyEvent
  simp only [h.sequenceNo, h.previousEventHash, h.eventHash, equal_int, Nat.cast_inj]
  split
  case isTrue hnumber =>
    subst hnumber
    simp only [calculatedHash_of_represents h previous, quiet_reportUnless_bind, quiet_pure,
      equal_optional, equal_str, Value.str.injEq, true_and, and_assoc, eq_comm (b := v)]
  case isFalse hnumber => simp [hnumber]

theorem quiet_foldlM_verifyCustodyEvent (h : RepresentsAll lib events rows) :
    ∀ {previous : Option String} {n : Nat} {v : Value},
    Quiet Note.Silent ((events.zipIdx n).foldlM (verifyCustodyEvent lib tenantId evidenceId)
        (optional previous)) v ↔
      (custodyChain lib.sha256 tenantId evidenceId).Linked previous n rows ∧
        v = optional ((custodyChain lib.sha256 tenantId evidenceId).head previous rows) := by
  induction h with
  | nil =>
    intro previous n v
    simp [HashChain.Linked, eq_comm]
  | cons hfirst _ ih =>
    intro previous n v
    obtain ⟨entries, rfl, hfirst⟩ := hfirst
    rename_i e _ _
    have hsome : ∀ hash : String, Value.str hash = optional (some hash) := fun _ => rfl
    simp only [List.zipIdx_cons, List.foldlM_cons, quiet_bind, quiet_verifyCustodyEvent hfirst,
      HashChain.Linked, HashChain.head_cons]
    constructor
    · rintro ⟨_, ⟨⟨hnumber, hprevious, hdigest⟩, rfl⟩, hrest⟩
      rw [hsome, ih] at hrest
      exact ⟨⟨hnumber, hprevious, hdigest, hrest.1⟩, hrest.2⟩
    · rintro ⟨⟨hnumber, hprevious, hdigest, hlinked⟩, hv⟩
      exact ⟨_, ⟨⟨hnumber, hprevious, hdigest⟩, rfl⟩, by rw [hsome, ih]; exact ⟨hlinked, hv⟩⟩

/-- An export's verifier accepts the exported form of a linked chain with its head, and of
no other chain. -/
theorem quiet_verifyCustody (h : RepresentsAll lib events rows) {head : Option String} {u : Unit} :
    Quiet Note.Silent
        (verifyCustody lib tenantId evidenceId (.arr events) (optional head)) u ↔
      (custodyChain lib.sha256 tenantId evidenceId).Linked none 1 rows ∧
        head = (custodyChain lib.sha256 tenantId evidenceId).head none rows := by
  have hnull : Value.null = optional none := rfl
  unfold verifyCustody
  simp only [quiet_bind, quiet_reportUnless]
  rw [hnull]
  simp only [quiet_foldlM_verifyCustodyEvent h]
  constructor
  · rintro ⟨v, ⟨hlinked, rfl⟩, hhead⟩
    exact ⟨hlinked, equal_optional.mp hhead⟩
  · rintro ⟨hlinked, rfl⟩
    exact ⟨_, ⟨hlinked, rfl⟩, equal_optional.mpr rfl⟩

end Export

/-- The rows agree in what a hash covers; details may differ in the order of their keys. -/
structure SameEvent (e f : EvidenceCustodyEvent) : Prop where
  sequenceNo : e.sequenceNo = f.sequenceNo
  action : e.action = f.action
  actorType : e.actorType = f.actorType
  actorId : e.actorId = f.actorId
  occurredAt : e.occurredAt = f.occurredAt
  details : e.details.value.sorted = f.details.value.sorted

section Heads

variable {sha256 : Bytes → String} {tenantId evidenceId : String}

theorem digest_injective (hinj : Set.InjOn sha256 (Set.range canonicalJson))
    {p q : Option String} {e f : EvidenceCustodyEvent}
    (h : (custodyChain sha256 tenantId evidenceId).digest p e =
      (custodyChain sha256 tenantId evidenceId).digest q f) : p = q ∧ SameEvent e f := by
  have hdocuments := text_injective (utf8_injective (hinj ⟨_, rfl⟩ ⟨_, rfl⟩ h))
  have hfield := get_sorted_congr (by simp) (by simp) hdocuments
  have haction := hfield "action"
  have hactorId := hfield "actor_id"
  have hactorType := hfield "actor_type"
  have hdetails := hfield "details"
  have hoccurredAt := hfield "occurred_at"
  have hprevious := hfield "previous_event_hash"
  have hsequenceNo := hfield "sequence_no"
  simp only [get_cons, String.reduceEq, if_true, if_false, sorted_str, sorted_int,
    optional_sorted, Value.str.injEq, Value.int.injEq, Nat.cast_inj]
    at haction hactorId hactorType hoccurredAt hdetails hprevious hsequenceNo
  exact ⟨optional_injective hprevious, hsequenceNo, haction, hactorType, hactorId,
    canonicalDatetime_injective hoccurredAt, hdetails⟩

theorem same_of_head (hinj : Set.InjOn sha256 (Set.range canonicalJson))
    {events events' : List EvidenceCustodyEvent}
    (h : (custodyChain sha256 tenantId evidenceId).Linked none 1 events)
    (h' : (custodyChain sha256 tenantId evidenceId).Linked none 1 events')
    (hhead : (custodyChain sha256 tenantId evidenceId).head none events =
      (custodyChain sha256 tenantId evidenceId).head none events') :
    List.Forall₂ (fun e f => SameEvent e f ∧ e.previousEventHash = f.previousEventHash ∧
      e.eventHash = f.eventHash) events events' :=
  HashChain.agree_of_head (fun _ _ _ _ => digest_injective hinj) h h' hhead

end Heads

end Vault
