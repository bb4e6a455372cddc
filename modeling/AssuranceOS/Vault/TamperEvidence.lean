/-
Tamper evidence of the chains of custody.

`custody_chains` puts the parts together: what the operations write verifies, the head
determines a verified chain but for the ids of its rows, and the two verifiers agree on
every chain and every exported form of it.  The id of an event enters no hash, so that it
alone can be changed (`custody_ids_undetected`).
-/
import AssuranceOS.Vault.Access
import AssuranceOS.Vault.Collection
import AssuranceOS.Vault.Pinning

namespace Vault

open Checked JsonText Report Adjudication

/-- `fromisoformat` reads what `isoformat` writes. -/
def ReadsTimes (lib : ExportLibrary) : Prop :=
  ∀ (zoned : Bool) (t : DateTime), lib.fromisoformat (t.isoformat zoned) = .ok t

section Exported

variable {lib : ExportLibrary} (hlib : ReadsTimes lib) {zoned : Bool}
include hlib

theorem parseDatetime_isoformat (t : DateTime) :
    parseDatetime lib (.str (t.isoformat zoned)) = .ok t := by
  have hflat : ∀ cs : List Char, 'Z' ∉ cs →
      (cs.flatMap fun c => if c = 'Z' then ['+', '0', '0', ':', '0', '0'] else [c]) = cs := by
    intro cs
    induction cs with
    | nil => simp
    | cons c cs ih =>
      intro h
      rw [List.mem_cons, not_or] at h
      rw [List.flatMap_cons, ih h.2, if_neg (Ne.symm h.1), List.singleton_append]
  rw [parseDatetime, hflat _ (not_Z_isoformat zoned t), String.ofList_toList]
  exact hlib zoned t

theorem represents_custodyEntry (e : EvidenceCustodyEvent) :
    ∃ entries, (custodyEntry zoned e).sorted = .obj entries ∧ Represents lib entries e := by
  refine ⟨_, sorted_obj _, ?_⟩
  have hlookup := @lookup_sortedObject [("sequence_no", .int e.sequenceNo),
    ("action", .str e.action), ("actor_type", .str e.actorType), ("actor_id", .str e.actorId),
    ("occurred_at", .str (e.occurredAt.isoformat zoned)), ("details", e.details.value),
    ("previous_event_hash", optional e.previousEventHash), ("event_hash", .str e.eventHash)]
    (by simp)
  exact {
    sequenceNo := by simp [JsonText.get, hlookup]
    action := by simp [hlookup, List.lookup_cons]
    actorType := by simp [hlookup, List.lookup_cons]
    actorId := by simp [hlookup, List.lookup_cons]
    occurredAt := ⟨.str (e.occurredAt.isoformat zoned), by simp [hlookup, List.lookup_cons],
      parseDatetime_isoformat hlib e.occurredAt⟩
    details := by simp [hlookup, List.lookup_cons, sorted_sorted]
    previousEventHash := by simp [JsonText.get, hlookup, List.lookup_cons]
    eventHash := by simp [JsonText.get, hlookup, List.lookup_cons] }

theorem representsAll_custodyEntry (events : List EvidenceCustodyEvent) :
    RepresentsAll lib (events.map fun e => (custodyEntry zoned e).sorted) events := by
  rw [RepresentsAll, List.forall₂_map_left_iff, List.forall₂_same]
  exact fun e _ => represents_custodyEntry hlib e

end Exported

/-- The rows agree in every column but their ids. -/
structure SameRow (e f : EvidenceCustodyEvent) : Prop extends SameEvent e f where
  tenantId : e.tenantId = f.tenantId
  evidenceId : e.evidenceId = f.evidenceId
  previousEventHash : e.previousEventHash = f.previousEventHash
  eventHash : e.eventHash = f.eventHash

variable {db : Database} {tenantId evidenceId : String}

theorem owner_of_listCustodyEvents {e : EvidenceCustodyEvent}
    (h : e ∈ db.listCustodyEvents tenantId evidenceId) :
    e.tenantId = tenantId ∧ e.evidenceId = evidenceId := by
  rw [Database.listCustodyEvents, mem_orderBy] at h
  simpa using (List.mem_filter.mp h).2

theorem sameRow_of_head {sha256 : Bytes → String}
    (hinj : Set.InjOn sha256 (Set.range canonicalJson)) {db' : Database}
    (h : (custodyChain sha256 tenantId evidenceId).Linked none 1
      (db.listCustodyEvents tenantId evidenceId))
    (h' : (custodyChain sha256 tenantId evidenceId).Linked none 1
      (db'.listCustodyEvents tenantId evidenceId))
    (hhead : (custodyChain sha256 tenantId evidenceId).head none
        (db.listCustodyEvents tenantId evidenceId) =
      (custodyChain sha256 tenantId evidenceId).head none
        (db'.listCustodyEvents tenantId evidenceId)) :
    List.Forall₂ SameRow (db.listCustodyEvents tenantId evidenceId)
      (db'.listCustodyEvents tenantId evidenceId) := by
  have hsame := same_of_head hinj h h' hhead
  have howner : ∀ e ∈ db.listCustodyEvents tenantId evidenceId,
      e.tenantId = tenantId ∧ e.evidenceId = evidenceId := fun e he =>
    owner_of_listCustodyEvents he
  have howner' : ∀ e ∈ db'.listCustodyEvents tenantId evidenceId,
      e.tenantId = tenantId ∧ e.evidenceId = evidenceId := fun e he =>
    owner_of_listCustodyEvents he
  have hleft := (List.forall₂_and_left _ _).mpr ⟨howner, hsame⟩
  have hboth := (List.forall₂_and_left _ _).mpr ⟨howner', hleft.flip⟩
  refine hboth.flip.imp fun e f hef => ?_
  obtain ⟨⟨hf, hf'⟩, ⟨he, he'⟩, hevent, hprevious, hhash⟩ := hef
  exact ⟨hevent, he.trans hf.symm, he'.trans hf'.symm, hprevious, hhash⟩

/-- The chains that any operations leave verify; chains of one evidence record that verify
with one head agree event for event, but for the ids of the rows; and the verifier of an
export accepts the forms of those chains, with those heads, that the service accepts. -/
theorem custody_chains {S : ExportingVault} (hlib : ReadsTimes S.library)
    (hinj : Set.InjOn S.sha256 (Set.range canonicalJson)) :
    (∀ (v : VaultState) (ops : List Op) (tenantId evidenceId : String) (r : CustodyVerification),
      v.Fresh → verifyCustodyChain S.sha256 (S.run v ops).db tenantId evidenceId = .ok r →
        r.valid) ∧
    (∀ (db db' : Database) (tenantId evidenceId : String) (r r' : CustodyVerification),
      verifyCustodyChain S.sha256 db tenantId evidenceId = .ok r →
      verifyCustodyChain S.sha256 db' tenantId evidenceId = .ok r' →
      r.valid → r'.valid → r.headHash = r'.headHash →
        List.Forall₂ SameRow (db.listCustodyEvents tenantId evidenceId)
          (db'.listCustodyEvents tenantId evidenceId)) ∧
    (∀ (db : Database) (tenantId evidenceId : String) (r : CustodyVerification),
      verifyCustodyChain S.sha256 db tenantId evidenceId = .ok r →
        RepresentsAll S.library ((db.listCustodyEvents tenantId evidenceId).map fun e =>
          (custodyEntry S.zoned e).sorted) (db.listCustodyEvents tenantId evidenceId) ∧
        ∀ (events : List Value) (head : Option String),
          RepresentsAll S.library events (db.listCustodyEvents tenantId evidenceId) →
          (Quiet Note.Silent
              (verifyCustody S.library tenantId evidenceId (.arr events) (optional head)) () ↔
            r.valid ∧ head = r.headHash)) := by
  refine ⟨?_, ?_, ?_⟩
  · intro v ops tenantId evidenceId r hv h
    have hlinked := run_chainsLinked (S := S) hv ops
    rw [(verifyCustodyChain_valid h).1, listCustodyEvents_eq hlinked]
    exact hlinked tenantId evidenceId
  · intro db db' tenantId evidenceId r r' h h' hvalid hvalid' hhead
    obtain ⟨hiff, hr⟩ := verifyCustodyChain_valid h
    obtain ⟨hiff', hr'⟩ := verifyCustodyChain_valid h'
    exact sameRow_of_head hinj (hiff.mp hvalid) (hiff'.mp hvalid') (by rw [← hr, ← hr', hhead])
  · intro db tenantId evidenceId r h
    refine ⟨representsAll_custodyEntry hlib _, fun events head hevents => ?_⟩
    obtain ⟨hiff, hr⟩ := verifyCustodyChain_valid h
    rw [quiet_verifyCustody hevents, hiff, hr, S.library_sha256]

/-- A hash without collisions, which is the right one for the sample payload. -/
def sampleHash (bytes : Bytes) : String :=
  if bytes = [104, 105] then "8f434346648f6b96df89dda901c5176b10a6d83961dd3c1ac88b59b2dc327aa4"
  else String.ofList ('x' :: bytes.map fun b => Char.ofNat b.toNat)

theorem sampleHash_injective : Function.Injective sampleHash := by
  intro b c h
  have hother : ∀ cs : List Char,
      "8f434346648f6b96df89dda901c5176b10a6d83961dd3c1ac88b59b2dc327aa4" ≠
        String.ofList ('x' :: cs) := by
    intro cs heq
    have hhead := congrArg (fun s => s.toList.head?) heq
    simp at hhead
  unfold sampleHash at h
  split at h <;> split at h
  · rename_i hb hc
    rw [hb, hc]
  · exact absurd h (hother _)
  · exact absurd h.symm (hother _)
  · have htail := (List.cons.inj (String.ofList_injective h)).2
    exact List.map_injective_iff.mpr ofNat_toNat_injective htail

/-- Times are read from the texts that `isoformat` writes. -/
def sampleFromisoformat (text : String) : Except Raised DateTime :=
  ofOption (.valueError "Invalid isoformat string") (readIsoformat? text)

def sampleExportLibrary : ExportLibrary :=
  { sampleLibrary with
    sha256 := sampleHash
    fromisoformat := sampleFromisoformat }

theorem sampleExportLibrary_readsTimes : ReadsTimes sampleExportLibrary := by
  intro zoned t
  have hread : sampleExportLibrary.fromisoformat = sampleFromisoformat := rfl
  rw [hread, sampleFromisoformat, readIsoformat?_isoformat, ofOption]

def sampleExportingVault : ExportingVault where
  sha256 := sampleHash
  library := sampleExportLibrary
  library_sha256 := rfl

def sampleIngest : Op :=
  .ingestBytes ⟨fun _ => sampleTime 1, sampleTime 1, sampleHex 1⟩ sampleRequest

def sampleUnguarded : Database where
  tenants := ["t"]
  evidence := [originalRecord sampleRequest (sampleHash sampleRequest.payload)
    { provider := "local", key := "k", uri := "u", sha256 := sampleHash sampleRequest.payload
      sizeBytes := 2, created := true, modifiedAt := sampleTime 1 } (sampleTime 1) (sampleHex 1)]

/-- The database with one more custody event of the sample. -/
def appendSample (db : Database) (hex : String) (entry : Database.CustodyEntry) : Database :=
  { db with custody := db.custody ++ [db.nextCustodyEvent sampleHash hex "t" "evd_1.0" entry] }

def acquiredCustody (hex : String) : Database :=
  appendSample sampleUnguarded (hex ++ ".1") ⟨"acquired", "user", "a", sampleTime 1, .empty⟩

def sampleAcquisition (hex : String) : EvidenceCustodyEvent :=
  sampleUnguarded.nextCustodyEvent sampleHash (hex ++ ".1") "t" "evd_1.0"
    ⟨"acquired", "user", "a", sampleTime 1, .empty⟩

def readingEntry : Database.CustodyEntry :=
  ⟨"accessed", "user", "b", sampleTime 2, .empty⟩

def sampleReading (hex : String) : EvidenceCustodyEvent :=
  (acquiredCustody hex).nextCustodyEvent sampleHash (hex ++ ".2") "t" "evd_1.0" readingEntry

/-- The item is acquired and read; `hex` is where the ids of the two events begin. -/
def sampleCustody (hex : String) : Database :=
  appendSample (acquiredCustody hex) (hex ++ ".2") readingEntry

theorem sampleUnguarded_owned : (sampleUnguarded.get "t" "evd_1.0" true).isSome := by
  decide +kernel

theorem acquiredCustody_linked (hex : String) : ChainsLinked sampleHash (acquiredCustody hex) := by
  have hempty : ChainsLinked sampleHash sampleUnguarded := fun _ _ => trivial
  exact hempty.append _ _ _ _

theorem custodyOf_acquiredCustody (hex : String) :
    (acquiredCustody hex).custodyOf "t" "evd_1.0" = [sampleAcquisition hex] :=
  @Table.ownedBy_append_of_eq _ _ _ _ _ [] (sampleAcquisition hex) rfl

theorem sampleCustody_linked (hex : String) : ChainsLinked sampleHash (sampleCustody hex) :=
  (acquiredCustody_linked hex).append _ _ _ _

theorem listCustodyEvents_sampleCustody (hex : String) :
    (sampleCustody hex).listCustodyEvents "t" "evd_1.0" =
      [sampleAcquisition hex, sampleReading hex] := by
  rw [listCustodyEvents_eq (sampleCustody_linked hex)]
  exact @Table.ownedBy_append_of_eq _ _ _ _ _ [sampleAcquisition hex] (sampleReading hex) rfl

/-- The ids are not hashed. -/
theorem eventHash_sampleReading (hex hex' : String) :
    (sampleReading hex).eventHash = (sampleReading hex').eventHash := by
  unfold sampleReading Database.nextCustodyEvent
  simp only [lastCustodyEvent_eq (acquiredCustody_linked _), custodyOf_acquiredCustody]
  rfl

theorem sampleCustody_verified (hex : String) : ∃ r,
    verifyCustodyChain sampleHash (sampleCustody hex) "t" "evd_1.0" = .ok r ∧ r.valid ∧
      r.headHash = some (sampleReading hex).eventHash := by
  have hget : ((sampleCustody hex).get "t" "evd_1.0" true).isSome := sampleUnguarded_owned
  obtain ⟨r, hrun⟩ := exists_verifyCustodyChain hget
  obtain ⟨hvalid, hhead⟩ := verifyCustodyChain_valid hrun
  refine ⟨r, hrun, hvalid.mpr ?_, ?_⟩
  · rw [listCustodyEvents_eq (sampleCustody_linked hex)]
    exact sampleCustody_linked hex "t" "evd_1.0"
  · rw [hhead, head_eq_getLast?, listCustodyEvents_sampleCustody, List.getLast?_cons_cons,
      List.getLast?_singleton, Option.map_some]

/-! The evaluation of the two operations goes in steps: that the second event can be appended is
known without its hash. -/

def sampleAccess : Op :=
  .readBytes ⟨fun _ => sampleTime 2, sampleTime 2, sampleHex 2⟩ "t" "evd_1.0" "b" "user" "review"

abbrev sampleIngested : VaultState :=
  sampleExportingVault.run sampleWorkers.vault [sampleIngest]

theorem sampleIngested_readable : ∃ key,
    ((EvidenceVault.getActiveRecord sampleIngested.db "t" "evd_1.0").toOption.bind
      (·.storageKey)) = some key ∧
    (LocalObjectStore.read sampleIngested.files "t" key).toOption = some [104, 105] := by
  have h : (((EvidenceVault.getActiveRecord sampleIngested.db "t" "evd_1.0").toOption.bind
      (·.storageKey)).bind fun key =>
        (LocalObjectStore.read sampleIngested.files "t" key).toOption) = some [104, 105] := by
    decide +kernel
  exact Option.bind_eq_some_iff.mp h

theorem sampleIngested_custody :
    sampleIngested.db.custody.map EvidenceCustodyEvent.custodyEventId = ["cst_1.1"] ∧
      (sampleIngested.db.get "t" "evd_1.0" true).isSome := by
  decide +kernel

theorem eq_ok_of_toOption {α : Type} {x : Except VaultError α} {a : α}
    (h : x.toOption = some a) : x = .ok a := by
  cases x with
  | error e => cases h
  | ok b => exact congrArg _ (Option.some.inj h)

/-- The item is acquired and read, which makes two events. -/
theorem sampleAccess_appended : ∃ e,
    (sampleExportingVault.run sampleWorkers.vault [sampleIngest, sampleAccess]).db =
      { sampleIngested.db with custody := sampleIngested.db.custody ++ [e] } := by
  obtain ⟨hids, hfound⟩ := sampleIngested_custody
  obtain ⟨key, hkey, hread⟩ := sampleIngested_readable
  obtain ⟨r, hr, hkey⟩ := Option.bind_eq_some_iff.mp hkey
  have hlinked : ChainsLinked sampleHash sampleIngested.db :=
    @run_chainsLinked sampleExportingVault sampleWorkers.vault ⟨rfl, rfl, rfl, rfl⟩ [sampleIngest]
  have hid : newId "cst" (sampleHex 2 0) ∉
      sampleIngested.db.custody.map EvidenceCustodyEvent.custodyEventId := by
    rw [hids]
    decide +kernel
  obtain ⟨e, he⟩ := @readBytes_appends "t" "evd_1.0" sampleExportingVault.toEvidenceVault
    sampleIngested r sampleHash_injective.injOn hlinked
    ⟨fun _ => sampleTime 2, sampleTime 2, sampleHex 2⟩ key [104, 105] hid hfound
    (eq_ok_of_toOption hr) hkey (eq_ok_of_toOption hread) "b" "user" "review"
  refine ⟨e, ?_⟩
  have hrun : ∀ v op op', (sampleExportingVault.run v [op, op']).db =
      (sampleExportingVault.step (sampleExportingVault.run v [op]) op').db := fun _ _ _ => rfl
  rw [hrun, sampleAccess, ExportingVault.step, he]
  rfl

/-- The item is acquired and read; two such chains, with other ids, agree, and the verifier of an
export accepts them. -/
theorem custody_chains_sample :
    (∃ r, verifyCustodyChain sampleHash
        (sampleExportingVault.run sampleWorkers.vault [sampleIngest, sampleAccess]).db
          "t" "evd_1.0" = .ok r ∧ r.valid) ∧
    (sampleExportingVault.run sampleWorkers.vault [sampleIngest, sampleAccess]).db.custody.length =
      2 ∧
    List.Forall₂ SameRow ((sampleCustody "1").listCustodyEvents "t" "evd_1.0")
      ((sampleCustody "2").listCustodyEvents "t" "evd_1.0") ∧
    Quiet Note.Silent (verifyCustody sampleExportLibrary "t" "evd_1.0"
      (.arr (((sampleCustody "1").listCustodyEvents "t" "evd_1.0").map fun e =>
        (custodyEntry false e).sorted)) (.str (sampleReading "1").eventHash)) () := by
  have hchains := custody_chains (S := sampleExportingVault) sampleExportLibrary_readsTimes
    sampleHash_injective.injOn
  obtain ⟨e, he⟩ := sampleAccess_appended
  obtain ⟨r₁, hr₁, hvalid₁, hhead₁⟩ := sampleCustody_verified "1"
  obtain ⟨r₂, hr₂, hvalid₂, hhead₂⟩ := sampleCustody_verified "2"
  have hhead : r₁.headHash = r₂.headHash := by
    rw [hhead₁, hhead₂, eventHash_sampleReading]
  refine ⟨?_, ?_, hchains.2.1 _ _ _ _ r₁ r₂ hr₁ hr₂ hvalid₁ hvalid₂ hhead, ?_⟩
  · have hfound : ((sampleExportingVault.run sampleWorkers.vault [sampleIngest, sampleAccess]).db.get
        "t" "evd_1.0" true).isSome := he ▸ sampleIngested_custody.2
    obtain ⟨r, hrun⟩ := @exists_verifyCustodyChain sampleHash _ _ _ hfound
    exact ⟨r, hrun, hchains.1 _ _ _ _ r ⟨rfl, rfl, rfl, rfl⟩ hrun⟩
  · have hone := congrArg List.length sampleIngested_custody.1
    rw [List.length_map, List.length_singleton] at hone
    rw [he, List.length_append, hone, List.length_singleton]
  · obtain ⟨hrepresents, hiff⟩ := hchains.2.2 _ _ _ r₁ hr₁
    exact (hiff _ (some (sampleReading "1").eventHash) hrepresents).mpr ⟨hvalid₁, hhead₁.symm⟩

/-- The id of an event can be changed without either verifier noticing. -/
theorem custody_ids_undetected : ¬ ∀ (S : ExportingVault) (db db' : Database)
    (tenantId evidenceId : String) (r r' : CustodyVerification),
    Set.InjOn S.sha256 (Set.range canonicalJson) →
    verifyCustodyChain S.sha256 db tenantId evidenceId = .ok r →
    verifyCustodyChain S.sha256 db' tenantId evidenceId = .ok r' →
    r.valid → r'.valid → r.headHash = r'.headHash →
      db.listCustodyEvents tenantId evidenceId = db'.listCustodyEvents tenantId evidenceId := by
  intro h
  obtain ⟨r₁, hr₁, hvalid₁, hhead₁⟩ := sampleCustody_verified "1"
  obtain ⟨r₂, hr₂, hvalid₂, hhead₂⟩ := sampleCustody_verified "2"
  have hhead : r₁.headHash = r₂.headHash := by
    rw [hhead₁, hhead₂, eventHash_sampleReading]
  have hsame := h sampleExportingVault _ _ _ _ r₁ r₂ sampleHash_injective.injOn hr₁ hr₂ hvalid₁
    hvalid₂ hhead
  rw [listCustodyEvents_sampleCustody, listCustodyEvents_sampleCustody] at hsame
  have hids : (sampleAcquisition "1").custodyEventId = (sampleAcquisition "2").custodyEventId :=
    congrArg EvidenceCustodyEvent.custodyEventId (List.cons.inj hsame).1
  exact absurd hids (by decide +kernel)

end Vault
