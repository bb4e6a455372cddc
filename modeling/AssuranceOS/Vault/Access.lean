/-
What a reading gives.

Reading an object is an access event, so `read_bytes` and `verify_integrity` write to the chain of
custody.  Where chains are linked, hashes do not collide and the id of the event is new, the event
can always be appended (`appendCustodyEvent_of_linked`), so that what they return depends on the
record and its object alone (`readBytes_eq`, `verifyIntegrity_eq`).
-/
import AssuranceOS.Vault.Keeping

namespace Vault

open Checked JsonText Adjudication

variable {sha256 : Bytes → String} {db : Database} {hex tenantId evidenceId : String}

variable {e : EvidenceCustodyEvent} {entry : Database.CustodyEntry}

theorem place_of_digest (hinj : Set.InjOn sha256 (Set.range canonicalJson)) {otherId : String}
    {p q : Option String} {f : EvidenceCustodyEvent}
    (h : (custodyChain sha256 tenantId evidenceId).digest p e =
      (custodyChain sha256 tenantId otherId).digest q f) :
    evidenceId = otherId ∧ e.sequenceNo = f.sequenceNo := by
  have hdocuments := text_injective (utf8_injective (hinj ⟨_, rfl⟩ ⟨_, rfl⟩ h))
  have hfield := get_sorted_congr (by simp) (by simp) hdocuments
  have hevidenceId := hfield "evidence_id"
  have hsequenceNo := hfield "sequence_no"
  simp only [get_cons, String.reduceEq, if_true, if_false, sorted_str, sorted_int,
    Value.str.injEq, Value.int.injEq, Nat.cast_inj] at hevidenceId hsequenceNo
  exact ⟨hevidenceId, hsequenceNo⟩

theorem mem_custodyOf :
    e ∈ db.custodyOf tenantId evidenceId ↔
      e ∈ db.custody ∧ e.tenantId = tenantId ∧ e.evidenceId = evidenceId := by
  simp [Database.custodyOf, EvidenceCustodyEvent.owner]

theorem sequenceNo_lt_next (h : ChainsLinked sha256 db)
    (he : e ∈ db.custodyOf tenantId evidenceId) :
    e.sequenceNo < (db.nextCustodyEvent sha256 hex tenantId evidenceId entry).sequenceNo := by
  have hlinked : (custodyChain sha256 tenantId evidenceId).Linked none 1
      (db.custodyOf tenantId evidenceId ++
        [db.nextCustodyEvent sha256 hex tenantId evidenceId entry]) :=
    linked_nextCustodyEvent h hex entry
  have hincreasing := linked_increasing hlinked
  rw [List.pairwise_append] at hincreasing
  exact hincreasing.2.2 e he _ (List.mem_singleton_self _)

theorem appendable_next (hinj : Set.InjOn sha256 (Set.range canonicalJson))
    (h : ChainsLinked sha256 db)
    (hid : newId "cst" hex ∉ db.custody.map EvidenceCustodyEvent.custodyEventId) :
    Appendable db (db.nextCustodyEvent sha256 hex tenantId evidenceId entry) := by
  set next := db.nextCustodyEvent sha256 hex tenantId evidenceId entry with hnext
  have hlater : ∀ x ∈ db.custody, x.tenantId = tenantId → x.evidenceId = evidenceId →
      x.sequenceNo < next.sequenceNo := by
    intro x hx htenant hevidence
    exact sequenceNo_lt_next h (mem_custodyOf.mpr ⟨hx, htenant, hevidence⟩)
  refine ⟨fun x hx hsame => ?_, fun x hx hsame => ?_, hid⟩
  · obtain ⟨htenant, hevidence, hnumber⟩ : x.tenantId = tenantId ∧ x.evidenceId = evidenceId ∧
        x.sequenceNo = next.sequenceNo := by simpa [hnext, Database.nextCustodyEvent] using hsame
    have := hlater x hx htenant hevidence
    omega
  · obtain ⟨htenant, hhash⟩ : x.tenantId = tenantId ∧ x.eventHash = next.eventHash := by
      simpa [hnext, Database.nextCustodyEvent] using hsame
    -- both hashes are digests, each in the chain of its record
    have hmem := mem_custodyOf.mpr ⟨hx, htenant, rfl⟩
    obtain ⟨p, hp⟩ := (h tenantId x.evidenceId).exists_digest hmem
    have hlinked : (custodyChain sha256 tenantId evidenceId).Linked none 1
        (db.custodyOf tenantId evidenceId ++ [next]) := linked_nextCustodyEvent h hex entry
    obtain ⟨q, hq⟩ := hlinked.exists_digest (List.mem_append_right _ (List.mem_singleton_self _))
    have hsame : (custodyChain sha256 tenantId x.evidenceId).digest p x =
        (custodyChain sha256 tenantId evidenceId).digest q next :=
      hp.symm.trans (hhash.trans hq)
    obtain ⟨hevidence, hnumber⟩ := place_of_digest hinj hsame
    have := hlater x hx htenant hevidence
    omega

/-- **Appending.**  The next event can be appended. -/
theorem appendCustodyEvent_of_linked (hinj : Set.InjOn sha256 (Set.range canonicalJson))
    (h : ChainsLinked sha256 db)
    (hid : newId "cst" hex ∉ db.custody.map EvidenceCustodyEvent.custodyEventId)
    (hrecord : (db.get tenantId evidenceId true).isSome) :
    db.appendCustodyEvent sha256 hex tenantId evidenceId entry =
      .ok ({ db with
          custody := db.custody ++ [db.nextCustodyEvent sha256 hex tenantId evidenceId entry] },
        db.nextCustodyEvent sha256 hex tenantId evidenceId entry) :=
  appendCustodyEvent_eq_ok.mpr ⟨hrecord, appendable_next hinj h hid, rfl, rfl⟩

theorem newId_injective (kind : String) : Function.Injective (newId kind) := by
  intro a b h
  have hlist := congrArg String.toList h
  simp only [newId, String.toList_append, List.append_cancel_left_eq] at hlist
  exact String.toList_injective hlist

/-- Events with the ids of `ambient` from `n` on can be appended, one after another. -/
structure Ready (sha256 : Bytes → String) (ambient : ℕ → Ambient) (n : ℕ) (db : Database) :
    Prop where
  linked : ChainsLinked sha256 db
  unique : Unique db
  distinct : Function.Injective fun i => (ambient i).hex 0
  unused : ∀ i, n ≤ i →
    newId "cst" ((ambient i).hex 0) ∉ db.custody.map EvidenceCustodyEvent.custodyEventId

section Access

variable {S : EvidenceVault} {ambient : ℕ → Ambient} {n : ℕ} {v : VaultState} {r : EvidenceRecord}

theorem Ready.next (h : Ready sha256 ambient n db) : Ready sha256 ambient (n + 1) db where
  linked := h.linked
  unique := h.unique
  distinct := h.distinct
  unused i hi := h.unused i (by omega)

/-- **One access.** -/
theorem Ready.append {db' : Database} (h : Ready sha256 ambient n db)
    (happend : db.appendCustodyEvent sha256 ((ambient n).hex 0) tenantId evidenceId entry =
      .ok (db', e)) : Ready sha256 ambient (n + 1) db' := by
  obtain ⟨hwrite, -⟩ := appendCustodyEvent_writes happend
  refine ⟨h.linked.write hwrite, h.unique.write hwrite, h.distinct, fun i hi => ?_⟩
  obtain ⟨-, -, rfl, rfl⟩ := appendCustodyEvent_eq_ok.mp happend
  rw [List.map_append, List.mem_append, not_or]
  refine ⟨h.unused i (by omega), fun hmem => ?_⟩
  have heq : newId "cst" ((ambient i).hex 0) = newId "cst" ((ambient n).hex 0) :=
    List.mem_singleton.mp hmem
  have hindex : i = n := h.distinct (newId_injective "cst" heq)
  omega

def objectOf (files : List StoredFile) (r : EvidenceRecord) : Except VaultError Bytes := do
  let key ← ofOption (.noStoredObject r.evidenceId) r.storageKey
  LocalObjectStore.read files r.tenantId key

def SameObject (files files' : List StoredFile) (r : EvidenceRecord) : Prop :=
  ∀ key ∈ r.storageKey, ∀ p, LocalObjectStore.path r.tenantId key = .ok p →
    fileAt files p = fileAt files' p

theorem getActiveRecord_of_mem (h : Unique db) (hr : r ∈ db.evidence) :
    EvidenceVault.getActiveRecord db r.tenantId r.evidenceId =
      if r.Active then .ok r else .error (.evidenceDeleted r.evidenceId) := by
  unfold EvidenceVault.getActiveRecord
  rw [h.get hr]
  by_cases hactive : r.Active
  · simp [ofOption, require, hactive, bind, Except.bind, pure, Except.pure]
  · simp [ofOption, require, hactive, bind, Except.bind]

theorem get_of_active (h : Unique db) (hr : r ∈ db.evidence) (hactive : r.Active) :
    db.get r.tenantId r.evidenceId = some r := by
  cases hget : db.get r.tenantId r.evidenceId with
  | none =>
    have hnone := List.find?_eq_none.mp hget r hr
    simp [hactive] at hnone
  | some x =>
    obtain ⟨hx, -, hid, -⟩ := get_eq_some hget
    rw [h.eq_of_id hx hr hid]

theorem Ready.append_of_mem (hinj : Set.InjOn sha256 (Set.range canonicalJson))
    (h : Ready sha256 ambient n db) (hr : r ∈ db.evidence) (entry : Database.CustodyEntry) :
    ∃ db' e, db.appendCustodyEvent sha256 ((ambient n).hex 0) r.tenantId r.evidenceId entry =
        .ok (db', e) ∧ Ready sha256 ambient (n + 1) db' ∧ db'.evidence = db.evidence := by
  have hfound : (db.get r.tenantId r.evidenceId true).isSome := by
    rw [h.unique.get hr]
    rfl
  have happend : db.appendCustodyEvent sha256 ((ambient n).hex 0) r.tenantId r.evidenceId entry =
      .ok _ := appendCustodyEvent_of_linked hinj h.linked (h.unused n le_rfl) hfound
  exact ⟨_, _, happend, h.append happend, rfl⟩

/-- **Reading.**  The payload is the object of the record, whatever the chains hold. -/
theorem readBytes_eq (hinj : Set.InjOn S.sha256 (Set.range canonicalJson))
    (h : Ready S.sha256 ambient n v.db) (hr : r ∈ v.db.evidence) (hactive : r.Active)
    (actorId actorType purpose : String) :
    ∃ db', Ready S.sha256 ambient (n + 1) db' ∧ db'.evidence = v.db.evidence ∧
      S.readBytes v (ambient n) r.tenantId r.evidenceId actorId actorType purpose =
        (objectOf v.files r).map fun payload => (payload, db') := by
  unfold EvidenceVault.readBytes objectOf
  rw [getActiveRecord_of_mem h.unique hr, if_pos hactive]
  rcases hkey : r.storageKey with _ | key
  · refine ⟨v.db, h.next, rfl, ?_⟩
    simp [ofOption, hkey, bind, Except.bind, Except.map]
  · rcases hread : LocalObjectStore.read v.files r.tenantId key with error | payload
    · refine ⟨v.db, h.next, rfl, ?_⟩
      simp [ofOption, hkey, hread, bind, Except.bind, Except.map]
    · obtain ⟨db', e, happend, hready, hevidence⟩ := h.append_of_mem hinj hr
        { action := "accessed"
          actorType := actorType
          actorId := actorId
          occurredAt := (ambient n).clock 0
          details :=
            { entries := [("purpose", .str purpose), ("bytes_read", .int payload.length)] } }
      refine ⟨db', hready, hevidence, ?_⟩
      simp [ofOption, hkey, hread, happend, bind, Except.bind, Except.map, pure, Except.pure]

/-- A reading of a stored object appends one event. -/
theorem readBytes_appends (hinj : Set.InjOn S.sha256 (Set.range canonicalJson))
    (h : ChainsLinked S.sha256 v.db) {once : Ambient} {key : String} {payload : Bytes}
    (hid : newId "cst" (once.hex 0) ∉ v.db.custody.map EvidenceCustodyEvent.custodyEventId)
    (hrecord : (v.db.get tenantId evidenceId true).isSome)
    (hactive : EvidenceVault.getActiveRecord v.db tenantId evidenceId = .ok r)
    (hkey : r.storageKey = some key)
    (hread : LocalObjectStore.read v.files tenantId key = .ok payload)
    (actorId actorType purpose : String) :
    ∃ e, S.readBytes v once tenantId evidenceId actorId actorType purpose =
      .ok (payload, { v.db with custody := v.db.custody ++ [e] }) := by
  obtain ⟨e, happend⟩ : ∃ e, v.db.appendCustodyEvent S.sha256 (once.hex 0) tenantId evidenceId
      { action := "accessed"
        actorType := actorType
        actorId := actorId
        occurredAt := once.clock 0
        details :=
          { entries := [("purpose", .str purpose), ("bytes_read", .int payload.length)] } } =
      .ok ({ v.db with custody := v.db.custody ++ [e] }, e) :=
    ⟨_, appendCustodyEvent_of_linked hinj h hid hrecord⟩
  refine ⟨e, ?_⟩
  unfold EvidenceVault.readBytes
  simp only [hactive, hkey, hread, happend, ofOption, bind, Except.bind, pure, Except.pure]

variable {files files' : List StoredFile} {key : String} {v' : VaultState}

theorem objectOf_congr (h : SameObject files files' r) :
    objectOf files r = objectOf files' r := by
  unfold objectOf
  rcases hkey : r.storageKey with _ | key
  · rfl
  · show LocalObjectStore.read files r.tenantId key = LocalObjectStore.read files' r.tenantId key
    unfold LocalObjectStore.read
    rcases hpath : LocalObjectStore.path r.tenantId key with error | p
    · rfl
    · have hfile := h key hkey p hpath
      unfold fileAt at hfile
      simp only [bind, Except.bind, hfile]

theorem stat_congr (h : SameObject files files' r) (hkey : r.storageKey = some key) :
    LocalObjectStore.stat sha256 files r.tenantId key =
      LocalObjectStore.stat sha256 files' r.tenantId key := by
  unfold LocalObjectStore.stat
  rcases hpath : LocalObjectStore.path r.tenantId key with error | p
  · rfl
  · have hfile := h key hkey p hpath
    unfold fileAt at hfile
    simp only [bind, Except.bind, hfile]

theorem examine_congr (h : SameObject v.files v'.files r) (hkey : r.storageKey = some key) :
    S.examine v r r.tenantId key = S.examine v' r r.tenantId key := by
  unfold EvidenceVault.examine LocalObjectStore.verify
  rw [stat_congr h hkey]

/-- What `verify_integrity` reports of a record. -/
def EvidenceVault.reportOn (S : EvidenceVault) (v : VaultState) (now : DateTime)
    (r : EvidenceRecord) : Except VaultError (IntegrityReport × Option VaultError) := do
  require r.Active (.evidenceDeleted r.evidenceId)
  let key ← ofOption (.noStoredObject r.evidenceId) r.storageKey
  let (status, stored, failure) ← S.examine v r r.tenantId key
  return (⟨r.evidenceId, status, r.contentSha256, stored.map (·.sha256), r.sizeBytes,
    stored.map (·.sizeBytes), now⟩, failure)

theorem reportOn_congr {now : DateTime} (h : SameObject v.files v'.files r) :
    S.reportOn v now r = S.reportOn v' now r := by
  unfold EvidenceVault.reportOn
  rcases hkey : r.storageKey with _ | key
  · rfl
  · simp only [ofOption, bind, Except.bind, examine_congr h hkey]

/-- **Verifying.**  So is the report. -/
theorem verifyIntegrity_eq (hinj : Set.InjOn S.sha256 (Set.range canonicalJson))
    (h : Ready S.sha256 ambient n v.db) (hr : r ∈ v.db.evidence) (actorId : String) :
    (S.verifyIntegrity v (ambient n) r.tenantId r.evidenceId actorId).map
        (fun report => (report.1, report.2.1)) =
      S.reportOn v ((ambient n).clock 0) r := by
  unfold EvidenceVault.verifyIntegrity EvidenceVault.reportOn
  rw [getActiveRecord_of_mem h.unique hr]
  by_cases hactive : r.Active
  · rcases hkey : r.storageKey with _ | key
    · simp [ofOption, require, hactive, hkey, bind, Except.bind, Except.map]
    · rcases hexamine : S.examine v r r.tenantId key with error | ⟨status, stored, failure⟩
      · simp [ofOption, require, hactive, hkey, hexamine, bind, Except.bind, Except.map]
      · -- the record is rewritten before the event is appended
        set r' := { r with integrityStatus := status, lastVerifiedAt := some ((ambient n).clock 0) }
          with hr'
        have hlater : Later r r' := ⟨rfl, id⟩
        have hwrite : Write S.sha256 v.db (v.db.putEvidence r') := .rewrite r' hr hlater
        have hready : Ready S.sha256 ambient n (v.db.putEvidence r') :=
          ⟨h.linked.write hwrite, h.unique.write hwrite, h.distinct, h.unused⟩
        have hmem : r' ∈ (v.db.putEvidence r').evidence := Table.mem_put_self hr rfl
        have hcurrent : ofOption (VaultError.evidenceNotFound r.evidenceId)
            (v.db.get r.tenantId r.evidenceId) = .ok r := by
          rw [get_of_active h.unique hr hactive]
          rfl
        have hstored : ofOption (VaultError.noStoredObject r.evidenceId) r.storageKey = .ok key := by
          rw [hkey]
          rfl
        have happend : ∀ entry, ∃ db' e, (v.db.putEvidence r').appendCustodyEvent S.sha256
            ((ambient n).hex 0) r.tenantId r.evidenceId entry = .ok (db', e) := by
          intro entry
          obtain ⟨db', e, happend, -, -⟩ := hready.append_of_mem hinj hmem entry
          exact ⟨db', e, happend⟩
        simp only [require, hactive, hstored, hexamine, hcurrent, bind, Except.bind, if_true]
        obtain ⟨db', e, happend⟩ := happend _
        rw [happend]
        simp only [ofOption, hexamine]
        rfl
  · simp [require, hactive, bind, Except.bind, Except.map]

end Access

end Vault
