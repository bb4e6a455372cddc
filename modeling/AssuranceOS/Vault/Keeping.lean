/-
The chains of custody that the operations write, and what every run of them keeps.

`ChainsLinked`: the events of every evidence record stand in the table in the order of a linked chain,
so that every chain verifies after every run (`run_chainsLinked`).  `Unique` is what the constraints of
`evidence_records` give, tombstones included, and `ObjectsKept` says that the object of every active
record is in the store, with its digest and its size (`run_unique`, `run_objectsKept`).
-/
import AssuranceOS.Vault.Chain
import AssuranceOS.Vault.Operations

namespace Vault

open Report Adjudication

variable {sha256 : Bytes → String} {db db' : Database} {tenantId evidenceId : String}

abbrev Database.custodyOf (db : Database) (tenantId evidenceId : String) :
    List EvidenceCustodyEvent :=
  Table.ownedBy EvidenceCustodyEvent.owner (tenantId, evidenceId) db.custody

def ChainsLinked (sha256 : Bytes → String) (db : Database) : Prop :=
  ∀ tenantId evidenceId,
    (custodyChain sha256 tenantId evidenceId).Linked none 1 (db.custodyOf tenantId evidenceId)

theorem custody_filter_eq (db : Database) (tenantId evidenceId : String) :
    (db.custody.filter fun e => e.tenantId = tenantId ∧ e.evidenceId = evidenceId) =
      db.custodyOf tenantId evidenceId := by
  simp [Table.ownedBy, EvidenceCustodyEvent.owner, Prod.mk.injEq]

section Order

variable {events : List EvidenceCustodyEvent}
  (h : (custodyChain sha256 tenantId evidenceId).Linked none 1 events)
include h

theorem linked_increasing : events.Pairwise fun x y => x.sequenceNo < y.sequenceNo := by
  have hnumbers : events.map (·.sequenceNo) = List.range' 1 events.length := h.numbers
  rw [← List.pairwise_map, hnumbers]
  exact List.pairwise_lt_range'

theorem orderBy_linked : orderBy (·.sequenceNo) events = events :=
  List.Pairwise.insertionSort_eq ((linked_increasing h).imp fun hlt => le_of_lt hlt)

theorem head?_orderByDesc_linked :
    (orderByDesc (·.sequenceNo) events).head? = events.getLast? := by
  have hperm : (orderByDesc (·.sequenceNo) events).Perm events.reverse :=
    (List.perm_insertionSort _ _).trans (List.reverse_perm events).symm
  have hsorted : (orderByDesc (·.sequenceNo) events).Pairwise fun x y =>
      y.sequenceNo ≤ x.sequenceNo :=
    List.pairwise_insertionSort _ _
  have hreverse : events.reverse.Pairwise fun x y => y.sequenceNo ≤ x.sequenceNo := by
    rw [List.pairwise_reverse]
    exact (linked_increasing h).imp fun hlt => le_of_lt hlt
  have hnodup : (events.map (·.sequenceNo)).Nodup :=
    List.pairwise_map.mpr ((linked_increasing h).imp fun hlt => ne_of_lt hlt)
  have heq : orderByDesc (·.sequenceNo) events = events.reverse := by
    refine hperm.eq_of_pairwise (fun x y hx hy hxy hyx => ?_) hsorted hreverse
    exact Table.eq_of_key_eq hnodup (mem_orderByDesc.mp hx) (List.mem_reverse.mp hy)
      (le_antisymm hyx hxy)
  rw [heq, List.head?_reverse]

end Order

theorem listCustodyEvents_eq (h : ChainsLinked sha256 db) :
    db.listCustodyEvents tenantId evidenceId = db.custodyOf tenantId evidenceId := by
  rw [Database.listCustodyEvents, custody_filter_eq]
  exact orderBy_linked (h tenantId evidenceId)

theorem lastCustodyEvent_eq (h : ChainsLinked sha256 db) :
    db.lastCustodyEvent tenantId evidenceId = (db.custodyOf tenantId evidenceId).getLast? := by
  rw [Database.lastCustodyEvent, custody_filter_eq]
  exact head?_orderByDesc_linked (h tenantId evidenceId)

theorem linked_nextCustodyEvent (h : ChainsLinked sha256 db) (hex : String)
    (entry : Database.CustodyEntry) :
    (custodyChain sha256 tenantId evidenceId).Linked none 1 (db.custodyOf tenantId evidenceId ++
      [db.nextCustodyEvent sha256 hex tenantId evidenceId entry]) := by
  have hchain := h tenantId evidenceId
  have hlast : db.lastCustodyEvent tenantId evidenceId =
      (db.custodyOf tenantId evidenceId).getLast? := lastCustodyEvent_eq h
  generalize db.custodyOf tenantId evidenceId = events at hchain hlast
  refine HashChain.linked_concat.mpr ⟨hchain, ?_⟩
  rw [head_eq_getLast?, ← hlast]
  refine ⟨?_, rfl, rfl⟩
  have hnumber : (db.nextCustodyEvent sha256 hex tenantId evidenceId entry).sequenceNo =
      1 + events.length := by
    cases events using List.reverseRecOn with
    | nil => simp [Database.nextCustodyEvent, hlast]
    | append_singleton events e =>
      obtain ⟨-, he, -⟩ := HashChain.linked_concat.mp hchain
      have he : e.sequenceNo = 1 + events.length := he
      simp [Database.nextCustodyEvent, hlast, he]
      omega
  exact hnumber

theorem ChainsLinked.append (h : ChainsLinked sha256 db) (hex t e : String)
    (entry : Database.CustodyEntry) :
    ChainsLinked sha256
      { db with custody := db.custody ++ [db.nextCustodyEvent sha256 hex t e entry] } := by
  intro tenantId evidenceId
  by_cases howner : (t, e) = (tenantId, evidenceId)
  · obtain ⟨rfl, rfl⟩ := Prod.mk.inj howner
    have hrow : (db.nextCustodyEvent sha256 hex t e entry).owner = (t, e) := rfl
    rw [Database.custodyOf, Table.ownedBy_append_of_eq hrow]
    exact linked_nextCustodyEvent h hex entry
  · have hrow : (db.nextCustodyEvent sha256 hex t e entry).owner ≠ (tenantId, evidenceId) :=
      howner
    rw [Database.custodyOf, Table.ownedBy_append_of_ne hrow]
    exact h tenantId evidenceId

/-- **One write.** -/
theorem ChainsLinked.write (h : ChainsLinked sha256 db) (hwrite : Write sha256 db db') :
    ChainsLinked sha256 db' := by
  cases hwrite with
  | record r _ => exact h
  | rewrite r' _ _ => exact h
  | edge t _ => exact h
  | events events outbox => exact h
  | custody hex t e entry _ _ => exact h.append hex t e entry

theorem VaultState.Fresh.chainsLinked {v : VaultState} (hv : v.Fresh) :
    ChainsLinked sha256 v.db := by
  intro tenantId evidenceId
  rw [Database.custodyOf, hv.custody]
  trivial

/-- **Every run.** -/
theorem run_chainsLinked {S : ExportingVault} {v : VaultState} (hv : v.Fresh) (ops : List Op) :
    ChainsLinked S.sha256 (S.run v ops).db :=
  run_writes_invariant (fun _ _ hwrite h => h.write hwrite) hv.chainsLinked ops

/-- No two records have one id, or one acquisition key in one tenant. -/
structure Unique (db : Database) : Prop where
  ids : (db.evidence.map EvidenceRecord.evidenceId).Nodup
  keys : ∀ r ∈ db.evidence, ∀ r' ∈ db.evidence, Database.KeyTaken r r' → r = r'

section Unique

variable {sha256 : Bytes → String} {db db' : Database} {r : EvidenceRecord}
variable {r' : EvidenceRecord}

theorem Unique.eq_of_id (h : Unique db) (hr : r ∈ db.evidence) (hr' : r' ∈ db.evidence)
    (hid : r.evidenceId = r'.evidenceId) : r = r' :=
  Table.eq_of_key_eq h.ids hr hr' hid

theorem later_of_mem_put {x : EvidenceRecord} (hr : r ∈ db.evidence) (hlater : Later r r')
    (hdb : db'.evidence = (db.putEvidence r').evidence) (hx : x ∈ db'.evidence) :
    ∃ y ∈ db.evidence, Later y x := by
  rw [hdb] at hx
  rcases Table.eq_or_mem_of_mem_put hx with rfl | ⟨hx, -⟩
  · exact ⟨r, hr, hlater⟩
  · exact ⟨x, hx, .refl x⟩

theorem Unique.write (h : Unique db) (hwrite : Write sha256 db db') : Unique db' := by
  cases hwrite with
  | edge t _ => exact ⟨h.ids, h.keys⟩
  | custody hex t e entry _ _ => exact ⟨h.ids, h.keys⟩
  | events events outbox => exact ⟨h.ids, h.keys⟩
  | record r insertable =>
    refine ⟨Table.nodup_append_of_not_mem h.ids insertable.id, fun x hx y hy htaken => ?_⟩
    rcases List.mem_append.mp hx with hold | hnew <;> rcases List.mem_append.mp hy with hold' | hnew'
    · exact h.keys x hold y hold' htaken
    · obtain rfl := List.mem_singleton.mp hnew'
      obtain ⟨htenant, hkey, hsame⟩ := htaken
      exact absurd ⟨htenant.symm, hsame ▸ hkey, hsame.symm⟩ (insertable.key x hold)
    · obtain rfl := List.mem_singleton.mp hnew
      exact absurd htaken (insertable.key y hold')
    · rw [List.mem_singleton.mp hnew, List.mem_singleton.mp hnew']
  | @rewrite r r' mem later =>
    have hids : ((db.putEvidence r').evidence.map EvidenceRecord.evidenceId).Nodup := by
      rw [Database.putEvidence, Table.map_put_key]
      exact h.ids
    refine ⟨hids, fun x hx y hy htaken => ?_⟩
    obtain ⟨x₀, hx₀, hlx⟩ := later_of_mem_put mem later rfl hx
    obtain ⟨y₀, hy₀, hly⟩ := later_of_mem_put mem later rfl hy
    obtain ⟨htenant, hkey, hsame⟩ := htaken
    have htaken₀ : Database.KeyTaken x₀ y₀ :=
      ⟨by rw [← hly.tenantId, ← hlx.tenantId, htenant], by rwa [← hlx.acquisitionKey],
        by rw [← hly.acquisitionKey, ← hlx.acquisitionKey, hsame]⟩
    have heq := h.keys x₀ hx₀ y₀ hy₀ htaken₀
    refine Table.eq_of_key_eq hids hx hy ?_
    rw [hlx.evidenceId, hly.evidenceId, heq]

theorem Unique.get (h : Unique db) (hr : r ∈ db.evidence) :
    db.get r.tenantId r.evidenceId true = some r := by
  cases hget : db.get r.tenantId r.evidenceId true with
  | none =>
    have hnone := List.find?_eq_none.mp hget r hr
    simp at hnone
  | some x =>
    obtain ⟨hx, -, hid, -⟩ := get_eq_some hget
    rw [h.eq_of_id hx hr hid]

end Unique

theorem run_unique {S : ExportingVault} {v : VaultState} (hv : v.Fresh) (ops : List Op) :
    Unique (S.run v ops).db :=
  run_writes_invariant (fun _ _ hwrite h => h.write hwrite)
    ⟨by simp [hv.evidence], by simp [hv.evidence]⟩ ops

/-- The object of the record is in the store, with the digest and the size of the record. -/
structure Kept (sha256 : Bytes → String) (files : List StoredFile) (r : EvidenceRecord) :
    Prop where
  segment : isSegment r.tenantId
  isDigest : IsDigest r.contentSha256
  storageKey : r.storageKey = some (keyOf r.contentSha256)
  held : ∃ f, fileAt files (r.tenantId, r.contentSha256) = some f ∧
    sha256 f.bytes = r.contentSha256 ∧ f.bytes.length = r.sizeBytes

def ObjectsKept (sha256 : Bytes → String) (v : VaultState) : Prop :=
  ∀ r ∈ v.db.evidence, r.Active → Kept sha256 v.files r

section Kept

variable {sha256 : Bytes → String} {files files' : List StoredFile} {r r' : EvidenceRecord}

theorem Kept.later (h : Kept sha256 files r) (hlater : Later r r') : Kept sha256 files r' := by
  obtain ⟨hsegment, hdigest, hkey, hheld⟩ := h
  rw [← hlater.tenantId] at hsegment hheld
  rw [← hlater.contentSha256] at hdigest hkey hheld
  rw [← hlater.sizeBytes] at hheld
  exact ⟨hsegment, hdigest, hlater.storageKey.trans hkey, hheld⟩

theorem Kept.mono (h : Kept sha256 files r)
    (hkept : ∀ f, fileAt files (r.tenantId, r.contentSha256) = some f →
      fileAt files' (r.tenantId, r.contentSha256) = some f) : Kept sha256 files' r := by
  obtain ⟨f, hf, hsha, hsize⟩ := h.held
  exact ⟨h.segment, h.isDigest, h.storageKey, f, hkept f hf, hsha, hsize⟩

theorem Stored.kept_record {S : EvidenceVault} {job : Job} {stored : StoredObject}
    {now : DateTime} {hex : Nat → String}
    (h : Stored S.sha256 files files' job.tenantId job.payload (S.sha256 job.payload) stored) :
    Kept S.sha256 files' (job.record S stored now hex) := by
  obtain ⟨f, hf, hsha, hsize⟩ := h.held
  refine ⟨by simpa using h.segment, by simpa using h.isDigest, by simp [h.key], f, ?_, ?_, ?_⟩
  · simpa using hf
  · simpa using hsha
  · rw [hsize, Job.record_sizeBytes, h.size]

end Kept

section Steps

variable {S : EvidenceVault} {v : VaultState} {db : Database} {ambient : Ambient}

theorem ObjectsKept.rewrites {sha256 : Bytes → String} (h : ObjectsKept sha256 v)
    (hdb : ∀ x ∈ db.evidence, ∃ r ∈ v.db.evidence, Later r x) :
    ObjectsKept sha256 { v with db := db } := by
  intro x hx hactive
  obtain ⟨r, hr, hlater⟩ := hdb x hx
  exact (h r hr (hlater.active hactive)).later hlater

variable {job : Job} {v' : VaultState}

/-- What an acquisition leaves, when it returns an item: the acquisition has been made
before, or it is new and its object is stored. -/
theorem acquireBytes_eq_ok {item : EvidenceItem}
    (h : S.acquireBytes v ambient job = (.ok item, v')) :
    (findAcquisition v.db job = some item ∧ item.contentSha256 = S.sha256 job.payload ∧ v' = v) ∨
      ∃ stored files, Stored S.sha256 v.files files job.tenantId job.payload
          (S.sha256 job.payload) stored ∧
        v'.files = files ∧ findAcquisition v.db job = none ∧
        item = job.record S stored (ambient.clock 0) ambient.hex ∧
        v'.db.evidence = v.db.evidence ++ [item] ∧ Writes S.sha256 v.db v'.db := by
  unfold EvidenceVault.acquireBytes at h
  split at h
  · cases h
  · rename_i existing hreplayed
    cases h
    obtain ⟨hfound, hdigest⟩ := replayed_eq_ok hreplayed
    exact Or.inl ⟨hfound.symm, hdigest _ rfl, rfl⟩
  · rename_i hreplayed
    obtain ⟨hnone, -⟩ := replayed_eq_ok hreplayed
    split at h
    · cases h
    · rename_i stored files hput
      split at h
      · cases h
      · rename_i hcommit
        cases h
        refine Or.inr ⟨stored, files, putBytes_stored hput, rfl, hnone.symm, ?_⟩
        rcases commit_cases hcommit with ⟨hfound, -, -⟩ | ⟨-, hitem, -, hwrites, hevidence⟩
        · rw [← hnone] at hfound
          cases hfound
        · exact ⟨hitem, hevidence, hwrites⟩

theorem acquireBytes_error {e : VaultError} (h : S.acquireBytes v ambient job = (.error e, v')) :
    v'.db = v.db ∧ ∀ p f, fileAt v.files p = some f → fileAt v'.files p = some f := by
  unfold EvidenceVault.acquireBytes at h
  split at h
  · cases h
    exact ⟨rfl, fun _ _ hf => hf⟩
  · cases h
  · split at h
    · cases h
      exact ⟨rfl, fun _ _ hf => hf⟩
    · rename_i stored files hput
      split at h
      · cases h
        exact ⟨rfl, (putBytes_stored hput).kept⟩
      · cases h

theorem ObjectsKept.acquireBytes (h : ObjectsKept S.sha256 v) (job : Job) :
    ObjectsKept S.sha256 (S.acquireBytes v ambient job).2 := by
  rcases hrun : S.acquireBytes v ambient job with ⟨e | item, v'⟩
  · obtain ⟨hdb, hkept⟩ := acquireBytes_error hrun
    intro r hr hactive
    rw [hdb] at hr
    exact (h r hr hactive).mono fun f hf => hkept _ f hf
  · rcases acquireBytes_eq_ok hrun with ⟨-, -, rfl⟩ | ⟨stored, files, hstored, hfiles, -, hitem,
      hevidence, -⟩
    · exact h
    · intro r hr hactive
      rw [hevidence] at hr
      rw [hfiles]
      rcases List.mem_append.mp hr with hr | hr
      · exact (h r hr hactive).mono fun f hf => hstored.kept _ f hf
      · rw [List.mem_singleton.mp hr, hitem]
        exact hstored.kept_record

theorem fileAt_sweepObjects {tenantId : String} {activeKeys : List String} {cutoff : DateTime}
    {objects : List StoredObject} : ∀ {files : List StoredFile},
    (∀ object ∈ objects, ∃ digest, object.key = keyOf digest) →
    ∀ {p : String × String} {f : StoredFile}, fileAt files p = some f →
      (p.1 = tenantId → keyOf p.2 ∈ activeKeys) →
      fileAt (EvidenceVault.sweepObjects tenantId activeKeys cutoff files objects).2 p =
        some f := by
  induction objects with
  | nil =>
    intro files _ p f hf _
    exact hf
  | cons object objects ih =>
    intro files hkeys p f hf hactive
    unfold EvidenceVault.sweepObjects
    split
    case h_1 => exact hf
    case h_2 deleted files' hsweep =>
      refine ih (fun o ho => hkeys o (List.mem_cons_of_mem _ ho)) ?_ hactive
      unfold EvidenceVault.sweepObject at hsweep
      split at hsweep
      case isTrue =>
        cases hsweep
        exact hf
      case isFalse hcollected =>
        rw [not_or] at hcollected
        obtain ⟨digest, hkey⟩ := hkeys object List.mem_cons_self
        rw [hkey] at hsweep hcollected
        obtain ⟨captured, hcaptured, hat⟩ := delete_eq_ok hsweep
        cases objectKey?_keyOf_eq_some hcaptured
        have hne : p ≠ (tenantId, digest) := by
          rintro rfl
          exact hcollected.1 (hactive rfl)
        rw [hat, if_neg hne, hf]

theorem ObjectsKept.collectGarbage (h : ObjectsKept S.sha256 v) (tenantId : String)
    (cutoff : DateTime) : ObjectsKept S.sha256 (S.collectGarbage v tenantId cutoff).2 := by
  unfold EvidenceVault.collectGarbage
  simp only
  split
  · exact h
  · rename_i objects hobjects
    intro r hr hactive
    have hkept := h r hr hactive
    refine hkept.mono fun f hf => ?_
    refine fileAt_sweepObjects (fun o ho => iterObjects_key hobjects ho) hf fun htenant => ?_
    exact mem_activeStorageKeys.mpr ⟨r, hr, htenant, hactive, hkept.storageKey⟩

end Steps

section Runs

variable {S : ExportingVault} {v : VaultState}

theorem ObjectsKept.after {sha256 : Bytes → String} {α : Type} {f : α → Database}
    {result : Except VaultError α} (h : ObjectsKept sha256 v)
    (hresult : ∀ a, result = .ok a → ∀ x ∈ (f a).evidence, ∃ r ∈ v.db.evidence, Later r x) :
    ObjectsKept sha256 (v.after f result) := by
  cases result with
  | ok a => exact h.rewrites (hresult a rfl)
  | error e => exact h

/-- **One call.** -/
theorem ObjectsKept.step (h : ObjectsKept S.sha256 v) (op : Op) :
    ObjectsKept S.sha256 (S.step v op) := by
  have hsame : ∀ {db : Database}, db.evidence = v.db.evidence → ∀ x ∈ db.evidence,
      ∃ r ∈ v.db.evidence, Later r x := fun hdb x hx => ⟨x, hdb ▸ hx, .refl x⟩
  cases op with
  | ingestBytes ambient request =>
    unfold ExportingVault.step EvidenceVault.ingestBytes
    simp only
    split
    · exact h
    · exact h.acquireBytes _
  | createDerivative ambient request =>
    unfold ExportingVault.step EvidenceVault.createDerivative
    simp only
    split
    · exact h
    · exact h.acquireBytes _
  | readBytes ambient tenantId evidenceId actorId actorType purpose =>
    exact h.after fun a ha => hsame (readBytes_writes ha).2
  | verifyIntegrity ambient tenantId evidenceId actorId =>
    refine h.after fun a ha x hx => ?_
    obtain ⟨r, hr, r', hlater, -, -, hdb⟩ := verifyIntegrity_writes ha
    exact later_of_mem_put hr hlater hdb hx
  | setRetention ambient tenantId evidenceId actorId retentionUntil legalHold reason =>
    refine h.after fun a ha x hx => ?_
    obtain ⟨r, hr, -, -, -, hitem, -, hdb⟩ := setRetention_writes ha
    exact later_of_mem_put hr (hitem ▸ later_retention r _ _) hdb hx
  | purge ambient tenantId evidenceId actorId reason asOf =>
    refine h.after fun a ha x hx => ?_
    obtain ⟨r, hr, -, -, ⟨-, hdb⟩ | ⟨-, -, hlater, -, hdb⟩⟩ := purge_writes ha
    · exact ⟨x, hdb ▸ hx, .refl x⟩
    · exact later_of_mem_put hr hlater hdb hx
  | collectGarbage tenantId cutoff => exact h.collectGarbage tenantId cutoff
  | createExport ambient request =>
    exact h.after fun a ha => hsame (createExport_writes ha).2

/-- **Every run.** -/
theorem run_objectsKept (hv : v.Fresh) (ops : List Op) :
    ObjectsKept S.sha256 (S.run v ops) :=
  Runs.run_invariant_always (fun _ op h => h.step op)
    (fun r hr => by rw [hv.evidence] at hr; cases hr) ops

end Runs

end Vault
