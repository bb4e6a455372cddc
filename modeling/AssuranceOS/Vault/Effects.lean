/-
What the transactions of the vault write.

Every transaction is a path of single writes (`Write`): a new record, a record whose
retention or integrity changes, a lineage edge, the next event of a chain of custody, or
rows that no chain depends on.  Each operation has one lemma that says which record it
adds or rewrites.
-/
import AssuranceOS.Vault.Service
import Mathlib.Logic.Relation

namespace Vault

open Checked

section Rows

variable {sha256 : Bytes → String} {db db' : Database} {r : EvidenceRecord}

/-- What an insertion into `evidence_records` checks. -/
structure Insertable (db : Database) (r : EvidenceRecord) : Prop where
  tenant : r.tenantId ∈ db.tenants
  key : ∀ x ∈ db.evidence, ¬ Database.KeyTaken r x
  id : r.evidenceId ∉ db.evidence.map EvidenceRecord.evidenceId

theorem addEvidence_eq_ok (h : db.addEvidence r = .ok db') :
    Insertable db r ∧ db' = { db with evidence := db.evidence ++ [r] } := by
  unfold Database.addEvidence at h
  simp only [require_bind_eq_ok] at h
  obtain ⟨htenant, -, -, hkey, h⟩ := h
  rw [ofOption_bind_eq_ok] at h
  obtain ⟨rows, hrows, h⟩ := h
  rw [Table.insert?_eq_some] at hrows
  obtain ⟨hid, rfl⟩ := hrows
  cases h
  exact ⟨⟨htenant, hkey, hid⟩, rfl⟩

theorem addTransformation_eq_ok {t : EvidenceTransformation}
    (h : db.addTransformation t = .ok db') :
    t.transformationId ∉ db.transformations.map EvidenceTransformation.transformationId ∧
      db' = { db with transformations := db.transformations ++ [t] } := by
  unfold Database.addTransformation at h
  rw [require_bind_eq_ok] at h
  obtain ⟨-, h⟩ := h
  rw [ofOption_bind_eq_ok] at h
  obtain ⟨rows, hrows, h⟩ := h
  rw [Table.insert?_eq_some] at hrows
  obtain ⟨hid, rfl⟩ := hrows
  cases h
  exact ⟨hid, rfl⟩

/-- What an insertion into `evidence_custody_events` checks. -/
structure Appendable (db : Database) (e : EvidenceCustodyEvent) : Prop where
  sequence : ∀ x ∈ db.custody, (x.tenantId, x.evidenceId, x.sequenceNo) ≠
    (e.tenantId, e.evidenceId, e.sequenceNo)
  hash : ∀ x ∈ db.custody, (x.tenantId, x.eventHash) ≠ (e.tenantId, e.eventHash)
  id : e.custodyEventId ∉ db.custody.map EvidenceCustodyEvent.custodyEventId

theorem addCustodyEvent_eq_ok {e : EvidenceCustodyEvent} :
    db.addCustodyEvent e = .ok db' ↔
      Appendable db e ∧ db' = { db with custody := db.custody ++ [e] } := by
  unfold Database.addCustodyEvent
  simp only [require_bind_eq_ok, ofOption_bind_eq_ok, Table.insert?_eq_some]
  constructor
  · rintro ⟨hsequence, hhash, rows, ⟨hid, rfl⟩, h⟩
    cases h
    exact ⟨⟨hsequence, hhash, hid⟩, rfl⟩
  · rintro ⟨⟨hsequence, hhash, hid⟩, rfl⟩
    exact ⟨hsequence, hhash, _, ⟨hid, rfl⟩, rfl⟩

variable {hex key : String} {entry : Database.CustodyEntry} {job : Job}

theorem appendCustodyEvent_eq_ok {tenantId evidenceId : String} {e : EvidenceCustodyEvent} :
    db.appendCustodyEvent sha256 hex tenantId evidenceId entry = .ok (db', e) ↔
      (db.get tenantId evidenceId true).isSome ∧ Appendable db e ∧
        e = db.nextCustodyEvent sha256 hex tenantId evidenceId entry ∧
        db' = { db with custody := db.custody ++ [e] } := by
  unfold Database.appendCustodyEvent
  rw [ofOption_bind_eq_ok]
  constructor
  · rintro ⟨r, hr, h⟩
    rw [bind_eq_ok] at h
    obtain ⟨db₁, hadd, h⟩ := h
    cases h
    obtain ⟨happend, rfl⟩ := addCustodyEvent_eq_ok.mp hadd
    exact ⟨by simp [hr], happend, rfl, rfl⟩
  · rintro ⟨hr, happend, rfl, rfl⟩
    obtain ⟨r, hr⟩ := Option.isSome_iff_exists.mp hr
    refine ⟨r, hr, bind_eq_ok.mpr ⟨_, addCustodyEvent_eq_ok.mpr ⟨happend, rfl⟩, rfl⟩⟩

theorem appendDomainEvent_eq_ok {eventHex outboxHex eventType : String} {payload : Dict}
    (h : db.appendDomainEvent eventHex outboxHex r eventType payload = .ok db') :
    ∃ events outbox, db' = { db with auditEvents := events, outbox := outbox } := by
  unfold Database.appendDomainEvent Database.appendEvent Database.addOutbox at h
  rw [bind_eq_ok] at h
  obtain ⟨db₁, hevent, h⟩ := h
  rw [ofOption_bind_eq_ok] at hevent
  obtain ⟨events, -, hevent⟩ := hevent
  cases hevent
  rw [require_bind_eq_ok] at h
  obtain ⟨-, h⟩ := h
  rw [ofOption_bind_eq_ok] at h
  obtain ⟨outbox, -, h⟩ := h
  cases h
  exact ⟨events, outbox, rfl⟩

theorem get_eq_some {tenantId evidenceId : String} {deleted : Bool}
    (h : db.get tenantId evidenceId deleted = some r) :
    r ∈ db.evidence ∧ r.tenantId = tenantId ∧ r.evidenceId = evidenceId ∧
      (deleted ∨ r.Active) := by
  have hfound := List.find?_some h
  simp only [decide_eq_true_eq] at hfound
  exact ⟨List.mem_of_find?_eq_some h, hfound⟩

theorem getByAcquisitionKey_eq_some {tenantId : String}
    (h : db.getByAcquisitionKey tenantId key = some r) :
    r ∈ db.evidence ∧ r.tenantId = tenantId ∧ r.acquisitionKey = some key := by
  have hfound := List.find?_some h
  simp only [decide_eq_true_eq] at hfound
  exact ⟨List.mem_of_find?_eq_some h, hfound⟩

theorem mem_activeStorageKeys {tenantId : String} :
    key ∈ db.activeStorageKeys tenantId ↔
      ∃ r ∈ db.evidence, r.tenantId = tenantId ∧ r.Active ∧ r.storageKey = some key := by
  simp [Database.activeStorageKeys, and_assoc]

theorem findAcquisition_eq_some (h : findAcquisition db job = some r) :
    r ∈ db.evidence ∧ r.tenantId = job.tenantId ∧ r.acquisitionKey = job.acquisitionKey ∧
      PyString.truthy job.acquisitionKey := by
  unfold findAcquisition at h
  split at h
  · rename_i htruthy
    obtain ⟨hmem, htenant, hkey⟩ := getByAcquisitionKey_eq_some h
    refine ⟨hmem, htenant, ?_, htruthy⟩
    rw [hkey]
    cases hk : job.acquisitionKey with
    | none => exact absurd htruthy (by simp [hk, PyString.truthy])
    | some key => rfl
  · cases h

theorem replayed_eq_ok {digest : String} {found : Option EvidenceItem}
    (h : replayed db job digest = .ok found) :
    found = findAcquisition db job ∧ ∀ r ∈ found, r.contentSha256 = digest := by
  unfold replayed at h
  split at h
  · rename_i hnone
    cases h
    exact ⟨hnone.symm, by simp⟩
  · rename_i existing hfound
    rw [require_bind_eq_ok] at h
    obtain ⟨hdigest, h⟩ := h
    cases h
    refine ⟨hfound.symm, fun r hr => ?_⟩
    rw [← Option.some.inj hr]
    exact hdigest

theorem readIngest_eq_ok {S : EvidenceVault} {request : IngestRequest}
    (h : S.readIngest db request = .ok job) :
    ∃ engagementId tainted metadata, job = .original
      { request with engagementId := engagementId, tainted := tainted, metadata := metadata } := by
  unfold EvidenceVault.readIngest at h
  rw [bind_eq_ok] at h
  obtain ⟨⟨tainted, metadata⟩, -, h⟩ := h
  rw [ofOption_bind_eq_ok] at h
  obtain ⟨tenant, -, h⟩ := h
  rw [bind_eq_ok] at h
  obtain ⟨engagementId, -, h⟩ := h
  cases h
  exact ⟨engagementId, tainted, metadata, rfl⟩

def EvidenceRecord.fixed (r : EvidenceRecord) : EvidenceRecord :=
  { r with
    integrityStatus := .unverified, lastVerifiedAt := none, retentionUntil := none
    legalHold := false, deletedAt := none, deletionReason := none }

/-- `r'` is a later state of the record `r`: a purged record stays purged. -/
structure Later (r r' : EvidenceRecord) : Prop where
  fixed : r'.fixed = r.fixed
  active : r'.Active → r.Active

theorem Later.refl (r : EvidenceRecord) : Later r r := ⟨rfl, id⟩

theorem later_retention (r : EvidenceRecord) (retentionUntil : Option Adjudication.Date)
    (legalHold : Bool) :
    Later r { r with retentionUntil := retentionUntil, legalHold := legalHold } :=
  ⟨rfl, id⟩

section Later

variable {r' : EvidenceRecord} (h : Later r r')
include h

theorem Later.evidenceId : r'.evidenceId = r.evidenceId :=
  (congrArg EvidenceRecord.evidenceId h.fixed :)

theorem Later.tenantId : r'.tenantId = r.tenantId :=
  (congrArg EvidenceRecord.tenantId h.fixed :)

theorem Later.acquisitionKey : r'.acquisitionKey = r.acquisitionKey :=
  (congrArg EvidenceRecord.acquisitionKey h.fixed :)

theorem Later.contentSha256 : r'.contentSha256 = r.contentSha256 :=
  (congrArg EvidenceRecord.contentSha256 h.fixed :)

theorem Later.storageKey : r'.storageKey = r.storageKey :=
  (congrArg EvidenceRecord.storageKey h.fixed :)

theorem Later.sizeBytes : r'.sizeBytes = r.sizeBytes :=
  (congrArg EvidenceRecord.sizeBytes h.fixed :)

end Later

/-- One write of a transaction. -/
inductive Write (sha256 : Bytes → String) (db : Database) : Database → Prop
  | record (r : EvidenceRecord) (insertable : Insertable db r) :
      Write sha256 db { db with evidence := db.evidence ++ [r] }
  | rewrite {r : EvidenceRecord} (r' : EvidenceRecord) (mem : r ∈ db.evidence)
      (later : Later r r') : Write sha256 db (db.putEvidence r')
  | edge (t : EvidenceTransformation)
      (id : t.transformationId ∉ db.transformations.map EvidenceTransformation.transformationId) :
      Write sha256 db { db with transformations := db.transformations ++ [t] }
  | custody (hex tenantId evidenceId : String) (entry : Database.CustodyEntry)
      (owned : (db.get tenantId evidenceId true).isSome)
      (appendable : Appendable db (db.nextCustodyEvent sha256 hex tenantId evidenceId entry)) :
      Write sha256 db
        { db with
          custody := db.custody ++ [db.nextCustodyEvent sha256 hex tenantId evidenceId entry] }
  | events (events : List AuditEvent) (outbox : List OutboxEvent) :
      Write sha256 db { db with auditEvents := events, outbox := outbox }

abbrev Writes (sha256 : Bytes → String) : Database → Database → Prop :=
  Relation.ReflTransGen (Write sha256)

theorem appendCustodyEvent_writes {tenantId evidenceId : String} {e : EvidenceCustodyEvent}
    (h : db.appendCustodyEvent sha256 hex tenantId evidenceId entry = .ok (db', e)) :
    Write sha256 db db' ∧ db'.evidence = db.evidence := by
  obtain ⟨howned, happend, rfl, rfl⟩ := appendCustodyEvent_eq_ok.mp h
  exact ⟨.custody hex tenantId evidenceId entry howned happend, rfl⟩

theorem appendDomainEvent_writes {eventHex outboxHex eventType : String} {payload : Dict}
    (h : db.appendDomainEvent eventHex outboxHex r eventType payload = .ok db') :
    Write sha256 db db' ∧ db'.evidence = db.evidence := by
  obtain ⟨events, outbox, rfl⟩ := appendDomainEvent_eq_ok h
  exact ⟨.events events outbox, rfl⟩

end Rows

section Acquisitions

variable {S : EvidenceVault} {db db' : Database} {now : DateTime} {hex : Nat → String}
  {record : EvidenceRecord}

theorem addOriginal_writes {request : IngestRequest} {stored : StoredObject}
    (h : S.addOriginal db request stored record now hex = .ok db') :
    Insertable db record ∧ Writes S.sha256 db db' ∧
      db'.evidence = db.evidence ++ [record] := by
  unfold EvidenceVault.addOriginal at h
  rw [bind_eq_ok] at h
  obtain ⟨db₁, hadd, h⟩ := h
  obtain ⟨hinsert, hdb₁⟩ := addEvidence_eq_ok hadd
  rw [bind_eq_ok] at h
  obtain ⟨⟨db₂, e⟩, hcustody, h⟩ := h
  obtain ⟨hwrite, hsame⟩ := appendCustodyEvent_writes hcustody
  obtain ⟨hwrite', hsame'⟩ := @appendDomainEvent_writes S.sha256 _ _ _ _ _ _ _ h
  refine ⟨hinsert, ?_, by rw [hsame', hsame, hdb₁]⟩
  exact ((Relation.ReflTransGen.single (hdb₁ ▸ .record record hinsert)).tail hwrite).tail hwrite'

variable {request : DerivativeRequest} {derivedId : String}

theorem addSource_writes {source : EvidenceRecord} {i : Nat}
    (h : S.addSource request derivedId now hex db source i = .ok db') :
    Writes S.sha256 db db' ∧ db'.evidence = db.evidence := by
  unfold EvidenceVault.addSource at h
  rw [bind_eq_ok] at h
  obtain ⟨db₁, hadd, h⟩ := h
  obtain ⟨hid, hdb₁⟩ := addTransformation_eq_ok hadd
  rw [bind_eq_ok] at h
  obtain ⟨⟨db₂, e⟩, hcustody, h⟩ := h
  cases h
  obtain ⟨hwrite, hsame⟩ := appendCustodyEvent_writes hcustody
  exact ⟨(Relation.ReflTransGen.single (hdb₁ ▸ .edge _ hid)).tail hwrite, by rw [hsame, hdb₁]⟩

theorem addSources_writes {sources : List EvidenceRecord} : ∀ {db db' : Database} {i : Nat},
    S.addSources request derivedId now hex db sources i = .ok db' →
      Writes S.sha256 db db' ∧ db'.evidence = db.evidence := by
  induction sources with
  | nil =>
    intro db db' i h
    cases h
    exact ⟨.refl, rfl⟩
  | cons source sources ih =>
    intro db db' i h
    unfold EvidenceVault.addSources at h
    rw [bind_eq_ok] at h
    obtain ⟨db₁, hsource, h⟩ := h
    obtain ⟨hwrites, hsame⟩ := addSource_writes hsource
    obtain ⟨hrest, hsame'⟩ := ih h
    exact ⟨hwrites.trans hrest, hsame'.trans hsame⟩

theorem addDerivative_writes (h : S.addDerivative db request record now hex = .ok db') :
    Insertable db record ∧ Writes S.sha256 db db' ∧
      db'.evidence = db.evidence ++ [record] := by
  unfold EvidenceVault.addDerivative at h
  rw [bind_eq_ok] at h
  obtain ⟨sources, -, h⟩ := h
  rw [bind_eq_ok] at h
  obtain ⟨db₁, hadd, h⟩ := h
  obtain ⟨hinsert, hdb₁⟩ := addEvidence_eq_ok hadd
  rw [bind_eq_ok] at h
  obtain ⟨db₂, hsources, h⟩ := h
  obtain ⟨hwrites, hsame⟩ := addSources_writes hsources
  rw [bind_eq_ok] at h
  obtain ⟨⟨db₃, e⟩, hcustody, h⟩ := h
  obtain ⟨hwrite, hsame'⟩ := appendCustodyEvent_writes hcustody
  obtain ⟨hwrite', hsame''⟩ := @appendDomainEvent_writes S.sha256 _ _ _ _ _ _ _ h
  refine ⟨hinsert, ?_, by rw [hsame'', hsame', hsame, hdb₁]⟩
  have hfirst : Writes S.sha256 db db₁ := .single (hdb₁ ▸ .record record hinsert)
  exact ((hfirst.trans hwrites).tail hwrite).tail hwrite'

end Acquisitions

def Job.record (S : EvidenceVault) (job : Job) (stored : StoredObject) (now : DateTime)
    (hex : Nat → String) : EvidenceRecord :=
  match job with
  | .original request => originalRecord request (S.sha256 request.payload) stored now hex
  | .derivative request sources =>
    derivedRecord request sources (S.sha256 request.payload) stored now hex

section Record

variable {S : EvidenceVault} {now : DateTime} {hex : Nat → String} (job : Job) (stored : StoredObject)

@[simp] theorem Job.record_tenantId : (job.record S stored now hex).tenantId = job.tenantId := by
  cases job <;> rfl

@[simp] theorem Job.record_contentSha256 :
    (job.record S stored now hex).contentSha256 = S.sha256 job.payload := by
  cases job <;> rfl

@[simp] theorem Job.record_storageKey :
    (job.record S stored now hex).storageKey = some stored.key := by
  cases job <;> rfl

@[simp] theorem Job.record_sizeBytes :
    (job.record S stored now hex).sizeBytes = stored.sizeBytes := by
  cases job <;> rfl

theorem Job.record_active : (job.record S stored now hex).Active := by
  cases job <;> rfl

end Record

section Commits

variable {S : EvidenceVault} {db db' : Database} {now : DateTime} {hex : Nat → String}
  {job : Job} {stored : StoredObject} {item : EvidenceItem}

theorem addRecord_writes (h : S.addRecord db job stored now hex = .ok (item, db')) :
    item = job.record S stored now hex ∧ Insertable db item ∧ Writes S.sha256 db db' ∧
      db'.evidence = db.evidence ++ [item] := by
  unfold EvidenceVault.addRecord at h
  cases job with
  | original request =>
    rw [bind_eq_ok] at h
    obtain ⟨db₁, hadd, h⟩ := h
    cases h
    exact ⟨rfl, addOriginal_writes hadd⟩
  | derivative request sources =>
    rw [bind_eq_ok] at h
    obtain ⟨db₁, hadd, h⟩ := h
    cases h
    exact ⟨rfl, addDerivative_writes hadd⟩

theorem commit_cases (h : S.commit db job stored now hex = .ok (item, db')) :
    (findAcquisition db job = some item ∧ item.contentSha256 = S.sha256 job.payload ∧
        db' = db) ∨
      (findAcquisition db job = none ∧ item = job.record S stored now hex ∧
        Insertable db item ∧ Writes S.sha256 db db' ∧
        db'.evidence = db.evidence ++ [item]) := by
  unfold EvidenceVault.commit at h
  split at h
  · -- the transaction violated a constraint and was rolled back
    split at h
    · rename_i existing hfound
      split at h
      · rename_i hdigest
        cases h
        exact Or.inl ⟨hfound, hdigest, rfl⟩
      · cases h
    · cases h
  · unfold EvidenceVault.acquire at h
    rw [bind_eq_ok] at h
    obtain ⟨found, hreplayed, h⟩ := h
    obtain ⟨hfound, hdigest⟩ := replayed_eq_ok hreplayed
    cases found with
    | some existing =>
      cases h
      exact Or.inl ⟨hfound.symm, hdigest _ rfl, rfl⟩
    | none => exact Or.inr ⟨hfound.symm, addRecord_writes h⟩

end Commits

section Operations

variable {S : EvidenceVault} {db db' : Database} {ambient : Ambient} {item : EvidenceItem}
  {tenantId evidenceId actorId reason : String}

theorem setRetention_writes {retentionUntil : Option Adjudication.Date} {legalHold : Bool}
    (h : S.setRetention db ambient tenantId evidenceId actorId retentionUntil legalHold reason =
      .ok (item, db')) :
    ∃ r ∈ db.evidence, r.tenantId = tenantId ∧ r.evidenceId = evidenceId ∧ r.Active ∧
      item = { r with retentionUntil := retentionUntil, legalHold := legalHold } ∧
      Writes S.sha256 db db' ∧ db'.evidence = (db.putEvidence item).evidence := by
  unfold EvidenceVault.setRetention at h
  rw [ofOption_bind_eq_ok] at h
  obtain ⟨r, hget, h⟩ := h
  obtain ⟨hmem, htenant, hid, hactive⟩ := get_eq_some hget
  rw [bind_eq_ok] at h
  obtain ⟨⟨db₁, e⟩, hcustody, h⟩ := h
  cases h
  obtain ⟨hwrite, hsame⟩ := appendCustodyEvent_writes hcustody
  refine ⟨r, hmem, htenant, hid, by simpa using hactive, rfl, ?_, hsame⟩
  exact (Relation.ReflTransGen.single (.rewrite _ hmem (later_retention r _ _))).tail hwrite

theorem purge_writes {asOf : Option Adjudication.Date}
    (h : S.purge db ambient tenantId evidenceId actorId reason asOf = .ok (item, db')) :
    ∃ r ∈ db.evidence, r.tenantId = tenantId ∧ r.evidenceId = evidenceId ∧
      ((¬ r.Active ∧ db' = db) ∨
        (r.Active ∧ ¬ item.Active ∧ Later r item ∧ Writes S.sha256 db db' ∧
          db'.evidence = (db.putEvidence item).evidence)) := by
  unfold EvidenceVault.purge at h
  simp only [ofOption_bind_eq_ok] at h
  obtain ⟨r, hget, h⟩ := h
  obtain ⟨hmem, htenant, hid, -⟩ := get_eq_some hget
  refine ⟨r, hmem, htenant, hid, ?_⟩
  split at h
  · rename_i hdeleted
    cases h
    exact Or.inl ⟨hdeleted, rfl⟩
  · rename_i hactive
    rw [not_not] at hactive
    rw [bind_eq_ok] at h
    obtain ⟨u, -, h⟩ := h
    rw [bind_eq_ok] at h
    obtain ⟨⟨db₁, e⟩, hcustody, h⟩ := h
    rw [bind_eq_ok] at h
    obtain ⟨db₂, hevent, h⟩ := h
    cases h
    obtain ⟨hwrite, hsame⟩ := appendCustodyEvent_writes hcustody
    obtain ⟨hwrite', hsame'⟩ := @appendDomainEvent_writes S.sha256 _ _ _ _ _ _ _ hevent
    have hlater : Later r { r with
        deletedAt := some (ambient.clock 1), deletionReason := some reason
        integrityStatus := .purged } := ⟨rfl, fun _ => hactive⟩
    refine Or.inr ⟨hactive, nofun, hlater, ?_, hsame'.trans hsame⟩
    exact ((Relation.ReflTransGen.single (.rewrite _ hmem hlater)).tail hwrite).tail hwrite'

variable {v : VaultState}

theorem readBytes_writes {actorType purpose : String} {payload : Bytes}
    (h : S.readBytes v ambient tenantId evidenceId actorId actorType purpose =
      .ok (payload, db')) :
    Writes S.sha256 v.db db' ∧ db'.evidence = v.db.evidence := by
  unfold EvidenceVault.readBytes at h
  rw [bind_eq_ok] at h
  obtain ⟨r, -, h⟩ := h
  rw [ofOption_bind_eq_ok] at h
  obtain ⟨key, -, h⟩ := h
  rw [bind_eq_ok] at h
  obtain ⟨bytes, -, h⟩ := h
  rw [bind_eq_ok] at h
  obtain ⟨⟨db₁, e⟩, hcustody, h⟩ := h
  cases h
  obtain ⟨hwrite, hsame⟩ := appendCustodyEvent_writes hcustody
  exact ⟨.single hwrite, hsame⟩

theorem verifyIntegrity_writes {report : EvidenceVault.IntegrityReport}
    {failure : Option VaultError}
    (h : S.verifyIntegrity v ambient tenantId evidenceId actorId = .ok (report, failure, db')) :
    ∃ r ∈ v.db.evidence, ∃ r', Later r r' ∧ r'.deletedAt = r.deletedAt ∧
      Writes S.sha256 v.db db' ∧ db'.evidence = (v.db.putEvidence r').evidence := by
  unfold EvidenceVault.verifyIntegrity at h
  rw [bind_eq_ok] at h
  obtain ⟨r, -, h⟩ := h
  rw [ofOption_bind_eq_ok] at h
  obtain ⟨key, -, h⟩ := h
  rw [bind_eq_ok] at h
  obtain ⟨⟨status, stored, failed⟩, -, h⟩ := h
  rw [ofOption_bind_eq_ok] at h
  obtain ⟨current, hget, h⟩ := h
  obtain ⟨hmem, -, -, -⟩ := get_eq_some hget
  rw [bind_eq_ok] at h
  obtain ⟨⟨db₁, e⟩, hcustody, h⟩ := h
  cases h
  obtain ⟨hwrite, hsame⟩ := appendCustodyEvent_writes hcustody
  have hlater : Later current { current with
      integrityStatus := status, lastVerifiedAt := some (ambient.clock 0) } := ⟨rfl, id⟩
  exact ⟨current, hmem, _, hlater, rfl,
    (Relation.ReflTransGen.single (.rewrite _ hmem hlater)).tail hwrite, hsame⟩

end Operations

end Vault
