/-
Garbage collection beside acquisitions.

The collector reads the active keys in one transaction and deletes objects later, and an
acquisition stores its object before it commits the record.  In the runs in which no
object is deleted that a record committed since then refers to or that an acquisition
still holds (`DeletesUnreferenced`), the object of every active record exists
(`active_objects_exist`).  An old object that is acquired again keeps its age, so the
grace period does not give that (`collected_before_commit`).
-/
import AssuranceOS.Lib.Runs
import AssuranceOS.Vault.Workers

namespace Vault

open Adjudication

def Held (files : List StoredFile) (tenantId key : String) : Prop :=
  isSegment tenantId ∧ ∃ digest, IsDigest digest ∧ key = keyOf digest ∧
    ∃ f, fileAt files (tenantId, digest) = some f

section Held

variable {files files' : List StoredFile} {tenantId key : String}

theorem Held.read (h : Held files tenantId key) :
    ∃ bytes, LocalObjectStore.read files tenantId key = .ok bytes := by
  obtain ⟨hsegment, digest, hdigest, rfl, f, hf⟩ := h
  exact ⟨f.bytes, read_keyOf hsegment hdigest hf⟩

theorem Held.mono (hkept : ∀ p f, fileAt files p = some f → fileAt files' p = some f)
    (h : Held files tenantId key) : Held files' tenantId key := by
  obtain ⟨hsegment, digest, hdigest, hkey, f, hf⟩ := h
  exact ⟨hsegment, digest, hdigest, hkey, f, hkept _ _ hf⟩

variable {digest : String}

theorem Stored.holds {sha256 : Bytes → String} {payload : Bytes} {object : StoredObject}
    (h : Stored sha256 files files' tenantId payload digest object) :
    Held files' tenantId object.key := by
  obtain ⟨f, hf, -⟩ := h.held
  exact ⟨h.segment, digest, h.isDigest, h.key, f, hf⟩

theorem Held.delete (h : Held files tenantId key) {tenant : String} {found : Bool}
    (hdelete : LocalObjectStore.delete files tenant (keyOf digest) = .ok (found, files'))
    (hne : (tenantId, key) ≠ (tenant, keyOf digest)) : Held files' tenantId key := by
  obtain ⟨hsegment, d, hd, rfl, f, hf⟩ := h
  obtain ⟨captured, hcaptured, hat⟩ := delete_eq_ok hdelete
  cases objectKey?_keyOf_eq_some hcaptured
  refine ⟨hsegment, d, hd, rfl, f, ?_⟩
  rw [hat, if_neg]
  · exact hf
  · rintro heq
    obtain ⟨rfl, rfl⟩ := Prod.mk.inj heq
    exact hne rfl

end Held

/-- The object that a caller has stored and not committed: its tenant and its key. -/
def Phase.holding : Phase → Option (String × String)
  | .stored job object => some (job.tenantId, object.key)
  | _ => none

/-- The objects that a collector has listed have keys of the store. -/
def Phase.Listed : Phase → Prop
  | .sweeping _ _ _ pending => ∀ object ∈ pending, ∃ digest, object.key = keyOf digest
  | _ => True

/-- The objects of the active records and of the acquisitions under way are there. -/
structure Anchored (s : Workers) : Prop where
  records : ∀ r ∈ s.vault.db.evidence, r.Active →
    ∃ key ∈ r.storageKey, Held s.vault.files r.tenantId key
  holding : ∀ w, ∀ p ∈ (s.phase w).holding, Held s.vault.files p.1 p.2
  listed : ∀ w, (s.phase w).Listed

/-- The collector deletes no object that an active record refers to by now, or that an
acquisition has stored and not committed. -/
def DeletesUnreferenced (s : Workers) (e : Event) : Prop :=
  match e with
  | .sweep w =>
    match s.phase w with
    | .sweeping tenantId cutoff activeKeys (object :: _) =>
      object.key ∉ activeKeys → object.modifiedAt.rank ≤ cutoff.rank →
        object.key ∉ s.vault.db.activeStorageKeys tenantId ∧
          ∀ w', (s.phase w').holding ≠ some (tenantId, object.key)
    | _ => True
  | _ => True

section Steps

variable {S : EvidenceVault} {s : Workers} {w : Nat}
variable {phase : Phase} {db : Database} {job : Job} {files : List StoredFile}

theorem Anchored.setPhase (h : Anchored s)
    (hholding : ∀ p ∈ phase.holding, Held s.vault.files p.1 p.2) (hlisted : phase.Listed) :
    Anchored (s.setPhase w phase) := by
  refine ⟨h.records, fun w' => ?_, fun w' => ?_⟩
  · by_cases hw : w' = w
    · subst hw
      rw [Workers.setPhase_phase_self]
      exact hholding
    · rw [Workers.setPhase_phase_of_ne _ hw]
      exact h.holding w'
  · by_cases hw : w' = w
    · subst hw
      rw [Workers.setPhase_phase_self]
      exact hlisted
    · rw [Workers.setPhase_phase_of_ne _ hw]
      exact h.listed w'

theorem Anchored.pass (h : Anchored s) (hholding : phase.holding = none) (hlisted : phase.Listed) :
    Anchored (s.setPhase w phase) :=
  h.setPhase (by simp [hholding]) hlisted

theorem Anchored.setDb (h : Anchored s) (hrecords : ∀ r ∈ db.evidence, r.Active →
      ∃ key ∈ r.storageKey, Held s.vault.files r.tenantId key) : Anchored (s.setDb db) :=
  ⟨hrecords, h.holding, h.listed⟩

theorem Anchored.rewrite (h : Anchored s) {db : Database} {r r' : EvidenceRecord}
    (hr : r ∈ s.vault.db.evidence) (hlater : Later r r')
    (hdb : db.evidence = (s.vault.db.putEvidence r').evidence) : Anchored (s.setDb db) := by
  refine h.setDb fun x hx hactive => ?_
  rw [hdb] at hx
  rcases Table.eq_or_mem_of_mem_put hx with rfl | ⟨hx, -⟩
  · rw [hlater.storageKey, hlater.tenantId]
    exact h.records r hr (hlater.active hactive)
  · exact h.records x hx hactive

variable {object : StoredObject}

theorem Anchored.store (h : Anchored s)
    (hstored : Stored S.sha256 s.vault.files files job.tenantId job.payload
      (S.sha256 job.payload) object) :
    Anchored ((s.setFiles files).setPhase w (.stored job object)) := by
  have hfiles : Anchored (s.setFiles files) := by
    refine ⟨fun r hr hactive => ?_, fun w p hp => ?_, h.listed⟩
    · obtain ⟨key, hkey, hheld⟩ := h.records r hr hactive
      exact ⟨key, hkey, hheld.mono hstored.kept⟩
    · exact (h.holding w p hp).mono hstored.kept
  refine hfiles.setPhase (fun p hp => ?_) trivial
  cases hp
  exact hstored.holds

theorem Anchored.commit (h : Anchored s) {now : DateTime} {hex : Nat → String} {item : EvidenceItem}
    (hphase : s.phase w = .stored job object)
    (hcommit : S.commit s.vault.db job object now hex = .ok (item, db)) :
    Anchored (s.setDb db) := by
  rcases commit_cases hcommit with ⟨-, -, rfl⟩ | ⟨-, rfl, -, -, hevidence⟩
  · exact h.setDb h.records
  · refine h.setDb fun r hr hactive => ?_
    rw [hevidence] at hr
    rcases List.mem_append.mp hr with hr | hr
    · exact h.records r hr hactive
    · rw [List.mem_singleton.mp hr, Job.record_storageKey, Job.record_tenantId]
      exact ⟨object.key, rfl, h.holding w (job.tenantId, object.key) (by rw [hphase]; rfl)⟩

theorem Anchored.sweep (h : Anchored s) {tenantId : String} {cutoff : DateTime}
    {activeKeys : List String} {pending : List StoredObject}
    {deleted : Bool}
    (hphase : s.phase w = .sweeping tenantId cutoff activeKeys (object :: pending))
    (hsweep : EvidenceVault.sweepObject tenantId activeKeys cutoff s.vault.files object =
      .ok (deleted, files))
    (hok : DeletesUnreferenced s (.sweep w)) :
    Anchored ((s.setFiles files).setPhase w (.sweeping tenantId cutoff activeKeys pending)) := by
  have hlisted := h.listed w
  rw [hphase] at hlisted
  obtain ⟨digest, hkey⟩ := hlisted object List.mem_cons_self
  have hfiles : Anchored (s.setFiles files) := by
    unfold EvidenceVault.sweepObject at hsweep
    split at hsweep
    · cases hsweep
      exact h
    · rename_i hcollected
      rw [not_or, not_lt] at hcollected
      rw [DeletesUnreferenced, hphase] at hok
      obtain ⟨hinactive, hfree⟩ := hok hcollected.1 hcollected.2
      rw [hkey] at hsweep hinactive hfree
      refine ⟨fun r hr hactive => ?_, fun w' p hp => ?_, h.listed⟩
      · obtain ⟨key, hr', hheld⟩ := h.records r hr hactive
        refine ⟨key, hr', hheld.delete hsweep fun heq => hinactive ?_⟩
        obtain ⟨htenant, rfl⟩ := Prod.mk.inj heq
        exact mem_activeStorageKeys.mpr ⟨r, hr, htenant, hactive, hr'⟩
      · refine (h.holding w' p hp).delete hsweep fun heq => hfree w' ?_
        have hpair : p = (tenantId, keyOf digest) := heq
        rw [← hpair]
        exact hp
  exact hfiles.pass rfl fun o ho => hlisted o (List.mem_cons_of_mem _ ho)

/-- **One step.** -/
theorem Anchored.step (h : Anchored s) (e : Event) (hok : DeletesUnreferenced s e) :
    Anchored (s.step S e) := by
  cases e with
  | begin w request =>
    unfold Workers.step
    dsimp only
    split
    · split
      · exact h.pass rfl trivial
      · exact h
    · exact h
  | lookup w =>
    unfold Workers.step
    dsimp only
    split
    · split
      · exact h.pass rfl trivial
      · exact h.pass rfl trivial
    · exact h
  | store w fileTime =>
    unfold Workers.step
    dsimp only
    split
    · split
      · rename_i hput
        exact h.store (putBytes_stored hput)
      · exact h.pass rfl trivial
    · exact h
  | commit w now hex =>
    unfold Workers.step
    dsimp only
    split
    · rename_i hphase
      split
      · rename_i hcommit
        exact (h.commit hphase hcommit).pass rfl trivial
      · exact h.pass rfl trivial
    · exact h
  | setRetention ambient tenantId evidenceId actorId retentionUntil legalHold reason =>
    unfold Workers.step
    dsimp only
    split
    · rename_i hset
      obtain ⟨r, hr, -, -, -, rfl, -, hdb⟩ := setRetention_writes hset
      exact h.rewrite hr (later_retention r retentionUntil legalHold) hdb
    · exact h
  | purge ambient tenantId evidenceId actorId reason asOf =>
    unfold Workers.step
    dsimp only
    split
    · rename_i hpurge
      obtain ⟨r, hr, -, -, ⟨-, rfl⟩ | ⟨-, -, hlater, -, hdb⟩⟩ := purge_writes hpurge
      · exact h.setDb h.records
      · exact h.rewrite hr hlater hdb
    · exact h
  | collect w tenantId cutoff =>
    unfold Workers.step
    dsimp only
    split
    · exact h.pass rfl trivial
    · exact h
  | list w =>
    unfold Workers.step
    dsimp only
    split
    · split
      · rename_i hobjects
        exact h.pass rfl fun object hobject => iterObjects_key hobjects hobject
      · exact h.pass rfl trivial
    · exact h
  | sweep w =>
    unfold Workers.step
    dsimp only
    split
    · rename_i hphase
      split
      · rename_i hsweep
        exact h.sweep hphase hsweep hok
      · exact h.pass rfl trivial
    · exact h.pass rfl trivial
    · exact h
  | crash w => exact h.pass rfl trivial

end Steps

/-- No evidence yet, and nobody under way. -/
structure Workers.Fresh (s : Workers) : Prop where
  evidence : s.vault.db.evidence = []
  idle : ∀ w, s.phase w = .idle

/-- The object of every active record can be read. -/
def Intact (v : VaultState) : Prop :=
  ∀ r ∈ v.db.evidence, r.Active →
    ∃ key ∈ r.storageKey, ∃ bytes, LocalObjectStore.read v.files r.tenantId key = .ok bytes

section Runs

variable {S : EvidenceVault} {s : Workers} {events : List Event}

theorem Workers.Fresh.anchored (h : s.Fresh) : Anchored s := by
  refine ⟨fun r hr => ?_, fun w p hp => ?_, fun w => ?_⟩
  · rw [h.evidence] at hr
    exact absurd hr List.not_mem_nil
  · rw [h.idle] at hp
    exact absurd hp nofun
  · rw [h.idle]
    trivial

theorem Anchored.intact (h : Anchored s) : Intact s.vault := by
  intro r hr hactive
  obtain ⟨key, hkey, hheld⟩ := h.records r hr hactive
  exact ⟨key, hkey, hheld.read⟩

/-- **Objects of active records.**  In every run whose collectors delete no object that an
active record refers to by now or that an acquisition holds, the object of every active
record exists in every state. -/
theorem active_objects_exist (hs : s.Fresh)
    (hok : Runs.EachStep (Workers.step S) DeletesUnreferenced s events) (n : Nat) :
    Intact (s.run S (events.take n)).vault := by
  rw [← List.take_append_drop n events, Runs.eachStep_append] at hok
  have hinv := Runs.run_invariant (I := Anchored) (fun s e hok h => h.step e hok) hs.anchored
    hok.1
  exact hinv.intact

theorem commit_holding {w : Nat} {now : DateTime} {hex : Nat → String} :
    ((s.step S (.commit w now hex)).phase w).holding = none := by
  unfold Workers.step
  dsimp only
  split
  · split
    · rw [Workers.setPhase_phase_self]
      rfl
    · rw [Workers.setPhase_phase_self]
      rfl
  · rename_i hnot
    cases hphase : s.phase w with
    | stored job object => exact absurd hphase (hnot job object)
    | idle | read | missed | collecting | sweeping => rfl

theorem collect_deletesUnreferenced (hidle : ∀ w, (s.phase w).holding = none)
    (hinactive : ∀ r ∈ s.vault.db.evidence, ¬ r.Active) (w : Nat) (tenantId : String)
    (cutoff : DateTime) :
    Runs.EachStep (Workers.step S) DeletesUnreferenced s
      [.collect w tenantId cutoff, .list w, .sweep w] := by
  -- neither of the two steps before the deletion touches the records or holds an object
  have hkeep : ∀ s : Workers, ∀ e ∈ [Event.collect w tenantId cutoff, .list w],
      (s.step S e).vault.db = s.vault.db ∧
        ((∀ v, (s.phase v).holding = none) → ∀ v, ((s.step S e).phase v).holding = none) := by
    intro s e he
    have hset : ∀ phase : Phase, phase.holding = none → (∀ v, (s.phase v).holding = none) →
        ∀ v, ((s.setPhase w phase).phase v).holding = none := by
      intro phase hphase hs v
      rcases s.setPhase_phase_cases w v phase with ⟨heq, -⟩ | heq
      · rw [heq, hphase]
      · rw [heq, hs v]
    simp only [List.mem_cons, List.not_mem_nil, or_false] at he
    rcases he with rfl | rfl <;> unfold Workers.step <;> dsimp only <;> split
    · exact ⟨rfl, hset _ rfl⟩
    · exact ⟨rfl, id⟩
    · split
      · exact ⟨rfl, hset _ rfl⟩
      · exact ⟨rfl, hset _ rfl⟩
    · exact ⟨rfl, id⟩
  obtain ⟨hdb₁, hholding₁⟩ := hkeep s (.collect w tenantId cutoff) (by simp)
  obtain ⟨hdb₂, hholding₂⟩ := hkeep (s.step S (.collect w tenantId cutoff)) (.list w) (by simp)
  refine ⟨trivial, trivial, ?_, trivial⟩
  unfold DeletesUnreferenced
  dsimp only
  split
  · intro _ _
    refine ⟨fun hmem => ?_, fun v => ?_⟩
    · obtain ⟨r, hr, -, hactive, -⟩ := mem_activeStorageKeys.mp hmem
      rw [hdb₂, hdb₁] at hr
      exact hinactive r hr hactive
    · rw [hholding₂ (hholding₁ hidle) v]
      exact Option.some_ne_none _ |>.symm
  · trivial

end Runs

def sampleSha256 (bytes : Bytes) : String :=
  String.ofList (digits 64 (bytes.foldl (fun n b => n * 257 + b.toNat + 1) 0))

def sampleVault : EvidenceVault := { sha256 := sampleSha256 }

def sampleTime (day : Nat) : DateTime where
  date := { year := 2026, month := 3, day := max 1 (min day 31), day_range := by omega }

def sampleHex (day i : Nat) : String := toString day ++ "." ++ toString i

def sampleWorkers : Workers where
  vault := { db := { tenants := ["t"] } }

theorem sampleWorkers_fresh : sampleWorkers.Fresh := ⟨rfl, fun _ => rfl⟩

theorem isDigest_digits (n : Nat) : IsDigest (String.ofList (digits 64 n)) := by
  have hhex : ∀ d < 10, isHex (Nat.digitChar d) = true := by decide
  constructor
  · simp [digits]
  · intro c hc
    simp only [String.toList_ofList, digits, List.mem_map, List.mem_reverse] at hc
    obtain ⟨i, -, rfl⟩ := hc
    exact hhex _ (Nat.mod_lt _ (by omega))

theorem sampleSha256_isDigest (bytes : Bytes) : IsDigest (sampleSha256 bytes) :=
  isDigest_digits _

def headSha256 (bytes : Bytes) : String := sampleSha256 (bytes.take 40)

def headVault : EvidenceVault := { sha256 := headSha256 }

theorem headVault_isDigest (bytes : Bytes) : IsDigest (headVault.sha256 bytes) :=
  sampleSha256_isDigest _

def sampleRequest : IngestRequest where
  tenantId := "t"
  payload := [104, 105]
  sourceType := "s"
  sourceLocator := "l"
  actorId := "a"
  retentionUntil := some (sampleTime 2).date

theorem read_sampleRequest :
    Request.read sampleVault sampleWorkers.vault.db (.ingest sampleRequest) =
      .ok (.original sampleRequest) := rfl

def sampleFile (S : EvidenceVault) (payload : Bytes) (day : Nat) : StoredFile :=
  ⟨"t", S.sha256 payload, payload, sampleTime day⟩

def sampleObject (S : EvidenceVault) (payload : Bytes) (day : Nat) : StoredObject :=
  LocalObjectStore.statOf S.sha256 "t" (keyOf (S.sha256 payload)) (sampleFile S payload day)

def sampleStores (request : Request) (day : Nat) : List Event :=
  [.begin 0 request, .lookup 0, .store 0 (sampleTime day)]

section Stores

variable {S : EvidenceVault} {s : Workers} {request : Request} {job : Job} {day : Nat}

theorem run_missed (hidle : s.phase 0 = .idle) (hread : request.read S s.vault.db = .ok job)
    (hkey : job.acquisitionKey = none) :
    s.run S [.begin 0 request, .lookup 0] = s.setPhase 0 (.missed job) := by
  have hnew : replayed s.vault.db job (S.sha256 job.payload) = .ok none := by
    simp [replayed, findAcquisition, PyString.truthy, hkey, pure, Except.pure]
  simp [Workers.run, Workers.step, hread, hidle, hnew, Workers.setPhase]

theorem run_stores_new (hidle : s.phase 0 = .idle)
    (hread : request.read S s.vault.db = .ok job) (hkey : job.acquisitionKey = none)
    (htenant : job.tenantId = "t") (hdigest : ∀ bytes, IsDigest (S.sha256 bytes))
    (hfree : fileAt s.vault.files ("t", S.sha256 job.payload) = none) :
    s.run S (sampleStores request day) =
      ((s.setPhase 0 (.missed job)).setFiles
        (s.vault.files ++ [sampleFile S job.payload day])).setPhase 0
        (.stored job { sampleObject S job.payload day with created := true }) := by
  have hsegment : isSegment "t" := by decide
  have hput := fun n => @putBytes_new _ _ _ n _ hsegment (hdigest job.payload) hfree
  show (s.run S [.begin 0 request, .lookup 0]).step S (.store 0 (sampleTime day)) = _
  rw [run_missed hidle hread hkey]
  simp only [Workers.step, Workers.setPhase_phase_self, Workers.setPhase_vault, htenant, hput]
  rfl

theorem run_stores_held {f : StoredFile} (hidle : s.phase 0 = .idle)
    (hread : request.read S s.vault.db = .ok job) (hkey : job.acquisitionKey = none)
    (htenant : job.tenantId = "t") (hdigest : ∀ bytes, IsDigest (S.sha256 bytes))
    (hfile : fileAt s.vault.files ("t", S.sha256 job.payload) = some f)
    (hbytes : f.bytes = job.payload) :
    s.run S (sampleStores request day) = (s.setPhase 0 (.missed job)).setPhase 0
      (.stored job (LocalObjectStore.statOf S.sha256 "t" (keyOf (S.sha256 job.payload)) f)) := by
  have hsegment : isSegment "t" := by decide
  have hput := fun n => @putBytes_held _ _ _ _ n _ hsegment (hdigest job.payload) hfile hbytes
  show (s.run S [.begin 0 request, .lookup 0]).step S (.store 0 (sampleTime day)) = _
  rw [run_missed hidle hread hkey]
  simp [Workers.step, htenant, hput, Workers.setFiles, Workers.setPhase]

end Stores

/-- The payload is acquired on the first day and its record purged on the third. -/
def samplePurged : List Event :=
  [.begin 0 (.ingest sampleRequest), .lookup 0, .store 0 (sampleTime 1)] ++
    [.commit 0 (sampleTime 1) (sampleHex 1),
    .purge ⟨fun _ => sampleTime 3, sampleTime 3, sampleHex 3⟩ "t" "evd_1.0" "a" "r" none]

def sampleCollected : List Event :=
  [.collect 1 "t" (sampleTime 4), .list 1, .sweep 1]

theorem samplePurged_inactive :
    ∀ r ∈ (sampleWorkers.run sampleVault samplePurged).vault.db.evidence, ¬ r.Active := by
  have hstored : sampleWorkers.run sampleVault (sampleStores (.ingest sampleRequest) 1) = _ :=
    run_stores_new rfl read_sampleRequest rfl rfl sampleSha256_isDigest rfl
  rw [sampleStores] at hstored
  rw [samplePurged, Workers.run_append, hstored]
  decide +kernel

theorem samplePurged_idle (w : Nat) :
    ((sampleWorkers.run sampleVault samplePurged).phase w).holding = none := by
  by_cases hw : w = 0
  · subst hw
    rw [samplePurged, Workers.run, List.foldl_append, List.foldl_cons, List.foldl_cons,
      List.foldl_nil, Workers.step_phase_of_ne _ _ (by simp [Event.worker?])]
    exact commit_holding
  · rw [Workers.run_phase_of_ne]
    · rfl
    · simpa [samplePurged, Event.worker?] using Ne.symm hw

theorem sampleCollected_deletesUnreferenced :
    Runs.EachStep (Workers.step sampleVault) DeletesUnreferenced sampleWorkers
      (samplePurged ++ sampleCollected) := by
  rw [Runs.eachStep_append]
  refine ⟨.of_forall fun e he s => ?_, ?_⟩
  · simp only [samplePurged, List.cons_append, List.nil_append, List.mem_cons, List.not_mem_nil, or_false] at he
    rcases he with rfl | rfl | rfl | rfl | rfl <;> trivial
  · exact collect_deletesUnreferenced samplePurged_idle samplePurged_inactive 1 _ _

theorem active_objects_exist_sample :
    Intact (sampleWorkers.run sampleVault
      ((samplePurged ++ sampleCollected).take 4)).vault :=
  active_objects_exist sampleWorkers_fresh sampleCollected_deletesUnreferenced 4

section Collected

variable {S : EvidenceVault} {s : Workers}

theorem run_sampleCollected (hidle : s.phase 1 = .idle)
    (hkeys : s.vault.db.activeStorageKeys "t" = [])
    (hfiles : s.vault.files = [sampleFile S [104, 105] 1])
    (hdigest : ∀ bytes, IsDigest (S.sha256 bytes)) :
    (s.run S sampleCollected).vault = { s.vault with files := [] } := by
  have hroot : LocalObjectStore.tenantRoot "t" = .ok "t" := rfl
  have hlist : LocalObjectStore.iterObjects S.sha256 s.vault.files "t" =
      .ok [sampleObject S [104, 105] 1] := by
    simp [LocalObjectStore.iterObjects, hroot, hfiles, Adjudication.orderBy, sampleObject,
      sampleFile, bind, Except.bind, pure, Except.pure]
  have hsegment : isSegment "t" := by decide
  have hpath := path_keyOf hsegment (hdigest [104, 105])
  have hdelete : LocalObjectStore.delete [sampleFile S [104, 105] 1] "t"
      (keyOf (S.sha256 [104, 105])) = .ok (true, []) := by
    simp [LocalObjectStore.delete, hpath, Table.get?, sampleFile, StoredFile.path, bind,
      Except.bind, pure, Except.pure]
  have hold : ¬ (sampleTime 4).rank < (sampleTime 1).rank := by decide
  have hsweep : EvidenceVault.sweepObject "t" [] (sampleTime 4) s.vault.files
      (sampleObject S [104, 105] 1) = .ok (true, []) := by
    rw [EvidenceVault.sweepObject, if_neg, hfiles]
    · exact hdelete
    · simpa [sampleObject, LocalObjectStore.statOf, sampleFile] using hold
  have halone := run_collect_alone hidle "t" (sampleTime 4) hlist
  rw [EvidenceVault.collectGarbage, hlist, hkeys] at halone
  refine halone.trans ?_
  simp [EvidenceVault.sweepObjects, hsweep]

theorem not_intact_commit {job : Job} {object : StoredObject} {now : DateTime}
    {hex : Nat → String} (hphase : s.phase 0 = .stored job object) (hfiles : s.vault.files = [])
    (hcommit : ((S.commit s.vault.db job object now hex).toOption.map
      fun r => r.2.evidence.any fun r => decide r.Active) = some true) :
    ¬ Intact (s.run S [.commit 0 now hex]).vault := by
  intro hintact
  obtain ⟨⟨item, db⟩, hok, hactive⟩ := Option.map_eq_some_iff.mp hcommit
  obtain ⟨r, hr, hractive⟩ := List.any_eq_true.mp hactive
  have hlast : (s.run S [.commit 0 now hex]).vault = { db := db, files := [] } := by
    simp [Workers.run, Workers.step, hphase, Checked.toOption_eq_some.mp hok, Workers.setDb,
      hfiles]
  rw [hlast] at hintact
  obtain ⟨key, -, bytes, hread⟩ := hintact r hr (by simpa using hractive)
  obtain ⟨p, -, hread⟩ := Checked.bind_eq_ok.mp hread
  obtain ⟨f, hf, -⟩ := Checked.ofOption_bind_eq_ok.mp hread
  simp [Table.get?] at hf

end Collected

/-- The payload is stored on the first day, and the caller crashes before its commit.  On the
fifth day it is acquired again: the store finds the old object and keeps its age, the collector
finds no active record, and the commit comes after it. -/
def sampleReacquired : List Event :=
  sampleStores (.ingest sampleRequest) 1 ++ ([.crash 0] ++
    (sampleStores (.ingest sampleRequest) 5 ++ (sampleCollected ++
      [.commit 0 (sampleTime 5) (sampleHex 5)])))

theorem sampleReacquired_crashed :
    ∃ s : Workers, (sampleWorkers.run sampleVault (sampleStores (.ingest sampleRequest) 1)).run
        sampleVault [.crash 0] = s ∧
      s.vault = { sampleWorkers.vault with files := [sampleFile sampleVault [104, 105] 1] } ∧
      ∀ w, s.phase w = .idle := by
  refine ⟨_, rfl, ?_⟩
  rw [run_stores_new (s := sampleWorkers) rfl read_sampleRequest rfl rfl sampleSha256_isDigest rfl]
  refine ⟨rfl, fun w => ?_⟩
  by_cases hw : w = 0
  · simp [Workers.run, Workers.step, hw]
  · simp [Workers.run, Workers.step, Workers.setPhase_phase_of_ne, hw, sampleWorkers]

theorem collected_before_commit : ¬ ∀ (S : EvidenceVault) (s : Workers) (events : List Event),
    s.Fresh → Intact (s.run S events).vault := by
  intro h
  have hrun := h sampleVault sampleWorkers sampleReacquired sampleWorkers_fresh
  obtain ⟨crashed, hcrashed, hvault, hidle⟩ := sampleReacquired_crashed
  have hfile : fileAt crashed.vault.files ("t", sampleSha256 [104, 105]) =
      some (sampleFile sampleVault [104, 105] 1) := by
    simp [hvault, fileAt, Table.get?, sampleFile, StoredFile.path, sampleVault]
  have hread : Request.read sampleVault crashed.vault.db (.ingest sampleRequest) =
      .ok (.original sampleRequest) := by
    rw [hvault]
    exact read_sampleRequest
  have hstored : crashed.run sampleVault (sampleStores (.ingest sampleRequest) 5) = _ :=
    run_stores_held (hidle 0) hread rfl rfl sampleSha256_isDigest hfile rfl
  rw [sampleReacquired, Workers.run_append, Workers.run_append, hcrashed, Workers.run_append,
    hstored, Workers.run_append] at hrun
  generalize hs : (crashed.setPhase 0 _).setPhase 0 _ = stored at hrun
  have hcollected := run_sampleCollected (S := sampleVault) (s := stored)
    (by simp [← hs, Workers.setPhase, hidle])
    (by simp [← hs, hvault, sampleWorkers, Database.activeStorageKeys])
    (by simp [← hs, hvault]) sampleSha256_isDigest
  have hphase : (stored.run sampleVault sampleCollected).phase 0 =
      .stored (.original sampleRequest) (sampleObject sampleVault [104, 105] 1) := by
    rw [Workers.run_phase_of_ne sampleVault (by simp [sampleCollected, Event.worker?]), ← hs,
      Workers.setPhase_phase_self]
    rfl
  have hdb : stored.vault.db = sampleWorkers.vault.db := by
    rw [← hs]
    simp [hvault]
  refine not_intact_commit hphase (by rw [hcollected]) ?_ hrun
  rw [hcollected, hdb]
  decide +kernel

end Vault
