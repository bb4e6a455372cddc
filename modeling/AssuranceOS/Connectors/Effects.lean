/-
What the operations of a collection leave in the database.

An operation rewrites rows of runs, instances and checkpoints in place, appends rows, and writes
to the vault as the vault does; only `addCollected` touches the collected objects
(`exec_collected`).  `Backed` is the invariant of the collected objects: each belongs to a run,
and its evidence is in the vault with the content that the row names.  It is kept by a
collection wherever that stops (`run_backed`) and holds in every world that is `Reachable`.
-/
import AssuranceOS.Connectors.Service
import AssuranceOS.Vault.Keeping

namespace Connectors

open Checked Vault
open Program (perform Keeps)

section Repository

variable {db db' : Database}

theorem addRun_eq_ok {run : ConnectorRun} (h : db.addRun run = .ok db') :
    (∀ r ∈ db.runs, r.runId ≠ run.runId) ∧ db' = { db with runs := db.runs ++ [run] } := by
  unfold Database.addRun at h
  rw [require_bind_eq_ok] at h
  obtain ⟨hfree, h⟩ := h
  cases h
  exact ⟨fun r hr heq => hfree ⟨r, hr, .inl heq⟩, rfl⟩

theorem addCollectedObject_eq_ok {evidence : List EvidenceRecord} {item : CollectedSourceObject}
    (h : db.addCollectedObject evidence item = .ok db') :
    (∃ run ∈ db.runs, run.runId = item.runId) ∧
      (∃ record ∈ evidence, record.evidenceId = item.evidenceId) ∧
      db' = { db with collected := db.collected ++ [item] } := by
  unfold Database.addCollectedObject at h
  rw [require_bind_eq_ok] at h
  obtain ⟨-, h⟩ := h
  rw [require_bind_eq_ok] at h
  obtain ⟨hrun, h⟩ := h
  rw [require_bind_eq_ok] at h
  obtain ⟨hevidence, h⟩ := h
  cases h
  exact ⟨hrun, hevidence, rfl⟩

variable {row : CollectedSourceObject} {version : VersionKey}

theorem mem_of_lastCollected {rows : List CollectedSourceObject}
    (h : Database.lastCollected rows = some row) : row ∈ rows :=
  (List.mem_insertionSort _).mp (List.mem_of_head? h)

theorem findCollectedVersion_eq_some {sha256 : String}
    (h : db.findCollectedVersion version sha256 = some row) :
    row ∈ db.collected ∧ row.version = version ∧ row.contentSha256 = sha256 := by
  have hmem := mem_of_lastCollected h
  simpa using hmem

theorem findAnyCollectedVersion_eq_none (h : db.findAnyCollectedVersion version = none) :
    ∀ row ∈ db.collected, row.version ≠ version := by
  intro row hrow heq
  have hnil := List.head?_eq_none_iff.mp h
  have hmem : row ∈ (db.collected.filter fun c => c.version = version).insertionSort
      fun a b => b.collectedAt ≤ a.collectedAt := by
    rw [List.mem_insertionSort, List.mem_filter]
    exact ⟨hrow, by simpa using heq⟩
  rw [hnil] at hmem
  exact absurd hmem List.not_mem_nil

theorem saveCheckpoint_rows (db : Database) (checkpointId : String) (key : StreamKey)
    (cursor : Dict) (now : Timestamp) :
    (db.saveCheckpoint checkpointId key cursor now).collected = db.collected ∧
      (db.saveCheckpoint checkpointId key cursor now).runs = db.runs := by
  unfold Database.saveCheckpoint
  split
  · exact ⟨rfl, rfl⟩
  · exact ⟨rfl, rfl⟩

end Repository

def Holds (db : Vault.Database) (tenantId evidenceId contentSha256 : String) : Prop :=
  ∃ record ∈ db.evidence, record.evidenceId = evidenceId ∧ record.tenantId = tenantId ∧
    record.contentSha256 = contentSha256

section Vault

variable {sha256 : Bytes → String} {d d' : Vault.Database} {tenantId evidenceId content : String}

theorem write_holds (hunique : Unique d) (h : Write sha256 d d')
    (hd : Holds d tenantId evidenceId content) : Holds d' tenantId evidenceId content := by
  obtain ⟨record, hmem, hid, htenant, hcontent⟩ := hd
  cases h with
  | record r insertable => exact ⟨record, List.mem_append_left _ hmem, hid, htenant, hcontent⟩
  | @rewrite r r' mem later =>
    by_cases hsame : record.evidenceId = r'.evidenceId
    · -- it is the record that is rewritten, and its content stays
      obtain rfl : record = r :=
        hunique.eq_of_id hmem mem (hsame.trans later.evidenceId)
      refine ⟨r', List.mem_map.mpr ⟨record, hmem, if_pos hsame⟩, ?_, ?_, ?_⟩
      · rw [← hsame, hid]
      · rw [later.tenantId, htenant]
      · rw [later.contentSha256, hcontent]
    · exact ⟨record, List.mem_map.mpr ⟨record, hmem, if_neg hsame⟩, hid, htenant, hcontent⟩
  | edge t id => exact ⟨record, hmem, hid, htenant, hcontent⟩
  | custody hex tenantId evidenceId entry owned appendable =>
    exact ⟨record, hmem, hid, htenant, hcontent⟩
  | events events outbox => exact ⟨record, hmem, hid, htenant, hcontent⟩

theorem writes_unique (hunique : Unique d) (h : Writes sha256 d d') : Unique d' := by
  induction h with
  | refl => exact hunique
  | tail _ hwrite ih => exact ih.write hwrite

theorem writes_hold (hunique : Unique d) (h : Writes sha256 d d')
    (hd : Holds d tenantId evidenceId content) : Holds d' tenantId evidenceId content := by
  induction h with
  | refl => exact hd
  | tail hwrites hwrite ih => exact write_holds (writes_unique hunique hwrites) hwrite ih

variable {S : EvidenceVault} {v : VaultState} {ambient : Ambient} {request : IngestRequest}

theorem ingestBytes_writes : Writes S.sha256 v.db (S.ingestBytes v ambient request).2.db := by
  unfold EvidenceVault.ingestBytes
  split
  · exact .refl
  · exact acquireBytes_writes _

variable {item : EvidenceItem}

/-- The evidence that an acquisition answers is in the vault, with the content that was given. -/
theorem acquireBytes_holds {job : Job} (h : (S.acquireBytes v ambient job).1 = .ok item) :
    Holds (S.acquireBytes v ambient job).2.db job.tenantId item.evidenceId
      (S.sha256 job.payload) := by
  unfold EvidenceVault.acquireBytes at h ⊢
  split at h
  · cases h
  · rename_i existing hreplayed
    cases h
    obtain ⟨hfound, hdigest⟩ := replayed_eq_ok hreplayed
    obtain ⟨hmem, htenant, -, -⟩ := findAcquisition_eq_some hfound.symm
    exact ⟨item, hmem, rfl, htenant, hdigest item rfl⟩
  · split at h
    · cases h
    · split at h
      · cases h
      · rename_i item' db hcommit
        cases h
        rcases commit_cases hcommit with ⟨hfound, hdigest, rfl⟩ | ⟨-, rfl, -, -, hevidence⟩
        · obtain ⟨hmem, htenant, -, -⟩ := findAcquisition_eq_some hfound
          exact ⟨item, hmem, rfl, htenant, hdigest⟩
        · refine ⟨_, ?_, rfl, Job.record_tenantId .., Job.record_contentSha256 ..⟩
          rw [hevidence]
          exact List.mem_append_right _ (List.mem_singleton.mpr rfl)

theorem ingestBytes_holds (h : (S.ingestBytes v ambient request).1 = .ok item) :
    Holds (S.ingestBytes v ambient request).2.db request.tenantId item.evidenceId
      (S.sha256 request.payload) := by
  unfold EvidenceVault.ingestBytes at h ⊢
  split at h
  · cases h
  · rename_i job hread
    obtain ⟨engagementId, tainted, metadata, rfl⟩ := readIngest_eq_ok hread
    exact acquireBytes_holds h

end Vault

/-! ### One operation -/

section Operations

variable {env : Environment} {w : World} {op : Op}
variable {α : Type} {db db' : Database}

theorem transact_cases (w : World) (result : Except ConnectorError (α × World)) :
    (∃ a w', result = .ok (a, w') ∧ Environment.transact w result = (.ok a, w')) ∨
      ∃ e, result = .error e ∧ Environment.transact w result = (.error e, w) := by
  rcases result with e | ⟨a, w'⟩
  · exact .inr ⟨e, rfl, rfl⟩
  · exact .inl ⟨a, w', rfl, rfl⟩

variable {result : Except ConnectorError (α × World)} {tick : ℕ}

theorem transact_keeps {P : World → Prop} (hw : P w)
    (hresult : ∀ a w', result = .ok (a, w') → P w') :
    P (Environment.transact w result).2 := by
  rcases transact_cases w result with ⟨a, w', hok, heq⟩ | ⟨e, -, heq⟩
  · rw [heq]
    exact hresult a w' hok
  · rw [heq]
    exact hw

theorem transact_eq_ok {a : α} (h : (Environment.transact w result).1 = .ok a) :
    result = .ok (a, (Environment.transact w result).2) := by
  rcases transact_cases w result with ⟨b, w', rfl, -⟩ | ⟨e, rfl, -⟩
  · cases h
    rfl
  · cases h

theorem exec_state (env : Environment) (op : Op) (w : World) :
    (env.exec op w).2 = { w with ticks := w.ticks + 1 } ∨
      (env.exec op w).2 = { (env.effect w op).2 with ticks := w.ticks + 1 } := by
  unfold Environment.exec
  split
  · exact .inl rfl
  · exact .inr rfl
  · exact .inr rfl

theorem exec_eq_ok {answer : op.Answer} {w' : World} (h : env.exec op w = (.ok answer, w')) :
    (env.effect w op).1 = .ok answer ∧ w' = { (env.effect w op).2 with ticks := w.ticks + 1 } := by
  unfold Environment.exec at h
  split at h
  · cases h
  · cases h
  · obtain ⟨hanswer, rfl⟩ := Prod.mk.inj h
    exact ⟨hanswer, rfl⟩

theorem openRun_eq_ok {call : RunCall} {opening : Opening}
    (h : env.openRun db tick call = .ok (opening, db')) :
    (∃ row ∈ db.runs, opening = .existing row ∧ db' = db) ∨
      (∀ run ∈ db.runs, run.runId ≠ env.newId "run" tick) ∧
        opening = .opened (env.newId "run" tick)
          (Environment.checkpointBefore db call.streamKey) ∧
        db' = { db with
          runs := db.runs ++
            [env.newRun tick call (Environment.checkpointBefore db call.streamKey)] } := by
  unfold Environment.openRun at h
  split at h
  · rename_i existing hexisting
    cases h
    exact .inl ⟨existing, List.mem_of_find?_eq_some hexisting, rfl, rfl⟩
  · rw [ofOption_bind_eq_ok] at h
    obtain ⟨connectorInstance, -, h⟩ := h
    rw [ofOption_bind_eq_ok] at h
    obtain ⟨grant, -, h⟩ := h
    rw [require_bind_eq_ok] at h
    obtain ⟨-, h⟩ := h
    rw [bind_eq_ok] at h
    obtain ⟨_, -, h⟩ := h
    rw [bind_eq_ok] at h
    obtain ⟨db₁, hadd, h⟩ := h
    obtain ⟨hfresh, hdb₁⟩ := addRun_eq_ok hadd
    cases h
    exact .inr ⟨hfresh, rfl, hdb₁⟩

theorem recordHealth_eq_ok {tenantId connectorInstanceId : String} {health : ConnectorHealth}
    (h : Environment.recordHealth db tenantId connectorInstanceId health = .ok db') :
    ∃ row, db' = db.putInstance row := by
  unfold Environment.recordHealth at h
  rw [ofOption_bind_eq_ok] at h
  obtain ⟨row, -, h⟩ := h
  cases h
  exact ⟨_, rfl⟩

theorem finishRun_eq_ok {key : StreamKey} {runId : String} {progress : Progress}
    {error : Option ConnectorError} {row : ConnectorRun}
    (h : env.finishRun db tick key runId progress error = .ok (row, db')) :
    db' = db.putRun row := by
  unfold Environment.finishRun at h
  rw [ofOption_bind_eq_ok] at h
  obtain ⟨_, -, h⟩ := h
  cases h
  rfl

/-- What an operation can do. -/
inductive Change (env : Environment) (w : World) (op : Op) : World → Prop
  /-- rows are read, or rewritten in place, or added to other tables -/
  | rewrite (db : Database) (collected : db.collected = w.db.collected)
      (runs : db.runs.map ConnectorRun.runId = w.db.runs.map ConnectorRun.runId) :
      Change env w op { w with db := db }
  | run (run : ConnectorRun) :
      Change env w op { w with db := { w.db with runs := w.db.runs ++ [run] } }
  | link (link : CollectedLink) (isLink : op = .addCollected link)
      (run : ∃ run ∈ w.db.runs, run.runId = link.runId) :
      Change env w op { w with
        db := { w.db with collected := w.db.collected ++ [env.collectedRow w.ticks link] } }
  | vault (v : VaultState) (writes : Writes env.vault.sha256 w.vault.db v.db) :
      Change env w op { w with vault := v }

theorem Change.none : Change env w op w := .rewrite w.db rfl rfl

/-- **One operation.** -/
theorem effect_change (env : Environment) (w : World) (op : Op) :
    Change env w op (env.effect w op).2 := by
  cases op with
  | openRun call =>
    refine transact_keeps .none fun opening w' h => ?_
    rw [bind_eq_ok] at h
    obtain ⟨⟨_, db⟩, hopen, h⟩ := h
    cases h
    rcases openRun_eq_ok hopen with ⟨_, -, -, rfl⟩ | ⟨-, -, rfl⟩
    · exact .none
    · exact .run _
  | recordHealth tenantId connectorInstanceId health =>
    refine transact_keeps .none fun _ w' h => ?_
    rw [bind_eq_ok] at h
    obtain ⟨db, hrecord, h⟩ := h
    cases h
    obtain ⟨row, rfl⟩ := recordHealth_eq_ok hrecord
    exact .rewrite _ rfl rfl
  | findAnyVersion version => exact .none
  | findVersion version contentSha256 => exact .none
  | ingest request => exact .vault _ ingestBytes_writes
  | addCollected link =>
    refine transact_keeps .none fun _ w' h => ?_
    rw [bind_eq_ok] at h
    obtain ⟨db, hadd, h⟩ := h
    cases h
    obtain ⟨hrun, -, rfl⟩ := addCollectedObject_eq_ok hadd
    exact .link link rfl hrun
  | saveCheckpoint page key cursor =>
    have hrows := saveCheckpoint_rows w.db (env.newId "ckp" w.ticks) key cursor
      (env.clock w.ticks)
    exact .rewrite _ hrows.1 (congrArg _ hrows.2)
  | finishRun key runId progress error =>
    refine transact_keeps .none fun _ w' h => ?_
    rw [bind_eq_ok] at h
    obtain ⟨⟨row, db⟩, hfinish, h⟩ := h
    cases h
    rw [finishRun_eq_ok hfinish]
    exact .rewrite _ rfl (Table.map_put_key _ w.db.runs)

theorem exec_change (env : Environment) (op : Op) (w : World) :
    ∃ w', Change env w op w' ∧ (env.exec op w).2 = { w' with ticks := w.ticks + 1 } := by
  rcases exec_state env op w with h | h
  · exact ⟨w, .none, h⟩
  · exact ⟨_, effect_change env w op, h⟩

namespace Change

variable {w' : World}

theorem collected (h : Change env w op w') :
    w'.db.collected = w.db.collected ∨
      ∃ link, op = .addCollected link ∧ (∃ run ∈ w.db.runs, run.runId = link.runId) ∧
        w'.db.collected = w.db.collected ++ [env.collectedRow w.ticks link] := by
  cases h with
  | rewrite db hcollected hruns => exact .inl hcollected
  | run run => exact .inl rfl
  | link link hop hrun => exact .inr ⟨link, hop, hrun, rfl⟩
  | vault v hwrites => exact .inl rfl

theorem runs (h : Change env w op w') {runId : String}
    (hrun : ∃ run ∈ w.db.runs, run.runId = runId) : ∃ run ∈ w'.db.runs, run.runId = runId := by
  have hmem : runId ∈ w.db.runs.map ConnectorRun.runId := List.mem_map.mpr hrun
  refine List.mem_map.mp ?_
  cases h with
  | rewrite db hcollected hruns => rwa [← hruns] at hmem
  | run run =>
    show runId ∈ (w.db.runs ++ [run]).map _
    rw [List.map_append]
    exact List.mem_append_left _ hmem
  | link link hop hrun => exact hmem
  | vault v hwrites => exact hmem

theorem writes (h : Change env w op w') : Writes env.vault.sha256 w.vault.db w'.vault.db := by
  cases h with
  | rewrite db hcollected hruns => exact .refl
  | run run => exact .refl
  | link link hop hrun => exact .refl
  | vault v hwrites => exact hwrites

end Change

end Operations

def Evidenced (w : World) (link : CollectedLink) : Prop :=
  Holds w.vault.db link.version.streamKey.tenantId link.evidenceId link.contentSha256

/-- Each collected object belongs to a run, and its evidence is in the vault. -/
structure Backed (w : World) : Prop where
  unique : Unique w.vault.db
  runs : ∀ row ∈ w.db.collected, ∃ run ∈ w.db.runs, run.runId = row.runId
  evidence : ∀ row ∈ w.db.collected, Holds w.vault.db row.tenantId row.evidenceId row.contentSha256

section Backed

variable {env : Environment} {w : World} {op : Op}

theorem exec_backed (hw : Backed w) (hlink : ∀ link, op = .addCollected link → Evidenced w link) :
    Backed (env.exec op w).2 := by
  obtain ⟨w', hchange, heq⟩ := exec_change env op w
  -- the old rows stay as they were; a new one is the row of a link
  have hrow : ∀ row ∈ w'.db.collected, (∃ run ∈ w.db.runs, run.runId = row.runId) ∧
      Holds w.vault.db row.tenantId row.evidenceId row.contentSha256 := by
    intro row hmem
    rcases hchange.collected with hsame | ⟨link, hop, hrun, hadded⟩
    · rw [hsame] at hmem
      exact ⟨hw.runs row hmem, hw.evidence row hmem⟩
    · rw [hadded] at hmem
      rcases List.mem_append.mp hmem with hmem | hmem
      · exact ⟨hw.runs row hmem, hw.evidence row hmem⟩
      · rw [List.mem_singleton.mp hmem]
        exact ⟨hrun, hlink link hop⟩
  rw [heq]
  exact ⟨writes_unique hw.unique hchange.writes, fun row hmem => hchange.runs (hrow row hmem).1,
    fun row hmem => writes_hold hw.unique hchange.writes (hrow row hmem).2⟩

def NotLink : Op → Prop
  | .addCollected _ => False
  | _ => True

theorem exec_collected (hop : NotLink op) : (env.exec op w).2.db.collected = w.db.collected := by
  obtain ⟨w', hchange, heq⟩ := exec_change env op w
  rw [heq]
  rcases hchange.collected with hsame | ⟨link, rfl, -⟩
  · exact hsame
  · exact hop.elim

theorem keeps_backed {α : Type} {p : Method α} (hp : p.Calls NotLink) (hw : Backed w) :
    p.Keeps env.exec Backed w := by
  have hop : ∀ (op : Op) (w' : World), NotLink op → Backed w' → Backed (env.exec op w').2 := by
    intro op w' hop hw'
    refine exec_backed hw' ?_
    rintro link rfl
    exact hop.elim
  exact hp.keeps hop hw

end Backed

/-! ### Collecting one object -/

section Collecting

variable {env : Environment} {call : RunCall} {runId : String} {page : ConnectorPage}
  {item : SourceObject} {w w' : World}

theorem findPrior_calls : (findPrior env call item).Calls NotLink := by
  refine Program.Calls.bind (Program.calls_perform.mpr trivial) fun anyPrior => ?_
  by_cases hconflict : ∃ prior ∈ anyPrior, prior.contentSha256 ≠ env.contentSha256 item
  · rw [if_pos hconflict]
    exact trivial
  · rw [if_neg hconflict]
    exact Program.calls_perform.mpr trivial

variable {prior : Option CollectedSourceObject}

theorem evidenceOf_calls :
    (evidenceOf env call page item prior).Calls NotLink := by
  cases prior with
  | none => exact Program.Calls.bind (Program.calls_perform.mpr trivial) fun _ => trivial
  | some prior => exact trivial

theorem checkHealth_calls : (checkHealth call).Calls NotLink := by
  unfold checkHealth
  split
  · exact trivial
  · refine Program.Calls.bind (Program.calls_perform.mpr trivial) fun _ => ?_
    split
    · exact trivial
    · exact trivial

theorem findPrior_eq_ok (h : (findPrior env call item).run env.exec w = (.ok prior, w')) :
    w'.db = w.db ∧ w'.vault = w.vault ∧
      prior = w.db.findCollectedVersion (call.version item) (env.contentSha256 item) ∧
      ∀ any ∈ w.db.findAnyCollectedVersion (call.version item),
        any.contentSha256 = env.contentSha256 item := by
  obtain ⟨anyPrior, w₁, hany, hrest⟩ := Program.run_bind_eq_ok.mp h
  obtain ⟨hanswer, rfl⟩ := @exec_eq_ok env w (.findAnyVersion _) anyPrior w₁ hany
  cases hanswer
  by_cases hconflict : ∃ prior ∈ w.db.findAnyCollectedVersion (call.version item),
      prior.contentSha256 ≠ env.contentSha256 item
  · rw [if_pos hconflict] at hrest
    cases hrest
  · rw [if_neg hconflict] at hrest
    obtain ⟨hanswer, rfl⟩ := @exec_eq_ok env _ (.findVersion _ _) prior w' hrest
    cases hanswer
    refine ⟨rfl, rfl, rfl, fun any hmem => ?_⟩
    by_contra hne
    exact hconflict ⟨any, hmem, hne⟩

variable {evidenceId : String} {progress : Progress}

theorem evidenceOf_holds (hw : Backed w) (h : (evidenceOf env call page item
      (w.db.findCollectedVersion (call.version item) (env.contentSha256 item))).run env.exec w =
        (.ok evidenceId, w')) :
    Evidenced w' (collectedLink env call runId page item evidenceId) := by
  rcases hprior : w.db.findCollectedVersion (call.version item) (env.contentSha256 item) with
    _ | prior
  · rw [hprior] at h
    obtain ⟨evidence, w₁, hingest, hrest⟩ := Program.run_bind_eq_ok.mp h
    cases hrest
    obtain ⟨hanswer, rfl⟩ := @exec_eq_ok env w (.ingest _) evidence w' hingest
    rw [Environment.effect, Checked.mapError_eq_ok] at hanswer
    exact ingestBytes_holds hanswer
  · rw [hprior] at h
    cases h
    obtain ⟨hmem, hversion, hcontent⟩ := findCollectedVersion_eq_some hprior
    have hholds := hw.evidence prior hmem
    rwa [CollectedSourceObject.tenantId, hversion, hcontent] at hholds

theorem evidenceOf_db
    (h : (evidenceOf env call page item prior).run env.exec w = (.ok evidenceId, w')) :
    w'.db = w.db := by
  cases prior with
  | none =>
    obtain ⟨evidence, w₁, hingest, hrest⟩ := Program.run_bind_eq_ok.mp h
    cases hrest
    obtain ⟨-, rfl⟩ := @exec_eq_ok env w (.ingest _) evidence w' hingest
    rfl
  | some prior =>
    cases h
    rfl

theorem addCollected_db {link : CollectedLink} {answer : Unit}
    (h : env.exec (.addCollected link) w = (.ok answer, w')) :
    w'.db = { w.db with collected := w.db.collected ++ [env.collectedRow w.ticks link] } := by
  obtain ⟨hanswer, rfl⟩ := exec_eq_ok h
  have hresult := transact_eq_ok hanswer
  rw [bind_eq_ok] at hresult
  obtain ⟨db, hadd, hresult⟩ := hresult
  obtain ⟨-, -, rfl⟩ := addCollectedObject_eq_ok hadd
  have hworld := congrArg Prod.snd (Except.ok.inj hresult)
  exact congrArg World.db hworld.symm

theorem collectObject_backed (hw : Backed w) :
    (collectObject env call runId page progress item).Keeps env.exec Backed w := by
  refine Keeps.attempt_bind (keeps_backed findPrior_calls hw) fun r w₁ hprior hw₁ => ?_
  cases r with
  | error e => exact Program.keeps_done hw₁
  | ok prior =>
    obtain ⟨hdb, -, rfl, -⟩ := findPrior_eq_ok hprior
    rw [← hdb]
    refine Keeps.attempt_bind (keeps_backed evidenceOf_calls hw₁) fun r w₂ hevidence hw₂ => ?_
    cases r with
    | error e => exact Program.keeps_done hw₂
    | ok evidenceId =>
      have hlink : Evidenced w₂ (collectedLink env call runId page item evidenceId) :=
        evidenceOf_holds hw₁ hevidence
      have hlinked : Backed (env.exec (.addCollected
          (collectedLink env call runId page item evidenceId)) w₂).2 := by
        refine exec_backed hw₂ ?_
        rintro link heq
        cases heq
        exact hlink
      refine Keeps.attempt_bind (Program.keeps_perform hw₂ hlinked) fun r w₃ _ hw₃ => ?_
      cases r with
      | error e => exact Program.keeps_done hw₃
      | ok _ => exact Program.keeps_done hw₃

theorem collectPage_backed (hw : Backed w) :
    (collectPage env call runId progress page).Keeps env.exec Backed w := by
  refine Keeps.bind (Program.keeps_forEachUntil (fun _ _ _ h => collectObject_backed h) hw)
    fun r w₁ _ hw₁ => ?_
  obtain ⟨progress, e⟩ := r
  cases e with
  | some e => exact Program.keeps_done hw₁
  | none =>
    rcases hcursor : page.nextCursor with _ | cursor
    · exact Program.keeps_done hw₁
    · have hsaved : (perform (Op.saveCheckpoint progress.pages call.streamKey cursor) :
          Method Unit).Keeps env.exec Backed w₁ :=
        keeps_backed (Program.calls_perform.mpr trivial) hw₁
      refine hsaved.attempt_bind fun r w₂ _ hw₂ => ?_
      cases r with
      | error e => exact Program.keeps_done hw₂
      | ok _ => exact Program.keeps_done hw₂

theorem collect_backed {checkpointBefore : Dict} (hw : Backed w) :
    (collect env call runId checkpointBefore).Keeps env.exec Backed w := by
  refine Keeps.attempt_bind (keeps_backed checkHealth_calls hw) fun r w₁ _ hw₁ => ?_
  cases r with
  | error e => exact Program.keeps_done hw₁
  | ok _ =>
    refine Keeps.bind (Program.keeps_forEachUntil (fun _ _ _ h => collectPage_backed h) hw₁)
      fun r w₂ _ hw₂ => ?_
    obtain ⟨progress, e⟩ := r
    cases e with
    | some e => exact Program.keeps_done hw₂
    | none => exact Program.keeps_done hw₂

end Collecting

variable {env : Environment} {w : World}

/-- **A run**, wherever it stops. -/
theorem run_backed {call : RunCall} (hw : Backed w) :
    (run env call).Keeps env.exec Backed w := by
  have hop : ∀ op : Op, NotLink op → ∀ w, Backed w →
      (perform op : Method op.Answer).Keeps env.exec Backed w :=
    fun op h w hw => keeps_backed (Program.calls_perform.mpr h) hw
  refine (hop (.openRun call) trivial w hw).bind fun opening w₁ _ hw₁ => ?_
  cases opening with
  | existing row => exact Program.keeps_done hw₁
  | opened runId checkpointBefore =>
    refine (collect_backed hw₁).bind fun r w₂ _ hw₂ => ?_
    obtain ⟨progress, error⟩ := r
    refine (hop (.finishRun call.streamKey runId progress error) trivial w₂ hw₂).bind
      fun row w₃ _ hw₃ => ?_
    cases error with
    | some e => exact Program.keeps_done hw₃
    | none => exact Program.keeps_done hw₃

/-- The worlds that runs lead to, from one in which nothing has been collected. -/
inductive Reachable (env : Environment) : World → Prop
  | fresh {w : World} (collected : w.db.collected = []) (unique : Unique w.vault.db) :
      Reachable env w
  /-- a run that stops before its call number `calls`, or comes to its end -/
  | run {w : World} (call : RunCall) (calls : ℕ) (reachable : Reachable env w) :
      Reachable env ((Connectors.run env call).stopped env.exec calls w)
  | configure {w : World} (instances : List ConnectorInstance) (grants : List CollectionGrant)
      (reachable : Reachable env w) :
      Reachable env { w with db := { w.db with instances := instances, grants := grants } }
  /-- the vault is used by others -/
  | vault {w : World} (v : VaultState) (writes : Writes env.vault.sha256 w.vault.db v.db)
      (reachable : Reachable env w) : Reachable env { w with vault := v }

theorem Reachable.backed (h : Reachable env w) : Backed w := by
  induction h with
  | fresh collected unique =>
    refine ⟨unique, fun row hrow => ?_, fun row hrow => ?_⟩
    · rw [collected] at hrow
      exact absurd hrow List.not_mem_nil
    · rw [collected] at hrow
      exact absurd hrow List.not_mem_nil
  | run call calls _ ih => exact (run_backed ih).stopped calls
  | configure instances grants _ ih => exact ⟨ih.unique, ih.runs, ih.evidence⟩
  | vault v writes _ ih =>
    exact ⟨writes_unique ih.unique writes, ih.runs,
      fun row hrow => writes_hold ih.unique writes (ih.evidence row hrow)⟩

end Connectors
