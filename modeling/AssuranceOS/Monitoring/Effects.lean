/-
What the transactions of the monitoring service write.

`Effect` says it of each operation: a version is added after those of its key, which are
retired (`Added`), or the state of one version is written, with a run of it (`Written`).
Ids and numbers of versions never change (`ident`), and both writes keep the versions in
order (`Ordered`), the second one if the version has no successor.
-/
import AssuranceOS.Monitoring.Service

namespace Monitoring

open Checked

variable {env : Environment} {db db' : Database} {w : World} {monitorId : String}

/-- What does not change of a monitor. -/
structure VersionId where
  monitorId : String
  tenantId : String
  monitorKey : String
  version : ℕ

def ContinuousMonitor.ident (m : ContinuousMonitor) : VersionId where
  monitorId := m.monitorId
  tenantId := m.tenantId
  monitorKey := m.monitorKey
  version := m.version

def ContinuousMonitor.SameKey (m m' : ContinuousMonitor) : Prop :=
  m.tenantId = m'.tenantId ∧ m.monitorKey = m'.monitorKey

/-- There is a later version of the monitor. -/
def Superseded (db : Database) (m : ContinuousMonitor) : Prop :=
  ∃ m' ∈ db.monitors, m'.SameKey m ∧ m.version < m'.version

instance (db : Database) (m : ContinuousMonitor) : Decidable (Superseded db m) :=
  inferInstanceAs (Decidable (∃ m' ∈ db.monitors, (_ ∧ _) ∧ m.version < m'.version))

/-- At most one version of each key is active. -/
def OneActive (db : Database) : Prop :=
  ∀ m ∈ db.monitors, ∀ m' ∈ db.monitors, m.SameKey m' → m.status = .active → m'.status = .active →
    m = m'

def Database.idents (db : Database) : List VersionId := db.monitors.map ContinuousMonitor.ident

variable {m : ContinuousMonitor} {tenantId : String} {run : MonitorRun} {tick : ℕ} {now : ℤ}

theorem mem_of_ident (hm : m ∈ db.monitors) (h : ∀ v ∈ db.idents, v ∈ db'.idents) :
    ∃ m' ∈ db'.monitors, m'.ident = m.ident :=
  List.mem_map.mp (h m.ident (List.mem_map_of_mem hm))

variable {m' : ContinuousMonitor} {data : MonitorExecutionInput}

theorem Superseded.mono (h : Superseded db m) (hsub : ∀ v ∈ db.idents, v ∈ db'.idents)
    (hid : m'.ident = m.ident) : Superseded db' m' := by
  obtain ⟨s, hs, hkey, hlt⟩ := h
  obtain ⟨s', hs', heq⟩ := mem_of_ident hs hsub
  obtain ⟨-, htenant, hmonitorKey, hversion⟩ := (VersionId.mk.injEq ..).mp heq
  obtain ⟨-, htenant', hmonitorKey', hversion'⟩ := (VersionId.mk.injEq ..).mp hid
  refine ⟨s', hs', ⟨?_, ?_⟩, ?_⟩
  · rw [htenant, htenant']
    exact hkey.1
  · rw [hmonitorKey, hmonitorKey']
    exact hkey.2
  · rw [hversion, hversion']
    exact hlt

/-- Monitors have ids, versions of a key are numbered, and none that has a successor is
active. -/
structure Ordered (db : Database) : Prop where
  ids_nodup : (db.monitors.map ContinuousMonitor.monitorId).Nodup
  version_injective : ∀ m ∈ db.monitors, ∀ m' ∈ db.monitors, m.SameKey m' →
    m.version = m'.version → m = m'
  inactive : ∀ m ∈ db.monitors, Superseded db m → m.status ≠ .active

theorem Ordered.oneActive (h : Ordered db) : OneActive db := by
  intro m hm m' hm' hkey hactive hactive'
  refine h.version_injective m hm m' hm' hkey ?_
  by_contra hne
  rcases Nat.lt_or_gt_of_ne hne with hlt | hlt
  · exact h.inactive m hm ⟨m', hm', ⟨hkey.1.symm, hkey.2.symm⟩, hlt⟩ hactive
  · exact h.inactive m' hm' ⟨m, hm, hkey, hlt⟩ hactive'

theorem Ordered.eq_of_ident (h : Ordered db) (hm : m ∈ db.monitors) (hm' : m' ∈ db.monitors)
    (hid : m.monitorId = m'.monitorId) : m = m' :=
  Table.eq_of_key_eq h.ids_nodup hm hm' hid

/-! ### What a transaction writes -/

/-- The state of the version `monitorId` is written, with a run of it. -/
structure Written (monitorId : String) (db db' : Database) : Prop where
  monitors : ∃ m ∈ db.monitors, m.monitorId = monitorId ∧ ∃ m', m'.ident = m.ident ∧
    db'.monitors = Table.put ContinuousMonitor.monitorId m' db.monitors
  runs : ∃ run : MonitorRun, run.monitorId = monitorId ∧ db'.runs = db.runs ++ [run]

theorem getMonitor_eq_some (h : db.getMonitor monitorId = some m) :
    m ∈ db.monitors ∧ m.monitorId = monitorId :=
  ⟨Table.mem_of_get? h, Table.key_of_get? h⟩

theorem tenantMonitor_eq_some (h : db.tenantMonitor tenantId monitorId = some m) :
    m ∈ db.monitors ∧ m.tenantId = tenantId ∧ m.monitorId = monitorId := by
  have hprop := List.find?_some h
  simp only [Bool.decide_and, Bool.and_eq_true, decide_eq_true_eq] at hprop
  exact ⟨List.mem_of_find?_eq_some h, hprop.1, hprop.2⟩

theorem addRun_eq_ok :
    db.addRun run = .ok db' ↔
      (∀ r ∈ db.runs, r.monitorRunId ≠ run.monitorRunId ∧
        ¬ (r.tenantId = run.tenantId ∧ r.idempotencyKey = run.idempotencyKey)) ∧
      { db with runs := db.runs ++ [run] } = db' := by
  unfold Database.addRun
  rw [require_bind_eq_ok]
  simp [pure, Except.pure]

theorem addAlerts_eq_ok {alerts : List MonitorAlert} :
    ∀ {db : Database}, alerts.foldlM Database.addAlert db = .ok db' →
      db'.monitors = db.monitors ∧ db'.runs = db.runs := by
  induction alerts with
  | nil =>
    intro db h
    cases h
    exact ⟨rfl, rfl⟩
  | cons alert alerts ih =>
    intro db h
    obtain ⟨db₁, hadd, hrest⟩ := bind_eq_ok.mp h
    unfold Database.addAlert at hadd
    obtain ⟨-, hadd⟩ := require_bind_eq_ok.mp hadd
    cases hadd
    have hsame := ih hrest
    exact hsame

theorem suspendMonitor_eq_ok {reasons : List String}
    (h : suspendMonitor env tick tenantId monitorId data reasons now db = .ok (run, db')) :
    run = suspendedRun env tick tenantId monitorId data reasons now ∧
      db'.runs = db.runs ++ [run] ∧ Written monitorId db db' := by
  obtain ⟨m, hm, h⟩ := ofOption_bind_eq_ok.mp h
  obtain ⟨hmem, hid⟩ := getMonitor_eq_some hm
  obtain ⟨db₁, hadd, h⟩ := bind_eq_ok.mp h
  obtain ⟨-, rfl⟩ := addRun_eq_ok.mp hadd
  cases h
  exact ⟨rfl, rfl, ⟨m, hmem, hid, m.suspendedFor reasons, rfl, rfl⟩, _, rfl, rfl⟩

theorem recordExecution_eq_ok {result : ControlTesting.ControlTestRunResult}
    (h : recordExecution env tick tenantId monitorId data result now db = .ok (run, db')) :
    (∃ count, run = { executedRun env tick tenantId monitorId data result with
      alertCount := count }) ∧ run ∉ db.runs ∧ db'.runs = db.runs ++ [run] ∧
      Written monitorId db db' := by
  obtain ⟨m, hm, h⟩ := ofOption_bind_eq_ok.mp h
  obtain ⟨hmem, hid⟩ := getMonitor_eq_some hm
  obtain ⟨db₁, hadd, h⟩ := bind_eq_ok.mp h
  obtain ⟨hnew, rfl⟩ := addRun_eq_ok.mp hadd
  obtain ⟨db₂, halerts, h⟩ := bind_eq_ok.mp h
  cases h
  obtain ⟨hmonitors, hruns⟩ := addAlerts_eq_ok halerts
  exact ⟨⟨_, rfl⟩, fun hold => (hnew _ hold).1 rfl, hruns,
    ⟨m, hmem, hid, m.reactivated, rfl, hmonitors⟩, _, rfl, hruns⟩

/-- A version is added after those of its key, which are retired. -/
structure Added (row : ContinuousMonitor) (db db' : Database) : Prop where
  id_new : ∀ m ∈ db.monitors, m.monitorId ≠ row.monitorId
  latest : ∀ m ∈ db.monitors, m.SameKey row → m.version < row.version
  monitors : db'.monitors = (db.retireActive row.tenantId row.monitorKey).monitors ++ [row]
  runs : db'.runs = db.runs

theorem start_le_foldl_max (ns : List ℕ) : ∀ start, start ≤ ns.foldl max start := by
  induction ns with
  | nil => exact fun start => le_rfl
  | cons k ns ih => exact fun start => (le_max_left start k).trans (ih (max start k))

theorem le_foldl_max {ns : List ℕ} {n : ℕ} (hn : n ∈ ns) : ∀ start, n ≤ ns.foldl max start := by
  induction ns with
  | nil => exact absurd hn List.not_mem_nil
  | cons k ns ih =>
    intro start
    rcases List.mem_cons.mp hn with rfl | hn
    · exact (le_max_right start n).trans (start_le_foldl_max ns _)
    · exact ih hn (max start k)

/-- Each row of `retireActive` is a row of the table, as it was or retired. -/
theorem mem_retireActive {monitorKey : String} {x : ContinuousMonitor} :
    x ∈ (db.retireActive tenantId monitorKey).monitors ↔
      ∃ m ∈ db.monitors, (if m.tenantId = tenantId ∧ m.monitorKey = monitorKey ∧
        m.status = .active then m.retired else m) = x :=
  List.mem_map

theorem retireActive_idents (db : Database) (tenantId monitorKey : String) :
    (db.retireActive tenantId monitorKey).idents = db.idents := by
  unfold Database.idents Database.retireActive
  rw [List.map_map]
  refine List.map_congr_left fun m _ => ?_
  show ContinuousMonitor.ident (if _ then _ else m) = m.ident
  split <;> rfl

theorem addVersion_eq_ok {data : MonitorDefinitionInput} {row : ContinuousMonitor}
    (h : addVersion env tick tenantId data now db = .ok (row, db')) :
    row.tenantId = tenantId ∧ row.monitorKey = data.monitorKey ∧ Added row db db' := by
  obtain ⟨-, h⟩ := require_bind_eq_ok.mp h
  obtain ⟨db₁, hadd, h⟩ := bind_eq_ok.mp h
  unfold Database.addMonitor at hadd
  obtain ⟨hnew, hadd⟩ := require_bind_eq_ok.mp hadd
  cases hadd
  cases h
  refine ⟨rfl, rfl, fun m hm heq => ?_, fun m hm hsame => ?_, rfl, rfl⟩
  · refine (hnew _ (mem_retireActive.mpr ⟨m, hm, rfl⟩)).1 ?_
    rw [← heq]
    split <;> rfl
  · refine Nat.lt_succ_of_le (le_foldl_max ?_ 0)
    refine List.mem_map_of_mem (List.mem_filter.mpr ⟨hm, ?_⟩)
    rw [show m.tenantId = tenantId from hsame.1, show m.monitorKey = data.monitorKey from hsame.2]
    simp

/-- What one operation does to the monitors and their runs. -/
inductive Effect (db : Database) : Op → Database → Prop
  | none {op : Op} {db' : Database} (monitors : db'.monitors = db.monitors)
      (runs : db'.runs = db.runs) : Effect db op db'
  | added {tenantId : String} {data : MonitorDefinitionInput} {now : ℤ} {db' : Database}
      (row : ContinuousMonitor) (tenant : row.tenantId = tenantId)
      (key : row.monitorKey = data.monitorKey) (h : Added row db db') :
      Effect db (.addVersion tenantId data now) db'
  | suspended {tenantId monitorId : String} {data : MonitorExecutionInput} {reasons : List String}
      {now : ℤ} {db' : Database} (h : Written monitorId db db') :
      Effect db (.suspendMonitor tenantId monitorId data reasons now) db'
  | recorded {tenantId monitorId : String} {data : MonitorExecutionInput}
      {result : ControlTesting.ControlTestRunResult} {now : ℤ} {db' : Database}
      (h : Written monitorId db db') :
      Effect db (.recordExecution tenantId monitorId data result now) db'

theorem commit_eq {α : Type} (result : Except MonitorError (α × Database)) :
    (w.commit result).2.db = w.db ∨ ∃ a, result = .ok (a, (w.commit result).2.db) := by
  cases result with
  | error e => exact Or.inl rfl
  | ok r => exact Or.inr ⟨r.1, rfl⟩

theorem exec_effect (env : Environment) (op : Op) (w : World) :
    Effect w.db op (exec env op w).2.db := by
  have hsame : (exec env op w).2.db = w.db → Effect w.db op (exec env op w).2.db := by
    intro heq
    rw [heq]
    exact .none rfl rfl
  cases op with
  | clock => exact hsame rfl
  | openExecution t id key => exact hsame rfl
  | openTest t request => exact hsame rfl
  | finishTest t run request admission => exact hsame rfl
  | addVersion t data now =>
    rcases commit_eq (w := w) (addVersion env w.ticks t data now w.db) with heq | ⟨row, h⟩
    · exact hsame heq
    · obtain ⟨htenant, hkey, hadded⟩ := addVersion_eq_ok h
      exact .added row htenant hkey hadded
  | suspendMonitor t id data reasons now =>
    rcases commit_eq (w := w) (suspendMonitor env w.ticks t id data reasons now w.db) with
      heq | ⟨run, h⟩
    · exact hsame heq
    · exact .suspended (suspendMonitor_eq_ok h).2.2
  | recordExecution t id data result now =>
    rcases commit_eq (w := w) (recordExecution env w.ticks t id data result now w.db) with
      heq | ⟨run, h⟩
    · exact hsame heq
    · exact .recorded (recordExecution_eq_ok h).2.2.2

theorem Written.idents (h : Written monitorId db db') (ho : Ordered db) :
    db'.idents = db.idents := by
  obtain ⟨m, hm, -, m', hident, heq⟩ := h.monitors
  unfold Database.idents
  rw [heq]
  refine Table.map_put fun x hx hid => ?_
  have hxm : x = m := ho.eq_of_ident hx hm (hid.trans (congrArg VersionId.monitorId hident))
  rw [hxm, hident]

theorem Ordered.of_idents (ho : Ordered db) (hidents : db'.idents = db.idents)
    (hinactive : ∀ m ∈ db'.monitors, Superseded db' m → m.status ≠ .active) : Ordered db' := by
  have hids : db'.monitors.map ContinuousMonitor.monitorId =
      db.monitors.map ContinuousMonitor.monitorId := by
    have hmap : ∀ d : Database, d.monitors.map ContinuousMonitor.monitorId =
        d.idents.map VersionId.monitorId := by
      intro d
      rw [Database.idents, List.map_map]
      rfl
    rw [hmap, hmap, hidents]
  have hnodup : (db'.monitors.map ContinuousMonitor.monitorId).Nodup := hids ▸ ho.ids_nodup
  refine ⟨hnodup, ?_, hinactive⟩
  intro m hm m' hm' hkey hversion
  obtain ⟨x, hx, hxm⟩ : ∃ x ∈ db.monitors, x.ident = m.ident :=
    mem_of_ident hm fun v hv => hidents ▸ hv
  obtain ⟨x', hx', hxm'⟩ : ∃ x ∈ db.monitors, x.ident = m'.ident :=
    mem_of_ident hm' fun v hv => hidents ▸ hv
  obtain ⟨hid, ht, hk, hv⟩ := (VersionId.mk.injEq ..).mp hxm
  obtain ⟨hid', ht', hk', hv'⟩ := (VersionId.mk.injEq ..).mp hxm'
  have hxx : x = x' := ho.version_injective x hx x' hx'
    ⟨ht.trans (hkey.1.trans ht'.symm), hk.trans (hkey.2.trans hk'.symm)⟩
    (hv.trans (hversion.trans hv'.symm))
  refine Table.eq_of_key_eq hnodup hm hm' ?_
  rw [← hid, ← hid', hxx]

theorem Ordered.congr (ho : Ordered db) (h : db'.monitors = db.monitors) : Ordered db' := by
  refine ho.of_idents (congrArg (List.map ContinuousMonitor.ident) h) fun m hm hsuper => ?_
  rw [h] at hm
  exact ho.inactive m hm (by rwa [Superseded, h] at hsuper)

theorem Written.ordered (h : Written monitorId db db') (ho : Ordered db)
    (hlatest : ∀ m ∈ db.monitors, m.monitorId = monitorId → ¬ Superseded db m) : Ordered db' := by
  have hidents := h.idents ho
  refine ho.of_idents hidents fun x hx hsuper => ?_
  obtain ⟨m, hm, hid, m', hident, heq⟩ := h.monitors
  rw [heq] at hx
  rcases Table.eq_or_mem_of_mem_put hx with rfl | ⟨hxmem, -⟩
  · exact absurd (hsuper.mono (fun v hv => hidents ▸ hv) hident.symm) (hlatest m hm hid)
  · exact ho.inactive x hxmem (hsuper.mono (fun v hv => hidents ▸ hv) rfl)

section Added

variable {row : ContinuousMonitor}

theorem Added.mem_idents (h : Added row db db') : ∀ v ∈ db.idents, v ∈ db'.idents := by
  intro v hv
  rw [← retireActive_idents db row.tenantId row.monitorKey] at hv
  unfold Database.idents
  rw [h.monitors, List.map_append]
  exact List.mem_append_left _ hv

/-- A row of the table is the new version, or comes from a row before; of those of the same
key none is active. -/
theorem Added.cases (h : Added row db db') {x : ContinuousMonitor} (hx : x ∈ db'.monitors) :
    x = row ∨ ∃ m ∈ db.monitors, x.ident = m.ident ∧
      (x.status = .active → m.status = .active ∧ ¬ m.SameKey row) := by
  rw [h.monitors] at hx
  rcases List.mem_append.mp hx with hx | hx
  · obtain ⟨m, hm, rfl⟩ := mem_retireActive.mp hx
    refine Or.inr ⟨m, hm, ?_, ?_⟩
    · split <;> rfl
    · split
      · intro hactive
        cases hactive
      · rename_i hnot
        intro hactive
        exact ⟨hactive, fun hsame => hnot ⟨hsame.1, hsame.2, hactive⟩⟩
  · exact Or.inl (List.mem_singleton.mp hx)

variable {x : ContinuousMonitor}

theorem Added.below (h : Added row db db') (hm : m ∈ db.monitors) (hident : x.ident = m.ident)
    (hsame : x.SameKey row) : x.version < row.version := by
  obtain ⟨-, ht, hk, hv⟩ := (VersionId.mk.injEq ..).mp hident
  rw [hv]
  exact h.latest m hm ⟨ht.symm.trans hsame.1, hk.symm.trans hsame.2⟩

theorem Added.row_current (h : Added row db db') : ¬ Superseded db' row := by
  rintro ⟨s, hs, hsame, hlt⟩
  rcases h.cases hs with rfl | ⟨m, hm, hident, -⟩
  · omega
  · have hbelow := h.below hm hident hsame
    omega

theorem Added.superseded_of (h : Added row db db') (hident : x.ident = m.ident)
    (hsuper : Superseded db' x) : Superseded db m ∨ m.SameKey row := by
  obtain ⟨s, hs, hsame, hlt⟩ := hsuper
  obtain ⟨-, ht, hk, hv⟩ := (VersionId.mk.injEq ..).mp hident
  rcases h.cases hs with rfl | ⟨m', hm', hident', -⟩
  · exact Or.inr ⟨ht.symm.trans hsame.1.symm, hk.symm.trans hsame.2.symm⟩
  · obtain ⟨-, ht', hk', hv'⟩ := (VersionId.mk.injEq ..).mp hident'
    refine Or.inl ⟨m', hm', ⟨?_, ?_⟩, ?_⟩
    · exact ht'.symm.trans (hsame.1.trans ht)
    · exact hk'.symm.trans (hsame.2.trans hk)
    · rw [← hv, ← hv']
      exact hlt

theorem Added.ids_nodup (h : Added row db db') (ho : Ordered db) :
    (db'.monitors.map ContinuousMonitor.monitorId).Nodup := by
  have hids : (db.retireActive row.tenantId row.monitorKey).monitors.map
      ContinuousMonitor.monitorId = db.monitors.map ContinuousMonitor.monitorId := by
    have hmap := congrArg (List.map VersionId.monitorId)
      (retireActive_idents db row.tenantId row.monitorKey)
    simp only [Database.idents, List.map_map] at hmap
    exact hmap
  rw [h.monitors]
  refine Table.nodup_append_of_not_mem (hids ▸ ho.ids_nodup) ?_
  rw [hids]
  intro hmem
  obtain ⟨m, hm, hid⟩ := List.mem_map.mp hmem
  exact h.id_new m hm hid

theorem Added.ordered (h : Added row db db') (ho : Ordered db) : Ordered db' := by
  have hnodup := h.ids_nodup ho
  refine ⟨hnodup, fun x hx y hy hsame hversion => ?_, fun x hx hsuper hactive => ?_⟩
  · rcases h.cases hx with rfl | ⟨m, hm, hxm, -⟩
    · rcases h.cases hy with rfl | ⟨m', hm', hym, -⟩
      · rfl
      · have hlt := h.below hm' hym ⟨hsame.1.symm, hsame.2.symm⟩
        omega
    · rcases h.cases hy with rfl | ⟨m', hm', hym, -⟩
      · have hlt := h.below hm hxm hsame
        omega
      · obtain ⟨hid, ht, hk, hv⟩ := (VersionId.mk.injEq ..).mp hxm
        obtain ⟨hid', ht', hk', hv'⟩ := (VersionId.mk.injEq ..).mp hym
        have hmm : m = m' := ho.version_injective m hm m' hm'
          ⟨ht.symm.trans (hsame.1.trans ht'), hk.symm.trans (hsame.2.trans hk')⟩
          (hv.symm.trans (hversion.trans hv'))
        refine Table.eq_of_key_eq hnodup hx hy ?_
        exact hid.trans ((congrArg ContinuousMonitor.monitorId hmm).trans hid'.symm)
  · rcases h.cases hx with rfl | ⟨m, hm, hxm, hwas⟩
    · exact h.row_current hsuper
    · obtain ⟨hmactive, hother⟩ := hwas hactive
      rcases h.superseded_of hxm hsuper with hsuper | hsame
      · exact ho.inactive m hm hsuper hmactive
      · exact hother hsame

end Added

end Monitoring
