/-
What `evaluate_due` materialises.

The cursor of a schedule and the nominal due dates of its occurrences follow the moving
cursor of `Lib/Cursor.lean`: `materialize_eq_ok` is one evaluation, `evaluate_moves` a
call of `evaluate_due`, whatever else happens in it, and `run_follows` a sequence of calls.
-/
import AssuranceOS.Lib.Cursor
import AssuranceOS.Scheduling.Effects

namespace Scheduling

open Orchestration (Timestamp)
open Checked

variable {env : Environment} {db db' : Database}

namespace Database

def position (db : Database) (scheduleId : String) : Option Timestamp :=
  (Table.get? ScheduleCursor.scheduleId scheduleId db.cursors).bind (·.lastEvaluatedAt)

/-- No cursor is leased; a lease is taken and given back in one transaction. -/
def LeasesFree (db : Database) : Prop := ∀ c ∈ db.cursors, c.leaseExpiresAt = none

/-- The schedule has an occurrence for this due time. -/
def Materialized (db : Database) (scheduleId : String) (due : Timestamp) : Prop :=
  ∃ o ∈ db.occurrences, o.scheduleId = scheduleId ∧ o.nominalDue = due

end Database

/-- Only the cursors have changed. -/
structure CursorsOnly (db db' : Database) : Prop where
  eq : db' = { db with cursors := db'.cursors }

variable {c : ScheduleCursor} {schedule : AuditSchedule} {now : Timestamp} {lease : ℤ}

theorem position_putCursor_self {c₀ : ScheduleCursor} (h : c₀ ∈ db.cursors)
    (hid : c.scheduleId = c₀.scheduleId) :
    (db.putCursor c).position c.scheduleId = c.lastEvaluatedAt := by
  rw [Database.position, Database.putCursor, Table.get?_put_self h hid]
  rfl

theorem position_putCursor_of_ne {s : String} (h : c.scheduleId ≠ s) :
    (db.putCursor c).position s = db.position s := by
  rw [Database.position, Database.putCursor, Table.get?_put_of_ne h]
  rfl

theorem getOrCreateCursor_spec (db : Database) (schedule : AuditSchedule) :
    (db.getOrCreateCursor schedule).1 ∈ (db.getOrCreateCursor schedule).2.cursors ∧
      (db.getOrCreateCursor schedule).1.scheduleId = schedule.scheduleId ∧
      (db.getOrCreateCursor schedule).1.lastEvaluatedAt = db.position schedule.scheduleId ∧
      (∀ s, (db.getOrCreateCursor schedule).2.position s = db.position s) ∧
      CursorsOnly db (db.getOrCreateCursor schedule).2 ∧
      (db.LeasesFree → (db.getOrCreateCursor schedule).2.LeasesFree) := by
  unfold Database.getOrCreateCursor
  split
  · rename_i cursor hcursor
    refine ⟨Table.mem_of_get? hcursor, Table.key_of_get? hcursor, ?_, fun _ => rfl, ⟨rfl⟩, id⟩
    simp [Database.position, hcursor]
  · rename_i hnone
    refine ⟨by simp, rfl, by simp [Database.position, hnone], fun s => ?_, ⟨rfl⟩, ?_⟩
    · unfold Database.position Table.get?
      dsimp only
      rw [List.find?_append]
      unfold Table.get? at hnone
      by_cases hs : schedule.scheduleId = s
      · subst hs
        simp [hnone]
      · simp [hs]
    · intro hfree c hc
      rcases List.mem_append.mp hc with hc | hc
      · exact hfree c hc
      · rw [List.mem_singleton.mp hc]

variable {owner t i : String}

theorem acquireCursorLease_eq_some
    (h : db.acquireCursorLease schedule owner now lease = (some c, db')) :
    c ∈ db'.cursors ∧ c.scheduleId = schedule.scheduleId ∧
      c.lastEvaluatedAt = db.position schedule.scheduleId ∧
      (∀ s, s ≠ schedule.scheduleId → db'.position s = db.position s) ∧ CursorsOnly db db' ∧
      (db.LeasesFree → ∀ x ∈ db'.cursors, x.scheduleId ≠ c.scheduleId → x.leaseExpiresAt = none) := by
  obtain ⟨hmem, hid, hlast, hposition, hcursors, hfree⟩ :=
    getOrCreateCursor_spec db schedule
  unfold Database.acquireCursorLease at h
  generalize db.getOrCreateCursor schedule = created at h hmem hid hlast hposition hcursors hfree
  obtain ⟨cursor, db₁⟩ := created
  dsimp only at h hmem hid hlast hposition hcursors hfree
  split at h
  · cases h
    refine ⟨Table.mem_put_self hmem rfl, hid, hlast, fun s hs => ?_, ⟨by rw [hcursors.eq]; rfl⟩, ?_⟩
    · rw [← hposition s]
      exact position_putCursor_of_ne fun heq => hs (heq.symm.trans hid)
    · intro hall x hx hne
      rcases Table.eq_or_mem_of_mem_put hx with rfl | ⟨hx, -⟩
      · exact absurd rfl hne
      · exact hfree hall x hx
  · cases h

theorem acquireCursorLease_eq_none
    (h : db.acquireCursorLease schedule owner now lease = (none, db')) :
    ¬ db.LeasesFree ∧ CursorsOnly db db' ∧ ∀ s, db'.position s = db.position s := by
  obtain ⟨hmem, hid, hlast, hposition, hcursors, hfree⟩ :=
    getOrCreateCursor_spec db schedule
  unfold Database.acquireCursorLease at h
  generalize db.getOrCreateCursor schedule = created at h hmem hid hlast hposition hcursors hfree
  obtain ⟨cursor, db₁⟩ := created
  dsimp only at h hmem hid hlast hposition hcursors hfree
  split at h
  · cases h
  · rename_i hleasable
    cases h
    refine ⟨fun hall => hleasable ?_, hcursors, hposition⟩
    rw [Database.leasable, hfree hall cursor hmem]

theorem getSchedule_eq_some (h : db.getSchedule t i = some schedule) :
    schedule ∈ db.schedules ∧ schedule.tenantId = t ∧ schedule.scheduleId = i := by
  have hprop := List.find?_some h
  simp only [Bool.decide_and, Bool.and_eq_true, decide_eq_true_eq] at hprop
  exact ⟨List.mem_of_find?_eq_some h, hprop⟩

/-- Everything but the cursors and the occurrences is as it was. -/
structure Evaluation (db db' : Database) : Prop where
  eq : db' = { db with cursors := db'.cursors, occurrences := db'.occurrences }
  unique : UniqueOccurrences db.occurrences → UniqueOccurrences db'.occurrences
  leases : db.LeasesFree → db'.LeasesFree

/-- An evaluation of `schedule` at the reading `now`, from where its cursor stands. -/
structure Evaluated (env : Environment) (schedule : AuditSchedule) (now : Timestamp)
    (db db' : Database) (dues : List Timestamp) (added : List ScheduleOccurrence)
    (candidateIds : List String) : Prop where
  lists : Lists env schedule (db.position schedule.scheduleId) now dues
  occurrences : db'.occurrences = db.occurrences ++ added
  new : ∀ o ∈ added, New schedule.scheduleId dues o
  covered : ∀ due ∈ dues, db'.Materialized schedule.scheduleId due
  candidates : DueAt schedule.scheduleId dues db' candidateIds
  position_self : db'.position schedule.scheduleId = some now
  position_other : ∀ s, s ≠ schedule.scheduleId → db'.position s = db.position s

/-- The lease was refused: the cursor belongs to another worker. -/
structure Refused (db db' : Database) : Prop where
  leased : ¬ db.LeasesFree
  occurrences : db'.occurrences = db.occurrences
  position : ∀ s, db'.position s = db.position s

theorem materialize_eq_ok {worker : String} {result : MaterializationResult}
    (h : materializeDueOccurrences env db t i now worker lease = .ok (result, db')) :
    ∃ schedule, db.getSchedule t i = some schedule ∧ Evaluation db db' ∧
      ((Refused db db' ∧ result.candidateIds = []) ∨
        ∃ dues added, Evaluated env schedule now db db' dues added result.candidateIds) := by
  unfold materializeDueOccurrences at h
  obtain ⟨schedule, hschedule, h⟩ := ofOption_bind_eq_ok.mp h
  refine ⟨schedule, hschedule, ?_⟩
  split at h
  · rename_i db₁ hacquire
    obtain ⟨hleased, hcursors, hposition⟩ := acquireCursorLease_eq_none hacquire
    cases h
    refine ⟨⟨by rw [hcursors.eq], fun hu => by rwa [hcursors.eq], fun hall => absurd hall hleased⟩,
      Or.inl ⟨⟨hleased, by rw [hcursors.eq], hposition⟩, rfl⟩⟩
  · rename_i cursor db₁ hacquire
    obtain ⟨hmem, hid, hlast, hposition, hcursors, hfree⟩ := acquireCursorLease_eq_some hacquire
    obtain ⟨dues, added, nextDue, db₂, hlists, hext, hcovered, hcandidates, rfl⟩ :=
      evaluateCursor_eq_ok h
    -- the evaluation adds its occurrences, and gives the lease back
    obtain rfl := hext.eq
    have hoccurrences : db₁.occurrences = db.occurrences := by rw [hcursors.eq]
    refine ⟨⟨?_, ?_, ?_⟩, Or.inr ⟨dues, added, hlast ▸ hlists, ?_, hext.new, hcovered,
      hcandidates, ?_, ?_⟩⟩
    · rw [Database.releaseCursor, Database.putCursor, hcursors.eq]
    · intro hu
      exact hext.unique (by rwa [hoccurrences])
    · intro hall x hx
      rcases Table.eq_or_mem_of_mem_put hx with rfl | ⟨hx, hne⟩
      · rfl
      · exact hfree hall x hx hne
    · rw [← hoccurrences]
      rfl
    · rw [← hid]
      exact position_putCursor_self hmem rfl
    · intro s hs
      rw [← hposition s hs]
      exact position_putCursor_of_ne fun heq => hs (heq.symm.trans hid)

/-! ### The moving cursor -/

theorem mem_of_lists {position : Option Timestamp} {dues : List Timestamp} {values : Set Timestamp}
    (hlaw : env.engine.LawfulBetween schedule.recurrenceRule schedule.timezone
      schedule.effectiveFrom values)
    (h : Lists env schedule position now dues) (v : Timestamp) :
    v ∈ dues ↔ v ∈ values ∧
      Cursor.Window schedule.effectiveFrom schedule.effectiveUntil position now v := by
  have hstart : position.getD (schedule.effectiveFrom - 1) < v ↔
      Cursor.After schedule.effectiveFrom position v := by
    cases position with
    | none => exact Int.sub_one_lt_iff
    | some c => exact Iff.rfl
  have hstop : v ≤ windowEnd schedule now ↔ Cursor.Within schedule.effectiveUntil now v := by
    unfold windowEnd Cursor.Within
    cases schedule.effectiveUntil with
    | none => simp
    | some stop => simp
  have hwindow : position.getD (schedule.effectiveFrom - 1) < v ∧ v ≤ windowEnd schedule now ↔
      Cursor.Window schedule.effectiveFrom schedule.effectiveUntil position now v :=
    and_congr hstart hstop
  rw [← hwindow]
  rcases h with ⟨hempty, rfl⟩ | ⟨-, hdues⟩
  · constructor
    · intro hv
      exact absurd hv List.not_mem_nil
    · rintro ⟨-, hlow, hhigh⟩
      exact absurd hempty (not_le.mpr (lt_of_lt_of_le hlow hhigh))
  · exact hlaw.listed _ _ _ hdues v

section Moves

variable {S : AuditSchedule} {now : Timestamp}

/-- The configuration that the scheduler does not touch, and the keys of its tables. -/
structure Steady (S : AuditSchedule) (db : Database) : Prop where
  mem : S ∈ db.schedules
  schedules : (db.schedules.map AuditSchedule.scheduleId).Nodup
  occurrences : UniqueOccurrences db.occurrences
  leases : db.LeasesFree

/-- `db'` is `db`, as far as `S` is concerned, or `db` after one evaluation at `now`. -/
def Moves (env : Environment) (S : AuditSchedule) (now : Timestamp) (db db' : Database) : Prop :=
  (db'.position S.scheduleId = db.position S.scheduleId ∧
    ∀ v, db'.Materialized S.scheduleId v ↔ db.Materialized S.scheduleId v) ∨
  (db'.position S.scheduleId = some now ∧
    ∃ dues, Lists env S (db.position S.scheduleId) now dues ∧
      ∀ v, db'.Materialized S.scheduleId v ↔ db.Materialized S.scheduleId v ∨ v ∈ dues)

theorem Moves.refl : Moves env S now db db := Or.inl ⟨rfl, fun _ => Iff.rfl⟩

theorem Moves.trans {db₁ db₂ : Database} (h : Moves env S now db db₁)
    (h' : Moves env S now db₁ db₂) : Moves env S now db db₂ := by
  rcases h with ⟨hpos, hmat⟩ | ⟨hpos, dues, hlists, hmat⟩
  · rcases h' with ⟨hpos', hmat'⟩ | ⟨hpos', dues, hlists, hmat'⟩
    · exact Or.inl ⟨hpos'.trans hpos, fun v => (hmat' v).trans (hmat v)⟩
    · refine Or.inr ⟨hpos', dues, hpos ▸ hlists, fun v => ?_⟩
      rw [hmat' v, hmat v]
  · rcases h' with ⟨hpos', hmat'⟩ | ⟨hpos', dues', hlists', hmat'⟩
    · exact Or.inr ⟨hpos'.trans hpos, dues, hlists, fun v => (hmat' v).trans (hmat v)⟩
    · -- the second window is empty
      rw [hpos] at hlists'
      have hnone := hlists'.at_now
      refine Or.inr ⟨hpos', dues, hlists, fun v => ?_⟩
      rw [hmat' v, hmat v, hnone]
      simp

variable {added : List ScheduleOccurrence}
variable {s : String} {v : Timestamp} {dues : List Timestamp} {candidateIds : List String}
  {o r : ScheduleOccurrence} {op : Op}

theorem materialized_append {rows : List ScheduleOccurrence} (hrows : db.occurrences = rows)
    (hrows' : db'.occurrences = rows ++ added) :
    db'.Materialized s v ↔ db.Materialized s v ∨
      ∃ o ∈ added, o.scheduleId = s ∧ o.nominalDue = v := by
  simp only [Database.Materialized, hrows, hrows', List.mem_append, or_and_right, exists_or]

/-- `S` has not been evaluated between `db` and `db'`. -/
def Unmoved (S : AuditSchedule) (db db' : Database) : Prop :=
  db'.position S.scheduleId = db.position S.scheduleId ∧
    ∀ v, db'.Materialized S.scheduleId v ↔ db.Materialized S.scheduleId v

theorem Unmoved.refl (S : AuditSchedule) (db : Database) : Unmoved S db db :=
  ⟨rfl, fun _ => Iff.rfl⟩

theorem Unmoved.trans {a b c : Database} (h : Unmoved S a b) (h' : Unmoved S b c) :
    Unmoved S a c :=
  ⟨h'.1.trans h.1, fun v => (h'.2 v).trans (h.2 v)⟩

theorem evaluated_other (hid : schedule.scheduleId ≠ S.scheduleId)
    (h : Evaluated env schedule now db db' dues added candidateIds) : Unmoved S db db' := by
  refine ⟨h.position_other _ fun heq => hid heq.symm, fun v => ?_⟩
  rw [materialized_append rfl h.occurrences]
  constructor
  · rintro (hold | ⟨o, ho, hkey, -⟩)
    · exact hold
    · exact absurd ((h.new o ho).scheduleId.symm.trans hkey) hid
  · exact Or.inl

theorem evaluated_moves (hsame : schedule.scheduleId = S.scheduleId → schedule = S)
    (h : Evaluated env schedule now db db' dues added candidateIds) :
    Moves env S now db db' := by
  by_cases hid : schedule.scheduleId = S.scheduleId
  · obtain rfl := hsame hid
    refine Or.inr ⟨h.position_self, dues, h.lists, fun v => ?_⟩
    constructor
    · intro hv
      rcases (materialized_append rfl h.occurrences).mp hv with hold | ⟨o, ho, -, rfl⟩
      · exact Or.inl hold
      · exact Or.inr (h.new o ho).due_mem
    · rintro (hold | hv)
      · exact (materialized_append rfl h.occurrences).mpr (Or.inl hold)
      · exact h.covered v hv
  · exact Or.inl (evaluated_other hid h)

theorem put_dueKey (hu : UniqueOccurrences db.occurrences) (ho : o ∈ db.occurrences)
    (hsame : SameOccurrence o r) :
    (Table.put ScheduleOccurrence.occurrenceId r db.occurrences).map ScheduleOccurrence.dueKey =
      db.occurrences.map ScheduleOccurrence.dueKey := by
  refine Table.map_put fun x hx hkey => ?_
  have hxo : x = o := Table.eq_of_key_eq hu.ids hx ho (hkey.trans hsame.occurrenceId)
  rw [hxo, ScheduleOccurrence.dueKey, ScheduleOccurrence.dueKey, hsame.scheduleId, hsame.nominalDue]

theorem put_unique (hu : UniqueOccurrences db.occurrences) (ho : o ∈ db.occurrences)
    (hsame : SameOccurrence o r) :
    UniqueOccurrences (Table.put ScheduleOccurrence.occurrenceId r db.occurrences) where
  ids := by rw [Table.map_put_key]; exact hu.ids
  dues := by rw [put_dueKey hu ho hsame]; exact hu.dues

theorem materialized_iff_dueKey :
    db.Materialized s v ↔ (s, v) ∈ db.occurrences.map ScheduleOccurrence.dueKey := by
  simp [Database.Materialized, ScheduleOccurrence.dueKey]

theorem effect_unmoved (hS : Steady S db) (h : Effect env op db db') :
    Steady S db' ∧ Unmoved S db db' := by
  rcases h with ⟨engagements, orchestration, rfl⟩ |
    ⟨o, r, engagements, orchestration, hmem, -, hwritten, rfl⟩
  · exact ⟨⟨hS.mem, hS.schedules, hS.occurrences, hS.leases⟩, .refl S _⟩
  · refine ⟨⟨hS.mem, hS.schedules, put_unique hS.occurrences hmem hwritten.same, hS.leases⟩,
      rfl, fun v => ?_⟩
    rw [materialized_iff_dueKey, materialized_iff_dueKey, put_dueKey hS.occurrences hmem
      hwritten.same]

/-- The operations of `evaluate_due` at the reading `now`. -/
def EvaluatesAt (now : Timestamp) : Op → Prop
  | .materializeDueOccurrences _ _ at' _ _ => at' = now
  | op => op.isAuthoring = false

theorem exec_moves (hop : EvaluatesAt now op) {w : World} (hS : Steady S w.db) :
    Steady S (exec env op w).2.db ∧ Moves env S now w.db (exec env op w).2.db := by
  by_cases hmaterialization : op.isMaterialization = false
  · have hauthoring : op.isAuthoring = false := by
      cases op <;> first | rfl | exact hop
    exact (effect_unmoved hS (exec_effect hauthoring hmaterialization)).imp_right Or.inl
  · cases op with
    | materializeDueOccurrences t i at' worker lease =>
      obtain rfl : at' = now := hop
      rcases commit_db (w := w) (materializeDueOccurrences env w.db t i at' worker lease) with
        heq | ⟨result, h⟩
      · have heq' : (exec env (.materializeDueOccurrences t i at' worker lease) w).2.db = w.db :=
          heq
        rw [heq']
        exact ⟨hS, .refl⟩
      · obtain ⟨schedule, hschedule, heval, hcase⟩ := materialize_eq_ok h
        obtain ⟨hmem, -, hid⟩ := getSchedule_eq_some hschedule
        refine ⟨⟨?_, ?_, heval.unique hS.occurrences, heval.leases hS.leases⟩, ?_⟩
        · rw [show (exec env (.materializeDueOccurrences t i at' worker lease) w).2.db = _ from
            heval.eq]
          exact hS.mem
        · rw [show (exec env (.materializeDueOccurrences t i at' worker lease) w).2.db = _ from
            heval.eq]
          exact hS.schedules
        · rcases hcase with ⟨hrefused, -⟩ | ⟨dues, added, hevaluated⟩
          · exact absurd hS.leases hrefused.leased
          · exact evaluated_moves
              (fun hsame => Table.eq_of_key_eq hS.schedules hmem hS.mem hsame) hevaluated
    | _ => exact absurd rfl hmaterialization

end Moves

/-! ### One call -/

section Call

open Program (Calls)

variable {S : AuditSchedule} {now : Timestamp} {request : EvaluateDue}

theorem evaluatesAt_of_worksOn {key : String × String} {op : Op} (h : WorksOn key op) :
    EvaluatesAt now op := by
  cases op with
  | materializeDueOccurrences => exact absurd h.materialization (by simp [Op.isMaterialization])
  | _ => exact h.authoring

theorem process_calls (tenantId : String) (context : PreflightContext)
    (occurrenceIds : List String) (summary : ScheduleEvaluationSummary) :
    (Program.forEach (processOccurrence tenantId context) occurrenceIds summary).Calls
      (EvaluatesAt now) := by
  refine Calls.forEach (fun occurrenceId _ summary => ?_) _
  exact (processOccurrence_calls tenantId context summary occurrenceId).mono
    fun _ => evaluatesAt_of_worksOn

theorem evaluateSchedule_calls (request : EvaluateDue) (now : Timestamp)
    (summary : ScheduleEvaluationSummary) (scheduleId : String) :
    (evaluateSchedule request now summary scheduleId).Calls (EvaluatesAt now) := by
  refine Calls.bind (Program.calls_perform.mpr rfl) fun materialized => ?_
  exact process_calls request.tenantId request.context _ _

/-- The part of `evaluate_due` that goes through the retryable occurrences. -/
theorem retry_calls (request : EvaluateDue) (now : Timestamp)
    (summary : ScheduleEvaluationSummary) :
    (do
      let retryable : List String ← Program.perform
        (Op.listRetryableOccurrences request.tenantId now request.scheduleId)
      Program.forEach (processOccurrence request.tenantId request.context)
        (retryable.filter fun id => !summary.occurrenceIds.contains id) summary :
      Method ScheduleEvaluationSummary).Calls (EvaluatesAt now) := by
  refine Calls.bind (Program.calls_perform.mpr rfl) fun retryable => ?_
  exact process_calls request.tenantId request.context _ _

theorem loop_calls (scheduleIds : List String) (summary : ScheduleEvaluationSummary) :
    (Program.forEach (evaluateSchedule request now) scheduleIds summary).Calls
      (EvaluatesAt now) :=
  Calls.forEach (fun scheduleId _ summary => evaluateSchedule_calls request now summary scheduleId)
    summary

theorem evaluateSchedules_calls (scheduleIds : List String) :
    (evaluateSchedules request now scheduleIds).Calls (EvaluatesAt now) :=
  Calls.bind (loop_calls scheduleIds _) fun summary => retry_calls request now summary

theorem evaluateDue_run (env : Environment) (w : World) (request : EvaluateDue) :
    (evaluateDue request).run (exec env) w =
      (evaluateDueAt request (env.clock w.ticks)).run (exec env) { w with ticks := w.ticks + 1 } :=
  rfl

theorem evaluateDueAt_calls (request : EvaluateDue) (now : Timestamp) :
    (evaluateDueAt request now).Calls (EvaluatesAt now) := by
  unfold evaluateDueAt
  split
  · exact trivial
  · refine Calls.bind (Program.calls_perform.mpr rfl) fun scheduleIds => ?_
    exact evaluateSchedules_calls scheduleIds

variable {w : World} {scheduleIds : List String}

theorem calls_steady (env : Environment) {α : Type} {p : Method α} (hp : p.Calls (EvaluatesAt now))
    (hS : Steady S w.db) :
    Steady S (p.run (exec env) w).2.db ∧ Moves env S now w.db (p.run (exec env) w).2.db := by
  refine hp.run_keeps
    (I := fun w' : World => Steady S w'.db ∧ Moves env S now w.db w'.db) ?_ ⟨hS, .refl⟩
  rintro op hop w' ⟨hS', hmoves⟩
  obtain ⟨hsteady, hstep⟩ := exec_moves hop hS'
  exact ⟨hsteady, hmoves.trans hstep⟩

/-- **One call of `evaluate_due`** leaves the schedule alone or evaluates it once, at its
reading of the clock. -/
theorem evaluate_moves (env : Environment) (hS : Steady S w.db) (request : EvaluateDue) :
    Steady S (w.evaluate env request).db ∧
      Moves env S (env.clock w.ticks) w.db (w.evaluate env request).db := by
  rw [World.evaluate, evaluateDue_run]
  exact calls_steady env (w := { w with ticks := w.ticks + 1 })
    (evaluateDueAt_calls request (env.clock w.ticks)) hS

/-- The call covers the schedule: it is active, and asked for. -/
structure Covers (request : EvaluateDue) (S : AuditSchedule) : Prop where
  active : S.status = .active
  tenant : request.tenantId = S.tenantId
  schedule : ∀ id ∈ request.scheduleId, id = S.scheduleId

variable {tenantId : String} {w' : World} {summary : ScheduleEvaluationSummary}

theorem listSchedules_eq_ok {scheduleId : Option String}
    (h : listSchedules db tenantId scheduleId = .ok scheduleIds) :
    (db.listActiveSchedules tenantId scheduleId).map (·.scheduleId) = scheduleIds := by
  unfold listSchedules at h
  cases scheduleId with
  | none => exact Except.ok.inj h
  | some id =>
    obtain ⟨requested, -, h⟩ := ofOption_bind_eq_ok.mp h
    exact Except.ok.inj (require_bind_eq_ok.mp h).2

theorem mem_of_listSchedules (hS : S ∈ db.schedules) (hcovers : Covers request S)
    (h : listSchedules db request.tenantId request.scheduleId = .ok scheduleIds) :
    S.scheduleId ∈ scheduleIds := by
  have hrow : S ∈ db.listActiveSchedules request.tenantId request.scheduleId := by
    rw [Database.listActiveSchedules, Adjudication.mem_orderBy, List.mem_filter]
    simp only [decide_eq_true_eq]
    exact ⟨hS, hcovers.tenant.symm, hcovers.active, fun id hid => (hcovers.schedule id hid).symm⟩
  rw [← listSchedules_eq_ok h]
  exact List.mem_map_of_mem hrow

theorem covers_of_listSchedules
    (h : listSchedules db request.tenantId request.scheduleId = .ok scheduleIds) {i : String}
    (hi : i ∈ scheduleIds) : ∃ S ∈ db.schedules, Covers request S ∧ S.scheduleId = i := by
  rw [← listSchedules_eq_ok h] at hi
  obtain ⟨S, hS, rfl⟩ := List.mem_map.mp hi
  rw [Database.listActiveSchedules, Adjudication.mem_orderBy, List.mem_filter] at hS
  obtain ⟨hmem, hprop⟩ := hS
  simp only [decide_eq_true_eq] at hprop
  exact ⟨S, hmem, ⟨hprop.2.1, hprop.1.symm, fun id hid => (hprop.2.2 id hid).symm⟩, rfl⟩

theorem materialize_position (hS : Steady S w.db) {worker : String} {result : MaterializationResult}
    (h : (Program.perform (Op.materializeDueOccurrences tenantId S.scheduleId now worker lease) :
      Method MaterializationResult).run (exec env) w = (.ok result, w')) :
    w'.db.position S.scheduleId = some now := by
  have hexec : w.commit (materializeDueOccurrences env w.db tenantId S.scheduleId now worker
      lease) = (.ok result, w') := h
  rcases hmat : materializeDueOccurrences env w.db tenantId S.scheduleId now worker lease with
    e | ⟨result', db'⟩
  · rw [hmat] at hexec
    cases hexec
  · rw [hmat] at hexec
    cases hexec
    obtain ⟨schedule, hschedule, -, hcase⟩ := materialize_eq_ok hmat
    obtain ⟨-, -, hid⟩ := getSchedule_eq_some hschedule
    rcases hcase with ⟨hrefused, -⟩ | ⟨dues, added, hevaluated⟩
    · exact absurd hS.leases hrefused.leased
    · rw [← hid]
      exact hevaluated.position_self

theorem Moves.position (h : Moves env S now db db') (hpos : db.position S.scheduleId = some now) :
    db'.position S.scheduleId = some now := by
  rcases h with ⟨hsame, -⟩ | ⟨hself, -⟩
  · exact hsame.trans hpos
  · exact hself

theorem loop_position (hmem : S.scheduleId ∈ scheduleIds)
    {summary' : ScheduleEvaluationSummary} (hS : Steady S w.db)
    (h : (Program.forEach (evaluateSchedule request now) scheduleIds summary).run (exec env) w =
      (.ok summary', w')) : w'.db.position S.scheduleId = some now := by
  refine Program.run_forEach_visits (f := evaluateSchedule request now)
    (I := fun s : World => Steady S s.db)
    (J := fun s : World => s.db.position S.scheduleId = some now) hmem
    (fun c _ b s hs => (calls_steady env (evaluateSchedule_calls request now b c) hs).1)
    (fun c _ b s hs hJ =>
      (calls_steady env (evaluateSchedule_calls request now b c) hs).2.position hJ)
    (fun b s b' s' hs hvisit => ?_) hS h
  obtain ⟨result, s₁, hmat, hprocess⟩ := Program.run_bind_eq_ok.mp hvisit
  have hpos := materialize_position hs hmat
  have hs₁ : Steady S s₁.db := by
    have h := (calls_steady env (p := Program.perform (Op.materializeDueOccurrences
      request.tenantId S.scheduleId now request.workerId request.leaseSeconds))
      (Program.calls_perform.mpr rfl) hs).1
    rwa [hmat] at h
  have hend := (calls_steady env (process_calls request.tenantId request.context
    result.candidateIds (b.add result)) hs₁).2.position hpos
  rwa [hprocess] at hend

theorem evaluate_position (hS : Steady S w.db) (hcovers : Covers request S)
    (h : ((evaluateDue request).run (exec env) w).1 = .ok summary) :
    (w.evaluate env request).db.position S.scheduleId = some (env.clock w.ticks) := by
  have hrun : (evaluateDue request).run (exec env) w = (.ok summary, w.evaluate env request) := by
    rw [← h]
    rfl
  rw [evaluateDue_run, evaluateDueAt] at hrun
  split at hrun
  · cases hrun
  · obtain ⟨scheduleIds, w₁, hlist, hrun⟩ := Program.run_bind_eq_ok.mp hrun
    obtain ⟨summary₁, w₂, hloop, hrest⟩ := Program.run_bind_eq_ok.mp hrun
    have hids : listSchedules w.db request.tenantId request.scheduleId = .ok scheduleIds :=
      congrArg Prod.fst hlist
    have hw₁ : Steady S w₁.db := by
      have hdb : w₁.db = w.db := congrArg (fun r => r.2.db) hlist.symm
      rwa [hdb]
    have hbody := loop_position (mem_of_listSchedules hS.mem hcovers hids) hw₁ hloop
    have hw₂ : Steady S w₂.db := by
      have h : Steady S ((Program.forEach (evaluateSchedule request (env.clock w.ticks)) scheduleIds
          { tenantId := request.tenantId, evaluatedAt := env.clock w.ticks }).run (exec env)
          w₁).2.db := (calls_steady env (loop_calls scheduleIds _) hw₁).1
      rwa [hloop] at h
    have hend := (calls_steady env (retry_calls request (env.clock w.ticks) summary₁)
      hw₂).2.position hbody
    rwa [hrest] at hend

end Call

section Runs

variable (env : Environment) (S : AuditSchedule)

/-- A call of `evaluate_due`, with the readings, newest first, at which it and the calls
before it have evaluated the schedule: its cursor stands at the reading of the last one. -/
def track (state : World × List Timestamp) (request : EvaluateDue) : World × List Timestamp :=
  let w := state.1.evaluate env request
  let now := env.clock state.1.ticks
  (w, if w.db.position S.scheduleId = some now then now :: state.2 else state.2)

/-- The readings at which a sequence of calls evaluates the schedule, newest first. -/
def readings (w : World) (requests : List EvaluateDue) : List Timestamp :=
  (requests.foldl (track env S) (w, [])).2

variable {env S} {values : Set Timestamp}

/-- The schedule follows the moving cursor. -/
structure Follows (S : AuditSchedule) (values : Set Timestamp) (state : World × List Timestamp) :
    Prop where
  steady : Steady S state.1.db
  position : state.1.db.position S.scheduleId = state.2.head?
  materialized : ∀ v, state.1.db.Materialized S.scheduleId v ↔
    v ∈ values ∧ Cursor.Listed S.effectiveFrom S.effectiveUntil state.2 v

theorem track_follows
    (hlaw : env.engine.LawfulBetween S.recurrenceRule S.timezone S.effectiveFrom values)
    {state : World × List Timestamp} (h : Follows S values state) (request : EvaluateDue) :
    Follows S values (track env S state request) := by
  obtain ⟨hsteady, hmoves⟩ := evaluate_moves env h.steady request
  unfold track
  rcases hmoves with ⟨hpos, hmat⟩ | ⟨hpos, dues, hlists, hmat⟩
  · by_cases hnow : (state.1.evaluate env request).db.position S.scheduleId =
        some (env.clock state.1.ticks)
    · -- the cursor stands at this reading already: its window is empty
      have hhead : state.2.head? = some (env.clock state.1.ticks) := by
        rw [← h.position, ← hpos]
        exact hnow
      dsimp only
      rw [if_pos hnow]
      refine ⟨hsteady, hnow, fun v => ?_⟩
      rw [hmat v, h.materialized v, Cursor.Listed, hhead]
      refine and_congr_right fun _ => ⟨Or.inr, ?_⟩
      rintro (hwindow | hlisted)
      · exact absurd hwindow.1 (not_lt.mpr hwindow.2.1)
      · exact hlisted
    · dsimp only
      rw [if_neg hnow]
      exact ⟨hsteady, hpos.trans h.position, fun v => (hmat v).trans (h.materialized v)⟩
  · dsimp only
    rw [if_pos hpos]
    refine ⟨hsteady, hpos, fun v => ?_⟩
    rw [hmat v, mem_of_lists hlaw hlists v, h.materialized v, h.position, Cursor.Listed,
      and_or_left, or_comm]

theorem foldl_track_fst (env : Environment) (S : AuditSchedule) (requests : List EvaluateDue) :
    ∀ state : World × List Timestamp,
      (requests.foldl (track env S) state).1 = requests.foldl (World.evaluate env) state.1 := by
  induction requests with
  | nil =>
    intro state
    rfl
  | cons request requests ih =>
    intro state
    exact ih _

/-- A schedule that has not been evaluated yet. -/
structure Unevaluated (S : AuditSchedule) (db : Database) : Prop where
  steady : Steady S db
  position : db.position S.scheduleId = none
  occurrences : ∀ v, ¬ db.Materialized S.scheduleId v

theorem run_follows
    (hlaw : env.engine.LawfulBetween S.recurrenceRule S.timezone S.effectiveFrom values)
    {w : World} (hS : Unevaluated S w.db) (requests : List EvaluateDue) :
    Follows S values (requests.foldl (World.evaluate env) w, readings env S w requests) := by
  have hstart : Follows S values (w, []) := by
    refine ⟨hS.steady, hS.position, fun v => ⟨fun hv => absurd hv (hS.occurrences v), ?_⟩⟩
    rintro ⟨-, hlisted⟩
    exact absurd hlisted id
  have hstep : ∀ (state : World × List Timestamp) (request : EvaluateDue),
      Follows S values state → Follows S values (track env S state request) :=
    fun _ request h => track_follows hlaw h request
  have hend := Runs.run_invariant_always hstep hstart requests
  have hfst := foldl_track_fst env S requests (w, [])
  rw [readings, ← hfst]
  exact hend

/-- **What `evaluate_due` materialises.**  However the calls and the readings of the clock
follow each other, a schedule has each of its due dates once, and a call that returns has
evaluated every schedule that it covers.  The due dates are exactly the values of the rule
from `effective_from` up to the largest reading and `effective_until`, if and only if no
evaluation finds a value before `effective_from` in its window. -/
theorem run_materializes_iff
    (hlaw : env.engine.LawfulBetween S.recurrenceRule S.timezone S.effectiveFrom values)
    {w : World} (hS : Unevaluated S w.db) (requests : List EvaluateDue) :
    ((∀ v, (requests.foldl (World.evaluate env) w).db.Materialized S.scheduleId v ↔
        v ∈ values ∧ S.effectiveFrom ≤ v ∧ (∃ r ∈ readings env S w requests, v ≤ r) ∧
          ∀ stop ∈ S.effectiveUntil, v ≤ stop) ↔
      Cursor.NoneEarly values S.effectiveFrom S.effectiveUntil (readings env S w requests)) ∧
    ((requests.foldl (World.evaluate env) w).db.occurrences.map ScheduleOccurrence.dueKey).Nodup ∧
    ∀ (request : EvaluateDue) (summary : ScheduleEvaluationSummary), Covers request S →
      ((evaluateDue request).run (exec env) (requests.foldl (World.evaluate env) w)).1 =
        .ok summary →
      readings env S w (requests ++ [request]) =
        env.clock (requests.foldl (World.evaluate env) w).ticks :: readings env S w requests := by
  have hend := run_follows hlaw hS requests
  refine ⟨?_, hend.steady.occurrences.dues, fun request summary hcovers hreturns => ?_⟩
  · rw [← Cursor.listed_iff]
    constructor
    · intro hexact v hv
      have hboth := (hend.materialized v).symm.trans (hexact v)
      rwa [and_iff_right hv, and_iff_right hv] at hboth
    · intro hlisted v
      rw [hend.materialized v]
      exact and_congr_right fun hv => hlisted v hv
  · have hposition := evaluate_position hend.steady hcovers hreturns
    rw [readings, List.foldl_append, List.foldl_cons, List.foldl_nil, track, foldl_track_fst]
    exact if_pos hposition

end Runs

theorem sampleDatabase_unevaluated (S : AuditSchedule) : Unevaluated S (sampleDatabase [S]) where
  steady :=
    { mem := List.mem_singleton_self S
      schedules := List.nodup_singleton _
      occurrences := ⟨List.nodup_nil, List.nodup_nil⟩
      leases := by
        intro c hc
        exact absurd hc List.not_mem_nil }
  position := rfl
  occurrences := by
    rintro v ⟨o, ho, -⟩
    exact absurd ho List.not_mem_nil

def sampleValues : List Timestamp := [sampleTime 10 9, sampleTime 11 9, sampleTime 12 9]

theorem sampleValues_sorted : sampleValues.Pairwise (· < ·) := by decide

def sampleRequests : List EvaluateDue := [{ tenantId := "tnt_a" }, { tenantId := "tnt_a" }]

/-- A clock at eight in the morning of the first day, then at ten. -/
def morningEnvironment : Environment :=
  sampleEnvironment sampleValues 4 (sampleTime 10 8) (sampleTime 10 10)

theorem run_materializes_sample :
    (sampleRequests.foldl (World.evaluate morningEnvironment)
      { db := sampleDatabase [sampleSchedule] }).db.Materialized "sch_1" (sampleTime 10 9) := by
  have hlaw : morningEnvironment.engine.LawfulBetween sampleSchedule.recurrenceRule
      sampleSchedule.timezone sampleSchedule.effectiveFrom {v | v ∈ sampleValues} :=
    sampleEngine_lawful _ _ _
  have hearly : ∀ v ∈ sampleValues, sampleSchedule.effectiveFrom ≤ v := by decide
  have hiff := (run_materializes_iff (w := { db := sampleDatabase [sampleSchedule] }) hlaw
    (sampleDatabase_unevaluated sampleSchedule) sampleRequests).1
  have hread : ∃ r ∈ readings morningEnvironment sampleSchedule
      { db := sampleDatabase [sampleSchedule] } sampleRequests, sampleTime 10 9 ≤ r := by
    decide +kernel
  refine (hiff.mpr (Cursor.noneEarly_iff.mpr fun v hv _ => hearly v hv) _).mpr
    ⟨?_, hearly _ ?_, hread, no_effectiveUntil⟩
  · exact List.mem_cons_self
  · exact List.mem_cons_self

/-- A rule that names its own start, three weeks before the schedule takes effect. -/
def anchoredSchedule : AuditSchedule :=
  { sampleSchedule with
    recurrenceRule := "DTSTART:20260810T090000Z\nRRULE:FREQ=DAILY;COUNT=3"
    effectiveFrom := sampleTime 32 0
    effective_window := no_effectiveUntil }

/-- The first call comes before the schedule takes effect, and leaves its cursor there. -/
theorem run_materializes_early :
    ¬ ∀ v, (sampleRequests.foldl (World.evaluate morningEnvironment)
      { db := sampleDatabase [anchoredSchedule] }).db.Materialized "sch_1" v ↔
      v ∈ {v | v ∈ sampleValues} ∧ anchoredSchedule.effectiveFrom ≤ v ∧
        (∃ r ∈ readings morningEnvironment anchoredSchedule
          { db := sampleDatabase [anchoredSchedule] } sampleRequests, v ≤ r) ∧
        ∀ stop ∈ anchoredSchedule.effectiveUntil, v ≤ stop := by
  intro h
  have hearly : (sampleRequests.foldl (World.evaluate morningEnvironment)
      { db := sampleDatabase [anchoredSchedule] }).db.Materialized "sch_1" (sampleTime 10 9) := by
    unfold Database.Materialized
    decide +kernel
  have hfrom : ¬ anchoredSchedule.effectiveFrom ≤ sampleTime 10 9 := by decide
  exact hfrom ((h _).mp hearly).2.1

end Scheduling
