/-
Revisions of a schedule, and the due dates that they launch again.

A revision is a schedule of its own: its cursor starts afresh and its occurrences are unique
by its own id, while the audits that it stands for are those of its name.  Every occurrence
carries a due date that the rule of its schedule lists (`Dated`), and a schedule never
changes its rule (`Persists`); so a version launches no due date again that lies outside of
its rule, and `Distinct` asks for this when a version is approved.
-/
import AssuranceOS.Scheduling.Concurrency

namespace Scheduling

open Orchestration (Timestamp)
open Checked

variable {env : Environment}

/-- The due dates of a schedule: what the engine lists for its rule while it is in effect. -/
def AuditSchedule.dueDates (engine : RecurrenceEngine) (s : AuditSchedule) : Set Timestamp :=
  {v | engine.Yields s.recurrenceRule s.timezone s.effectiveFrom s.effectiveUntil v}

/-- The columns that no operation changes. -/
structure SameDefinition (s s' : AuditSchedule) : Prop where
  scheduleId : s'.scheduleId = s.scheduleId
  recurrenceRule : s'.recurrenceRule = s.recurrenceRule
  timezone : s'.timezone = s.timezone
  effectiveFrom : s'.effectiveFrom = s.effectiveFrom
  effectiveUntil : s'.effectiveUntil = s.effectiveUntil

theorem SameDefinition.refl (s : AuditSchedule) : SameDefinition s s := ⟨rfl, rfl, rfl, rfl, rfl⟩

theorem SameDefinition.trans {a b c : AuditSchedule} (h : SameDefinition a b)
    (h' : SameDefinition b c) : SameDefinition a c :=
  ⟨h'.scheduleId.trans h.scheduleId, h'.recurrenceRule.trans h.recurrenceRule,
    h'.timezone.trans h.timezone, h'.effectiveFrom.trans h.effectiveFrom,
    h'.effectiveUntil.trans h.effectiveUntil⟩

theorem SameDefinition.dueDates {s s' : AuditSchedule} (h : SameDefinition s s')
    (engine : RecurrenceEngine) : s'.dueDates engine = s.dueDates engine := by
  simp only [AuditSchedule.dueDates, h.recurrenceRule, h.timezone, h.effectiveFrom,
    h.effectiveUntil]

def Persists (db db' : Database) : Prop :=
  ∀ s ∈ db.schedules, ∃ s' ∈ db'.schedules, SameDefinition s s'

theorem Persists.refl (db : Database) : Persists db db := fun s hs => ⟨s, hs, .refl s⟩

theorem Persists.trans {a b c : Database} (h : Persists a b) (h' : Persists b c) :
    Persists a c := by
  intro s hs
  obtain ⟨s₁, hs₁, hsame₁⟩ := h s hs
  obtain ⟨s₂, hs₂, hsame₂⟩ := h' s₁ hs₁
  exact ⟨s₂, hs₂, hsame₁.trans hsame₂⟩

theorem Persists.of_schedules {db db' : Database} (h : db'.schedules = db.schedules) :
    Persists db db' := by
  intro s hs
  exact ⟨s, h ▸ hs, .refl s⟩

/-- Every occurrence stands for a due date of its schedule. -/
structure Dated (engine : RecurrenceEngine) (db : Database) : Prop where
  schedules : (db.schedules.map AuditSchedule.scheduleId).Nodup
  dated : ∀ o ∈ db.occurrences, ∃ s ∈ db.schedules,
    s.scheduleId = o.scheduleId ∧ o.nominalDue ∈ s.dueDates engine

section Steps

variable {engine : RecurrenceEngine} {db db' : Database} {w : World}

theorem Dated.schedule {s : AuditSchedule} {o : ScheduleOccurrence} (h : Dated engine db)
    (hs : s ∈ db.schedules) (ho : o ∈ db.occurrences) (hid : s.scheduleId = o.scheduleId) :
    o.nominalDue ∈ s.dueDates engine := by
  obtain ⟨s', hs', hid', hdue⟩ := h.dated o ho
  have heq : s = s' := Table.eq_of_key_eq h.schedules hs hs' (hid.trans hid'.symm)
  rwa [heq]

theorem Dated.step (h : Dated engine db) (hpersists : Persists db db')
    (hn : (db'.schedules.map AuditSchedule.scheduleId).Nodup)
    (ho : ∀ o' ∈ db'.occurrences, (∃ o ∈ db.occurrences, o'.scheduleId = o.scheduleId ∧
        o'.nominalDue = o.nominalDue) ∨ ∃ s ∈ db.schedules, s.scheduleId = o'.scheduleId ∧
        o'.nominalDue ∈ s.dueDates engine) : Dated engine db' where
  schedules := hn
  dated := by
    intro o' ho'
    have hold : ∃ s ∈ db.schedules, s.scheduleId = o'.scheduleId ∧
        o'.nominalDue ∈ s.dueDates engine := by
      rcases ho o' ho' with ⟨o, ho, hs, hd⟩ | hnew
      · rw [hs, hd]
        exact h.dated o ho
      · exact hnew
    obtain ⟨s, hs, hid, hdue⟩ := hold
    obtain ⟨s', hs', hsame⟩ := hpersists s hs
    exact ⟨s', hs', hsame.scheduleId.trans hid, by rwa [hsame.dueDates]⟩

variable {now : Timestamp}

theorem lists_dueDates {schedule : AuditSchedule} {position : Option Timestamp}
    {dues : List Timestamp} (h : Lists env schedule position now dues) {v : Timestamp}
    (hv : v ∈ dues) : v ∈ schedule.dueDates env.engine := by
  rcases h with ⟨-, rfl⟩ | ⟨-, hdues⟩
  · exact absurd hv List.not_mem_nil
  · refine ⟨_, _, dues, fun last hlast => ?_, hdues, hv⟩
    rw [windowEnd, Option.mem_def.mp hlast]
    exact min_le_right _ _

theorem supersede_same (row : AuditSchedule) (now : Timestamp) (actorId : String)
    (s : AuditSchedule) : SameDefinition s (supersede row now actorId s) := by
  unfold supersede
  split
  · exact ⟨rfl, rfl, rfl, rfl, rfl⟩
  · exact .refl s

theorem persists_put {r s₀ : AuditSchedule} (hs₀ : s₀ ∈ db.schedules)
    (hn : (db.schedules.map AuditSchedule.scheduleId).Nodup) (hsame : SameDefinition s₀ r)
    (hput : db'.schedules = Table.put AuditSchedule.scheduleId r db.schedules) :
    Persists db db' := by
  intro s hs
  rw [hput]
  by_cases hid : s.scheduleId = r.scheduleId
  · have heq : s = s₀ := Table.eq_of_key_eq hn hs hs₀ (hid.trans hsame.scheduleId)
    rw [heq]
    exact ⟨r, Table.mem_put_self hs₀ hsame.scheduleId, hsame⟩
  · exact ⟨s, Table.mem_put_of_ne hs hid, .refl s⟩

theorem createDraft_eq_ok {scheduleId tenantId : String} {draft : ScheduleDraftInput}
    {row : AuditSchedule} (h : createDraft db scheduleId tenantId draft = .ok (row, db')) :
    row.scheduleId ∉ db.schedules.map AuditSchedule.scheduleId ∧
      db' = { db with schedules := db.schedules ++ [row] } := by
  unfold createDraft at h
  obtain ⟨_, -, h⟩ := ofOption_bind_eq_ok.mp h
  obtain ⟨_, -, h⟩ := ofOption_bind_eq_ok.mp h
  split at h
  · obtain ⟨rows, hrows, h⟩ := ofOption_bind_eq_ok.mp h
    obtain ⟨hnew, rfl⟩ := Table.insert?_eq_some.mp hrows
    cases h
    exact ⟨hnew, rfl⟩
  · cases h

theorem getOrCreateCursor_frame (db : Database) (schedule : AuditSchedule) :
    (db.getOrCreateCursor schedule).2.schedules = db.schedules ∧
      (db.getOrCreateCursor schedule).2.occurrences = db.occurrences := by
  unfold Database.getOrCreateCursor
  split <;> exact ⟨rfl, rfl⟩

variable {t i : String} {decision : ScheduleDecision} {out : AuditSchedule}

theorem approveSchedule_eq_ok (h : approveSchedule db engine t i decision now = .ok (out, db')) :
    ∃ row, db.getSchedule t i = some row ∧ ((row.status = .active ∧ db' = db) ∨
      (row.status = .draft ∧ SameDefinition row out ∧
        db'.schedules = Table.put AuditSchedule.scheduleId out
          (db.schedules.map (supersede row now decision.actorId)) ∧
        db'.occurrences = db.occurrences)) := by
  unfold approveSchedule at h
  obtain ⟨row, hrow, h⟩ := ofOption_bind_eq_ok.mp h
  refine ⟨row, hrow, ?_⟩
  split at h
  · rename_i hactive
    cases h
    exact Or.inl ⟨hactive, rfl⟩
  · obtain ⟨hdraft, h⟩ := require_bind_eq_ok.mp h
    obtain ⟨-, h⟩ := require_bind_eq_ok.mp h
    obtain ⟨-, h⟩ := require_bind_eq_ok.mp h
    obtain ⟨_, -, h⟩ := bind_eq_ok.mp h
    obtain ⟨nextDue, -, h⟩ := bind_eq_ok.mp h
    cases h
    refine Or.inr ⟨hdraft, ⟨rfl, rfl, rfl, rfl, rfl⟩, ?_, ?_⟩
    · exact (getOrCreateCursor_frame (Database.putSchedule
        { db with schedules := db.schedules.map (supersede row now decision.actorId) } _) _).1
    · exact (getOrCreateCursor_frame (Database.putSchedule
        { db with schedules := db.schedules.map (supersede row now decision.actorId) } _) _).2

theorem disableSchedule_eq_ok (h : disableSchedule db t i decision now = .ok (out, db')) :
    ∃ row, db.getSchedule t i = some row ∧ (db' = db ∨ (SameDefinition row out ∧
      db'.schedules = Table.put AuditSchedule.scheduleId out db.schedules ∧
      db'.occurrences = db.occurrences)) := by
  unfold disableSchedule at h
  obtain ⟨row, hrow, h⟩ := ofOption_bind_eq_ok.mp h
  refine ⟨row, hrow, ?_⟩
  split at h
  · cases h
    exact Or.inl rfl
  · obtain ⟨-, h⟩ := require_bind_eq_ok.mp h
    dsimp only at h
    split at h
    · cases h
      exact Or.inr ⟨⟨rfl, rfl, rfl, rfl, rfl⟩, rfl, rfl⟩
    · cases h
      exact Or.inr ⟨⟨rfl, rfl, rfl, rfl, rfl⟩, rfl, rfl⟩

/-- The schedules keep their definitions and their ids, and no occurrence is touched. -/
structure Authored (db db' : Database) : Prop where
  persists : Persists db db'
  ids : (db'.schedules.map AuditSchedule.scheduleId).Nodup
  occurrences : db'.occurrences = db.occurrences

theorem Authored.of_eq (hn : (db.schedules.map AuditSchedule.scheduleId).Nodup) (heq : db' = db) :
    Authored db db' := by
  rw [heq]
  exact ⟨.refl db, hn, rfl⟩

theorem Authored.trans {a b c : Database} (h : Authored a b) (h' : Authored b c) : Authored a c :=
  ⟨h.persists.trans h'.persists, h'.ids, h'.occurrences.trans h.occurrences⟩

theorem Authored.dated (ha : Authored db db') (h : Dated engine db) : Dated engine db' := by
  refine h.step ha.persists ha.ids fun o' ho' => Or.inl ?_
  rw [ha.occurrences] at ho'
  exact ⟨o', ho', rfl, rfl⟩

theorem authored_put {r s₀ : AuditSchedule} (hn : (db.schedules.map AuditSchedule.scheduleId).Nodup)
    (hs₀ : s₀ ∈ db.schedules) (hsame : SameDefinition s₀ r)
    (hput : db'.schedules = Table.put AuditSchedule.scheduleId r db.schedules)
    (ho : db'.occurrences = db.occurrences) : Authored db db' where
  persists := persists_put hs₀ hn hsame hput
  ids := by
    rw [hput, Table.map_put_key]
    exact hn
  occurrences := ho

theorem authored_superseded (hn : (db.schedules.map AuditSchedule.scheduleId).Nodup)
    (row : AuditSchedule) (now : Timestamp) (actorId : String) :
    Authored db { db with schedules := db.schedules.map (supersede row now actorId) } where
  persists s hs := ⟨_, List.mem_map_of_mem hs, supersede_same row now actorId s⟩
  ids := by
    have hkeys : AuditSchedule.scheduleId ∘ supersede row now actorId = AuditSchedule.scheduleId :=
      funext fun s => (supersede_same row now actorId s).scheduleId
    rw [List.map_map, hkeys]
    exact hn
  occurrences := rfl

theorem exec_authored {op : Op} (ha : op.isAuthoring ≠ false)
    (hn : (w.db.schedules.map AuditSchedule.scheduleId).Nodup) :
    Authored w.db (exec env op w).2.db := by
  cases op with
  | createDraft t draft =>
    rcases commit_db (w := w) (createDraft w.db (env.newId w.ticks) t draft) with heq | ⟨row, hrun⟩
    · exact .of_eq hn heq
    · obtain ⟨hnew, heq⟩ := createDraft_eq_ok hrun
      rw [show (exec env (.createDraft t draft) w).2.db = _ from heq]
      exact ⟨fun s hs => ⟨s, List.mem_append_left _ hs, .refl s⟩,
        Table.nodup_append_of_not_mem hn hnew, rfl⟩
  | approveSchedule t i decision now =>
    rcases commit_db (w := w) (approveSchedule w.db env.engine t i decision now) with
      heq | ⟨out, hrun⟩
    · exact .of_eq hn heq
    · obtain ⟨row, hrow, ⟨-, heq⟩ | ⟨-, hdefinition, hput, ho⟩⟩ := approveSchedule_eq_ok hrun
      · exact .of_eq hn heq
      · -- first the other versions are superseded, then the row is written
        have hsuperseded := authored_superseded hn row now decision.actorId
        have hself : supersede row now decision.actorId row = row := by simp [supersede]
        have hmem := List.mem_map_of_mem (f := supersede row now decision.actorId)
          (getSchedule_eq_some hrow).1
        rw [hself] at hmem
        exact hsuperseded.trans (authored_put hsuperseded.ids hmem hdefinition hput ho)
  | disableSchedule t i decision now =>
    rcases commit_db (w := w) (disableSchedule w.db t i decision now) with heq | ⟨out, hrun⟩
    · exact .of_eq hn heq
    · obtain ⟨row, hrow, heq | ⟨hdefinition, hput, ho⟩⟩ := disableSchedule_eq_ok hrun
      · exact .of_eq hn heq
      · exact authored_put hn (getSchedule_eq_some hrow).1 hdefinition hput ho
  | _ => exact absurd rfl ha

/-- An occurrence is an old one, or the engine lists its due date for its schedule. -/
theorem occurrence_of_exec {op : Op} (ha : op.isAuthoring = false) {o' : ScheduleOccurrence}
    (ho' : o' ∈ (exec env op w).2.db.occurrences) :
    (∃ o ∈ w.db.occurrences, o'.scheduleId = o.scheduleId ∧ o'.nominalDue = o.nominalDue) ∨
      ∃ s ∈ w.db.schedules, s.scheduleId = o'.scheduleId ∧
        o'.nominalDue ∈ s.dueDates env.engine := by
  by_cases hm : op.isMaterialization = false
  · refine Or.inl ?_
    have heffect : Effect env op w.db (exec env op w).2.db := exec_effect ha hm
    rcases heffect with ⟨_, _, heq⟩ | ⟨o, r, _, _, hmem, -, hwritten, heq⟩
    · rw [heq] at ho'
      exact ⟨o', ho', rfl, rfl⟩
    · rw [heq] at ho'
      rcases Table.eq_or_mem_of_mem_put ho' with rfl | ⟨ho', -⟩
      · exact ⟨o, hmem, hwritten.same.scheduleId, hwritten.same.nominalDue⟩
      · exact ⟨o', ho', rfl, rfl⟩
  · cases op with
    | materializeDueOccurrences t i now worker lease =>
      rcases commit_db (w := w) (materializeDueOccurrences env w.db t i now worker lease) with
        heq | ⟨result, hrun⟩
      · exact Or.inl ⟨o', heq ▸ ho', rfl, rfl⟩
      · obtain ⟨schedule, hschedule, -, ⟨hrefused, -⟩ | ⟨dues, added, hev⟩⟩ := materialize_eq_ok hrun
        · exact Or.inl ⟨o', hrefused.occurrences ▸ ho', rfl, rfl⟩
        · rcases List.mem_append.mp (hev.occurrences ▸ ho') with ho' | ho'
          · exact Or.inl ⟨o', ho', rfl, rfl⟩
          · have hnew := hev.new o' ho'
            exact Or.inr ⟨schedule, (getSchedule_eq_some hschedule).1, hnew.scheduleId.symm,
              lists_dueDates hev.lists hnew.due_mem⟩
    | _ => exact absurd rfl hm

theorem exec_dated (op : Op) (h : Dated env.engine w.db) :
    Dated env.engine (exec env op w).2.db ∧ Persists w.db (exec env op w).2.db := by
  by_cases ha : op.isAuthoring = false
  · obtain ⟨hschedules, -⟩ := exec_configuration env w ha
    have hp : Persists w.db (exec env op w).2.db := .of_schedules hschedules
    have hn : ((exec env op w).2.db.schedules.map AuditSchedule.scheduleId).Nodup := by
      rw [hschedules]
      exact h.schedules
    exact ⟨h.step hp hn fun o' ho' => occurrence_of_exec ha ho', hp⟩
  · have hauthored : Authored w.db (exec env op w).2.db := exec_authored ha h.schedules
    exact ⟨hauthored.dated h, hauthored.persists⟩

end Steps

section Approvals

variable {w : World}

/-- The call makes the draft `s` the active version of its name. -/
def ApprovesVersion (env : Environment) (w : World) (call : Call) (s : AuditSchedule) : Prop :=
  (∃ decision, call = .approve s.tenantId s.scheduleId decision) ∧
    w.db.getSchedule s.tenantId s.scheduleId = some s ∧ s.status = .draft ∧ w.Succeeds env call

def LaunchedElsewhere (db : Database) (s : AuditSchedule) (due : Timestamp) : Prop :=
  ∃ o ∈ db.occurrences, ∃ v ∈ db.schedules, v.scheduleId = o.scheduleId ∧
    v.scheduleId ≠ s.scheduleId ∧ v.tenantId = s.tenantId ∧ v.name = s.name ∧
    o.nominalDue = due ∧ o.launchedAt ≠ none

/-- When a version is approved, no other has launched a due date of its rule. -/
def Distinct (env : Environment) (w : World) (call : Call) : Prop :=
  ∀ s, ApprovesVersion env w call s → ∀ due ∈ s.dueDates env.engine,
    ¬ LaunchedElsewhere w.db s due

/-- No version that is approved along the run launches a due date that another version had
launched when it was approved. -/
def NeverRelaunched (env : Environment) (w : World) (calls : List Call) : Prop :=
  Runs.EachSplit (fun before call => ∀ s, ApprovesVersion env (w.run env before) call s →
    ∀ due, LaunchedElsewhere (w.run env before).db s due →
      ∀ o ∈ (w.run env calls).db.occurrences, o.scheduleId = s.scheduleId → o.nominalDue = due →
        o.launchedAt = none) calls

theorem run_dated (h : Dated env.engine w.db) (calls : List Call) :
    Dated env.engine (w.run env calls).db ∧ Persists w.db (w.run env calls).db := by
  refine Runs.run_invariant_always
    (I := fun w' : World => Dated env.engine w'.db ∧ Persists w.db w'.db) ?_ ⟨h, .refl _⟩ calls
  rintro w' call ⟨hdated, hpersists⟩
  refine Program.run_keeps (I := fun w' : World => Dated env.engine w'.db ∧ Persists w.db w'.db) ?_
    call.program ⟨hdated, hpersists⟩
  rintro op w'' ⟨hdated, hpersists⟩
  obtain ⟨hdated', hpersists'⟩ := exec_dated op hdated
  exact ⟨hdated', hpersists.trans hpersists'⟩

/-- **Revisions.**  In every sequence of calls, a version launches no due date again that
another version of its name had launched, if no such date is one of its rule when it is
approved. -/
theorem run_relaunches_nothing (hschedules : (w.db.schedules.map AuditSchedule.scheduleId).Nodup)
    (hoccurrences : w.db.occurrences = []) {calls : List Call}
    (hdistinct : Runs.EachStep (World.perform env) (Distinct env) w calls) :
    NeverRelaunched env w calls := by
  have hstart : Dated env.engine w.db := ⟨hschedules, by simp [hoccurrences]⟩
  intro before call after heq s happroves due hlaunched o ho hid hdue
  obtain ⟨hdated, -⟩ := run_dated hstart before
  have hrun : w.run env calls = (w.run env before).run env (call :: after) := by
    rw [heq, World.run, List.foldl_append]
    rfl
  rw [hrun] at ho
  -- the row of the version is there to the end, and lists the date of the occurrence
  obtain ⟨hdated', hpersists⟩ := run_dated hdated (call :: after)
  obtain ⟨s', hs', hsame⟩ := hpersists s (getSchedule_eq_some happroves.2.1).1
  have hmem := hdated'.schedule hs' ho (hsame.scheduleId.trans hid.symm)
  rw [hsame.dueDates, hdue] at hmem
  exact absurd hlaunched (Runs.eachStep_iff.mp hdistinct before call after heq s happroves due hmem)

end Approvals

/-! ### A revision -/

/-- An engine for rules that start with their schedule, as `dtstart` makes them. -/
def startingEngine (values : List Timestamp) : RecurrenceEngine :=
  { sampleEngine values with
    between := fun _ _ effectiveFrom start stop => .ok ((values.filter fun v =>
      effectiveFrom.wall ≤ v ∧ start.wall ≤ v ∧ v ≤ stop.wall).map .instant) }

theorem startingEngine_yields {values : List Timestamp} {rule : String} {effectiveFrom : Timestamp}
    {effectiveUntil : Option Timestamp} {v : Timestamp}
    (h : (startingEngine values).Yields rule "UTC" effectiveFrom effectiveUntil v) :
    effectiveFrom ≤ v := by
  obtain ⟨start, stop, l, -, hlist, hv⟩ := h
  obtain ⟨zone, all, hzone, hall, rfl⟩ := RecurrenceEngine.occurrencesBetween_eq_ok hlist
  cases hzone
  cases hall
  obtain ⟨x, hx, rfl⟩ := List.mem_map.mp hv
  obtain ⟨v, hvalue, rfl⟩ := List.mem_map.mp (List.mem_filter.mp hx).1
  exact (of_decide_eq_true (List.mem_filter.mp hvalue).2).1

def revisionEnvironment : Environment :=
  { tenEnvironment with
    engine := startingEngine sampleValues
    sha256Hex := fun text => "000000000000000" ++ text
    newId := fun _ => "sch_2"
    taskIds := fun ticks key => "tsk_" ++ toString ticks ++ "_" ++ key }

theorem revised_catch_up_pos : 0 < 12 := Nat.succ_pos 11

def revisedInput (effectiveFrom : Timestamp) : ScheduleDraftInput where
  name := "SCM schedule"
  planId := "plan_1"
  templateId := "tpl_1"
  recurrenceRule := "FREQ=DAILY"
  effectiveFrom := effectiveFrom
  auditPeriodRule := samplePeriodRule
  businessCalendar := sampleSchedule.businessCalendar
  launchMode := .automatic
  catchUpLimit := 12
  overlapPolicy := .allow
  maxConcurrentEngagements := 2
  positive_catch_up_limit := revised_catch_up_pos
  positive_concurrency_limit := Nat.succ_pos 1

def revisedWorld : World where
  db := sampleDatabase [sampleSchedule]

/-- Evaluate, revise, approve the revision, and evaluate again. -/
def revisedCalls (effectiveFrom : Timestamp) : List Call :=
  [.evaluateDue { tenantId := "tnt_a" }, .revise "tnt_a" "sch_1" (revisedInput effectiveFrom),
   .approve "tnt_a" "sch_2" { actorId := "manager", reason := "approved" },
   .evaluateDue { tenantId := "tnt_a" }]

def approvalWorld (effectiveFrom : Timestamp) : World :=
  revisedWorld.run revisionEnvironment ((revisedCalls effectiveFrom).take 2)

theorem distinct_of_not_approve {w : World} {call : Call}
    (h : ∀ t i decision, call ≠ .approve t i decision) : Distinct env w call := by
  rintro s ⟨⟨decision, hcall⟩, -⟩
  exact absurd hcall (h _ _ decision)

theorem revised_distinct : Runs.EachStep (World.perform revisionEnvironment)
    (Distinct revisionEnvironment) revisedWorld (revisedCalls (sampleTime 11 0)) := by
  refine ⟨distinct_of_not_approve (by simp), distinct_of_not_approve (by simp), ?_,
    distinct_of_not_approve (by simp), trivial⟩
  intro s happroves due hdue helsewhere
  have hrow : ∀ s ∈ (approvalWorld (sampleTime 11 0)).db.getSchedule "tnt_a" "sch_2",
      s.timezone = "UTC" ∧ sampleTime 11 0 ≤ s.effectiveFrom := by decide +kernel
  have hdates : ∀ o ∈ (approvalWorld (sampleTime 11 0)).db.occurrences,
      o.nominalDue = sampleTime 10 9 := by decide +kernel
  obtain ⟨⟨decision, hcall⟩, hschedule, -⟩ := happroves
  obtain ⟨ht, hi, -⟩ := Call.approve.inj hcall
  rw [← ht, ← hi] at hschedule
  obtain ⟨o, ho, v, -, -, -, -, -, hdate, -⟩ := helsewhere
  obtain ⟨hzone, hlater⟩ := hrow s hschedule
  have hyields : (startingEngine sampleValues).Yields s.recurrenceRule s.timezone s.effectiveFrom
      s.effectiveUntil due := hdue
  rw [hzone] at hyields
  have hfrom : s.effectiveFrom ≤ due := startingEngine_yields hyields
  rw [← hdate, hdates o ho] at hfrom
  exact absurd (hlater.trans hfrom) (by decide)

theorem run_relaunches_nothing_sample :
    NeverRelaunched revisionEnvironment revisedWorld (revisedCalls (sampleTime 11 0)) :=
  run_relaunches_nothing (by decide) rfl revised_distinct

/-- A revision that starts when the schedule did launches its first due date again. -/
theorem run_relaunches_revised :
    ¬ NeverRelaunched revisionEnvironment revisedWorld (revisedCalls (sampleTime 6 7)) := by
  intro h
  obtain ⟨s, hs⟩ : ∃ s, (approvalWorld (sampleTime 6 7)).db.getSchedule "tnt_a" "sch_2" = some s :=
    Option.isSome_iff_exists.mp (by decide +kernel)
  obtain ⟨hmem, ht, hi⟩ := getSchedule_eq_some hs
  have hrow : ∀ s ∈ (approvalWorld (sampleTime 6 7)).db.getSchedule "tnt_a" "sch_2",
      s.status = .draft ∧ s.name = "SCM schedule" := by decide +kernel
  obtain ⟨hdraft, hname⟩ := hrow s hs
  have hlaunched : ∃ o ∈ (approvalWorld (sampleTime 6 7)).db.occurrences,
      ∃ v ∈ (approvalWorld (sampleTime 6 7)).db.schedules, v.scheduleId = o.scheduleId ∧
        v.scheduleId ≠ "sch_2" ∧ v.tenantId = "tnt_a" ∧ v.name = "SCM schedule" ∧
        o.nominalDue = sampleTime 10 9 ∧ o.launchedAt ≠ none := by
    decide +kernel
  have hagain : ∃ o ∈ (revisedWorld.run revisionEnvironment
      (revisedCalls (sampleTime 6 7))).db.occurrences,
      o.scheduleId = "sch_2" ∧ o.nominalDue = sampleTime 10 9 ∧ o.launchedAt ≠ none := by
    decide +kernel
  obtain ⟨o, ho, hid, hdue, hat⟩ := hagain
  refine hat (h ((revisedCalls (sampleTime 6 7)).take 2) _ _ rfl s
    ⟨⟨_, by rw [ht, hi]⟩, by rw [ht, hi]; exact hs, hdraft, ?_⟩ (sampleTime 10 9) ?_ o ho
    (hid.trans hi.symm) hdue)
  · have hsucceeds : ((approvalWorld (sampleTime 6 7)).Succeeds revisionEnvironment
        (.approve "tnt_a" "sch_2" { actorId := "manager", reason := "approved" })) := by
      have hok : (((Call.approve "tnt_a" "sch_2" { actorId := "manager", reason := "approved" }).program.run
          (exec revisionEnvironment) (approvalWorld (sampleTime 6 7))).1.toBool) = true := by
        decide +kernel
      rw [World.Succeeds]
      rcases hrun : ((Call.approve "tnt_a" "sch_2"
        { actorId := "manager", reason := "approved" }).program.run (exec revisionEnvironment)
        (approvalWorld (sampleTime 6 7))).1 with e | u
      · rw [hrun] at hok
        cases hok
      · rfl
    exact hsucceeds
  · rw [LaunchedElsewhere, ht, hi, hname]
    exact hlaunched

end Scheduling
