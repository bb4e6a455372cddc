/-
Schedules whose evaluation raises.

`evaluate_due` goes through the schedules by id, and an exception that a rule raises ends it:
the schedules after that one are not evaluated (`evaluate_reached`).  It leaves the cursor where it
is, so that a window with too many values comes back in the later ones; a rule that raises at every
later reading of the clock holds its schedule up for good (`run_stuck`).
-/
import AssuranceOS.Scheduling.Revisions

namespace Scheduling

open Orchestration (Timestamp)
open Checked
open Program (Raises)

variable {env : Environment}

/-! ### Errors of the rules -/

def SchedulingError.isRecurrence : SchedulingError → Bool
  | .recurrence _ => true
  | _ => false

def SchedulingError.Other (e : SchedulingError) : Prop := e.isRecurrence = false

section Refusals

variable {db : Database} {t i : String} {now : Timestamp}

theorem launchRetrySeconds_refuses (policy : PreflightPolicy) :
    Refuses SchedulingError.Other (launchRetrySeconds policy) := by
  unfold launchRetrySeconds
  split
  · exact refuses_ok _
  · exact refuses_ok _
  · exact refuses_error rfl

theorem runPreflight_refuses (context : PreflightContext) (granted : Bool) :
    Refuses SchedulingError.Other (runPreflight db t i context now granted) := by
  have hbudget : ∀ policy, Refuses SchedulingError.Other
      (PreflightEvaluator.budgetCheck policy context) := by
    intro policy
    unfold PreflightEvaluator.budgetCheck
    dsimp only
    split
    · exact refuses_ok _
    · exact refuses_ok _
    · exact refuses_ok _
    · exact refuses_error rfl
  unfold runPreflight
  refine Refuses.bind (refuses_ofOption (P := SchedulingError.Other) rfl) fun o _ => ?_
  split
  · exact refuses_ok _
  · refine Refuses.bind ?_ fun report _ => ?_
    · exact (hbudget _).bind fun _ _ => refuses_ok _
    · dsimp only
      split
      · exact refuses_ok _
      · split
        · exact refuses_ok _
        · exact refuses_ok _

theorem beginLaunch_refuses : Refuses SchedulingError.Other (beginLaunch env db t i now) := by
  unfold beginLaunch
  refine Refuses.bind (refuses_ofOption (P := SchedulingError.Other) rfl) fun o _ => ?_
  split
  · exact refuses_ok _
  · refine Refuses.bind (refuses_require (P := SchedulingError.Other) rfl) fun _ _ => ?_
    refine Refuses.bind (refuses_ofOption (P := SchedulingError.Other) rfl) fun found _ => ?_
    refine Refuses.bind ?_ fun workflow _ => ?_
    · unfold WorkflowColumn.validate
      split
      · exact refuses_ok _
      · exact refuses_error rfl
      · exact refuses_error rfl
    · refine (launchRetrySeconds_refuses _).bind fun retry _ => ?_
      refine Refuses.bind ?_ fun db₁ _ => refuses_ok _
      unfold ensureEngagement
      dsimp only
      split
      · exact refuses_ok _
      · refine Refuses.bind (refuses_require (P := SchedulingError.Other) rfl) fun _ _ => ?_
        refine Refuses.bind (refuses_ofOption (P := SchedulingError.Other) rfl) fun rows _ => ?_
        exact Refuses.bind (refuses_ofOption (P := SchedulingError.Other) rfl) fun statuses _ => refuses_ok _

theorem completeLaunch_refuses : Refuses SchedulingError.Other (completeLaunch db t i now) := by
  unfold completeLaunch
  refine Refuses.bind (refuses_ofOption (P := SchedulingError.Other) rfl) fun o _ => ?_
  split
  · exact refuses_ok _
  · exact refuses_ok _

theorem failLaunch_refuses (error : SchedulingError) :
    Refuses SchedulingError.Other (failLaunch db t i error now) := by
  unfold failLaunch
  split
  · exact refuses_ok _
  · exact (launchRetrySeconds_refuses _).bind fun _ _ => refuses_ok _

theorem listSchedules_refuses (scheduleId : Option String) :
    Refuses SchedulingError.Other (listSchedules db t scheduleId) := by
  unfold listSchedules
  dsimp only
  split
  · exact refuses_ok _
  · refine Refuses.bind (refuses_ofOption (P := SchedulingError.Other) rfl) fun requested _ => ?_
    exact Refuses.bind (refuses_require (P := SchedulingError.Other) rfl) fun _ _ => refuses_ok _

variable {w : World} {e : SchedulingError}

theorem commit_error {α : Type} {r : Except SchedulingError (α × Database)}
    (h : (w.commit r).1 = .error e) : r = .error e := by
  cases r with
  | error e' => exact congrArg Except.error (Except.error.inj h)
  | ok r => cases h

theorem commitUnit_error {r : Except SchedulingError Database} (h : (w.commitUnit r).1 = .error e) :
    r = .error e := by
  have hmap := commit_error h
  cases r with
  | error e' => exact congrArg Except.error (Except.error.inj hmap)
  | ok db => cases hmap

theorem orchestrate_error {r : Except Orchestration.OrchestrationError
      (Orchestration.Database × Orchestration.EngagementSnapshot)}
    (h : (w.orchestrate r).1 = .error e) : e.Other := by
  have hmap := commitUnit_error h
  cases r with
  | error e' =>
    cases hmap
    rfl
  | ok r => cases hmap

theorem exec_other {op : Op} (hop : op.processes = true) (w : World) (e : SchedulingError)
    (h : (exec env op w).1 = .error e) : e.Other := by
  cases op with
  | clock => cases h
  | listSchedules => exact listSchedules_refuses _ e h
  | listRetryableOccurrences => cases h
  | readOccurrence => cases h
  | markWaitingApproval => cases h
  | runPreflight => exact runPreflight_refuses _ _ e (commit_error h)
  | beginLaunch => exact beginLaunch_refuses e (commit_error h)
  | readEngagement => cases h
  | compileWorkflow => exact orchestrate_error h
  | startEngagement => exact orchestrate_error h
  | completeLaunch => exact completeLaunch_refuses e (commitUnit_error h)
  | failLaunch => exact failLaunch_refuses _ e (commitUnit_error h)
  | getOccurrence =>
    refine Refuses.apply (refuses_ofOption (P := SchedulingError.Other) ?_) h
    rfl
  | _ => cases hop

end Refusals

section Rules

variable {db db' : Database} {schedule : AuditSchedule} {now : Timestamp}

def Raised {ε α : Type} (x : Except ε α) : Prop := ∃ e, x = .error e

instance {ε α : Type} : ∀ x : Except ε α, Decidable (Raised x)
  | .ok _ => isFalse fun ⟨_, h⟩ => by cases h
  | .error e => isTrue ⟨e, rfl⟩

/-- The rule of the schedule raises when it is evaluated at `now`, with the cursor at
`position`. -/
def RuleFails (env : Environment) (schedule : AuditSchedule) (position : Option Timestamp)
    (now : Timestamp) : Prop :=
  Raised (env.engine.nextAfter schedule.recurrenceRule schedule.timezone schedule.effectiveFrom
    (windowEnd schedule now)) ∨
  position.getD (schedule.effectiveFrom - 1) < windowEnd schedule now ∧
    Raised (env.engine.occurrencesBetween schedule.recurrenceRule schedule.timezone
      schedule.effectiveFrom (position.getD (schedule.effectiveFrom - 1))
      (windowEnd schedule now))

instance (env : Environment) (schedule : AuditSchedule) (position : Option Timestamp)
    (now : Timestamp) : Decidable (RuleFails env schedule position now) :=
  inferInstanceAs (Decidable (_ ∨ _ ∧ _))

variable {cursor : ScheduleCursor} {zone : Zone}

theorem not_ruleFails_of_ok {result : MaterializationResult}
    (h : evaluateCursor env db schedule cursor now = .ok (result, db')) :
    ¬ RuleFails env schedule cursor.lastEvaluatedAt now := by
  unfold evaluateCursor at h
  dsimp only at h
  split at h
  · rename_i hempty
    obtain ⟨nextDue, hnext, -⟩ := bind_eq_ok.mp h
    rintro (⟨e, he⟩ | ⟨hwindow, -⟩)
    · rw [liftRecurrence_eq_ok, he] at hnext
      cases hnext
    · exact absurd hempty (not_le.mpr hwindow)
  · obtain ⟨dues, hdues, h⟩ := bind_eq_ok.mp h
    obtain ⟨created, -, h⟩ := bind_eq_ok.mp h
    obtain ⟨nextDue, hnext, -⟩ := bind_eq_ok.mp h
    rintro (⟨e, he⟩ | ⟨-, e, he⟩)
    · rw [liftRecurrence_eq_ok, he] at hnext
      cases hnext
    · have hdues' := liftRecurrence_eq_ok.mp hdues
      unfold windowStart at hdues'
      rw [he] at hdues'
      cases hdues'

theorem resolveBlackout_refuses (config : BusinessCalendarConfig) (dueLocal : LocalTime)
    (windows : BlackoutPolicy) :
    Refuses SchedulingError.Other (resolveBlackout config dueLocal windows) := by
  have hsearch : ∀ fuel candidate, Refuses SchedulingError.Other
      (BusinessCalendar.search config fuel candidate) := by
    intro fuel
    induction fuel with
    | zero =>
      intro candidate
      exact refuses_error rfl
    | succ fuel ih =>
      intro candidate
      rw [BusinessCalendar.search]
      split
      · exact refuses_ok _
      · exact ih _
  induction windows with
  | nil => exact refuses_ok _
  | cons window windows ih =>
    rw [resolveBlackout]
    split
    · split
      · exact refuses_ok _
      · exact Refuses.bind (hsearch _ _) fun _ _ => refuses_ok _
    · exact ih

theorem calculate_refuses (dueLocal : LocalTime) (rule : AuditPeriodRule) :
    Refuses SchedulingError.Other (AuditPeriodCalculator.calculate dueLocal rule) := by
  have hoverflow : ∀ day : Option ℤ, Refuses SchedulingError.Other
      (ofOption SchedulingError.overflow day) :=
    fun day => refuses_ofOption (P := SchedulingError.Other) rfl
  cases rule with
  | rollingDays days offset hdays =>
    refine (hoverflow _).bind fun _ _ => (hoverflow _).bind fun _ _ => refuses_ok _
  | calendarMonths months offset hmonths =>
    refine (hoverflow _).bind fun _ _ => (hoverflow _).bind fun _ _ => ?_
    dsimp only
    split
    · refine (hoverflow _).bind fun _ _ => (hoverflow _).bind fun _ _ => refuses_ok _
    · exact refuses_ok _

theorem createOccurrence_refuses (hzone : env.engine.timezone schedule.timezone = .ok zone)
    (due : Timestamp) (forcedSkip : Bool) :
    Refuses SchedulingError.Other (createOccurrence env db schedule due forcedSkip) := by
  unfold createOccurrence
  split
  · exact refuses_ok _
  · refine Refuses.bind (refuses_ofOption (P := SchedulingError.Other) rfl) fun template _ => ?_
    rw [hzone]
    refine Refuses.bind (refuses_ok (P := SchedulingError.Other) zone) fun zone _ => ?_
    refine Refuses.bind (resolveBlackout_refuses _ _ _) fun blackout _ => ?_
    refine Refuses.bind (calculate_refuses _ _) fun period _ => ?_
    refine Refuses.bind ?_ fun _ _ => refuses_ok _
    unfold Database.addOccurrence
    refine Refuses.bind (refuses_require (P := SchedulingError.Other) rfl) fun _ _ => ?_
    exact Refuses.bind (refuses_ofOption (P := SchedulingError.Other) rfl) fun _ _ => refuses_ok _

theorem createOccurrences_refuses (hzone : env.engine.timezone schedule.timezone = .ok zone)
    (skipped dues : List Timestamp) :
    ∀ {result : MaterializationResult} {db : Database}, Refuses SchedulingError.Other
      (createOccurrences env schedule skipped dues result db) := by
  induction dues with
  | nil =>
    intro result db
    exact refuses_ok _
  | cons due dues ih =>
    intro result db
    exact (createOccurrence_refuses hzone due _).bind fun _ _ => ih

theorem ruleFails_of_error {e : SchedulingError}
    (h : evaluateCursor env db schedule cursor now = .error e) (he : ¬ e.Other) :
    RuleFails env schedule cursor.lastEvaluatedAt now := by
  by_contra hnot
  have hnext : ∃ nextDue, env.engine.nextAfter schedule.recurrenceRule schedule.timezone
      schedule.effectiveFrom (windowEnd schedule now) = .ok nextDue := by
    cases hcase : env.engine.nextAfter schedule.recurrenceRule schedule.timezone
      schedule.effectiveFrom (windowEnd schedule now) with
    | ok nextDue => exact ⟨nextDue, rfl⟩
    | error r => exact absurd (Or.inl ⟨r, hcase⟩) hnot
  obtain ⟨nextDue, hnext⟩ := hnext
  refine he (Refuses.apply ?_ h)
  unfold evaluateCursor
  dsimp only
  rw [hnext]
  split
  · exact refuses_ok _
  · rename_i hwindow
    rcases hdues : env.engine.occurrencesBetween schedule.recurrenceRule schedule.timezone
      schedule.effectiveFrom (windowStart schedule cursor) (windowEnd schedule now) with r | dues
    · exact absurd (Or.inr ⟨not_le.mp hwindow, r, hdues⟩) hnot
    · obtain ⟨zone, -, hzone, -⟩ := RecurrenceEngine.occurrencesBetween_eq_ok hdues
      refine Refuses.bind (refuses_ok (P := SchedulingError.Other) dues) fun dues _ => ?_
      refine Refuses.bind (createOccurrences_refuses hzone _ _) fun _ _ => ?_
      exact refuses_ok _

theorem materialize_ruleFails {t i worker : String} {lease : ℤ} (hfree : db.LeasesFree)
    (hschedule : db.getSchedule t i = some schedule) :
    (∀ result db', materializeDueOccurrences env db t i now worker lease = .ok (result, db') →
      ¬ RuleFails env schedule (db.position schedule.scheduleId) now) ∧
    ∀ e, materializeDueOccurrences env db t i now worker lease = .error e → ¬ e.Other →
      RuleFails env schedule (db.position schedule.scheduleId) now := by
  have hrun : ∃ cursor db₁, cursor.lastEvaluatedAt = db.position schedule.scheduleId ∧
      materializeDueOccurrences env db t i now worker lease =
        evaluateCursor env db₁ schedule cursor now := by
    rcases hacquire : db.acquireCursorLease schedule worker now lease with ⟨_ | cursor, db₁⟩
    · exact absurd hfree (acquireCursorLease_eq_none hacquire).1
    · refine ⟨cursor, db₁, (acquireCursorLease_eq_some hacquire).2.2.1, ?_⟩
      unfold materializeDueOccurrences
      rw [hschedule]
      dsimp only [ofOption, bind, Except.bind]
      rw [hacquire]
  obtain ⟨cursor, db₁, hlast, heq⟩ := hrun
  rw [heq, ← hlast]
  exact ⟨fun _ _ h => not_ruleFails_of_ok h, fun _ h he => ruleFails_of_error h he⟩

end Rules

/-! ### The loop over the schedules -/

theorem getSchedule_of_mem {db : Database} {S : AuditSchedule} {t : String}
    (hn : (db.schedules.map AuditSchedule.scheduleId).Nodup) (hS : S ∈ db.schedules)
    (ht : t = S.tenantId) : db.getSchedule t S.scheduleId = some S := by
  obtain ⟨x, hx⟩ : ∃ x, db.getSchedule t S.scheduleId = some x :=
    Option.isSome_iff_exists.mp (List.find?_isSome.mpr ⟨S, hS, by simp [ht]⟩)
  obtain ⟨hmem, -, hid⟩ := getSchedule_eq_some hx
  rw [hx, Table.eq_of_key_eq hn hmem hS hid]

section Loop

variable {S : AuditSchedule} {now : Timestamp} {request : EvaluateDue} {w w' : World}
  {e : SchedulingError}
variable {summary : ScheduleEvaluationSummary} {op : Op} {scheduleIds : List String}

theorem process_error {t : String} {context : PreflightContext} {ids : List String}
    (h : ((Program.forEach (processOccurrence t context) ids summary).run (exec env) w).1 =
      .error e) : e.Other := by
  refine Raises.run_error (C := fun op : Op => op.processes = true)
    (P := SchedulingError.Other)
    (fun op hop s e he => exec_other hop s e he) ?_ h
  exact Raises.forEach (fun i _ summary =>
    (processOccurrence_raises t context summary i).mono fun _ hop => hop.processes) _

variable {i : String}

theorem body_error (h : (evaluateSchedule request now summary i).run (exec env) w = (.error e, w'))
    (he : ¬ e.Other) :
    materializeDueOccurrences env w.db request.tenantId i now request.workerId
      request.leaseSeconds = .error e ∧ w'.db = w.db := by
  rw [evaluateSchedule, Program.run_bind, Program.run_perform] at h
  rcases hexec : exec env (.materializeDueOccurrences request.tenantId i now request.workerId
    request.leaseSeconds) w with ⟨e' | result, w₁⟩
  · rw [hexec] at h
    cases h
    refine ⟨commit_error (w := w) ?_, exec_error hexec⟩
    exact congrArg Prod.fst hexec
  · rw [hexec] at h
    exact absurd (process_error (congrArg Prod.fst h)) he

/-- An operation that does not materialise the schedule `i`. -/
def Spares (i : String) : Op → Prop
  | .materializeDueOccurrences _ j .. => j ≠ i
  | op => op.isAuthoring = false

theorem spares_of_worksOn {key : String × String} (h : WorksOn key op) :
    Spares i op := by
  cases op with
  | materializeDueOccurrences => exact absurd h.materialization (by simp [Op.isMaterialization])
  | _ => exact h.authoring

theorem exec_spares (hop : Spares S.scheduleId op) (hS : Steady S w.db) :
    Steady S (exec env op w).2.db ∧ Unmoved S w.db (exec env op w).2.db := by
  by_cases hm : op.isMaterialization = false
  · have ha : op.isAuthoring = false := by
      cases op <;> first | rfl | exact hop
    exact effect_unmoved hS (exec_effect ha hm)
  · cases op with
    | materializeDueOccurrences t j at' worker lease =>
      have hne : j ≠ S.scheduleId := hop
      rcases commit_db (w := w) (materializeDueOccurrences env w.db t j at' worker lease) with
        heq | ⟨result, h⟩
      · rw [show (exec env (.materializeDueOccurrences t j at' worker lease) w).2.db = w.db from heq]
        exact ⟨hS, .refl S _⟩
      · obtain ⟨schedule, hschedule, heval, hcase⟩ := materialize_eq_ok h
        have hid := (getSchedule_eq_some hschedule).2.2
        obtain ⟨⟨hschedules, -⟩, -⟩ := heval.frame
        refine ⟨⟨?_, ?_, heval.unique hS.occurrences, heval.leases hS.leases⟩, ?_⟩
        · rw [show (exec env (.materializeDueOccurrences t j at' worker lease) w).2.db.schedules =
            w.db.schedules from hschedules]
          exact hS.mem
        · rw [show (exec env (.materializeDueOccurrences t j at' worker lease) w).2.db.schedules =
            w.db.schedules from hschedules]
          exact hS.schedules
        · rcases hcase with ⟨hrefused, -⟩ | ⟨dues, added, hev⟩
          · exact absurd hS.leases hrefused.leased
          · exact evaluated_other (by rw [hid]; exact hne) hev
    | _ => exact absurd rfl hm

theorem calls_spares {α : Type} {p : Method α} (hp : p.Calls (Spares S.scheduleId))
    (hS : Steady S w.db) :
    Steady S (p.run (exec env) w).2.db ∧ Unmoved S w.db (p.run (exec env) w).2.db := by
  refine hp.run_keeps (I := fun w' : World => Steady S w'.db ∧ Unmoved S w.db w'.db) ?_
    ⟨hS, .refl S _⟩
  rintro op hop w' ⟨hS', hsame⟩
  obtain ⟨hsteady, hstep⟩ := exec_spares hop hS'
  exact ⟨hsteady, hsame.trans hstep⟩

theorem body_spares (hne : i ≠ S.scheduleId) (summary : ScheduleEvaluationSummary) :
    (evaluateSchedule request now summary i).Calls (Spares S.scheduleId) := by
  refine Program.Calls.bind (Program.calls_perform.mpr hne) fun materialized => ?_
  refine Program.Calls.forEach (fun occurrenceId _ summary => ?_) _
  exact (processOccurrence_calls request.tenantId request.context summary occurrenceId).mono
    fun _ => spares_of_worksOn

theorem loop_spares (h : S.scheduleId ∉ scheduleIds) (summary : ScheduleEvaluationSummary) :
    (Program.forEach (evaluateSchedule request now) scheduleIds summary).Calls
      (Spares S.scheduleId) :=
  Program.Calls.forEach (fun _ hi summary => body_spares (fun heq => h (heq ▸ hi)) summary) summary

theorem loop_not_ruleFails :
    ∀ {summary summary' : ScheduleEvaluationSummary} {w w' : World}, scheduleIds.Nodup →
      S.scheduleId ∈ scheduleIds → request.tenantId = S.tenantId → Steady S w.db →
      (Program.forEach (evaluateSchedule request now) scheduleIds summary).run (exec env) w =
        (.ok summary', w') →
      ¬ RuleFails env S (w.db.position S.scheduleId) now := by
  induction scheduleIds with
  | nil =>
    intro summary summary' w w' _ hmem
    exact absurd hmem List.not_mem_nil
  | cons i ids ih =>
    intro summary summary' w w' hn hmem htenant hS h
    obtain ⟨hi, hn⟩ := List.nodup_cons.mp hn
    obtain ⟨summary₁, w₁, hbody, hrest⟩ := Program.run_bind_eq_ok.mp h
    by_cases hid : i = S.scheduleId
    · subst hid
      obtain ⟨result, w₂, hmat, -⟩ := Program.run_bind_eq_ok.mp hbody
      have hschedule : w.db.getSchedule request.tenantId S.scheduleId = some S :=
        getSchedule_of_mem hS.schedules hS.mem htenant
      have hcommit : w.commit (materializeDueOccurrences env w.db request.tenantId S.scheduleId now
          request.workerId request.leaseSeconds) = (.ok result, w₂) := hmat
      rcases hrun : materializeDueOccurrences env w.db request.tenantId S.scheduleId now
        request.workerId request.leaseSeconds with e | ⟨result', db'⟩
      · rw [hrun] at hcommit
        cases hcommit
      · exact (materialize_ruleFails hS.leases hschedule).1 result' db' hrun
    · have hmem' : S.scheduleId ∈ ids := (List.mem_cons.mp hmem).resolve_left fun heq => hid heq.symm
      have hkeep : Steady S w₁.db ∧ Unmoved S w.db w₁.db := by
        have h : Steady S ((evaluateSchedule request now summary i).run (exec env) w).2.db ∧
            Unmoved S w.db ((evaluateSchedule request now summary i).run (exec env) w).2.db :=
          calls_spares (body_spares hid summary) hS
        rwa [hbody] at h
      rw [← hkeep.2.1]
      exact ih hn hmem' htenant hkeep.1 hrest

/-- How far a call of `evaluate_due` comes that raises nothing but errors of rules: through
the schedules `before`, and, if any are left, up to the first of them, which raises. -/
structure Reached (env : Environment) (w : World) (request : EvaluateDue)
    (before rest : List String) : Prop where
  listed : listSchedules w.db request.tenantId request.scheduleId = .ok (before ++ rest)
  loop : ∃ summary summary' w₁,
    (Program.forEach (evaluateSchedule request (env.clock w.ticks)) before summary).run (exec env)
      { w with ticks := w.ticks + 1 + 1 } = (.ok summary', w₁) ∧
    (∀ S, Steady S w₁.db → Unmoved S w₁.db (w.evaluate env request).db) ∧
    ∀ i after, rest = i :: after → ∃ e, ¬ e.Other ∧
      materializeDueOccurrences env w₁.db request.tenantId i (env.clock w.ticks) request.workerId
        request.leaseSeconds = .error e

theorem evaluate_reached (honly : ¬ ∃ e : SchedulingError, e.Other ∧
      ((evaluateDue request).run (exec env) w).1 = .error e) :
    ∃ before rest, Reached env w request before rest := by
  -- the result and the final state of the call
  obtain ⟨out, final, hout, hfinal⟩ : ∃ out final,
      (evaluateDue request).run (exec env) w = (out, final) ∧ w.evaluate env request = final :=
    ⟨_, _, rfl, rfl⟩
  rw [hout] at honly
  have hraises : ∀ e, e.Other → out ≠ .error e := fun e he heq => honly ⟨e, he, heq⟩
  rw [evaluateDue_run, evaluateDueAt] at hout
  split at hout
  · cases hout
    exact absurd rfl (hraises .leaseNotPositive rfl)
  · rw [Program.run_bind, Program.run_perform] at hout
    dsimp only [exec, World.read] at hout
    rcases hlist : listSchedules w.db request.tenantId request.scheduleId with e | ids
    · rw [hlist] at hout
      cases hout
      exact absurd rfl (hraises e (listSchedules_refuses _ e hlist))
    · rw [hlist] at hout
      dsimp only at hout
      rw [evaluateSchedules, Program.run_bind] at hout
      rcases hloop : (Program.forEach (evaluateSchedule request (env.clock w.ticks)) ids
        { tenantId := request.tenantId, evaluatedAt := env.clock w.ticks }).run (exec env)
        { w with ticks := w.ticks + 1 + 1 } with ⟨e | summary, w₁⟩
      · rw [hloop] at hout
        obtain ⟨rfl, rfl⟩ := Prod.mk.inj hout
        obtain ⟨before, i, after, summary, w₂, rfl, hbefore, hbody⟩ :=
          Program.run_forEach_error hloop
        have he : ¬ e.Other := fun he => hraises e he rfl
        obtain ⟨hmat, hdb⟩ := body_error hbody he
        refine ⟨before, i :: after, hlist, _, summary, w₂, hbefore, fun S hS => ?_, ?_⟩
        · rw [hfinal, hdb]
          exact .refl S _
        · intro j after' heq
          obtain ⟨rfl, rfl⟩ := List.cons.inj heq
          exact ⟨e, he, hmat⟩
      · rw [hloop] at hout
        refine ⟨ids, [], by rw [List.append_nil, hlist], _, summary, w₁, hloop, fun S hS => ?_, ?_⟩
        · have hcalls : (do
              let retryable : List String ← Program.perform (Op.listRetryableOccurrences
                request.tenantId (env.clock w.ticks) request.scheduleId)
              Program.forEach (processOccurrence request.tenantId request.context)
                (retryable.filter fun id => !summary.occurrenceIds.contains id) summary :
              Method ScheduleEvaluationSummary).Calls (Spares S.scheduleId) := by
            refine Program.Calls.bind (Program.calls_perform.mpr rfl) fun retryable => ?_
            refine Program.Calls.forEach (fun occurrenceId _ summary => ?_) _
            exact (processOccurrence_calls request.tenantId request.context summary
              occurrenceId).mono fun _ => spares_of_worksOn
          have hkeep : Unmoved S w₁.db (Program.run (exec env) _ w₁).2.db :=
            (calls_spares hcalls hS).2
          dsimp only at hout
          rw [hout] at hkeep
          rw [hfinal]
          exact hkeep
        · intro i after heq
          cases heq

end Loop

section Isolation

variable {w : World} {request : EvaluateDue}

/-- The values of its rule that are due for a schedule at `now`: those after its cursor, up to the
reading and to the last instant in effect. -/
def DueNow (env : Environment) (S : AuditSchedule) (db : Database) (now v : Timestamp) : Prop :=
  env.engine.Yields S.recurrenceRule S.timezone S.effectiveFrom none v ∧
    Cursor.Window S.effectiveFrom S.effectiveUntil (db.position S.scheduleId) now v

/-- The engine lists the value in the window of the schedule. -/
def ListedNow (env : Environment) (S : AuditSchedule) (db : Database) (now v : Timestamp) : Prop :=
  ∃ dues, Lists env S (db.position S.scheduleId) now dues ∧ v ∈ dues

/-- The schedule is evaluated, and its rule does not raise. -/
structure Sane (env : Environment) (w : World) (request : EvaluateDue) (S : AuditSchedule) :
    Prop where
  mem : S ∈ w.db.schedules
  covers : Covers request S
  rule : ¬ RuleFails env S (w.db.position S.scheduleId) (env.clock w.ticks)

/-- The schedule is evaluated, and its rule raises. -/
structure Failing (env : Environment) (w : World) (request : EvaluateDue) (T : AuditSchedule) :
    Prop where
  mem : T ∈ w.db.schedules
  covers : Covers request T
  rule : RuleFails env T (w.db.position T.scheduleId) (env.clock w.ticks)

/-- The tables before a call. -/
structure Ready (db : Database) : Prop where
  schedules : (db.schedules.map AuditSchedule.scheduleId).Nodup
  occurrences : UniqueOccurrences db.occurrences
  leases : db.LeasesFree

variable {db : Database} {S : AuditSchedule}

theorem Ready.steady (h : Ready db) (hS : S ∈ db.schedules) :
    Steady S db :=
  ⟨hS, h.schedules, h.occurrences, h.leases⟩

variable {now : Timestamp} {before rest : List String}

theorem exists_lists {position : Option Timestamp} (h : ¬ RuleFails env S position now) :
    ∃ dues, Lists env S position now dues := by
  rcases le_or_gt (windowEnd S now) (position.getD (S.effectiveFrom - 1)) with hempty | hwindow
  · exact ⟨[], Or.inl ⟨hempty, rfl⟩⟩
  · rcases hdues : env.engine.occurrencesBetween S.recurrenceRule S.timezone S.effectiveFrom
      (position.getD (S.effectiveFrom - 1)) (windowEnd S now) with e | dues
    · exact absurd (Or.inr ⟨hwindow, e, hdues⟩) h
    · exact ⟨dues, Or.inr ⟨hwindow, hdues⟩⟩

/-- Where the engine lists the values of a window of instants, it lists what is due. -/
theorem listedNow_of_lawful {v : Timestamp} {values : Set Timestamp}
    (hlaw : env.engine.LawfulBetween S.recurrenceRule S.timezone S.effectiveFrom values)
    (hrule : ¬ RuleFails env S (db.position S.scheduleId) now) (h : DueNow env S db now v) :
    ListedNow env S db now v := by
  obtain ⟨⟨start, stop, l, -, hl, hv⟩, hwindow⟩ := h
  obtain ⟨dues, hlists⟩ := exists_lists hrule
  have hvalue : v ∈ values := ((hlaw.listed _ _ _ hl v).mp hv).1
  exact ⟨dues, hlists, (mem_of_lists hlaw hlists v).mpr ⟨hvalue, hwindow⟩⟩

theorem listed_sorted (h : Ready db) {ids : List String}
    (hlist : listSchedules db request.tenantId request.scheduleId = .ok ids) :
    ids.Pairwise (· < ·) ∧ ∀ i ∈ ids, ∃ S ∈ db.schedules, Covers request S ∧ S.scheduleId = i := by
  have hids := listSchedules_eq_ok hlist
  subst hids
  have hperm : (db.listActiveSchedules request.tenantId request.scheduleId).Perm
      (db.schedules.filter fun s => s.tenantId = request.tenantId ∧ s.status = .active ∧
        ∀ id ∈ request.scheduleId, s.scheduleId = id) := Adjudication.perm_orderBy
  constructor
  · have hsorted : ((db.listActiveSchedules request.tenantId request.scheduleId).map
        AuditSchedule.scheduleId).Pairwise (· ≤ ·) := by
      rw [List.pairwise_map]
      exact Adjudication.pairwise_orderBy
    have hn : ((db.listActiveSchedules request.tenantId request.scheduleId).map
        AuditSchedule.scheduleId).Nodup :=
      ((hperm.map _).nodup_iff).mpr (h.schedules.sublist (List.filter_sublist.map _))
    exact (hsorted.and hn).imp fun h => lt_of_le_of_ne h.1 h.2
  · exact fun i hi => covers_of_listSchedules hlist hi

/-- The evaluation raises something other than a `RecurrenceError`. -/
def Interrupted (env : Environment) (w : World) (request : EvaluateDue) : Prop :=
  ∃ e : SchedulingError, e.Other ∧ ((evaluateDue request).run (exec env) w).1 = .error e

instance {α : Type} :
    ∀ x : Except SchedulingError α, Decidable (∃ e : SchedulingError, e.Other ∧ x = .error e)
  | .ok _ => isFalse fun ⟨_, _, h⟩ => by cases h
  | .error e => decidable_of_iff (e.isRecurrence = false) <| by
      constructor
      · exact fun h => ⟨e, h, rfl⟩
      · rintro ⟨e', h, heq⟩
        obtain rfl := Except.error.inj heq
        exact h

instance (w : World) (request : EvaluateDue) : Decidable (Interrupted env w request) :=
  inferInstanceAs (Decidable (∃ e : SchedulingError, e.Other ∧ _ = Except.error e))

/-- Every schedule whose own rule does not raise has all of its due occurrences, unless an
error of another kind ends the call. -/
def Isolates (env : Environment) (w : World) (request : EvaluateDue) : Prop :=
  ∀ S, Sane env w request S → ∀ v, DueNow env S w.db (env.clock w.ticks) v →
    (w.evaluate env request).db.Materialized S.scheduleId v ∨ Interrupted env w request

/-- A due value that is left is one that the engine lists in the window, and its schedule does not
come after one whose rule raises. -/
def Unobstructed (env : Environment) (w : World) (request : EvaluateDue) : Prop :=
  ∀ S, Sane env w request S → ∀ v, DueNow env S w.db (env.clock w.ticks) v →
    w.db.Materialized S.scheduleId v ∨ (ListedNow env S w.db (env.clock w.ticks) v ∧
      ∀ T, Failing env w request T → ¬ T.scheduleId < S.scheduleId)

theorem reached_rest (h : Ready w.db) (hreached : Reached env w request before rest)
    (hS : S ∈ w.db.schedules) (hmem : S.scheduleId ∉ before) :
    (∀ v, (w.evaluate env request).db.Materialized S.scheduleId v ↔
      w.db.Materialized S.scheduleId v) ∧
    ∀ after, rest = S.scheduleId :: after → Covers request S →
      RuleFails env S (w.db.position S.scheduleId) (env.clock w.ticks) := by
  obtain ⟨summary, summary', w₁, hloop, hkeep, hraises⟩ := hreached.loop
  have hspared : Steady S w₁.db ∧ Unmoved S w.db w₁.db := by
    have h : Steady S ((Program.forEach (evaluateSchedule request (env.clock w.ticks)) before
        summary).run (exec env) { w with ticks := w.ticks + 1 + 1 }).2.db ∧
        Unmoved S w.db ((Program.forEach (evaluateSchedule request (env.clock w.ticks)) before
          summary).run (exec env) { w with ticks := w.ticks + 1 + 1 }).2.db :=
      calls_spares (w := { w with ticks := w.ticks + 1 + 1 }) (loop_spares hmem summary)
        (h.steady hS)
    rwa [hloop] at h
  refine ⟨fun v => ((hkeep S hspared.1).2 v).trans (hspared.2.2 v), fun after hrest hcovers => ?_⟩
  obtain ⟨e, he, hmat⟩ := hraises _ after hrest
  have hschedule := getSchedule_of_mem hspared.1.schedules hspared.1.mem hcovers.tenant
  have hfails := (materialize_ruleFails hspared.1.leases hschedule).2 e hmat he
  rwa [hspared.2.1] at hfails

theorem reached_before (h : Ready w.db) (hreached : Reached env w request before rest)
    (hS : S ∈ w.db.schedules) (hcovers : Covers request S) (hmem : S.scheduleId ∈ before) :
    ¬ RuleFails env S (w.db.position S.scheduleId) (env.clock w.ticks) ∧
      (w.evaluate env request).db.position S.scheduleId = some (env.clock w.ticks) ∧
      ∀ v, (w.evaluate env request).db.Materialized S.scheduleId v ↔
        w.db.Materialized S.scheduleId v ∨ ListedNow env S w.db (env.clock w.ticks) v := by
  obtain ⟨summary, summary', w₁, hloop, hkeep, -⟩ := hreached.loop
  have hn : before.Nodup :=
    ((listed_sorted h hreached.listed).1.imp ne_of_lt).sublist (List.sublist_append_left _ _)
  have hsteady : Steady S w.db := h.steady hS
  have hpos := loop_position hmem (w := { w with ticks := w.ticks + 1 + 1 }) hsteady hloop
  have hmoves : Steady S w₁.db ∧ Moves env S (env.clock w.ticks) w.db w₁.db := by
    have h : Steady S ((Program.forEach (evaluateSchedule request (env.clock w.ticks)) before
        summary).run (exec env) { w with ticks := w.ticks + 1 + 1 }).2.db ∧
        Moves env S (env.clock w.ticks) w.db
          ((Program.forEach (evaluateSchedule request (env.clock w.ticks)) before summary).run
            (exec env) { w with ticks := w.ticks + 1 + 1 }).2.db :=
      calls_steady env (w := { w with ticks := w.ticks + 1 + 1 }) (loop_calls before summary)
        hsteady
    rwa [hloop] at h
  have hunmoved := hkeep S hmoves.1
  refine ⟨loop_not_ruleFails hn hmem hcovers.tenant (w := { w with ticks := w.ticks + 1 + 1 })
    hsteady hloop, hunmoved.1.trans hpos, fun v => ?_⟩
  rw [hunmoved.2 v]
  rcases hmoves.2 with ⟨hsame, hmat⟩ | ⟨-, dues, hlists, hmat⟩
  · -- the cursor stood at this reading already: nothing is listed
    rw [hmat v]
    refine ⟨Or.inl, ?_⟩
    rintro (hold | ⟨dues, hlists, hv⟩)
    · exact hold
    · rw [← hsame, hpos] at hlists
      rw [hlists.at_now] at hv
      exact absurd hv List.not_mem_nil
  · rw [hmat v]
    refine or_congr_right ⟨fun hv => ⟨dues, hlists, hv⟩, ?_⟩
    rintro ⟨dues', hlists', hv⟩
    rwa [hlists.unique hlists']

/-- **Isolation.**  Unless an error of another kind ends it, a call materialises the due
occurrences of all schedules whose own rule does not raise if and only if the engine lists what is
left of them, and none of these schedules comes after one whose rule raises. -/
theorem isolates_iff (h : Ready w.db) (honly : ¬ Interrupted env w request) :
    Isolates env w request ↔ Unobstructed env w request := by
  obtain ⟨before, rest, hreached⟩ := evaluate_reached honly
  obtain ⟨hsorted, hlisted⟩ := listed_sorted h hreached.listed
  have hids : ∀ S, S ∈ w.db.schedules → Covers request S → S.scheduleId ∈ before ++ rest :=
    fun S hS hcovers => mem_of_listSchedules hS hcovers hreached.listed
  have hcross := (List.pairwise_append.mp hsorted).2.2
  constructor
  · intro hisolates S hS v hv
    have hafter := (hisolates S hS v hv).resolve_right honly
    by_cases hSmem : S.scheduleId ∈ before
    · refine (((reached_before h hreached hS.mem hS.covers hSmem).2.2 v).mp hafter).imp_right
        fun hlistedNow => ⟨hlistedNow, fun T hT hlt => ?_⟩
      -- everything before a schedule that was reached has been reached
      have hTmem : T.scheduleId ∈ before := by
        rcases List.mem_append.mp (hids T hT.mem hT.covers) with hmem | hmem
        · exact hmem
        · exact absurd (hcross _ hSmem _ hmem) (not_lt.mpr hlt.le)
      exact (reached_before h hreached hT.mem hT.covers hTmem).1 hT.rule
    · exact Or.inl (((reached_rest h hreached hS.mem hSmem).1 v).mp hafter)
  · intro hfree S hS v hv
    by_cases hSmem : S.scheduleId ∈ before
    · exact Or.inl (((reached_before h hreached hS.mem hS.covers hSmem).2.2 v).mpr
        ((hfree S hS v hv).imp_right And.left))
    · obtain ⟨hsame, hfails⟩ := reached_rest h hreached hS.mem hSmem
      refine Or.inl ((hsame v).mpr ((hfree S hS v hv).resolve_right ?_))
      rintro ⟨-, hunobstructed⟩
      have hSrest := (List.mem_append.mp (hids S hS.mem hS.covers)).resolve_left hSmem
      cases rest with
      | nil => exact absurd hSrest List.not_mem_nil
      | cons i after =>
        rcases List.mem_cons.mp hSrest with rfl | hSafter
        · exact hS.rule (hfails after rfl hS.covers)
        · -- the first of the rest is a schedule whose rule raises
          have hrest := (List.pairwise_append.mp hsorted).2.1
          obtain ⟨T, hT, hTcovers, rfl⟩ := hlisted i (by simp)
          have hTbefore : T.scheduleId ∉ before := by
            intro hmem
            exact lt_irrefl _ (hcross _ hmem _ List.mem_cons_self)
          have hTfails := (reached_rest h hreached hT hTbefore).2 after rfl hTcovers
          exact hunobstructed T ⟨hT, hTcovers, hTfails⟩ ((List.pairwise_cons.mp hrest).1 _ hSafter)

end Isolation

/-! ### A backlog -/

section Backlog

variable {S : AuditSchedule} {now : Timestamp} {w : World} {request : EvaluateDue}

/-- More values of the rule are due than one evaluation takes. -/
def Overflows (env : Environment) (S : AuditSchedule) (db : Database) (now : Timestamp) : Prop :=
  (db.position S.scheduleId).getD (S.effectiveFrom - 1) < windowEnd S now ∧
    env.engine.occurrencesBetween S.recurrenceRule S.timezone S.effectiveFrom
      ((db.position S.scheduleId).getD (S.effectiveFrom - 1)) (windowEnd S now) =
        .error (.overLimit 1000)

theorem Overflows.ruleFails {db : Database} (h : Overflows env S db now) :
    RuleFails env S (db.position S.scheduleId) now :=
  Or.inr ⟨h.1, _, h.2⟩

theorem exec_stuck {op : Op} (hop : EvaluatesAt now op) (hS : Steady S w.db)
    (hfails : RuleFails env S (w.db.position S.scheduleId) now) :
    Steady S (exec env op w).2.db ∧ Unmoved S w.db (exec env op w).2.db := by
  by_cases hspares : Spares S.scheduleId op
  · exact exec_spares hspares hS
  · cases op with
    | materializeDueOccurrences t j at' worker lease =>
      obtain rfl : at' = now := hop
      obtain rfl : j = S.scheduleId := not_not.mp hspares
      rcases commit_db (w := w) (materializeDueOccurrences env w.db t S.scheduleId at' worker
        lease) with heq | ⟨result, hrun⟩
      · rw [show (exec env (.materializeDueOccurrences t S.scheduleId at' worker lease) w).2.db =
          w.db from heq]
        exact ⟨hS, .refl S _⟩
      · obtain ⟨schedule, hschedule, -, -⟩ := materialize_eq_ok hrun
        obtain ⟨hmem, -, hid⟩ := getSchedule_eq_some hschedule
        obtain rfl : schedule = S := Table.eq_of_key_eq hS.schedules hmem hS.mem hid
        exact absurd hfails ((materialize_ruleFails hS.leases hschedule).1 _ _ hrun)
    | _ => exact absurd hop hspares

/-- **A backlog stays.**  A schedule whose rule raises at every later reading of the clock is not
evaluated again: no call moves its cursor or materialises one of its dates. -/
theorem run_stuck (hS : Steady S w.db)
    (hfails : ∀ n, w.ticks ≤ n → RuleFails env S (w.db.position S.scheduleId) (env.clock n))
    (requests : List EvaluateDue) :
    Unmoved S w.db (requests.foldl (World.evaluate env) w).db ∧
      w.ticks ≤ (requests.foldl (World.evaluate env) w).ticks := by
  refine (Runs.run_invariant_always (I := fun w' : World =>
    Steady S w'.db ∧ Unmoved S w.db w'.db ∧ w.ticks ≤ w'.ticks) ?_ ⟨hS, .refl S _, le_rfl⟩
    requests).2
  rintro w' request ⟨hS', hsame, hticks⟩
  have hcall : Steady S (w'.evaluate env request).db ∧
      Unmoved S w.db (w'.evaluate env request).db := by
    rw [World.evaluate, evaluateDue_run]
    refine (evaluateDueAt_calls request (env.clock w'.ticks)).run_keeps
      (I := fun w' : World => Steady S w'.db ∧ Unmoved S w.db w'.db) ?_ ⟨hS', hsame⟩
    rintro op hop w'' ⟨hS'', hsame''⟩
    have hfails'' : RuleFails env S (w''.db.position S.scheduleId) (env.clock w'.ticks) := by
      rw [hsame''.1]
      exact hfails w'.ticks hticks
    obtain ⟨hsteady, hstep⟩ := exec_stuck hop hS'' hfails''
    exact ⟨hsteady, hsame''.trans hstep⟩
  exact ⟨hcall.1, hcall.2, hticks.trans (run_ticks env (evaluateDue request) w')⟩

/-- A call that raises as soon as it has read the clock. -/
def idleCall : EvaluateDue := { tenantId := "", leaseSeconds := 0 }

theorem evaluate_idle (n : ℕ) (w : World) :
    (List.replicate n idleCall).foldl (World.evaluate env) w = { w with ticks := w.ticks + n } := by
  induction n generalizing w with
  | zero => rfl
  | succ n ih =>
    have hidle : w.evaluate env idleCall = { w with ticks := w.ticks + 1 } := rfl
    rw [List.replicate_succ, List.foldl_cons, hidle, ih]
    show World.mk w.db (w.ticks + 1 + n) = World.mk w.db (w.ticks + (n + 1))
    rw [add_right_comm, add_assoc]

/-- The call for the schedule `S` alone. -/
def EvaluateDue.alone (request : EvaluateDue) (S : AuditSchedule) : EvaluateDue :=
  { request with scheduleId := some S.scheduleId }

/-- The call for the schedule `S` alone evaluates it, unless an error of another kind ends it. -/
theorem evaluate_alone (h : Ready w.db) (hS : S ∈ w.db.schedules) (hcovers : Covers request S)
    (hrule : ¬ RuleFails env S (w.db.position S.scheduleId) (env.clock w.ticks))
    (honly : ¬ Interrupted env w (request.alone S)) :
    (w.evaluate env (request.alone S)).db.position S.scheduleId = some (env.clock w.ticks) := by
  have hcovers : Covers (request.alone S) S :=
    ⟨hcovers.active, hcovers.tenant, fun id hid => (Option.some.inj hid).symm⟩
  obtain ⟨before, rest, hreached⟩ := evaluate_reached honly
  have hlisted := (listed_sorted h hreached.listed).2
  by_cases hmem : S.scheduleId ∈ before
  · exact (reached_before h hreached hS hcovers hmem).2.1
  · have hrest : S.scheduleId ∈ rest :=
      (List.mem_append.mp (mem_of_listSchedules hS hcovers hreached.listed)).resolve_left hmem
    cases rest with
    | nil => exact absurd hrest List.not_mem_nil
    | cons i after =>
      obtain ⟨T, -, hT, rfl⟩ := hlisted i (by simp)
      have hsame := hT.schedule S.scheduleId rfl
      exact absurd ((reached_rest h hreached hS hmem).2 after (by rw [hsame]) hcovers) hrule

/-- A schedule that has more values due than the call takes is evaluated by a later one, unless an
error of another kind ends a call at which its rule does not raise. -/
def Progresses (env : Environment) (w : World) (request : EvaluateDue) : Prop :=
  ∀ S ∈ w.db.schedules, Covers request S → Overflows env S w.db (env.clock w.ticks) →
    ∃ requests : List EvaluateDue, ¬ Unmoved S w.db (requests.foldl (World.evaluate env) w).db ∨
      ∃ late, Sane env (requests.foldl (World.evaluate env) w) late S ∧
        Interrupted env (requests.foldl (World.evaluate env) w) late

/-- A schedule that has more values due than the call takes has a later reading of the clock at
which its rule does not raise. -/
def Manageable (env : Environment) (w : World) (request : EvaluateDue) : Prop :=
  ∀ S ∈ w.db.schedules, Covers request S → Overflows env S w.db (env.clock w.ticks) →
    ∃ n, w.ticks ≤ n ∧ ¬ RuleFails env S (w.db.position S.scheduleId) (env.clock n)

theorem progresses_iff (h : Ready w.db)
    (hclock : ∀ n, w.ticks ≤ n → env.clock w.ticks ≤ env.clock n) :
    Progresses env w request ↔ Manageable env w request := by
  constructor
  · intro hprogress S hS hcovers hoverflows
    by_contra hnever
    have hfails : ∀ n, w.ticks ≤ n → RuleFails env S (w.db.position S.scheduleId) (env.clock n) :=
      fun n hn => not_not.mp fun hrule => hnever ⟨n, hn, hrule⟩
    obtain ⟨requests, hprogress⟩ := hprogress S hS hcovers hoverflows
    obtain ⟨hunmoved, hticks⟩ := run_stuck (h.steady hS) hfails requests
    rcases hprogress with hmoved | ⟨late, hsane, -⟩
    · exact hmoved hunmoved
    · refine hsane.rule ?_
      rw [hunmoved.1]
      exact hfails _ hticks
  · intro hmanageable S hS hcovers hoverflows
    obtain ⟨n, hn, hrule⟩ := hmanageable S hS hcovers hoverflows
    -- wait for that reading, and evaluate the schedule alone
    have hwait : (List.replicate (n - w.ticks) idleCall).foldl (World.evaluate env) w =
        { w with ticks := n } := by
      rw [evaluate_idle, Nat.add_sub_cancel' hn]
    by_cases hother : Interrupted env { w with ticks := n } (request.alone S)
    · refine ⟨List.replicate (n - w.ticks) idleCall, Or.inr ⟨request.alone S, ?_, ?_⟩⟩
      · rw [hwait]
        exact ⟨hS, ⟨hcovers.active, hcovers.tenant, fun id hid => (Option.some.inj hid).symm⟩, hrule⟩
      · rw [hwait]
        exact hother
    · refine ⟨List.replicate (n - w.ticks) idleCall ++ [request.alone S],
        Or.inl fun hunmoved => ?_⟩
      have hpos := evaluate_alone (w := { w with ticks := n }) h hS hcovers hrule hother
      have hsame := hunmoved.1
      rw [List.foldl_append, hwait, List.foldl_cons, List.foldl_nil, hpos] at hsame
      have hbehind := hoverflows.1
      rw [← hsame] at hbehind
      exact absurd (hbehind.trans_le (windowEnd_le S _)) (not_lt.mpr (hclock n hn))

/-- **One schedule's errors.**  A call keeps the errors of the rules apart, and leaves no
schedule behind, if and only if the engine lists every due value that is left, no schedule with
such a value comes after one whose rule raises, and the rule of a schedule with more values due
than an evaluation takes does not raise at some later reading. -/
theorem evaluate_isolates_iff (h : Ready w.db)
    (hclock : ∀ n, w.ticks ≤ n → env.clock w.ticks ≤ env.clock n) :
    Isolates env w request ∧ Progresses env w request ↔
      (Unobstructed env w request ∨ Interrupted env w request) ∧ Manageable env w request := by
  refine and_congr ?_ (progresses_iff h hclock)
  by_cases hother : Interrupted env w request
  · exact iff_of_true (fun _ _ _ _ => Or.inr hother) (Or.inr hother)
  · rw [isolates_iff h hother, or_iff_left hother]

end Backlog

def isolationSample : World where
  db := sampleDatabase [sampleSchedule, rivalSchedule]

theorem isolationSample_ready : Ready isolationSample.db where
  schedules := by decide
  occurrences := ⟨List.nodup_nil, List.nodup_nil⟩
  leases := by
    intro c hc
    exact absurd hc List.not_mem_nil

theorem evaluate_isolates_sample :
    Isolates tenEnvironment isolationSample { tenantId := "tnt_a" } ∧
      Progresses tenEnvironment isolationSample { tenantId := "tnt_a" } := by
  -- neither rule raises
  have hsane : ∀ T ∈ isolationSample.db.schedules, T.timezone = "UTC" ∧ ¬ RuleFails tenEnvironment T
      (isolationSample.db.position T.scheduleId) (tenEnvironment.clock isolationSample.ticks) := by
    decide +kernel
  refine (evaluate_isolates_iff isolationSample_ready
    fun n _ => sampleClock_mono le_rfl _ _ (Nat.zero_le n)).mpr ⟨Or.inl ?_, ?_⟩
  · intro S hS v hv
    have hlaw := sampleEngine_lawful sampleValues S.recurrenceRule S.effectiveFrom
    rw [← (hsane S hS.mem).1] at hlaw
    exact Or.inr ⟨listedNow_of_lawful hlaw hS.rule hv, fun T hT => absurd hT.rule (hsane T hT.mem).2⟩
  · intro S hS _ hoverflows
    exact absurd hoverflows.ruleFails (hsane S hS).2

/-- The values of the rule of every second, of which there are more than a thousand, and of
all the other rules. -/
def valuesOf (rule : String) : List Timestamp :=
  if rule = "RRULE:FREQ=SECONDLY" then
    (List.range 1001).map fun n => sampleTime 10 8 + seconds n
  else sampleValues

def backlogEngine : RecurrenceEngine :=
  { sampleEngine sampleValues with
    between := fun rule _ _ start stop =>
      .ok (((valuesOf rule).filter fun v => start.wall ≤ v ∧ v ≤ stop.wall).map .instant) }

def backlogEnvironment : Environment := { tenEnvironment with engine := backlogEngine }

def secondlySchedule : AuditSchedule :=
  { sampleSchedule with recurrenceRule := "FREQ=SECONDLY" }

def backlogWorld : World where
  db := sampleDatabase [secondlySchedule, rivalSchedule]

theorem backlogWorld_ready : Ready backlogWorld.db where
  schedules := by decide
  occurrences := ⟨List.nodup_nil, List.nodup_nil⟩
  leases := by
    intro c hc
    exact absurd hc List.not_mem_nil

theorem backlogWorld_overflows : Overflows backlogEnvironment secondlySchedule backlogWorld.db
    (backlogEnvironment.clock backlogWorld.ticks) := by
  constructor
  · decide +kernel
  · decide +kernel

theorem evaluate_isolates_backlog :
    ¬ Isolates backlogEnvironment backlogWorld { tenantId := "tnt_a" } ∧
      ¬ Progresses backlogEnvironment backlogWorld { tenantId := "tnt_a" } := by
  have hsecondly : secondlySchedule ∈ backlogWorld.db.schedules := List.mem_cons_self
  have hcovers : Covers { tenantId := "tnt_a" } secondlySchedule :=
    ⟨rfl, rfl, fun _ hid => absurd hid (by simp)⟩
  constructor
  · have honly : ¬ Interrupted backlogEnvironment backlogWorld { tenantId := "tnt_a" } := by
      decide +kernel
    rw [isolates_iff backlogWorld_ready honly]
    intro hfree
    have hrival : Sane backlogEnvironment backlogWorld { tenantId := "tnt_a" } rivalSchedule :=
      ⟨List.mem_cons_of_mem _ List.mem_cons_self, ⟨rfl, rfl, fun _ hid => absurd hid (by simp)⟩,
        by decide +kernel⟩
    have hdue : DueNow backlogEnvironment rivalSchedule backlogWorld.db
        (backlogEnvironment.clock backlogWorld.ticks) (sampleTime 10 9) := by
      refine ⟨⟨sampleTime 10 8, sampleTime 10 10, [sampleTime 10 9], by simp, by decide +kernel,
        by simp⟩, ?_, ?_, no_effectiveUntil⟩
      · show sampleTime 6 7 ≤ sampleTime 10 9
        decide
      · show sampleTime 10 9 ≤ sampleTime 10 10
        decide
    rcases hfree rivalSchedule hrival _ hdue with ⟨o, ho, -⟩ | ⟨-, hunobstructed⟩
    · exact absurd ho List.not_mem_nil
    · exact hunobstructed secondlySchedule
        ⟨hsecondly, hcovers, backlogWorld_overflows.ruleFails⟩ (by decide)
  · intro hprogress
    -- the clock stands still
    have hclock : ∀ n, backlogEnvironment.clock n = sampleTime 10 10 := by
      intro n
      show (if n < 0 then sampleTime 10 10 else sampleTime 10 10) = sampleTime 10 10
      exact ite_self _
    obtain ⟨n, -, hrule⟩ := (progresses_iff backlogWorld_ready fun n _ =>
      ((hclock _).trans (hclock n).symm).le).mp hprogress secondlySchedule hsecondly hcovers
      backlogWorld_overflows
    have hfails := backlogWorld_overflows.ruleFails
    rw [hclock] at hrule hfails
    exact hrule hfails

end Scheduling
