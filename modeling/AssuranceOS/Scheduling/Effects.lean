/-
What one operation can do to the occurrences.

`Written` lists the writes: the operation, the row that it finds and the row that it leaves,
with the guards of the transaction.  `exec_effect` says that an operation makes one such
write, or adds occurrences, or leaves the table alone; everything that is proved about the
life of an occurrence is read off these cases.
-/
import AssuranceOS.Scheduling.Programs

namespace Scheduling

open Orchestration (Timestamp WorkflowDefinition)
open Checked

variable {env : Environment}

/-- The columns that no write changes. -/
structure SameOccurrence (o r : ScheduleOccurrence) : Prop where
  occurrenceId : r.occurrenceId = o.occurrenceId
  tenantId : r.tenantId = o.tenantId
  scheduleId : r.scheduleId = o.scheduleId
  nominalDue : r.nominalDue = o.nominalDue
  period : r.period = o.period

def Op.target : Op → Option (String × String)
  | .markWaitingApproval t i | .runPreflight t i .. | .beginLaunch t i _ | .completeLaunch t i _
  | .failLaunch t i .. | .recordApproval t i _ | .cancelOccurrence t i _ => some (t, i)
  | _ => none

/-- `Written env db op o r`: in the database `db` the operation turns `o` into `r`. -/
inductive Written (env : Environment) (db : Database) :
    Op → ScheduleOccurrence → ScheduleOccurrence → Prop
  | marked {t i : String} {o r : ScheduleOccurrence} (same : SameOccurrence o r)
      (guard : o.status ≠ .waitingApproval) (status : r.status = .waitingApproval)
      (decision : r.decisionBy = o.decisionBy) (engagement : r.engagementId = o.engagementId) :
      Written env db (.markWaitingApproval t i) o r
  | blocked {t i : String} {context : PreflightContext} {now : Timestamp} {granted : Bool}
      {o r : ScheduleOccurrence} (same : SameOccurrence o r) (status : r.status = .preflightBlocked)
      (decision : r.decisionBy = o.decisionBy) (engagement : r.engagementId = o.engagementId) :
      Written env db (.runPreflight t i context now granted) o r
  | waiting {t i : String} {context : PreflightContext} {now : Timestamp} {granted : Bool}
      {o r : ScheduleOccurrence} (same : SameOccurrence o r) (status : r.status = .waitingApproval)
      (decision : r.decisionBy = o.decisionBy) (engagement : r.engagementId = o.engagementId) :
      Written env db (.runPreflight t i context now granted) o r
  | passed {t i : String} {context : PreflightContext} {now : Timestamp} {granted : Bool}
      {o r : ScheduleOccurrence} (same : SameOccurrence o r) (status : r.status = o.status)
      (decision : r.decisionBy = o.decisionBy) (engagement : r.engagementId = o.engagementId) :
      Written env db (.runPreflight t i context now granted) o r
  | begun {t i : String} {now : Timestamp} {o r : ScheduleOccurrence} (same : SameOccurrence o r)
      (guard : o.status ≠ .launched ∧ o.status ≠ .cancelled ∧ o.status ≠ .skipped)
      (status : r.status = .launching) (decision : r.decisionBy = o.decisionBy)
      (engagement : r.engagementId = some (engagementIdOf env o)) :
      Written env db (.beginLaunch t i now) o r
  | completed {t i : String} {now : Timestamp} {o r : ScheduleOccurrence}
      (same : SameOccurrence o r) (guard : o.status ≠ .launched) (status : r.status = .launched)
      (decision : r.decisionBy = o.decisionBy) (engagement : r.engagementId = o.engagementId) :
      Written env db (.completeLaunch t i now) o r
  | failed {t i : String} {error : SchedulingError} {now : Timestamp} {o r : ScheduleOccurrence}
      (same : SameOccurrence o r) (status : r.status = .launchFailed)
      (decision : r.decisionBy = o.decisionBy) (engagement : r.engagementId = o.engagementId) :
      Written env db (.failLaunch t i error now) o r
  | approved {t i : String} {decision : OccurrenceDecision} {o r : ScheduleOccurrence}
      (same : SameOccurrence o r) (guard : o.status = .waitingApproval)
      (status : r.status = .waitingApproval) (decidedBy : r.decisionBy = some decision.actorId)
      (engagement : r.engagementId = o.engagementId) :
      Written env db (.recordApproval t i decision) o r
  | cancelled {t i : String} {decision : OccurrenceDecision} {o r : ScheduleOccurrence}
      (same : SameOccurrence o r)
      (guard : o.status ≠ .launched ∧ o.status ≠ .cancelled ∧ o.status ≠ .skipped)
      (status : r.status = .cancelled) (engagement : r.engagementId = o.engagementId) :
      Written env db (.cancelOccurrence t i decision) o r

variable {db db' : Database} {o : ScheduleOccurrence}

theorem Written.same {op : Op} {r : ScheduleOccurrence} (h : Written env db op o r) :
    SameOccurrence o r := by
  cases h <;> assumption

/-! ### New occurrences -/

/-- An occurrence as `_create_occurrence` writes it. -/
structure New (scheduleId : String) (dues : List Timestamp) (o : ScheduleOccurrence) : Prop where
  scheduleId : o.scheduleId = scheduleId
  due_mem : o.nominalDue ∈ dues
  status : o.status = .due ∨ o.status = .deferred ∨ o.status = .skipped
  decisionBy : o.decisionBy = none
  engagementId : o.engagementId = none

/-- The columns of the constraint on `(schedule_id, nominal_due)`. -/
def ScheduleOccurrence.dueKey (o : ScheduleOccurrence) : String × Timestamp :=
  (o.scheduleId, o.nominalDue)

/-- The two keys of the table of occurrences. -/
structure UniqueOccurrences (rows : List ScheduleOccurrence) : Prop where
  ids : (rows.map ScheduleOccurrence.occurrenceId).Nodup
  dues : (rows.map ScheduleOccurrence.dueKey).Nodup

/-- `db'` is `db` with the new occurrences of a schedule. -/
structure Extends (scheduleId : String) (dues : List Timestamp) (db db' : Database)
    (added : List ScheduleOccurrence) : Prop where
  eq : db' = { db with occurrences := db.occurrences ++ added }
  new : ∀ o ∈ added, New scheduleId dues o
  unique : UniqueOccurrences db.occurrences → UniqueOccurrences db'.occurrences

variable {scheduleId : String} {due : Timestamp} {schedule : AuditSchedule} {wasCreated : Bool}

theorem getOccurrenceByDue_eq_some {tenantId : String}
    (h : db.getOccurrenceByDue tenantId scheduleId due = some o) :
    o ∈ db.occurrences ∧ o.scheduleId = scheduleId ∧ o.nominalDue = due := by
  have hprop := List.find?_some h
  simp only [Bool.decide_and, Bool.and_eq_true, decide_eq_true_eq] at hprop
  exact ⟨List.mem_of_find?_eq_some h, hprop.2⟩

theorem addOccurrence_eq_ok :
    db.addOccurrence o = .ok db' ↔
      (∀ x ∈ db.occurrences, (x.scheduleId, x.nominalDue) ≠ (o.scheduleId, o.nominalDue)) ∧
        o.occurrenceId ∉ db.occurrences.map ScheduleOccurrence.occurrenceId ∧
        db' = { db with occurrences := db.occurrences ++ [o] } := by
  unfold Database.addOccurrence
  rw [require_bind_eq_ok, ofOption_bind_eq_ok]
  constructor
  · rintro ⟨hdue, rows, hrows, h⟩
    obtain ⟨hid, rfl⟩ := Table.insert?_eq_some.mp hrows
    exact ⟨hdue, hid, (Except.ok.inj h).symm⟩
  · rintro ⟨hdue, hid, rfl⟩
    exact ⟨hdue, _, Table.insert?_eq_some.mpr ⟨hid, rfl⟩, rfl⟩

theorem addOccurrence_unique (h : db.addOccurrence o = .ok db')
    (hu : UniqueOccurrences db.occurrences) :
    UniqueOccurrences db'.occurrences := by
  obtain ⟨hdue, hid, rfl⟩ := addOccurrence_eq_ok.mp h
  refine ⟨Table.nodup_append_of_not_mem hu.ids hid, Table.nodup_append_of_not_mem hu.dues ?_⟩
  intro hmem
  obtain ⟨x, hx, heq⟩ := List.mem_map.mp hmem
  exact hdue x hx heq

theorem initialStatus_new (forcedSkip : Bool) (blackout : BlackoutResolution) :
    (initialStatus forcedSkip blackout).1 = .due ∨ (initialStatus forcedSkip blackout).1 = .deferred ∨
      (initialStatus forcedSkip blackout).1 = .skipped := by
  unfold initialStatus
  split
  · simp
  · split <;> simp

theorem createOccurrence_eq_ok {forcedSkip : Bool}
    (h : createOccurrence env db schedule due forcedSkip = .ok (o, wasCreated, db')) :
    (o.scheduleId = schedule.scheduleId ∧ o.nominalDue = due) ∧
      ((wasCreated = false ∧ db' = db ∧ o ∈ db.occurrences) ∨
        (wasCreated = true ∧ New schedule.scheduleId [due] o ∧ db.addOccurrence o = .ok db')) := by
  unfold createOccurrence at h
  split at h
  · rename_i existing hexisting
    cases h
    obtain ⟨hmem, hkey⟩ := getOccurrenceByDue_eq_some hexisting
    exact ⟨hkey, Or.inl ⟨rfl, rfl, hmem⟩⟩
  · obtain ⟨template, -, h⟩ := ofOption_bind_eq_ok.mp h
    obtain ⟨zone, -, h⟩ := bind_eq_ok.mp h
    obtain ⟨blackout, -, h⟩ := bind_eq_ok.mp h
    obtain ⟨period, -, h⟩ := bind_eq_ok.mp h
    obtain ⟨db₁, hadd, h⟩ := bind_eq_ok.mp h
    cases h
    exact ⟨⟨rfl, rfl⟩, Or.inr ⟨rfl, ⟨rfl, List.mem_singleton_self _,
      initialStatus_new forcedSkip blackout, rfl, rfl⟩, hadd⟩⟩

theorem New.mono {dues dues' : List Timestamp} (h : New scheduleId dues o) (hsub : dues ⊆ dues') :
    New scheduleId dues' o :=
  { h with due_mem := hsub h.due_mem }

/-- The occurrences of the ids are those of a schedule at these due dates. -/
def DueAt (scheduleId : String) (dues : List Timestamp) (db : Database) (ids : List String) :
    Prop :=
  ∀ id ∈ ids, ∃ o ∈ db.occurrences,
    o.occurrenceId = id ∧ o.scheduleId = scheduleId ∧ o.nominalDue ∈ dues

theorem count_candidateIds {result : MaterializationResult} {id : String}
    (h : id ∈ (result.count o wasCreated).candidateIds) :
    id ∈ result.candidateIds ∨ id = o.occurrenceId := by
  unfold MaterializationResult.count at h
  dsimp only at h
  split at h
  · exact Or.inl h
  · exact Or.inl h
  · exact (List.mem_append.mp h).imp_right List.mem_singleton.mp

theorem createOccurrences_eq_ok {skipped : List Timestamp} :
    ∀ {dues : List Timestamp} {db db' : Database} {result result' : MaterializationResult},
      createOccurrences env schedule skipped dues result db = .ok (result', db') →
        ∃ added, Extends schedule.scheduleId dues db db' added ∧
          (∀ due ∈ dues, ∃ o ∈ db'.occurrences,
            o.scheduleId = schedule.scheduleId ∧ o.nominalDue = due) ∧
          DueAt schedule.scheduleId dues db'
            (result'.candidateIds.filter (· ∉ result.candidateIds)) := by
  intro dues
  induction dues with
  | nil =>
    intro db db' result result' h
    cases h
    exact ⟨[], ⟨by simp, by simp, id⟩, by simp, by simp [DueAt]⟩
  | cons due dues ih =>
    intro db db' result result' h
    rw [createOccurrences] at h
    obtain ⟨⟨o, wasCreated, db₁⟩, hcreate, hrest⟩ := bind_eq_ok.mp h
    obtain ⟨added, hext, hall, hcandidates⟩ := ih hrest
    obtain ⟨hkey, hcase⟩ := createOccurrence_eq_ok hcreate
    have hfirst : o ∈ db₁.occurrences ∧ ∃ one, Extends schedule.scheduleId [due] db db₁ one := by
      rcases hcase with ⟨-, rfl, hmem⟩ | ⟨-, hnew, hadd⟩
      · exact ⟨hmem, [], by simp, by simp, id⟩
      · have hunique := addOccurrence_unique hadd
        obtain ⟨-, -, rfl⟩ := addOccurrence_eq_ok.mp hadd
        exact ⟨by simp, [o], rfl, by simpa using hnew, hunique⟩
    obtain ⟨hmem, one, hone⟩ := hfirst
    have heq := hext.eq
    rw [hone.eq] at heq
    refine ⟨one ++ added, ⟨by rw [heq, List.append_assoc], fun x hx => ?_,
      fun hu => hext.unique (hone.unique hu)⟩, fun d hd => ?_, fun id hid => ?_⟩
    · rcases List.mem_append.mp hx with hx | hx
      · exact (hone.new x hx).mono (by simp)
      · exact (hext.new x hx).mono (List.subset_cons_self due dues)
    · rcases List.mem_cons.mp hd with rfl | hd
      · refine ⟨o, ?_, hkey⟩
        rw [hext.eq]
        exact List.mem_append_left _ hmem
      · exact hall d hd
    · obtain ⟨hid, hnot⟩ := List.mem_filter.mp hid
      by_cases hcount : id ∈ (result.count o wasCreated).candidateIds
      · rcases count_candidateIds hcount with hold | rfl
        · simp [hold] at hnot
        · refine ⟨o, ?_, rfl, hkey.1, by simp [hkey.2]⟩
          rw [hext.eq]
          exact List.mem_append_left _ hmem
      · obtain ⟨x, hx, hxid, hxs, hxd⟩ := hcandidates id
          (List.mem_filter.mpr ⟨hid, by simpa using hcount⟩)
        exact ⟨x, hx, hxid, hxs, List.mem_cons_of_mem _ hxd⟩

/-! ### Reading the transactions -/

theorem getOccurrence_eq_some {t i : String} (h : db.getOccurrence t i = some o) :
    o ∈ db.occurrences ∧ o.tenantId = t ∧ o.occurrenceId = i := by
  have hprop := List.find?_some h
  simp only [Bool.decide_and, Bool.and_eq_true, decide_eq_true_eq] at hprop
  exact ⟨List.mem_of_find?_eq_some h, hprop⟩

section Transactions

variable {db db' : Database} {t i : String} {now : Timestamp}

theorem markWaitingApproval_spec (env : Environment) {written : Bool}
    (h : markWaitingApproval db t i = (written, db')) :
    db' = db ∨ ∃ o r, db.getOccurrence t i = some o ∧ db' = db.putOccurrence r ∧
      Written env db (.markWaitingApproval t i) o r := by
  unfold markWaitingApproval at h
  split at h
  · cases h
    exact Or.inl rfl
  · rename_i o ho
    split at h
    · cases h
      exact Or.inl rfl
    · rename_i hstatus
      cases h
      exact Or.inr ⟨o, _, ho, rfl, .marked ⟨rfl, rfl, rfl, rfl, rfl⟩ hstatus rfl rfl rfl⟩

/-- What the preflight transaction has found when it lets the launch go on. -/
structure Cleared (db : Database) (t : String) (o : ScheduleOccurrence)
    (context : PreflightContext) (now : Timestamp) (granted : Bool) : Prop where
  cleared : ∃ schedule template report,
    scheduleAndTemplate db t o.scheduleId = some (schedule, template) ∧
      PreflightEvaluator.evaluate db schedule o template context now = .ok report ∧
      report.passed = true ∧ (schedule.launchMode = .preflightThenApproval → granted = true)

theorem runPreflight_eq_ok (env : Environment) {context : PreflightContext} {granted : Bool}
    {out : PreflightOutcome} (h : runPreflight db t i context now granted = .ok (out, db')) :
    ∃ o r, db.getOccurrence t i = some o ∧ db' = db.putOccurrence r ∧
      Written env db (.runPreflight t i context now granted) o r ∧
      ((out = .blocked ∧ r.status = .preflightBlocked) ∨
        (out = .waiting ∧ r.status = .waitingApproval) ∨
        (out = .passed ∧ r.status = o.status ∧ Cleared db t o context now granted)) := by
  unfold runPreflight at h
  obtain ⟨o, ho, h⟩ := ofOption_bind_eq_ok.mp h
  refine ⟨o, ?_⟩
  split at h
  · cases h
    exact ⟨_, ho, rfl, .blocked ⟨rfl, rfl, rfl, rfl, rfl⟩ rfl rfl rfl, Or.inl ⟨rfl, rfl⟩⟩
  · rename_i schedule template hfound
    obtain ⟨report, hreport, h⟩ := bind_eq_ok.mp h
    split at h
    · cases h
      exact ⟨_, ho, rfl, .blocked ⟨rfl, rfl, rfl, rfl, rfl⟩ rfl rfl rfl, Or.inl ⟨rfl, rfl⟩⟩
    · rename_i hpassed
      split at h
      · cases h
        exact ⟨_, ho, rfl, .waiting ⟨rfl, rfl, rfl, rfl, rfl⟩ rfl rfl rfl, Or.inr (Or.inl ⟨rfl, rfl⟩)⟩
      · rename_i hmode
        cases h
        refine ⟨_, ho, rfl, .passed ⟨rfl, rfl, rfl, rfl, rfl⟩ rfl rfl rfl,
          Or.inr (Or.inr ⟨rfl, rfl, schedule, template, report, hfound, hreport, ?_, ?_⟩)⟩
        · simpa using hpassed
        · intro hthen
          by_contra hgranted
          exact hmode ⟨hthen, by simpa using hgranted⟩

theorem beginLaunch_eq_ok {start : LaunchStart} (h : beginLaunch env db t i now = .ok (start, db')) :
    ∃ o, db.getOccurrence t i = some o ∧
      ((o.status = .launched ∧ start = .alreadyLaunched ∧ db' = db) ∨
        ∃ r schedule template workflow db₁, db' = db₁.putOccurrence r ∧
          Written env db (.beginLaunch t i now) o r ∧
          scheduleAndTemplate db t o.scheduleId = some (schedule, template) ∧
          (∃ retry, launchRetrySeconds schedule.preflightPolicy = .ok retry) ∧
          ensureEngagement env db schedule template o now = .ok db₁ ∧
          start = .started workflow (engagementIdOf env o)) := by
  unfold beginLaunch at h
  obtain ⟨o, ho, h⟩ := ofOption_bind_eq_ok.mp h
  refine ⟨o, ho, ?_⟩
  split at h
  · rename_i hlaunched
    cases h
    exact Or.inl ⟨hlaunched, rfl, rfl⟩
  · rename_i hlaunched
    obtain ⟨hguard, h⟩ := require_bind_eq_ok.mp h
    obtain ⟨⟨schedule, template⟩, hfound, h⟩ := ofOption_bind_eq_ok.mp h
    obtain ⟨workflow, -, h⟩ := bind_eq_ok.mp h
    obtain ⟨retry, hretry, h⟩ := bind_eq_ok.mp h
    obtain ⟨db₁, hensure, h⟩ := bind_eq_ok.mp h
    cases h
    exact Or.inr ⟨_, schedule, template, workflow, db₁, rfl,
      .begun ⟨rfl, rfl, rfl, rfl, rfl⟩ ⟨hlaunched, hguard⟩ rfl rfl rfl, hfound, ⟨retry, hretry⟩,
      hensure, rfl⟩

theorem completeLaunch_eq_ok (env : Environment) (h : completeLaunch db t i now = .ok db') :
    ∃ o, db.getOccurrence t i = some o ∧
      ((o.status = .launched ∧ db' = db) ∨
        ∃ r, db' = db.putOccurrence r ∧ Written env db (.completeLaunch t i now) o r) := by
  unfold completeLaunch at h
  obtain ⟨o, ho, h⟩ := ofOption_bind_eq_ok.mp h
  refine ⟨o, ho, ?_⟩
  split at h
  · rename_i hlaunched
    cases h
    exact Or.inl ⟨hlaunched, rfl⟩
  · rename_i hlaunched
    cases h
    exact Or.inr ⟨_, rfl, .completed ⟨rfl, rfl, rfl, rfl, rfl⟩ hlaunched rfl rfl rfl⟩

theorem failLaunch_eq_ok (env : Environment) {error : SchedulingError}
    (h : failLaunch db t i error now = .ok db') :
    (db.getOccurrence t i = none ∧ db' = db) ∨
      ∃ o r, db.getOccurrence t i = some o ∧ db' = db.putOccurrence r ∧
        Written env db (.failLaunch t i error now) o r := by
  unfold failLaunch at h
  split at h
  · rename_i hnone
    cases h
    exact Or.inl ⟨hnone, rfl⟩
  · rename_i o ho
    obtain ⟨retry, -, h⟩ := bind_eq_ok.mp h
    cases h
    exact Or.inr ⟨o, _, ho, rfl, .failed ⟨rfl, rfl, rfl, rfl, rfl⟩ rfl rfl rfl⟩

variable {decision : OccurrenceDecision} {schedule : AuditSchedule}

theorem recordApproval_eq_ok (env : Environment) {found : Option ScheduleOccurrence}
    (h : recordApproval db t i decision = .ok (found, db')) :
    ∃ o, db.getOccurrence t i = some o ∧
      ((o.status = .launched ∧ found = some o ∧ db' = db) ∨
        (found = none ∧ ∃ r, db' = db.putOccurrence r ∧
          Written env db (.recordApproval t i decision) o r)) := by
  unfold recordApproval at h
  obtain ⟨o, ho, h⟩ := ofOption_bind_eq_ok.mp h
  refine ⟨o, ho, ?_⟩
  split at h
  · rename_i hlaunched
    cases h
    exact Or.inl ⟨hlaunched, rfl, rfl⟩
  · obtain ⟨-, h⟩ := require_bind_eq_ok.mp h
    obtain ⟨hwaiting, h⟩ := require_bind_eq_ok.mp h
    cases h
    exact Or.inr ⟨rfl, _, rfl, .approved ⟨rfl, rfl, rfl, rfl, rfl⟩ hwaiting hwaiting rfl rfl⟩

theorem cancelOccurrence_eq_ok (env : Environment) {o' : ScheduleOccurrence}
    (h : cancelOccurrence db t i decision = .ok (o', db')) :
    ∃ o, db.getOccurrence t i = some o ∧ db' = db.putOccurrence o' ∧
      Written env db (.cancelOccurrence t i decision) o o' := by
  unfold cancelOccurrence at h
  obtain ⟨o, ho, h⟩ := ofOption_bind_eq_ok.mp h
  obtain ⟨hguard, h⟩ := require_bind_eq_ok.mp h
  cases h
  exact ⟨o, ho, rfl, .cancelled ⟨rfl, rfl, rfl, rfl, rfl⟩ hguard rfl rfl⟩

theorem ensureEngagement_eq_ok {template : EngagementTemplate}
    (h : ensureEngagement env db schedule template o now = .ok db') :
    ∃ engagements statuses, db' = { db with
      engagements := engagements
      orchestration := { db.orchestration with engagements := statuses } } := by
  unfold ensureEngagement Database.addEngagement at h
  dsimp only at h
  split at h
  · cases h
    exact ⟨_, _, rfl⟩
  · obtain ⟨-, h⟩ := require_bind_eq_ok.mp h
    obtain ⟨rows, -, h⟩ := ofOption_bind_eq_ok.mp h
    obtain ⟨statuses, -, h⟩ := ofOption_bind_eq_ok.mp h
    cases h
    exact ⟨_, _, rfl⟩

/-- The values that an evaluation at `now` lists, from where the cursor stands: those of the
engine in the window, if there is one. -/
def Lists (env : Environment) (schedule : AuditSchedule) (position : Option Timestamp)
    (now : Timestamp) (dues : List Timestamp) : Prop :=
  (windowEnd schedule now ≤ position.getD (schedule.effectiveFrom - 1) ∧ dues = []) ∨
    (position.getD (schedule.effectiveFrom - 1) < windowEnd schedule now ∧
      env.engine.occurrencesBetween schedule.recurrenceRule schedule.timezone
        schedule.effectiveFrom (position.getD (schedule.effectiveFrom - 1))
        (windowEnd schedule now) = .ok dues)

theorem windowEnd_le (schedule : AuditSchedule) (now : Timestamp) :
    windowEnd schedule now ≤ now := by
  unfold windowEnd
  split
  · exact min_le_left _ _
  · exact le_rfl

section Lists

variable {env : Environment} {schedule : AuditSchedule} {position : Option Timestamp}
  {now : Timestamp} {dues dues' : List Timestamp}

theorem Lists.at_now (h : Lists env schedule (some now) now dues) : dues = [] := by
  rcases h with ⟨-, hdues⟩ | ⟨hwindow, -⟩
  · exact hdues
  · exact absurd hwindow (not_lt.mpr (windowEnd_le schedule now))

theorem Lists.unique (h : Lists env schedule position now dues)
    (h' : Lists env schedule position now dues') : dues = dues' := by
  rcases h with ⟨hempty, rfl⟩ | ⟨hwindow, hdues⟩
  · rcases h' with ⟨-, rfl⟩ | ⟨hwindow, -⟩
    · rfl
    · exact absurd hempty (not_le.mpr hwindow)
  · rcases h' with ⟨hempty, -⟩ | ⟨-, hdues'⟩
    · exact absurd hempty (not_le.mpr hwindow)
    · exact Except.ok.inj (hdues.symm.trans hdues')

end Lists

theorem liftRecurrence_eq_ok {α : Type} {x : Except RecurrenceError α} {a : α} :
    liftRecurrence x = .ok a ↔ x = .ok a := by
  cases x <;> simp [liftRecurrence]

theorem selectMissedOccurrences_perm (schedule : AuditSchedule) (dues : List Timestamp) :
    (selectMissedOccurrences schedule dues).2 ++ (selectMissedOccurrences schedule dues).1 =
      dues := by
  unfold selectMissedOccurrences
  cases schedule.missedOccurrencePolicy <;> simp

/-- An evaluation that holds the lease adds the occurrences of its window and moves the
cursor to the reading of the clock. -/
theorem evaluateCursor_eq_ok {cursor : ScheduleCursor} {result : MaterializationResult}
    (h : evaluateCursor env db schedule cursor now = .ok (result, db')) :
    ∃ dues added nextDue db₁, Lists env schedule cursor.lastEvaluatedAt now dues ∧
      Extends schedule.scheduleId dues db db₁ added ∧
      (∀ due ∈ dues, ∃ o ∈ db₁.occurrences,
        o.scheduleId = schedule.scheduleId ∧ o.nominalDue = due) ∧
      DueAt schedule.scheduleId dues db₁ result.candidateIds ∧
      db' = db₁.releaseCursor cursor now nextDue := by
  unfold evaluateCursor at h
  dsimp only at h
  split at h
  · rename_i hempty
    obtain ⟨nextDue, -, h⟩ := bind_eq_ok.mp h
    cases h
    exact ⟨[], [], nextDue, db, Or.inl ⟨hempty, rfl⟩, ⟨by simp, by simp, id⟩, by simp,
      by simp [DueAt], rfl⟩
  · rename_i hwindow
    obtain ⟨dues, hdues, h⟩ := bind_eq_ok.mp h
    obtain ⟨⟨result', db₁⟩, hcreate, h⟩ := bind_eq_ok.mp h
    obtain ⟨nextDue, -, h⟩ := bind_eq_ok.mp h
    cases h
    rw [selectMissedOccurrences_perm] at hcreate
    obtain ⟨added, hext, hall, hcandidates⟩ := createOccurrences_eq_ok hcreate
    refine ⟨dues, added, nextDue, db₁,
      Or.inr ⟨not_le.mp hwindow, liftRecurrence_eq_ok.mp hdues⟩, hext, hall, ?_, rfl⟩
    simpa using hcandidates

end Transactions

section Exec

variable {w : World} {α : Type}

theorem commit_db (result : Except SchedulingError (α × Database)) :
    (w.commit result).2.db = w.db ∨ ∃ a, result = .ok (a, (w.commit result).2.db) := by
  cases result with
  | error e => exact Or.inl rfl
  | ok r => exact Or.inr ⟨r.1, rfl⟩

theorem commitUnit_db (result : Except SchedulingError Database) :
    (w.commitUnit result).2.db = w.db ∨ result = .ok (w.commitUnit result).2.db := by
  cases result with
  | error e => exact Or.inl rfl
  | ok db => exact Or.inr rfl

theorem orchestrate_db
    (result : Except Orchestration.OrchestrationError
      (Orchestration.Database × Orchestration.EngagementSnapshot)) :
    (w.orchestrate result).2.db = w.db ∨
      ∃ r, result = .ok r ∧ (w.orchestrate result).2.db = { w.db with orchestration := r.1 } := by
  cases result with
  | error e => exact Or.inl rfl
  | ok r => exact Or.inr ⟨r, rfl, rfl⟩

@[simp] theorem exec_ticks (env : Environment) (op : Op) (w : World) :
    (exec env op w).2.ticks = w.ticks + 1 := by
  have hcommit : ∀ {α : Type} (r : Except SchedulingError (α × Database)),
      (w.commit r).2.ticks = w.ticks + 1 := by
    intro α r
    cases r <;> rfl
  cases op <;> first | rfl | exact hcommit _

theorem run_ticks (env : Environment) (p : Method α) (w : World) :
    w.ticks ≤ (p.run (exec env) w).2.ticks := by
  refine Program.run_keeps (I := fun w' : World => w.ticks ≤ w'.ticks) ?_ p le_rfl
  intro op w' h
  rw [exec_ticks]
  exact Nat.le_succ_of_le h

variable {op : Op}

/-- **An operation that raises** leaves the database as it was. -/
theorem exec_error {e : SchedulingError} {w' : World} (h : exec env op w = (.error e, w')) :
    w'.db = w.db := by
  have hcommit : ∀ {α : Type} {r : Except SchedulingError (α × Database)} {x : World},
      w.commit r = (.error e, x) → x.db = w.db := by
    intro α r x hr
    cases r with
    | error e => cases hr; rfl
    | ok r => cases hr
  have hread : ∀ {α : Type} {r : Except SchedulingError α} {x : World},
      w.read r = (.error e, x) → x.db = w.db := by
    intro α r x hr
    cases hr
    rfl
  cases op <;> first | exact hread h | exact hcommit h | cases h

def Op.isAuthoring : Op → Bool
  | .createDraft .. | .approveSchedule .. | .disableSchedule .. => true
  | _ => false

def Op.isMaterialization : Op → Bool
  | .materializeDueOccurrences .. => true
  | _ => false

/-- What an operation other than a materialisation or an authoring step leaves: it writes
one occurrence or none, and may add an engagement or let the orchestrator work. -/
inductive Effect (env : Environment) (op : Op) (db db' : Database) : Prop
  | quiet (engagements : List EngagementDetails) (orchestration : Orchestration.Database)
      (eq : db' = { db with engagements := engagements, orchestration := orchestration })
  | wrote (o r : ScheduleOccurrence) (engagements : List EngagementDetails)
      (orchestration : Orchestration.Database) (mem : o ∈ db.occurrences)
      (target : op.target = some (o.tenantId, o.occurrenceId)) (written : Written env db op o r)
      (eq : db' = { db with
        occurrences := Table.put ScheduleOccurrence.occurrenceId r db.occurrences
        engagements := engagements
        orchestration := orchestration })

theorem exec_effect (hauthoring : op.isAuthoring = false)
    (hmaterialization : op.isMaterialization = false) :
    Effect env op w.db (exec env op w).2.db := by
  have hsame : (exec env op w).2.db = w.db → Effect env op w.db (exec env op w).2.db := by
    intro heq
    exact .quiet _ _ heq
  -- a transaction that writes back the row `r` over the row `o` of its target
  have hwrite : ∀ {t i : String} {o r : ScheduleOccurrence}, op.target = some (t, i) →
      w.db.getOccurrence t i = some o → Written env w.db op o r →
      (exec env op w).2.db = w.db.putOccurrence r → Effect env op w.db (exec env op w).2.db := by
    intro t i o r htarget ho hwritten heq
    obtain ⟨hmem, rfl, rfl⟩ := getOccurrence_eq_some ho
    exact .wrote o r _ _ hmem htarget hwritten heq
  cases op with
  | clock => exact hsame rfl
  | listSchedules => exact hsame rfl
  | materializeDueOccurrences => cases hmaterialization
  | listRetryableOccurrences => exact hsame rfl
  | readOccurrence => exact hsame rfl
  | markWaitingApproval t i =>
    rcases markWaitingApproval_spec env rfl with heq | ⟨o, r, ho, heq, hwritten⟩
    · exact hsame heq
    · exact hwrite rfl ho hwritten heq
  | runPreflight t i context now granted =>
    rcases commit_db (w := w) (runPreflight w.db t i context now granted) with heq | ⟨out, h⟩
    · exact hsame heq
    · obtain ⟨o, r, ho, heq, hwritten, -⟩ := runPreflight_eq_ok env h
      exact hwrite rfl ho hwritten heq
  | beginLaunch t i now =>
    rcases commit_db (w := w) (beginLaunch env w.db t i now) with heq | ⟨start, h⟩
    · exact hsame heq
    · obtain ⟨o, ho, ⟨-, -, heq⟩ | ⟨r, schedule, template, workflow, db₁, heq, hwritten, -, -,
        hensure, -⟩⟩ := beginLaunch_eq_ok h
      · exact hsame heq
      · obtain ⟨engagements, statuses, rfl⟩ := ensureEngagement_eq_ok hensure
        obtain ⟨hmem, rfl, rfl⟩ := getOccurrence_eq_some ho
        exact .wrote o r _ _ hmem rfl hwritten heq
  | readEngagement => exact hsame rfl
  | compileWorkflow t e workflow now =>
    rcases orchestrate_db (w := w) (Orchestration.Orchestrator.compileWorkflow w.db.orchestration
      now t e workflow (env.taskIds w.ticks) (env.createdAt w.ticks)) with heq | ⟨r, -, heq⟩
    · exact hsame heq
    · exact .quiet _ _ heq
  | startEngagement t e now =>
    rcases orchestrate_db (w := w)
      (Orchestration.Orchestrator.startEngagement w.db.orchestration now t e) with heq | ⟨r, -, heq⟩
    · exact hsame heq
    · exact .quiet _ _ heq
  | completeLaunch t i now =>
    rcases commitUnit_db (w := w) (completeLaunch w.db t i now) with heq | h
    · exact hsame heq
    · obtain ⟨o, ho, ⟨-, heq⟩ | ⟨r, heq, hwritten⟩⟩ := completeLaunch_eq_ok env h
      · exact hsame heq
      · exact hwrite rfl ho hwritten heq
  | failLaunch t i error now =>
    rcases commitUnit_db (w := w) (failLaunch w.db t i error now) with heq | h
    · exact hsame heq
    · rcases failLaunch_eq_ok env h with ⟨-, heq⟩ | ⟨o, r, ho, heq, hwritten⟩
      · exact hsame heq
      · exact hwrite rfl ho hwritten heq
  | recordApproval t i decision =>
    rcases commit_db (w := w) (recordApproval w.db t i decision) with heq | ⟨found, h⟩
    · exact hsame heq
    · obtain ⟨o, ho, ⟨-, -, heq⟩ | ⟨-, r, heq, hwritten⟩⟩ := recordApproval_eq_ok env h
      · exact hsame heq
      · exact hwrite rfl ho hwritten heq
  | cancelOccurrence t i decision =>
    rcases commit_db (w := w) (cancelOccurrence w.db t i decision) with heq | ⟨o', h⟩
    · exact hsame heq
    · obtain ⟨o, ho, heq, hwritten⟩ := cancelOccurrence_eq_ok env h
      exact hwrite rfl ho hwritten heq
  | getOccurrence => exact hsame rfl
  | validateDefinition => exact hsame rfl
  | createDraft => cases hauthoring
  | revisedDraft => exact hsame rfl
  | approveSchedule => cases hauthoring
  | disableSchedule => cases hauthoring

end Exec

/-! ### The operations of the methods -/

section Programs

open Program (Raises)

variable (tenantId : String) (context : PreflightContext)

def Op.decides : Op → Bool
  | .recordApproval .. | .cancelOccurrence .. => true
  | _ => false

/-- The operations that process occurrences that are there already. -/
def Op.processes : Op → Bool
  | .clock | .listSchedules .. | .listRetryableOccurrences .. | .readOccurrence ..
  | .markWaitingApproval .. | .runPreflight .. | .beginLaunch .. | .readEngagement ..
  | .compileWorkflow .. | .startEngagement .. | .completeLaunch .. | .failLaunch ..
  | .getOccurrence .. => true
  | _ => false

/-- Operations that process the occurrence of the key, and write to no other. -/
structure WorksOn (key : String × String) (op : Op) : Prop where
  processes : op.processes = true
  target : ∀ k ∈ op.target, k = key

namespace WorksOn

variable {key : String × String} {op : Op}

theorem authoring (h : WorksOn key op) : op.isAuthoring = false := by
  have hp := h.processes
  cases op <;> first | rfl | cases hp

theorem materialization (h : WorksOn key op) : op.isMaterialization = false := by
  have hp := h.processes
  cases op <;> first | rfl | cases hp

theorem decides (h : WorksOn key op) : op.decides = false := by
  have hp := h.processes
  cases op <;> first | rfl | cases hp

end WorksOn

variable {key : String × String} {op : Op}

theorem worksOn_read (hp : op.processes = true) (ht : op.target = none) : WorksOn key op :=
  ⟨hp, by simp [ht]⟩

theorem worksOn_write (hp : op.processes = true) (ht : op.target = some key) : WorksOn key op :=
  ⟨hp, by simp [ht]⟩

variable {P : SchedulingError → Prop}

theorem finishLaunch_raises (occurrenceId : String) (now : Timestamp)
    (workflow : WorkflowDefinition) (engagementId : String) :
    (finishLaunch tenantId occurrenceId now workflow engagementId).Raises
      (WorksOn (tenantId, occurrenceId)) P := by
  have hclock : (Program.perform Op.clock : Method Timestamp).Raises
      (WorksOn (tenantId, occurrenceId)) P := Program.raises_perform (worksOn_read rfl rfl)
  have hcomplete : ∀ u : Unit, (Program.perform (Op.completeLaunch tenantId occurrenceId now) :
      Method Unit).Raises (WorksOn (tenantId, occurrenceId)) P := fun _ =>
    Program.raises_perform (worksOn_write rfl rfl)
  unfold finishLaunch readClock
  refine Raises.bind (Program.raises_perform (worksOn_read rfl rfl)) fun read => ?_
  obtain ⟨engagement, hasTasks⟩ := read
  have hstart : ∀ u : Unit, (if engagement = some .planned then do
        let startedAt ← Program.perform Op.clock
        Program.perform (Op.startEngagement tenantId engagementId startedAt)
        Program.perform (Op.completeLaunch tenantId occurrenceId now)
      else do
        pure PUnit.unit
        Program.perform (Op.completeLaunch tenantId occurrenceId now) : Method Unit).Raises
          (WorksOn (tenantId, occurrenceId)) P := by
    intro u
    split
    · refine Raises.bind hclock fun startedAt => ?_
      exact Raises.bind (Program.raises_perform (worksOn_read rfl rfl)) hcomplete
    · exact hcomplete u
  dsimp only
  split
  · exact hstart ()
  · refine Raises.bind hclock fun compiledAt => ?_
    exact Raises.bind (Program.raises_perform (worksOn_read rfl rfl)) hstart

theorem launch_raises (occurrenceId : String) :
    (launch tenantId occurrenceId).Raises (WorksOn (tenantId, occurrenceId)) P := by
  unfold launch readClock
  refine Raises.bind (Program.raises_perform (worksOn_read rfl rfl)) fun now => ?_
  refine Raises.bind (Program.raises_perform (worksOn_write rfl rfl)) fun start => ?_
  cases start with
  | alreadyLaunched => exact Program.raises_pure ()
  | started workflow engagementId =>
    exact finishLaunch_raises tenantId occurrenceId now workflow engagementId

theorem attemptLaunch_raises (occurrenceId : String) (summary : ScheduleEvaluationSummary) :
    (attemptLaunch tenantId occurrenceId summary).Raises
      (WorksOn (tenantId, occurrenceId)) P := by
  unfold attemptLaunch readClock
  refine Raises.handle ?_ fun error => ?_
  · exact (launch_raises tenantId occurrenceId).bind fun _ => Program.raises_pure _
  · refine Raises.bind (Program.raises_perform (worksOn_read rfl rfl)) fun now => ?_
    exact Raises.bind (Program.raises_perform (worksOn_write rfl rfl)) fun _ =>
      Program.raises_pure _

theorem runPreflightAndLaunch_raises (occurrenceId : String) (granted : Bool)
    (summary : ScheduleEvaluationSummary) :
    (runPreflightAndLaunch tenantId occurrenceId context granted summary).Raises
      (WorksOn (tenantId, occurrenceId)) P := by
  unfold runPreflightAndLaunch readClock
  refine Raises.bind (Program.raises_perform (worksOn_read rfl rfl)) fun now => ?_
  refine Raises.bind (Program.raises_perform (worksOn_write rfl rfl)) fun out => ?_
  cases out with
  | blocked => exact Program.raises_pure _
  | waiting => exact Program.raises_pure _
  | passed => exact attemptLaunch_raises tenantId occurrenceId summary

/-- **Processing** works on one occurrence, and raises what its operations raise. -/
theorem processOccurrence_raises (summary : ScheduleEvaluationSummary) (occurrenceId : String) :
    (processOccurrence tenantId context summary occurrenceId).Raises
      (WorksOn (tenantId, occurrenceId)) P := by
  unfold processOccurrence
  refine Raises.bind (Program.raises_perform (worksOn_read rfl rfl)) fun read => ?_
  rcases read with _ | ⟨occurrence, mode⟩
  · exact Program.raises_pure _
  · dsimp only [processRead]
    split
    · exact attemptLaunch_raises tenantId occurrenceId _
    · split
      · refine Raises.bind (Program.raises_perform (worksOn_write rfl rfl)) fun _ => ?_
        exact Program.raises_pure _
      · exact runPreflightAndLaunch_raises tenantId context occurrenceId _ _

theorem processOccurrence_calls (summary : ScheduleEvaluationSummary) (occurrenceId : String) :
    (processOccurrence tenantId context summary occurrenceId).Calls
      (WorksOn (tenantId, occurrenceId)) :=
  (processOccurrence_raises tenantId context summary occurrenceId).calls

end Programs

end Scheduling
