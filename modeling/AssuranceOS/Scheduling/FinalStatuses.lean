/-
Final statuses.

A cancelled, a skipped and a launched occurrence are meant to stay what they are, and nothing
is meant to be launched for a cancelled one.  A decision and the first transaction of `_launch`
look at the status before they write.  The other writes do not: a preflight, the handler of a
failed launch and the end of a launch write over whatever has come in between.

`Respects` is what such a call must find.  `crew_final`: in every interleaving whose calls find
it, final statuses stay and no engagement is started for a cancelled occurrence.
`launched_after_cancellation` is a run whose calls do not.
-/
import AssuranceOS.Scheduling.Concurrency

namespace Scheduling

open Orchestration (Timestamp)

variable {env : Environment}

/-! ### What is final -/

def OccurrenceStatus.isFinal : OccurrenceStatus → Bool
  | .cancelled | .skipped | .launched => true
  | _ => false

theorem OccurrenceStatus.isFinal_iff {s : OccurrenceStatus} :
    s.isFinal = true ↔ s = .launched ∨ s = .cancelled ∨ s = .skipped := by
  cases s <;> decide

def Database.EngagementStarted (db : Database) (engagementId : String) : Prop :=
  ∃ e ∈ db.orchestration.engagements, e.engagementId = engagementId ∧ e.status ≠ .planned

instance (db : Database) (engagementId : String) : Decidable (db.EngagementStarted engagementId) :=
  inferInstanceAs (Decidable (∃ e ∈ db.orchestration.engagements, _ ∧ _))

def KeepsFinal (db db' : Database) : Prop :=
  ∀ o ∈ db.occurrences, o.status.isFinal = true →
    ∃ o' ∈ db'.occurrences, o'.key = o.key ∧ o'.status = o.status

/-- What is final in `db` is final in the later `db'`, and nothing has been launched for what
was cancelled. -/
structure FinalKept (db db' : Database) : Prop where
  absorbing : KeepsFinal db db'
  unlaunched : ∀ o ∈ db.occurrences, o.status = .cancelled →
    ∀ o' ∈ db'.occurrences, o'.key = o.key → ∀ id ∈ o'.engagementId, ¬ db'.EngagementStarted id

/-- The preflight raises or passes; it does not write the status. -/
def LeavesStatus (db : Database) (t : String) (o : ScheduleOccurrence) (context : PreflightContext)
    (now : Timestamp) (granted : Bool) : Prop :=
  ∃ found ∈ scheduleAndTemplate db t o.scheduleId,
    ∀ report ∈ (PreflightEvaluator.evaluate db found.1 o found.2 context now).toOption,
      report.passed = true ∧ (found.1.launchMode = .preflightThenApproval → granted = true)

instance (db : Database) (t : String) (o : ScheduleOccurrence) (context : PreflightContext)
    (now : Timestamp) (granted : Bool) : Decidable (LeavesStatus db t o context now granted) :=
  inferInstanceAs (Decidable (∃ found ∈ scheduleAndTemplate db t o.scheduleId,
    ∀ report ∈ (PreflightEvaluator.evaluate db found.1 o found.2 context now).toOption,
      report.passed = true ∧ (found.1.launchMode = .preflightThenApproval → granted = true)))

/-- A call that writes a status finds none that is final; a cancellation finds that nothing has
been started for its occurrence, and a start that its engagement belongs to no cancelled one. -/
def Respects (w : World) : Op → Prop
  | .markWaitingApproval t i => ∀ o ∈ w.db.getOccurrence t i, o.status.isFinal = false
  | .failLaunch t i _ _ => ∀ o ∈ w.db.getOccurrence t i, o.status.isFinal = false
  | .runPreflight t i context now granted => ∀ o ∈ w.db.getOccurrence t i,
    o.status.isFinal = true → LeavesStatus w.db t o context now granted
  | .completeLaunch t i _ =>
    ∀ o ∈ w.db.getOccurrence t i, o.status ≠ .cancelled ∧ o.status ≠ .skipped
  | .cancelOccurrence t i _ => ∀ o ∈ w.db.getOccurrence t i, o.status.isFinal = false →
    ∀ id ∈ o.engagementId, ¬ w.db.EngagementStarted id
  | .startEngagement _ id _ => ∀ o ∈ w.db.occurrences, o.status = .cancelled →
    o.engagementId ≠ some id
  | _ => True

instance (w : World) : ∀ op, Decidable (Respects w op)
  | .markWaitingApproval t i =>
    inferInstanceAs (Decidable (∀ o ∈ w.db.getOccurrence t i, o.status.isFinal = false))
  | .failLaunch t i _ _ =>
    inferInstanceAs (Decidable (∀ o ∈ w.db.getOccurrence t i, o.status.isFinal = false))
  | .runPreflight t i context now granted => inferInstanceAs (Decidable
    (∀ o ∈ w.db.getOccurrence t i, o.status.isFinal = true →
      LeavesStatus w.db t o context now granted))
  | .completeLaunch t i _ => inferInstanceAs (Decidable
    (∀ o ∈ w.db.getOccurrence t i, o.status ≠ .cancelled ∧ o.status ≠ .skipped))
  | .cancelOccurrence t i _ => inferInstanceAs (Decidable
    (∀ o ∈ w.db.getOccurrence t i, o.status.isFinal = false →
      ∀ id ∈ o.engagementId, ¬ w.db.EngagementStarted id))
  | .startEngagement _ id _ => inferInstanceAs (Decidable
    (∀ o ∈ w.db.occurrences, o.status = .cancelled → o.engagementId ≠ some id))
  | .clock | .listSchedules .. | .materializeDueOccurrences .. | .listRetryableOccurrences ..
  | .readOccurrence .. | .beginLaunch .. | .readEngagement .. | .compileWorkflow ..
  | .recordApproval .. | .getOccurrence .. | .validateDefinition .. | .createDraft ..
  | .revisedDraft .. | .approveSchedule .. | .disableSchedule .. => isTrue trivial

section Step

variable {w : World} {op : Op} {db db' : Database}

theorem KeepsFinal.of_eq (h : db'.occurrences = db.occurrences) : KeepsFinal db db' := by
  intro o ho _
  rw [h]
  exact ⟨o, ho, rfl, rfl⟩

theorem KeepsFinal.trans {db'' : Database} (h : KeepsFinal db db') (h' : KeepsFinal db' db'') :
    KeepsFinal db db'' := by
  intro o ho hfinal
  obtain ⟨o', ho', hkey', hstatus'⟩ := h o ho hfinal
  obtain ⟨o'', ho'', hkey'', hstatus''⟩ := h' o' ho' (by rwa [hstatus'])
  exact ⟨o'', ho'', hkey''.trans hkey', hstatus''.trans hstatus'⟩

variable {o : ScheduleOccurrence}

theorem getOccurrence_of_mem (hu : UniqueOccurrences db.occurrences) (ho : o ∈ db.occurrences) :
    db.getOccurrence o.tenantId o.occurrenceId = some o := by
  obtain ⟨x, hx⟩ := getOccurrence_of_key (List.mem_map_of_mem (f := ScheduleOccurrence.key) ho)
  obtain ⟨hmem, htenant, hid⟩ := getOccurrence_eq_some hx
  rw [hx, eq_of_key hu ho hmem (Prod.ext htenant hid)]

variable {t i : String} {context : PreflightContext} {now : Timestamp} {granted : Bool}

theorem runPreflight_passed {out : PreflightOutcome} (ho : db.getOccurrence t i = some o)
    (hleaves : LeavesStatus db t o context now granted)
    (h : runPreflight db t i context now granted = .ok (out, db')) :
    out = .passed := by
  obtain ⟨⟨schedule, template⟩, hfound, hpasses⟩ := hleaves
  have hscheduled : scheduleAndTemplate db t o.scheduleId = some (schedule, template) := hfound
  unfold runPreflight at h
  obtain ⟨x, hx, h⟩ := Checked.ofOption_bind_eq_ok.mp h
  obtain rfl : x = o := Option.some.inj (hx.symm.trans ho)
  rw [hscheduled] at h
  obtain ⟨report, hreport, h⟩ := Checked.bind_eq_ok.mp h
  obtain ⟨hpassed, hgranted⟩ := hpasses report (by rw [hreport]; rfl)
  split at h
  · rename_i hfailed
    simp [hpassed] at hfailed
  · split at h
    · rename_i hwaits
      rw [hgranted hwaits.1] at hwaits
      cases hwaits.2
    · cases h
      rfl

theorem KeepsFinal.put (hu : UniqueOccurrences db.occurrences) {o r : ScheduleOccurrence}
    (ho : o ∈ db.occurrences) (hsame : SameOccurrence o r)
    (hstatus : o.status.isFinal = true → r.status = o.status)
    (hrows : db'.occurrences = Table.put ScheduleOccurrence.occurrenceId r db.occurrences) :
    KeepsFinal db db' := by
  intro x hx hfinal
  rw [hrows]
  by_cases hid : x.occurrenceId = o.occurrenceId
  · obtain rfl : x = o := Table.eq_of_key_eq hu.ids hx ho hid
    exact ⟨r, Table.mem_put_self ho hsame.occurrenceId, hsame.key, hstatus hfinal⟩
  · have hne : x.occurrenceId ≠ r.occurrenceId := by
      rw [hsame.occurrenceId]
      exact hid
    exact ⟨x, Table.mem_put_of_ne hx hne, rfl, rfl⟩

theorem Respects.status (h : Respects w op) (hu : UniqueOccurrences w.db.occurrences)
    {r : ScheduleOccurrence} (ho : o ∈ w.db.occurrences)
    (htarget : op.target = some (o.tenantId, o.occurrenceId)) (hwritten : Written env w.db op o r)
    (hpreflight : ∀ t i context now granted, op ≠ .runPreflight t i context now granted)
    (hfinal : o.status.isFinal = true) : r.status = o.status := by
  have hget := getOccurrence_of_mem hu ho
  cases hwritten with
  | marked =>
    obtain ⟨rfl, rfl⟩ := Prod.mk.inj (Option.some.inj htarget)
    rw [h o hget] at hfinal
    cases hfinal
  | blocked => exact absurd rfl (hpreflight _ _ _ _ _)
  | waiting => exact absurd rfl (hpreflight _ _ _ _ _)
  | passed => exact absurd rfl (hpreflight _ _ _ _ _)
  | begun _ guard =>
    obtain ⟨hlaunched, hcancelled, hskipped⟩ := guard
    rcases OccurrenceStatus.isFinal_iff.mp hfinal with h | h | h <;> contradiction
  | completed _ guard =>
    obtain ⟨rfl, rfl⟩ := Prod.mk.inj (Option.some.inj htarget)
    obtain ⟨hcancelled, hskipped⟩ := h o hget
    rcases OccurrenceStatus.isFinal_iff.mp hfinal with h | h | h <;> contradiction
  | failed =>
    obtain ⟨rfl, rfl⟩ := Prod.mk.inj (Option.some.inj htarget)
    rw [h o hget] at hfinal
    cases hfinal
  | approved _ guard =>
    rw [guard] at hfinal
    cases hfinal
  | cancelled _ guard =>
    obtain ⟨hlaunched, hcancelled, hskipped⟩ := guard
    rcases OccurrenceStatus.isFinal_iff.mp hfinal with h | h | h <;> contradiction

theorem exec_runPreflight_keepsFinal (hok : Respects w (.runPreflight t i context now granted))
    (hu : UniqueOccurrences w.db.occurrences) :
    KeepsFinal w.db (exec env (.runPreflight t i context now granted) w).2.db := by
  rcases commit_db (w := w) (runPreflight w.db t i context now granted) with heq | ⟨out, h⟩
  · exact .of_eq (congrArg Database.occurrences heq)
  · obtain ⟨o, r, ho, heq, hwritten, hcase⟩ := runPreflight_eq_ok env h
    refine .put hu (getOccurrence_eq_some ho).1 hwritten.same (fun hfinal => ?_)
      (congrArg Database.occurrences heq)
    have hpassed : out = .passed := runPreflight_passed ho (hok o ho hfinal) h
    rcases hcase with ⟨hblocked, -⟩ | ⟨hwaiting, -⟩ | ⟨-, hstatus, -⟩
    · rw [hpassed] at hblocked
      cases hblocked
    · rw [hpassed] at hwaiting
      cases hwaiting
    · exact hstatus

/-- **One transaction** that respects what is final keeps it. -/
theorem exec_keepsFinal (ha : op.isAuthoring = false) (hok : Respects w op)
    (hu : UniqueOccurrences w.db.occurrences) : KeepsFinal w.db (exec env op w).2.db := by
  by_cases hm : op.isMaterialization = false
  · by_cases hpreflight : ∀ t i context now granted, op ≠ .runPreflight t i context now granted
    · have heffect : Effect env op w.db (exec env op w).2.db := exec_effect ha hm
      rcases heffect with ⟨_, _, heq⟩ | ⟨o, r, _, _, hmem, htarget, hwritten, heq⟩
      · exact .of_eq (by rw [heq])
      · exact .put hu hmem hwritten.same (hok.status hu hmem htarget hwritten hpreflight)
          (by rw [heq])
    · push Not at hpreflight
      obtain ⟨t, i, context, now, granted, rfl⟩ := hpreflight
      exact exec_runPreflight_keepsFinal hok hu
  · cases op with
    | materializeDueOccurrences t i now worker lease =>
      rcases commit_db (w := w) (materializeDueOccurrences env w.db t i now worker lease) with
        heq | ⟨result, hrun⟩
      · exact .of_eq (congrArg Database.occurrences heq)
      · obtain ⟨schedule, -, -, ⟨hrefused, -⟩ | ⟨dues, added, hev⟩⟩ := materialize_eq_ok hrun
        · exact .of_eq hrefused.occurrences
        · intro o ho _
          rw [show (exec env (.materializeDueOccurrences t i now worker lease) w).2.db.occurrences =
            w.db.occurrences ++ added from hev.occurrences]
          exact ⟨o, List.mem_append_left _ ho, rfl, rfl⟩
    | _ => exact absurd rfl hm

end Step

section Started

variable {w : World} {op : Op} {db db' : Database}

def CancelledUnstarted (db : Database) : Prop :=
  ∀ o ∈ db.occurrences, o.status = .cancelled → ∀ id ∈ o.engagementId, ¬ db.EngagementStarted id

theorem startEngagement_engagements {o o' : Orchestration.Database} {now : Timestamp} {t id : String}
    {s : Orchestration.EngagementSnapshot} (hwf : Orchestration.WellFormed o)
    (h : Orchestration.Orchestrator.startEngagement o now t id = .ok (o', s)) :
    ∀ e' ∈ o'.engagements, e'.engagementId = id ∨ e' ∈ o.engagements := by
  obtain ⟨e, e₁, o₁, hid, hmove, -, -, -, -, hreconciled⟩ :=
    Orchestration.startEngagement_moves hwf h
  intro e' he'
  by_cases heq : e'.engagementId = e.engagementId
  · exact Or.inl (heq.trans hid)
  · have hne : e'.engagementId ≠ e₁.engagementId := by
      rw [hmove.engagementId]
      exact heq
    rcases (hmove.mem_engagements hwf).mp
      ((hreconciled.mem_engagements_of_ne (hmove.wellFormed hwf) hne).mp he') with rfl | ⟨hmem, -⟩
    · exact absurd rfl hne
    · exact Or.inr hmem

/-- What one operation leaves of the orchestrator's tables. -/
structure Starts (op : Op) (db db' : Database) : Prop where
  wellFormed : Orchestration.WellFormed db'.orchestration
  started : ∀ id, db'.EngagementStarted id → db.EngagementStarted id ∨
    ∃ t now, op = .startEngagement t id now

theorem Starts.of_eq (hwf : Orchestration.WellFormed db.orchestration)
    (h : db'.orchestration = db.orchestration) : Starts op db db' where
  wellFormed := by
    rw [h]
    exact hwf
  started id hid := by
    unfold Database.EngagementStarted at hid
    rw [h] at hid
    exact Or.inl hid

theorem Starts.withEngagement {e : EngagementDetails} (now : Timestamp)
    (hwf : Orchestration.WellFormed db.orchestration)
    (hnew : e.engagementId ∉
      db.orchestration.engagements.map Orchestration.Engagement.engagementId) :
    Starts op db (db.withEngagement e now) where
  wellFormed := withEngagement_wellFormed now hwf hnew
  started := by
    rintro id ⟨x, hx, hid, hstatus⟩
    rcases List.mem_append.mp hx with hx | hx
    · exact Or.inl ⟨x, hx, hid, hstatus⟩
    · rw [List.mem_singleton.mp hx] at hstatus
      exact absurd rfl hstatus

theorem exec_starts (env : Environment) (ha : op.isAuthoring = false)
    (hwf : Orchestration.WellFormed w.db.orchestration) :
    Starts op w.db (exec env op w).2.db := by
  by_cases hl : op.launches = false
  · exact .of_eq hwf (exec_engagements env w ha hl).2
  · cases op with
    | beginLaunch t i now =>
      rcases commit_db (w := w) (beginLaunch env w.db t i now) with heq | ⟨start, hrun⟩
      · exact .of_eq hwf (congrArg Database.orchestration heq)
      · obtain ⟨o, ho, ⟨-, -, heq⟩ | ⟨r, schedule, template, workflow, db₁, heq, -, -, -, hensure,
          -⟩⟩ := beginLaunch_eq_ok hrun
        · exact .of_eq hwf (congrArg Database.orchestration heq)
        · unfold ensureEngagement at hensure
          dsimp only at hensure
          split at hensure
          · cases hensure
            rw [show (exec env (.beginLaunch t i now) w).2.db = _ from heq]
            exact .of_eq hwf rfl
          · obtain ⟨-, hnew, rfl⟩ := addEngagement_eq_ok hensure
            have hstarts : Starts (.beginLaunch t i now) w.db _ :=
              Starts.withEngagement now hwf hnew
            -- the write to the occurrence touches no engagement
            rw [show (exec env (.beginLaunch t i now) w).2.db = _ from heq]
            exact ⟨hstarts.wellFormed, hstarts.started⟩
    | compileWorkflow t e workflow now =>
      rcases orchestrate_db (w := w) (Orchestration.Orchestrator.compileWorkflow w.db.orchestration
        now t e workflow (env.taskIds w.ticks) (env.createdAt w.ticks)) with heq | ⟨r, hr, heq⟩
      · exact .of_eq hwf (congrArg Database.orchestration heq)
      · obtain ⟨rows, deps, hcompiled⟩ := Orchestration.compileWorkflow_compiled hr
        rw [show (exec env (.compileWorkflow t e workflow now) w).2.db = _ from heq]
        refine ⟨hcompiled.wellFormed hwf, ?_⟩
        rintro id ⟨x, hx, hid⟩
        exact Or.inl ⟨x, hcompiled.engagements ▸ hx, hid⟩
    | startEngagement t e now =>
      rcases orchestrate_db (w := w)
        (Orchestration.Orchestrator.startEngagement w.db.orchestration now t e) with
        heq | ⟨r, hr, heq⟩
      · exact .of_eq hwf (congrArg Database.orchestration heq)
      · rw [show (exec env (.startEngagement t e now) w).2.db = _ from heq]
        refine ⟨(startEngagement_quieter hwf hr).wellFormed, ?_⟩
        rintro id ⟨x, hx, hid, hstatus⟩
        rcases startEngagement_engagements hwf hr x hx with hstart | hmem
        · exact Or.inr ⟨t, now, by rw [← hid, hstart]⟩
        · exact Or.inl ⟨x, hmem, hid, hstatus⟩
    | _ => exact absurd rfl hl

variable {o : ScheduleOccurrence}

theorem Written.cancelled_cases {r : ScheduleOccurrence} (h : Written env db op o r)
    (hcancelled : r.status = .cancelled) :
    r.engagementId = o.engagementId ∧ (∀ t id now, op ≠ .startEngagement t id now) ∧
      (o.status = .cancelled ∨ o.status.isFinal = false ∧ ∃ t i d, op = .cancelOccurrence t i d) := by
  cases h with
  | passed _ status _ engagement =>
    refine ⟨engagement, ?_, Or.inl (status.symm.trans hcancelled)⟩
    intro t id now heq
    cases heq
  | cancelled _ guard _ engagement =>
    refine ⟨engagement, ?_, Or.inr ⟨?_, _, _, _, rfl⟩⟩
    · intro t id now heq
      cases heq
    rw [← Bool.not_eq_true, OccurrenceStatus.isFinal_iff]
    rintro (h | h | h)
    · exact guard.1 h
    · exact guard.2.1 h
    · exact guard.2.2 h
  | marked _ _ status | blocked _ status | waiting _ status | begun _ _ status | failed _ status
  | completed _ _ status | approved _ _ status =>
    rw [status] at hcancelled
    cases hcancelled

theorem Starts.unstarted (h : Starts op w.db db') (hok : Respects w op)
    (hunstarted : CancelledUnstarted w.db) (ho : o ∈ w.db.occurrences)
    (hcancelled : o.status = .cancelled) : ∀ id ∈ o.engagementId, ¬ db'.EngagementStarted id := by
  intro id hid hstarted
  rcases h.started id hstarted with hbefore | ⟨t, now, rfl⟩
  · exact hunstarted o ho hcancelled id hid hbefore
  · exact hok o ho hcancelled hid

theorem exec_cancelledUnstarted (env : Environment) (ha : op.isAuthoring = false)
    (hok : Respects w op) (hu : UniqueOccurrences w.db.occurrences)
    (hwf : Orchestration.WellFormed w.db.orchestration) (h : CancelledUnstarted w.db) :
    CancelledUnstarted (exec env op w).2.db := by
  have hstarts : Starts op w.db (exec env op w).2.db := exec_starts env ha hwf
  intro x hx hcancelled
  by_cases hm : op.isMaterialization = false
  · have heffect : Effect env op w.db (exec env op w).2.db := exec_effect ha hm
    rcases heffect with ⟨_, _, heq⟩ | ⟨o, r, _, _, hmem, htarget, hwritten, heq⟩
    · rw [heq] at hx
      exact hstarts.unstarted hok h hx hcancelled
    · rw [heq] at hx
      rcases Table.eq_or_mem_of_mem_put hx with rfl | ⟨hx, -⟩
      · obtain ⟨hengagement, hnot, hbefore | ⟨hopen, t, i, decision, rfl⟩⟩ :=
          hwritten.cancelled_cases hcancelled
        · rw [hengagement]
          exact hstarts.unstarted hok h hmem hbefore
        · obtain ⟨rfl, rfl⟩ := Prod.mk.inj (Option.some.inj htarget)
          intro id hid hstarted
          rw [hengagement] at hid
          rcases hstarts.started id hstarted with hstarted | ⟨t, now, heq⟩
          · exact hok o (getOccurrence_of_mem hu hmem) hopen id hid hstarted
          · exact hnot t id now heq
      · exact hstarts.unstarted hok h hx hcancelled
  · cases op with
    | materializeDueOccurrences t i now worker lease =>
      rcases commit_db (w := w) (materializeDueOccurrences env w.db t i now worker lease) with
        heq | ⟨result, hrun⟩
      · rw [show (exec env (.materializeDueOccurrences t i now worker lease) w).2.db = w.db from
          heq] at hx
        exact hstarts.unstarted hok h hx hcancelled
      · obtain ⟨schedule, -, -, ⟨hrefused, -⟩ | ⟨dues, added, hev⟩⟩ := materialize_eq_ok hrun
        · exact hstarts.unstarted hok h (hrefused.occurrences ▸ hx) hcancelled
        · rcases List.mem_append.mp (hev.occurrences ▸ hx) with hx | hx
          · exact hstarts.unstarted hok h hx hcancelled
          · rcases (hev.new x hx).status with hs | hs | hs <;> rw [hs] at hcancelled <;>
              cases hcancelled
    | _ => exact absurd rfl hm

end Started

/-! ### Workers beside each other -/

section Workers

variable {crew : Crew Op.Result SchedulingError World}

/-- The calls that operate a schedule. -/
inductive Operation where
  | evaluateDue (request : EvaluateDue)
  | approveOccurrence (tenantId occurrenceId : String) (decision : OccurrenceDecision)
  | cancelOccurrence (tenantId occurrenceId : String) (decision : OccurrenceDecision)

def Operation.call : Operation → Call
  | .evaluateDue request => .evaluateDue request
  | .approveOccurrence t i decision => .approveOccurrence t i decision
  | .cancelOccurrence t i decision => .cancelOccurrence t i decision

/-- A call as a task of a crew. -/
def operate (operation : Operation) : Method Unit := operation.call.program

theorem operate_calls (operation : Operation) :
    (operate operation).Calls fun op => op.isAuthoring = false := by
  cases operation with
  | evaluateDue request => exact evaluateTask_calls request
  | approveOccurrence t i decision =>
    refine Program.Calls.bind ((approveOccurrence_calls t i decision).mono ?_) fun _ => trivial
    rintro op (hworks | rfl)
    · exact hworks.authoring
    · rfl
  | cancelOccurrence t i decision =>
    exact Program.Calls.bind (Program.calls_perform.mpr rfl) fun _ => trivial

/-- Tables of schedules without occurrences. -/
structure Unscheduled (db : Database) : Prop where
  wellFormed : Orchestration.WellFormed db.orchestration
  occurrences : db.occurrences = []

/-- What holds of the occurrences and the engagements at any time. -/
structure Orderly (db : Database) : Prop where
  unique : UniqueOccurrences db.occurrences
  wellFormed : Orchestration.WellFormed db.orchestration
  unstarted : CancelledUnstarted db

variable {db : Database}

theorem Unscheduled.orderly (h : Unscheduled db) : Orderly db where
  unique := by
    rw [h.occurrences]
    exact ⟨List.nodup_nil, List.nodup_nil⟩
  wellFormed := h.wellFormed
  unstarted := by
    intro o ho
    rw [h.occurrences] at ho
    cases ho

theorem exec_unique (env : Environment) {w : World} {op : Op} (ha : op.isAuthoring = false)
    (hu : UniqueOccurrences w.db.occurrences) :
    UniqueOccurrences (exec env op w).2.db.occurrences := by
  by_cases hm : op.isMaterialization = false
  · have heffect : Effect env op w.db (exec env op w).2.db := exec_effect ha hm
    rcases heffect with ⟨_, _, heq⟩ | ⟨o, r, _, _, hmem, -, hwritten, heq⟩
    · rwa [heq]
    · rw [heq]
      exact put_unique hu hmem hwritten.same
  · cases op with
    | materializeDueOccurrences t i now worker lease =>
      rcases commit_db (w := w) (materializeDueOccurrences env w.db t i now worker lease) with
        heq | ⟨result, hrun⟩
      · rwa [show (exec env (.materializeDueOccurrences t i now worker lease) w).2.db = w.db from heq]
      · obtain ⟨-, -, heval, -⟩ := materialize_eq_ok hrun
        exact heval.unique hu
    | _ => exact absurd rfl hm

theorem Orderly.exec {w : World} {op : Op} (h : Orderly w.db) (ha : op.isAuthoring = false)
    (hok : Respects w op) : Orderly (exec env op w).2.db where
  unique := exec_unique env ha h.unique
  wellFormed := (exec_starts env ha h.wellFormed).wellFormed
  unstarted := exec_cancelledUnstarted env ha hok h.unique h.wellFormed h.unstarted

theorem KeepsFinal.finalKept {db' : Database} (h : KeepsFinal db db') (ho : Orderly db') :
    FinalKept db db' where
  absorbing := h
  unlaunched := by
    intro o hmem hcancelled o' hmem' hkey
    obtain ⟨x, hx, hxkey, hstatus⟩ := h o hmem (OccurrenceStatus.isFinal_iff.mpr
      (Or.inr (Or.inl hcancelled)))
    obtain rfl : x = o' := eq_of_key ho.unique hmem' hx (hxkey.trans hkey.symm)
    exact ho.unstarted x hmem' (hstatus.trans hcancelled)

/-- **Final statuses.**  However the transactions of any number of workers are interleaved, a
cancelled, skipped or launched occurrence stays what it is, and no engagement is started for a
cancelled one, as long as every call respects what it finds. -/
theorem crew_final (hidle : ∀ i, crew.workers i = pure ()) (hstart : Unscheduled crew.state.db)
    {earlier later : List (Turn Operation)}
    (hok : Runs.EachStep (Crew.step (exec env) operate) (Crew.CallOk Respects) crew
      (earlier ++ later)) :
    FinalKept (earlier.foldl (Crew.step (exec env) operate) crew).state.db
      ((earlier ++ later).foldl (Crew.step (exec env) operate) crew).state.db := by
  have hcalls : ∀ i, (crew.workers i).Calls fun op => op.isAuthoring = false := by
    intro i
    rw [hidle i]
    exact trivial
  obtain ⟨hearlier, hlater⟩ := Runs.eachStep_append.mp hok
  have horderly := Crew.crew_invariant (I := fun w : World => Orderly w.db) operate_calls
    (fun op w ha hok h => h.exec ha hok) hcalls hstart.orderly hearlier
  rw [List.foldl_append]
  generalize hmiddle : earlier.foldl (Crew.step (exec env) operate) crew = middle at horderly hlater
  have hmiddleCalls : ∀ i, (middle.workers i).Calls fun op => op.isAuthoring = false := by
    rw [← hmiddle]
    exact Crew.foldl_calls operate_calls hcalls earlier
  obtain ⟨hend, hkeeps⟩ := Crew.crew_invariant
    (I := fun w : World => Orderly w.db ∧ KeepsFinal middle.state.db w.db) operate_calls
    (fun op w ha hok h => ⟨h.1.exec ha hok, h.2.trans (exec_keepsFinal ha hok h.1.unique)⟩)
    hmiddleCalls ⟨horderly, .of_eq rfl⟩ hlater
  exact hkeeps.finalKept hend

/-! #### A cancellation beside an evaluation -/

def managersDecision : OccurrenceDecision :=
  { actorId := "manager", reason := "stop", actorId_ne_empty := manager_ne_empty }

def evaluation : Turn Operation := .start 0 (.evaluateDue { tenantId := "tnt_a" })

def cancellation : List (Turn Operation) :=
  [.start 1 (.cancelOccurrence "tnt_a" "occ_sch_1|2026-08-10T09:" managersDecision), .advance 1]

def waitingCrew : Crew Op.Result SchedulingError World := { state := approvalSample }

theorem waitingCrew_unscheduled : Unscheduled waitingCrew.state.db where
  wellFormed := Orchestration.Fresh.wellFormed ⟨List.nodup_nil,
    by simp [waitingCrew, approvalSample, sampleDatabase], rfl, rfl, rfl, rfl⟩
  occurrences := rfl

def waitingTurns : List (Turn Operation) :=
  evaluation :: List.replicate 6 (.advance 0) ++ cancellation

theorem crew_final_sample :
    FinalKept (waitingTurns.foldl (Crew.step (exec tenEnvironment) operate) waitingCrew).state.db
      ((waitingTurns ++ evaluation :: List.replicate 6 (.advance 0)).foldl
        (Crew.step (exec tenEnvironment) operate) waitingCrew).state.db :=
  crew_final (fun _ => rfl) waitingCrew_unscheduled (by decide +kernel)

/-- A worker begins to launch, and the occurrence is cancelled before it goes on. -/
def launchingCrew : Crew Op.Result SchedulingError World where
  state := { db := sampleDatabase [sampleSchedule] }

theorem launchingCrew_unscheduled : Unscheduled launchingCrew.state.db where
  wellFormed := Orchestration.Fresh.wellFormed ⟨List.nodup_nil,
    by simp [launchingCrew, sampleDatabase], rfl, rfl, rfl, rfl⟩
  occurrences := rfl

def launchingTurns : List (Turn Operation) :=
  evaluation :: List.replicate 8 (.advance 0) ++ cancellation

def remainingTurns : List (Turn Operation) := List.replicate 6 (.advance 0)

theorem launched_after_cancellation :
    ¬ ∀ (env : Environment) (crew : Crew Op.Result SchedulingError World)
      (earlier later : List (Turn Operation)), (∀ i, crew.workers i = pure ()) →
      Unscheduled crew.state.db →
      FinalKept (earlier.foldl (Crew.step (exec env) operate) crew).state.db
        ((earlier ++ later).foldl (Crew.step (exec env) operate) crew).state.db := by
  intro h
  have hrun := h tenEnvironment launchingCrew launchingTurns remainingTurns (fun _ => rfl)
    launchingCrew_unscheduled
  have hcancelled : ∃ o ∈ (launchingTurns.foldl (Crew.step (exec tenEnvironment) operate)
      launchingCrew).state.db.occurrences, o.status = .cancelled ∧
      ∃ o' ∈ ((launchingTurns ++ remainingTurns).foldl (Crew.step (exec tenEnvironment) operate)
        launchingCrew).state.db.occurrences, o'.key = o.key ∧ ∃ id ∈ o'.engagementId,
          ((launchingTurns ++ remainingTurns).foldl (Crew.step (exec tenEnvironment) operate)
            launchingCrew).state.db.EngagementStarted id := by
    decide +kernel
  obtain ⟨o, ho, hstatus, o', ho', hkey, id, hid, hstarted⟩ := hcancelled
  exact hrun.unlaunched o ho hstatus o' ho' hkey id hid hstarted

end Workers

end Scheduling
