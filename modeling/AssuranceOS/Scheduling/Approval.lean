/-
What is launched without its approval.

An occurrence whose schedule asks for an approval, and that no approval has reached, is
`Held`: it is neither launching nor launched, and when it carries a decision it waits or is
cancelled.  `Guarded` says so of all of them.  The retries keep it, as they take up occurrences
that carry no decision; an evaluation keeps it unless it finds the due date of an occurrence
again (`Finds`), which a cancelled one does not survive.  Where the clocks of a zone are set
back, this happens (`launched_after_set_back`).
-/
import AssuranceOS.Scheduling.Materialization

namespace Scheduling

open Orchestration (Timestamp)
open Program (Calls)

variable {env : Environment}

/-! ### Occurrences that wait for an approval -/

/-- The tenant and the id by which the calls address an occurrence. -/
def ScheduleOccurrence.key (o : ScheduleOccurrence) : String × String :=
  (o.tenantId, o.occurrenceId)

/-- The launch mode of the occurrence's schedule asks for an approval. -/
def Gated (db : Database) (o : ScheduleOccurrence) : Prop :=
  ∃ s ∈ db.schedules, s.scheduleId = o.scheduleId ∧ s.launchMode ≠ .automatic

def Decided (o : ScheduleOccurrence) : Prop := PyString.truthy o.decisionBy = true

structure Held (o : ScheduleOccurrence) : Prop where
  status : o.status ≠ .launching ∧ o.status ≠ .launched ∧ o.status ≠ .launchFailed
  decided : Decided o → o.status = .waitingApproval ∨ o.status = .cancelled

variable {o : ScheduleOccurrence}

theorem Held.of_undecided (hd : ¬ Decided o)
    (hs : o.status ≠ .launching ∧ o.status ≠ .launched ∧ o.status ≠ .launchFailed) : Held o :=
  ⟨hs, fun h => absurd h hd⟩

theorem Held.of_waiting (h : o.status = .waitingApproval) : Held o :=
  ⟨by simp [h], fun _ => Or.inl h⟩

/-- With the approvals in `A`, every gated occurrence is approved or held. -/
structure Guarded (A : String × String → Prop) (db : Database) : Prop where
  schedules : (db.schedules.map AuditSchedule.scheduleId).Nodup
  occurrences : UniqueOccurrences db.occurrences
  leases : db.LeasesFree
  held : ∀ o ∈ db.occurrences, Gated db o → A o.key ∨ Held o

/-- An approval, or an automatic schedule, lets the occurrence be launched. -/
def Launchable (A : String × String → Prop) (db : Database) (key : String × String) : Prop :=
  ∀ o ∈ db.occurrences, o.key = key → Gated db o → A key

/-- A decision on the occurrence is an approval, if it is gated. -/
def Safe (A : String × String → Prop) (db : Database) (key : String × String) : Prop :=
  ∀ o ∈ db.occurrences, o.key = key → Gated db o → A key ∨ ¬ Decided o

theorem SameOccurrence.key {r : ScheduleOccurrence} (h : SameOccurrence o r) : r.key = o.key := by
  rw [ScheduleOccurrence.key, ScheduleOccurrence.key, h.tenantId, h.occurrenceId]

theorem Guarded.mono {A B : String × String → Prop} {db : Database} (h : Guarded A db)
    (hAB : ∀ k, A k → B k) : Guarded B db :=
  { h with held := fun o ho hg => (h.held o ho hg).imp_left (hAB o.key) }

section Writes

variable {A : String × String → Prop} {db db' : Database} {op : Op} {key : String × String}

theorem Guarded.put (h : Guarded A db) {o r : ScheduleOccurrence} (ho : o ∈ db.occurrences)
    (hsame : SameOccurrence o r) (hrow : Gated db o → A o.key ∨ Held r) :
    Guarded A (db.putOccurrence r) := by
  refine ⟨h.schedules, put_unique h.occurrences ho hsame, h.leases, ?_⟩
  intro x hx hgated
  rcases Table.eq_or_mem_of_mem_put hx with rfl | ⟨hx, -⟩
  · have hgated' : Gated db o := by
      obtain ⟨s, hs, hid, hmode⟩ := hgated
      exact ⟨s, hs, hid.trans hsame.scheduleId, hmode⟩
    rw [hsame.key]
    exact hrow hgated'
  · exact h.held x hx hgated

theorem Guarded.effect (h : Guarded A db) (he : Effect env op db db')
    (hrow : ∀ o r, o ∈ db.occurrences → op.target = some o.key → Written env db op o r →
      Gated db o → A o.key ∨ Held r) : Guarded A db' := by
  rcases he with ⟨engagements, orchestration, rfl⟩ |
    ⟨o, r, engagements, orchestration, hmem, htarget, hwritten, rfl⟩
  · exact ⟨h.schedules, h.occurrences, h.leases, h.held⟩
  · have hput := h.put hmem hwritten.same (hrow o r hmem htarget hwritten)
    exact ⟨hput.schedules, hput.occurrences, hput.leases, hput.held⟩

theorem rows_effect {P : ScheduleOccurrence → Prop} (he : Effect env op db db')
    (hP : ∀ o r, Written env db op o r → P o → P r) (h : ∀ o ∈ db.occurrences, o.key = key → P o) :
    ∀ o ∈ db'.occurrences, o.key = key → P o := by
  rcases he with ⟨engagements, orchestration, rfl⟩ |
    ⟨o, r, engagements, orchestration, hmem, htarget, hwritten, rfl⟩
  · exact h
  · intro x hx hkey
    rcases Table.eq_or_mem_of_mem_put hx with rfl | ⟨hx, -⟩
    · exact hP o x hwritten (h o hmem (hwritten.same.key.symm.trans hkey))
    · exact h x hx hkey

theorem effect_schedules (he : Effect env op db db') : db'.schedules = db.schedules := by
  rcases he with ⟨_, _, rfl⟩ | ⟨_, _, _, _, -, -, -, rfl⟩ <;> rfl

theorem effect_cursors (he : Effect env op db db') : db'.cursors = db.cursors := by
  rcases he with ⟨_, _, rfl⟩ | ⟨_, _, _, _, -, -, -, rfl⟩ <;> rfl

theorem gated_congr {r : ScheduleOccurrence} (hs : db'.schedules = db.schedules)
    (h : r.scheduleId = o.scheduleId) : Gated db' r ↔ Gated db o := by
  rw [Gated, Gated, hs, h]

theorem Launchable.effect (h : Launchable A db key) (he : Effect env op db db') :
    Launchable A db' key := by
  intro x hx hkey hgated
  have hrows := rows_effect (P := fun o => Gated db o → A key) he
    (fun o r hw hP hg => hP ((gated_congr rfl hw.same.scheduleId).mp hg)) h
  exact hrows x hx hkey ((gated_congr (effect_schedules he) rfl).mp hgated)

theorem Safe.effect (h : Safe A db key) (he : Effect env op db db') (hd : op.decides = false) :
    Safe A db' key := by
  intro x hx hkey hgated
  have hrows := rows_effect (P := fun o => Gated db o → A key ∨ ¬ Decided o) he ?_ h
  · exact hrows x hx hkey ((gated_congr (effect_schedules he) rfl).mp hgated)
  · intro o r hw hP hg
    have hdecision : r.decisionBy = o.decisionBy := by
      cases hw <;> first | assumption | cases hd
    rw [Decided, hdecision]
    exact hP ((gated_congr rfl hw.same.scheduleId).mp hg)

end Writes

/-! ### Working on one occurrence -/

section Works

variable {A : String × String → Prop} {key : String × String} {w : World} {now : Timestamp}

theorem WorksOn.effect {op : Op} (h : WorksOn key op) (env : Environment) (w : World) :
    Effect env op w.db (exec env op w).2.db :=
  exec_effect h.authoring h.materialization

variable {α : Type} {w' : World} {db : Database} {summary : ScheduleEvaluationSummary}

theorem works_launchable {p : Method α} (hp : p.Calls (WorksOn key)) (hg : Guarded A w.db)
    (hl : Launchable A w.db key) : Guarded A (p.run (exec env) w).2.db := by
  refine (hp.run_keeps (I := fun w : World => Guarded A w.db ∧ Launchable A w.db key) ?_
    ⟨hg, hl⟩).1
  rintro op hop w ⟨hg, hl⟩
  have he := hop.effect env w
  refine ⟨hg.effect he fun o r ho htarget _ hgated => Or.inl ?_, hl.effect he⟩
  have hkey : o.key = key := hop.target o.key htarget
  rw [hkey]
  exact hl o ho hkey hgated

theorem works_safe {p : Method α} (hp : p.Calls (WorksOn key)) {k : String × String}
    (h : Safe A w.db k) : Safe A (p.run (exec env) w).2.db k :=
  hp.run_keeps (I := fun w : World => Safe A w.db k)
    (fun _ hop w h => h.effect (hop.effect env w) hop.decides) h

variable {t i : String} {context : PreflightContext} {granted : Bool}

theorem markWaiting_guarded (hg : Guarded A w.db) :
    Guarded A (exec env (.markWaitingApproval t i) w).2.db := by
  refine hg.effect (exec_effect rfl rfl) fun o r _ _ hw _ => Or.inr ?_
  cases hw with
  | marked _ _ hstatus _ _ => exact .of_waiting hstatus

theorem runPreflight_guarded (hg : Guarded A w.db) (hs : Safe A w.db (t, i)) :
    Guarded A (exec env (.runPreflight t i context now granted) w).2.db := by
  refine hg.effect (exec_effect rfl rfl) fun o r ho htarget hw hgated => ?_
  have hkey : o.key = (t, i) := (Option.some.inj htarget).symm
  rcases hs o ho hkey hgated with hA | hundecided
  · exact Or.inl (hkey ▸ hA)
  · cases hw with
    | blocked _ hstatus hdecision _ =>
      exact Or.inr (.of_undecided (by rwa [Decided, hdecision]) (by simp [hstatus]))
    | waiting _ hstatus _ _ => exact Or.inr (.of_waiting hstatus)
    | passed _ hstatus hdecision _ =>
      refine (hg.held o ho hgated).imp_right fun hheld => ?_
      exact .of_undecided (by rwa [Decided, hdecision]) (by rw [hstatus]; exact hheld.status)

theorem exec_runPreflight_passed
    (h : exec env (.runPreflight t i context now granted) w = (.ok PreflightOutcome.passed, w')) :
    ∃ o r, w.db.getOccurrence t i = some o ∧ Cleared w.db t o context now granted ∧
      w'.db = w.db.putOccurrence r ∧ SameOccurrence o r ∧ r.status = o.status := by
  have hexec : w.commit (runPreflight w.db t i context now granted) = (.ok .passed, w') := h
  rcases hrun : runPreflight w.db t i context now granted with e | ⟨out, db'⟩
  · rw [hrun] at hexec
    cases hexec
  · rw [hrun] at hexec
    cases hexec
    obtain ⟨o, r, ho, heq, hwritten, hcase⟩ := runPreflight_eq_ok env hrun
    rcases hcase with ⟨hout, -⟩ | ⟨hout, -⟩ | ⟨-, hstatus, hcleared⟩
    · cases hout
    · cases hout
    · exact ⟨o, r, ho, hcleared, heq, hwritten.same, hstatus⟩

theorem eq_of_key (hu : UniqueOccurrences db.occurrences) {x : ScheduleOccurrence}
    (ho : o ∈ db.occurrences) (hx : x ∈ db.occurrences) (h : x.key = o.key) : x = o :=
  Table.eq_of_key_eq hu.ids hx ho (congrArg Prod.snd h)

theorem scheduleAndTemplate_eq_some {s : String} {schedule : AuditSchedule}
    {template : EngagementTemplate} (h : scheduleAndTemplate db t s = some (schedule, template)) :
    db.getSchedule t s = some schedule ∧ db.getTemplate t schedule.templateId = some template := by
  obtain ⟨x, hx, hrest⟩ := Option.bind_eq_some_iff.mp h
  obtain ⟨y, hy, heq⟩ := Option.bind_eq_some_iff.mp hrest
  cases heq
  exact ⟨hx, hy⟩

/-- A preflight that passes without a decision has found a schedule that needs none, unless
the schedule asks for the approval before the preflight. -/
theorem launchable_of_passed
    (hg : Guarded A w.db) (hgranted : granted = true → Launchable A w.db (t, i))
    (hmode : granted = false → ∀ o s, w.db.getOccurrence t i = some o →
      w.db.getSchedule t o.scheduleId = some s → s.launchMode ≠ .approvalRequired)
    (h : exec env (.runPreflight t i context now granted) w = (.ok PreflightOutcome.passed, w')) :
    Launchable A w.db (t, i) := by
  cases granted with
  | true => exact hgranted rfl
  | false =>
    obtain ⟨o, -, ho, ⟨schedule, template, report, hfound, -, -, hthen⟩, -⟩ :=
      exec_runPreflight_passed h
    obtain ⟨homem, rfl, rfl⟩ := getOccurrence_eq_some ho
    have hschedule : w.db.getSchedule o.tenantId o.scheduleId = some schedule :=
      (scheduleAndTemplate_eq_some hfound).1
    obtain ⟨hsmem, -, hsid⟩ := getSchedule_eq_some hschedule
    have hautomatic : schedule.launchMode = .automatic := by
      cases hcase : schedule.launchMode with
      | automatic => rfl
      | approvalRequired => exact absurd hcase (hmode rfl o schedule ho hschedule)
      | preflightThenApproval => exact absurd (hthen hcase) Bool.false_ne_true
    intro x hx hkey hgated
    obtain rfl : x = o := eq_of_key hg.occurrences homem hx hkey
    obtain ⟨s, hs, hid, hne⟩ := hgated
    obtain rfl : s = schedule := Table.eq_of_key_eq hg.schedules hs hsmem (hid.trans hsid.symm)
    exact absurd hautomatic hne

theorem runPreflightAndLaunch_guarded (hg : Guarded A w.db) (hs : Safe A w.db (t, i))
    (hgranted : granted = true → Launchable A w.db (t, i))
    (hmode : granted = false → ∀ o s, w.db.getOccurrence t i = some o →
      w.db.getSchedule t o.scheduleId = some s → s.launchMode ≠ .approvalRequired) :
    Guarded A ((runPreflightAndLaunch t i context granted summary).run (exec env) w).2.db := by
  have hpreflight : Guarded A (exec env (.runPreflight t i context (env.clock w.ticks) granted)
      { w with ticks := w.ticks + 1 }).2.db := runPreflight_guarded hg hs
  rw [runPreflightAndLaunch, readClock, Program.run_bind, Program.run_perform]
  dsimp only [exec, World.read]
  rw [Program.run_bind, Program.run_perform]
  rcases hexec : exec env (.runPreflight t i context (env.clock w.ticks) granted)
    { w with ticks := w.ticks + 1 } with ⟨out, w₁⟩
  rw [hexec] at hpreflight
  rcases out with e | out
  · exact hpreflight
  · cases out with
    | blocked => exact hpreflight
    | waiting => exact hpreflight
    | passed =>
      have hl : Launchable A w.db (t, i) :=
        launchable_of_passed (w := { w with ticks := w.ticks + 1 }) hg hgranted hmode hexec
      have heffect : Effect env (.runPreflight t i context (env.clock w.ticks) granted) w.db
          (exec env (.runPreflight t i context (env.clock w.ticks) granted)
            { w with ticks := w.ticks + 1 }).2.db :=
        exec_effect (w := { w with ticks := w.ticks + 1 }) rfl rfl
      rw [hexec] at heffect
      exact works_launchable (attemptLaunch_raises t i summary).calls hpreflight (hl.effect heffect)

/-- **Processing an occurrence** never launches it without its approval: it is launched when
it is automatic, or launching already, or carries a decision, which then is an approval. -/
theorem processOccurrence_guarded (hg : Guarded A w.db) (hs : Safe A w.db (t, i)) :
    Guarded A ((processOccurrence t context summary i).run (exec env) w).2.db := by
  rw [processOccurrence, Program.run_bind, Program.run_perform]
  dsimp only [exec, World.read]
  rcases hread : readOccurrence w.db t i with _ | ⟨o, mode⟩
  · exact hg
  · obtain ⟨o', ho, hrest⟩ := Option.bind_eq_some_iff.mp hread
    obtain ⟨schedule, hschedule, heq⟩ := Option.bind_eq_some_iff.mp hrest
    cases heq
    obtain ⟨hmem, rfl, rfl⟩ := getOccurrence_eq_some ho
    have hdecided : Decided o → Launchable A w.db o.key := by
      intro hd x hx hkey hgated
      obtain rfl : x = o := eq_of_key hg.occurrences hmem hx hkey
      exact (hs x hx rfl hgated).resolve_right (not_not_intro hd)
    dsimp only [processRead]
    split
    · rename_i hlaunching
      refine works_launchable (attemptLaunch_raises o.tenantId o.occurrenceId _).calls hg ?_
      intro x hx hkey hgated
      obtain rfl : x = o := eq_of_key hg.occurrences hmem hx hkey
      exact (hg.held x hx hgated).resolve_right fun hheld => hheld.status.1 hlaunching
    · split
      · rw [Program.run_bind, Program.run_perform]
        have hmark : Guarded A (exec env (.markWaitingApproval o.tenantId o.occurrenceId)
            { w with ticks := w.ticks + 1 }).2.db :=
          markWaiting_guarded (w := { w with ticks := w.ticks + 1 }) hg
        rcases hexec : exec env (.markWaitingApproval o.tenantId o.occurrenceId)
          { w with ticks := w.ticks + 1 } with ⟨written, w₁⟩
        rw [hexec] at hmark
        rcases written with e | written
        · exact hmark
        · exact hmark
      · rename_i hnot
        refine runPreflightAndLaunch_guarded hg hs hdecided fun hgranted x s hx hxs hmode => ?_
        obtain rfl : x = o := Option.some.inj (hx.symm.trans ho)
        obtain rfl : s = schedule := Option.some.inj (hxs.symm.trans hschedule)
        exact hnot ⟨hmode, hgranted⟩

end Works

section Loops

variable {A : String × String → Prop} {w : World} {now : Timestamp}

/-- An evaluation at `now` finds the due date in the window of the schedule. -/
def Finds (env : Environment) (db : Database) (request : EvaluateDue) (now : Timestamp)
    (scheduleId : String) (due : Timestamp) : Prop :=
  ∃ S ∈ db.schedules, S.scheduleId = scheduleId ∧ Covers request S ∧
    ∃ dues, Lists env S (db.position scheduleId) now dues ∧ due ∈ dues

/-- What holds between the operations of an evaluation that began with `db₀`: it is going to find
no occurrence that carries a decision, unless that has been approved. -/
structure Evaluating (env : Environment) (A : String × String → Prop) (request : EvaluateDue)
    (now : Timestamp) (db₀ db : Database) : Prop where
  schedules : db.schedules = db₀.schedules
  position : ∀ s, db.position s = db₀.position s ∨ db.position s = some now
  found : ∀ o ∈ db.occurrences, Gated db o →
    Finds env db₀ request now o.scheduleId o.nominalDue → A o.key ∨ ¬ Decided o

variable {request : EvaluateDue} {db₀ db db' : Database}

theorem Evaluating.effect {op : Op} (h : Evaluating env A request now db₀ db)
    (he : Effect env op db db') (hd : op.decides = false) :
    Evaluating env A request now db₀ db' where
  schedules := (effect_schedules he).trans h.schedules
  position s := by
    have hposition : db'.position s = db.position s := by
      rw [Database.position, Database.position, effect_cursors he]
    rw [hposition]
    exact h.position s
  found := by
    intro x hx hgated
    have hrows : ∀ o ∈ db'.occurrences, o.key = x.key → Gated db o →
        Finds env db₀ request now o.scheduleId o.nominalDue → A o.key ∨ ¬ Decided o := by
      refine rows_effect he ?_ fun o ho _ => h.found o ho
      intro o r hw hP hg hfinds
      have hdecision : r.decisionBy = o.decisionBy := by
        cases hw <;> first | assumption | cases hd
      rw [hw.same.scheduleId, hw.same.nominalDue] at hfinds
      rw [hw.same.key, Decided, hdecision]
      exact hP ((gated_congr rfl hw.same.scheduleId).mp hg) hfinds
    exact hrows x hx rfl ((gated_congr (effect_schedules he) rfl).mp hgated)

variable {t : String} {summary : ScheduleEvaluationSummary}

theorem processOccurrences_guarded {context : PreflightContext} {ids : List String}
    (h : Guarded A w.db ∧ Evaluating env A request now db₀ w.db)
    (hs : ∀ i ∈ ids, Safe A w.db (t, i)) :
    Guarded A ((Program.forEach (processOccurrence t context) ids summary).run (exec env) w).2.db ∧
      Evaluating env A request now db₀
        ((Program.forEach (processOccurrence t context) ids summary).run (exec env) w).2.db := by
  refine (Program.run_forEach_keeps
    (I := fun w : World => (Guarded A w.db ∧ Evaluating env A request now db₀ w.db) ∧
      ∀ i ∈ ids, Safe A w.db (t, i)) ?_ ⟨h, hs⟩).1
  rintro i hi summary w ⟨⟨hg, he⟩, hs⟩
  have hcalls := processOccurrence_calls t context summary i
  refine ⟨⟨processOccurrence_guarded hg (hs i hi), ?_⟩, fun j hj => works_safe hcalls (hs j hj)⟩
  exact hcalls.run_keeps (I := fun w : World => Evaluating env A request now db₀ w.db)
    (fun _ hop w h => h.effect (hop.effect env w) hop.decides) he

theorem safe_of_retryable {scheduleId : Option String} {at' : Timestamp} (hg : Guarded A db)
    (ho : o ∈ db.listRetryableOccurrences t at' scheduleId) : Safe A db (t, o.occurrenceId) := by
  rw [Database.listRetryableOccurrences, Adjudication.mem_orderBy, List.mem_filter] at ho
  obtain ⟨hmem, hprop⟩ := ho
  simp only [decide_eq_true_eq] at hprop
  obtain ⟨rfl, hstatus, -⟩ := hprop
  intro x hx hkey hgated
  obtain rfl : x = o := eq_of_key hg.occurrences hmem hx hkey
  refine (hg.held x hx hgated).imp_right fun hheld hdecided => ?_
  rcases hheld.decided hdecided with hwaiting | hcancelled
  · rw [hwaiting] at hstatus
    exact absurd hstatus (by decide)
  · rw [hcancelled] at hstatus
    exact absurd hstatus (by decide)

/-- An evaluation adds occurrences that nobody has decided on. -/
theorem evaluated_guarded {schedule : AuditSchedule} {dues : List Timestamp}
    {added : List ScheduleOccurrence} {candidateIds : List String}
    (h : Guarded A db ∧ Evaluating env A request now db₀ db) (he : Evaluation db db')
    (hmem : schedule ∈ db₀.schedules) (hcovers : Covers request schedule)
    (hev : Evaluated env schedule now db db' dues added candidateIds) :
    (Guarded A db' ∧ Evaluating env A request now db₀ db') ∧
      ∀ t, ∀ i ∈ candidateIds, Safe A db' (t, i) := by
  obtain ⟨hg, hbegun⟩ := h
  have hschedules : db'.schedules = db.schedules := by rw [he.eq]
  have hnew : ∀ o ∈ added, ¬ Decided o := by
    intro o ho
    simp [Decided, (hev.new o ho).decisionBy, PyString.truthy]
  refine ⟨⟨⟨by rw [hschedules]; exact hg.schedules, he.unique hg.occurrences,
    he.leases hg.leases, ?_⟩, ⟨hschedules.trans hbegun.schedules, ?_, ?_⟩⟩, ?_⟩
  · intro o ho hgated
    rw [hev.occurrences] at ho
    rcases List.mem_append.mp ho with ho | ho
    · exact hg.held o ho ((gated_congr hschedules rfl).mp hgated)
    · refine Or.inr (.of_undecided (hnew o ho) ?_)
      rcases (hev.new o ho).status with hs | hs | hs <;> simp [hs]
  · intro s
    by_cases hs : s = schedule.scheduleId
    · exact Or.inr (hs ▸ hev.position_self)
    · rw [hev.position_other s hs]
      exact hbegun.position s
  · intro o ho hgated
    rw [hev.occurrences] at ho
    rcases List.mem_append.mp ho with ho | ho
    · exact hbegun.found o ho ((gated_congr hschedules rfl).mp hgated)
    · exact fun _ => Or.inr (hnew o ho)
  · intro t i hi x hx hkey hgated
    obtain ⟨o, ho, hid, hschedule, hdue⟩ := hev.candidates i hi
    have hsame : x = o := Table.eq_of_key_eq (he.unique hg.occurrences).ids hx ho
      ((congrArg Prod.snd hkey).trans hid.symm)
    subst hsame
    rw [← hkey]
    rw [hev.occurrences] at ho
    rcases List.mem_append.mp ho with ho | ho
    · -- an old occurrence was to be found when the call began
      refine hbegun.found x ho ((gated_congr hschedules rfl).mp hgated)
        ⟨schedule, hmem, hschedule.symm, hcovers, dues, ?_, hdue⟩
      have hlists := hev.lists
      rw [hschedule]
      rcases hbegun.position schedule.scheduleId with hpos | hpos
      · rwa [hpos] at hlists
      · rw [hpos] at hlists
        rw [hlists.at_now] at hdue
        exact absurd hdue List.not_mem_nil
    · exact Or.inr (hnew x ho)

theorem evaluateSchedule_guarded {S : AuditSchedule} (hS : S ∈ db₀.schedules)
    (hcovers : Covers request S) (h : Guarded A w.db ∧ Evaluating env A request now db₀ w.db) :
    Guarded A ((evaluateSchedule request now summary S.scheduleId).run (exec env) w).2.db ∧
      Evaluating env A request now db₀
        ((evaluateSchedule request now summary S.scheduleId).run (exec env) w).2.db := by
  rw [evaluateSchedule, Program.run_bind, Program.run_perform]
  dsimp only [exec]
  rcases hrun : materializeDueOccurrences env w.db request.tenantId S.scheduleId now
    request.workerId request.leaseSeconds with e | ⟨result, db'⟩
  · exact h
  · obtain ⟨schedule, hschedule, he, hcase⟩ := materialize_eq_ok hrun
    obtain ⟨hmem, -, hid⟩ := getSchedule_eq_some hschedule
    obtain rfl : schedule = S :=
      Table.eq_of_key_eq h.1.schedules hmem (h.2.schedules ▸ hS) hid
    rcases hcase with ⟨hrefused, -⟩ | ⟨dues, added, hev⟩
    · exact absurd h.1.leases hrefused.leased
    · obtain ⟨hkept, hsafe⟩ := evaluated_guarded h he hS hcovers hev
      exact processOccurrences_guarded (w := { db := db', ticks := w.ticks + 1 }) hkept
        (hsafe request.tenantId)

/-- **A call of `evaluate_due`** launches nothing that waits for an approval, if it finds no
occurrence that carries a decision, unless that has been approved. -/
theorem evaluate_guarded (h : Guarded A w.db)
    (hfound : 0 < request.leaseSeconds → ∀ o ∈ w.db.occurrences, Gated w.db o → Decided o →
      Finds env w.db request (env.clock w.ticks) o.scheduleId o.nominalDue → A o.key) :
    Guarded A (w.evaluate env request).db := by
  rw [World.evaluate, evaluateDue_run, evaluateDueAt]
  split
  · exact h
  rename_i hlease
  rw [Program.run_bind, Program.run_perform]
  dsimp only [exec, World.read]
  rcases hlist : listSchedules w.db request.tenantId request.scheduleId with e | scheduleIds
  · exact h
  have hstart : Guarded A w.db ∧ Evaluating env A request (env.clock w.ticks) w.db w.db := by
    refine ⟨h, rfl, fun _ => Or.inl rfl, fun o ho hgated hfinds => ?_⟩
    by_cases hdecided : Decided o
    · exact Or.inl (hfound (not_le.mp hlease) o ho hgated hdecided hfinds)
    · exact Or.inr hdecided
  have hloop : Guarded A ((Program.forEach (evaluateSchedule request (env.clock w.ticks))
        scheduleIds { tenantId := request.tenantId, evaluatedAt := env.clock w.ticks }).run
        (exec env) { w with ticks := w.ticks + 1 + 1 }).2.db ∧
      Evaluating env A request (env.clock w.ticks) w.db
        ((Program.forEach (evaluateSchedule request (env.clock w.ticks)) scheduleIds
          { tenantId := request.tenantId, evaluatedAt := env.clock w.ticks }).run (exec env)
          { w with ticks := w.ticks + 1 + 1 }).2.db := by
    refine Program.run_forEach_keeps (I := fun w' : World =>
      Guarded A w'.db ∧ Evaluating env A request (env.clock w.ticks) w.db w'.db) ?_ hstart
    intro i hi summary w' h'
    obtain ⟨S, hS, hcovers, rfl⟩ := covers_of_listSchedules hlist hi
    exact evaluateSchedule_guarded hS hcovers h'
  dsimp only
  rw [evaluateSchedules, Program.run_bind]
  generalize (Program.forEach (evaluateSchedule request (env.clock w.ticks)) scheduleIds
    { tenantId := request.tenantId, evaluatedAt := env.clock w.ticks }).run (exec env)
    { w with ticks := w.ticks + 1 + 1 } = r at hloop ⊢
  rcases r with ⟨e | summary, w₁⟩
  · exact hloop.1
  · dsimp only at hloop ⊢
    rw [Program.run_bind, Program.run_perform]
    dsimp only [exec, World.read]
    refine (processOccurrences_guarded (w := { w₁ with ticks := w₁.ticks + 1 }) hloop ?_).1
    intro i hi
    obtain ⟨o, ho, rfl⟩ := List.mem_map.mp (List.mem_of_mem_filter hi)
    exact safe_of_retryable hloop.1 ho

end Loops

/-! ### An approval -/

section Approve

variable {A : String × String → Prop} {w : World} {now : Timestamp} {t i : String}
variable {db db' : Database} {op : Op} {w' : World} {summary : ScheduleEvaluationSummary}
  {e : SchedulingError} {decision : OccurrenceDecision}

theorem getOccurrence_of_key (h : (t, i) ∈ db.occurrences.map ScheduleOccurrence.key) :
    ∃ o, db.getOccurrence t i = some o := by
  obtain ⟨o, ho, hkey⟩ := List.mem_map.mp h
  obtain ⟨rfl, rfl⟩ := Prod.mk.inj hkey
  exact Option.isSome_iff_exists.mp (List.find?_isSome.mpr ⟨o, ho, by simp⟩)

theorem getOccurrence_put (hu : UniqueOccurrences db.occurrences) {r : ScheduleOccurrence}
    (ho : db.getOccurrence t i = some o) (hsame : SameOccurrence o r) :
    (db.putOccurrence r).getOccurrence t i = some r := by
  obtain ⟨hmem, rfl, rfl⟩ := getOccurrence_eq_some ho
  have hr : r ∈ (db.putOccurrence r).occurrences := Table.mem_put_self hmem hsame.occurrenceId
  obtain ⟨x, hx⟩ : ∃ x, (db.putOccurrence r).getOccurrence o.tenantId o.occurrenceId = some x := by
    refine getOccurrence_of_key ?_
    rw [← show r.key = (o.tenantId, o.occurrenceId) from hsame.key]
    exact List.mem_map_of_mem hr
  obtain ⟨hxmem, hxt, hxi⟩ := getOccurrence_eq_some hx
  have hput := put_unique hu hmem hsame
  rw [hx, Table.eq_of_key_eq hput.ids hxmem hr (hxi.trans hsame.occurrenceId.symm)]

/-- The row is there, and the retry interval of its schedule can be read. -/
structure Recoverable (key : String × String) (db : Database) : Prop where
  unique : UniqueOccurrences db.occurrences
  present : key ∈ db.occurrences.map ScheduleOccurrence.key
  retry : ∀ o ∈ db.occurrences, o.key = key → ∃ n, launchRetrySeconds
    (((db.getSchedule key.1 o.scheduleId).map (·.preflightPolicy)).getD {}) = .ok n

theorem effect_unique (he : Effect env op db db') (hu : UniqueOccurrences db.occurrences) :
    UniqueOccurrences db'.occurrences := by
  rcases he with ⟨_, _, rfl⟩ | ⟨o, r, _, _, hmem, -, hwritten, rfl⟩
  · exact hu
  · exact put_unique hu hmem hwritten.same

theorem effect_keys (he : Effect env op db db') (hu : UniqueOccurrences db.occurrences) :
    db'.occurrences.map ScheduleOccurrence.key = db.occurrences.map ScheduleOccurrence.key := by
  rcases he with ⟨_, _, rfl⟩ | ⟨o, r, _, _, hmem, -, hwritten, rfl⟩
  · rfl
  · refine Table.map_put fun x hx hid => ?_
    have hxo : x = o := Table.eq_of_key_eq hu.ids hx hmem (hid.trans hwritten.same.occurrenceId)
    rw [hxo, hwritten.same.key]

theorem Recoverable.effect {key : String × String} (h : Recoverable key db)
    (he : Effect env op db db') : Recoverable key db' where
  unique := effect_unique he h.unique
  present := by rw [effect_keys he h.unique]; exact h.present
  retry := by
    intro o ho hkey
    have hschedule : db'.getSchedule key.1 o.scheduleId = db.getSchedule key.1 o.scheduleId := by
      rw [Database.getSchedule, Database.getSchedule, effect_schedules he]
    rw [hschedule]
    refine rows_effect (P := fun o => ∃ n, launchRetrySeconds
      (((db.getSchedule key.1 o.scheduleId).map (·.preflightPolicy)).getD {}) = .ok n) he ?_
      h.retry o ho hkey
    intro o r hw hP
    rwa [hw.same.scheduleId]

theorem failLaunch_returns (h : Recoverable (t, i) db) (error : SchedulingError) (now : Timestamp) :
    ∃ db', failLaunch db t i error now = .ok db' := by
  obtain ⟨o, ho⟩ := getOccurrence_of_key h.present
  obtain ⟨hmem, rfl, rfl⟩ := getOccurrence_eq_some ho
  obtain ⟨n, hn⟩ := h.retry o hmem rfl
  have hn' : launchRetrySeconds (((db.getSchedule o.tenantId o.scheduleId).map
    (·.preflightPolicy)).getD {}) = .ok n := hn
  unfold failLaunch
  rw [ho]
  dsimp only
  rw [hn']
  exact ⟨_, rfl⟩

theorem beginLaunch_recoverable {start : LaunchStart} (hu : UniqueOccurrences w.db.occurrences)
    (h : exec env (.beginLaunch t i now) w = (.ok start, w')) :
    start = .alreadyLaunched ∨ Recoverable (t, i) w'.db := by
  have hexec : w.commit (beginLaunch env w.db t i now) = (.ok start, w') := h
  have heffect : Effect env (.beginLaunch t i now) w.db w'.db := by
    have he : Effect env (.beginLaunch t i now) w.db
        (exec env (.beginLaunch t i now) w).2.db := exec_effect rfl rfl
    rwa [h] at he
  rcases hrun : beginLaunch env w.db t i now with e | ⟨start', db'⟩
  · rw [hrun] at hexec
    cases hexec
  · rw [hrun] at hexec
    cases hexec
    obtain ⟨o, ho, ⟨-, hstart, -⟩ | ⟨-, schedule, template, -, -, -, -, hfound, ⟨n, hn⟩, -⟩⟩ :=
      beginLaunch_eq_ok hrun
    · exact Or.inl hstart
    · obtain ⟨hmem, rfl, rfl⟩ := getOccurrence_eq_some ho
      refine Or.inr (Recoverable.effect ⟨hu, List.mem_map_of_mem hmem, ?_⟩ heffect)
      intro x hx hkey
      obtain rfl : x = o := eq_of_key hu hmem hx hkey
      have hschedule : w.db.getSchedule x.tenantId x.scheduleId = some schedule :=
        (scheduleAndTemplate_eq_some hfound).1
      refine ⟨n, ?_⟩
      show launchRetrySeconds (((w.db.getSchedule x.tenantId x.scheduleId).map
        (·.preflightPolicy)).getD {}) = .ok n
      rw [hschedule]
      exact hn

theorem handler_error {error : SchedulingError} (h : ((do
      let now ← readClock
      Program.perform (Op.failLaunch t i error now)
      return { summary with failures := summary.failures + 1 } :
      Method ScheduleEvaluationSummary)).run (exec env) w = (.error e, w')) :
    w'.db = w.db ∧ ¬ Recoverable (t, i) w.db := by
  rw [readClock, Program.run_bind, Program.run_perform] at h
  dsimp only [exec, World.read] at h
  rw [Program.run_bind, Program.run_perform] at h
  dsimp only [exec] at h
  rcases hfail : failLaunch w.db t i error (env.clock w.ticks) with e' | db'
  · rw [hfail] at h
    cases h
    refine ⟨rfl, fun hrec => ?_⟩
    obtain ⟨db', hok⟩ := failLaunch_returns hrec error (env.clock w.ticks)
    rw [hok] at hfail
    cases hfail
  · rw [hfail] at h
    cases h

theorem launch_error (hu : UniqueOccurrences w.db.occurrences)
    (h : (launch t i).run (exec env) w = (.error e, w')) :
    w'.db = w.db ∨ Recoverable (t, i) w'.db := by
  rw [launch, readClock, Program.run_bind, Program.run_perform] at h
  dsimp only [exec, World.read] at h
  rw [Program.run_bind, Program.run_perform] at h
  rcases hbegin : exec env (.beginLaunch t i (env.clock w.ticks))
    { w with ticks := w.ticks + 1 } with ⟨e' | start, w₁⟩
  · rw [hbegin] at h
    cases h
    have hsame := exec_error hbegin
    exact Or.inl hsame
  · rw [hbegin] at h
    have hbegun : start = .alreadyLaunched ∨ Recoverable (t, i) w₁.db :=
      beginLaunch_recoverable (w := { w with ticks := w.ticks + 1 }) hu hbegin
    cases start with
    | alreadyLaunched => cases h
    | started workflow engagementId =>
      have hrec : Recoverable (t, i) w₁.db := hbegun.resolve_left (by simp)
      have hkeep : Recoverable (t, i) ((finishLaunch t i (env.clock w.ticks) workflow
          engagementId).run (exec env) w₁).2.db :=
        (finishLaunch_raises t i (env.clock w.ticks) workflow engagementId).calls.run_keeps
          (I := fun w : World => Recoverable (t, i) w.db)
          (fun _ hop w h => h.effect (hop.effect env w)) hrec
      dsimp only at h
      rw [h] at hkeep
      exact Or.inr hkeep

theorem attemptLaunch_error (hu : UniqueOccurrences w.db.occurrences)
    (h : (attemptLaunch t i summary).run (exec env) w = (.error e, w')) : w'.db = w.db := by
  unfold attemptLaunch at h
  rw [Program.run_handle, Program.run_bind] at h
  rcases hlaunch : (launch t i).run (exec env) w with ⟨e' | u, w₁⟩
  · rw [hlaunch] at h
    obtain ⟨heq, hnot⟩ := handler_error h
    rw [heq]
    exact (launch_error hu hlaunch).resolve_right hnot
  · rw [hlaunch] at h
    cases h

theorem recordApproval_guarded (hg : Guarded A w.db) :
    Guarded A (exec env (.recordApproval t i decision) w).2.db := by
  refine hg.effect (exec_effect rfl rfl) fun o r _ _ hw _ => Or.inr ?_
  cases hw with
  | approved _ _ hstatus _ _ => exact .of_waiting hstatus

theorem cancel_guarded (hg : Guarded A w.db) :
    Guarded A (exec env (.cancelOccurrence t i decision) w).2.db := by
  refine hg.effect (exec_effect rfl rfl) fun o r _ _ hw _ => Or.inr ?_
  cases hw with
  | cancelled _ _ hstatus _ => exact ⟨by simp [hstatus], fun _ => Or.inr hstatus⟩

theorem runPreflightAndLaunch_error {context : PreflightContext} {granted : Bool}
    (hg : Guarded A w.db) (ho : w.db.getOccurrence t i = some o)
    (hwaiting : o.status = .waitingApproval)
    (h : (runPreflightAndLaunch t i context granted summary).run (exec env) w = (.error e, w')) :
    Guarded A w'.db := by
  rw [runPreflightAndLaunch, readClock, Program.run_bind, Program.run_perform] at h
  dsimp only [exec, World.read] at h
  rw [Program.run_bind, Program.run_perform] at h
  rcases hexec : exec env (.runPreflight t i context (env.clock w.ticks) granted)
    { w with ticks := w.ticks + 1 } with ⟨e' | out, w₁⟩
  · rw [hexec] at h
    cases h
    have hsame : w'.db = w.db := exec_error (w := { w with ticks := w.ticks + 1 }) hexec
    rwa [hsame]
  · rw [hexec] at h
    cases out with
    | blocked => cases h
    | waiting => cases h
    | passed =>
      obtain ⟨x, r, hx, -, hput, hsame, hstatus⟩ :=
        exec_runPreflight_passed (w := { w with ticks := w.ticks + 1 }) hexec
      obtain rfl : x = o := Option.some.inj (hx.symm.trans ho)
      have hpassed : Guarded A w₁.db := by
        rw [hput]
        exact hg.put (getOccurrence_eq_some ho).1 hsame fun _ =>
          Or.inr (.of_waiting (hstatus.trans hwaiting))
      have hattempt : w'.db = w₁.db := attemptLaunch_error hpassed.occurrences h
      rwa [hattempt]

theorem approveOccurrence_calls (t i : String) (decision : OccurrenceDecision) :
    (approveOccurrence t i decision).Calls
      fun op => WorksOn (t, i) op ∨ op = .recordApproval t i decision := by
  unfold approveOccurrence
  refine Calls.bind (Program.calls_perform.mpr (Or.inr rfl)) fun found => ?_
  cases found with
  | some launched => exact trivial
  | none =>
    refine Calls.bind (Program.calls_perform.mpr (Or.inl (worksOn_read rfl rfl))) fun _ => ?_
    refine Calls.bind ?_ fun _ => ?_
    · exact (runPreflightAndLaunch_raises t decision.preflightContext i true _).calls.mono fun _ => Or.inl
    · exact Program.calls_perform.mpr (Or.inl (worksOn_read rfl rfl))

theorem approve_guarded (hg : Guarded A w.db) (decision : OccurrenceDecision) :
    Guarded (fun k => A k ∨ k = (t, i))
      ((approveOccurrence t i decision).run (exec env) w).2.db := by
  refine (approveOccurrence_calls t i decision).run_keeps
    (I := fun w : World => Guarded (fun k => A k ∨ k = (t, i)) w.db) ?_ (hg.mono fun _ => Or.inl)
  rintro op (hop | rfl) w hg
  · exact hg.effect (hop.effect env w) fun o r _ htarget _ _ =>
      Or.inl (Or.inr (hop.target o.key htarget))
  · exact recordApproval_guarded hg

theorem exec_recordApproval_none (hu : UniqueOccurrences w.db.occurrences)
    (h : exec env (.recordApproval t i decision) w = (.ok none, w')) :
    ∃ r, w'.db.getOccurrence t i = some r ∧ r.status = .waitingApproval := by
  have hexec : w.commit (recordApproval w.db t i decision) = (.ok none, w') := h
  rcases hrun : recordApproval w.db t i decision with e | ⟨found, db'⟩
  · rw [hrun] at hexec
    cases hexec
  · rw [hrun] at hexec
    cases hexec
    obtain ⟨o, ho, ⟨-, hfound, -⟩ | ⟨-, r, rfl, hwritten⟩⟩ := recordApproval_eq_ok env hrun
    · cases hfound
    · cases hwritten with
      | approved hsame _ hstatus _ _ => exact ⟨r, getOccurrence_put hu ho hsame, hstatus⟩

/-- **An approval that raises** has approved nothing: the decision stays on a row that
waits, and nothing takes it up. -/
theorem approve_error (hg : Guarded A w.db)
    (h : (approveOccurrence t i decision).run (exec env) w = (.error e, w')) :
    Guarded A w'.db := by
  have hrecord : Guarded A (exec env (.recordApproval t i decision) w).2.db :=
    recordApproval_guarded hg
  rw [approveOccurrence, Program.run_bind, Program.run_perform] at h
  rcases hexec : exec env (.recordApproval t i decision) w with ⟨e' | found, w₁⟩
  · rw [hexec] at h
    cases h
    rwa [exec_error hexec]
  · rw [hexec] at h hrecord
    cases found with
    | some launched => cases h
    | none =>
      obtain ⟨r, hr, hwaiting⟩ := exec_recordApproval_none hg.occurrences hexec
      dsimp only at h
      rw [readClock, Program.run_bind, Program.run_perform] at h
      dsimp only [exec, World.read] at h
      rw [Program.run_bind] at h
      rcases hlaunch : (runPreflightAndLaunch t i decision.preflightContext true
        { tenantId := t, evaluatedAt := env.clock w₁.ticks }).run (exec env)
        { w₁ with ticks := w₁.ticks + 1 } with ⟨e' | summary, w₂⟩
      · rw [hlaunch] at h
        cases h
        exact runPreflightAndLaunch_error (w := { w₁ with ticks := w₁.ticks + 1 }) hrecord hr
          hwaiting hlaunch
      · -- the row is still there when it is read back
        rw [hlaunch] at h
        have hpresent : (t, i) ∈ w₂.db.occurrences.map ScheduleOccurrence.key := by
          have hkeep := (runPreflightAndLaunch_raises t decision.preflightContext i true
            { tenantId := t, evaluatedAt := env.clock w₁.ticks }).calls.run_keeps
            (I := fun w : World => UniqueOccurrences w.db.occurrences ∧
              (t, i) ∈ w.db.occurrences.map ScheduleOccurrence.key)
            (fun op hop w hw => ⟨effect_unique (hop.effect env w) hw.1,
              by rw [effect_keys (hop.effect env w) hw.1]; exact hw.2⟩)
            (s := { w₁ with ticks := w₁.ticks + 1 }) ⟨hrecord.occurrences, ?_⟩
          · rw [hlaunch] at hkeep
            exact hkeep.2
          · obtain ⟨hmem, rfl, rfl⟩ := getOccurrence_eq_some hr
            exact List.mem_map_of_mem hmem
        obtain ⟨x, hx⟩ := getOccurrence_of_key hpresent
        have hend : (Checked.ofOption (.occurrenceNotFound i) (w₂.db.getOccurrence t i) :
            Except SchedulingError ScheduleOccurrence) = .error e := congrArg Prod.fst h
        rw [hx] at hend
        cases hend

end Approve

section Runs

/-- The calls that evaluate, approve and cancel. -/
def Call.operates : Call → Bool
  | .evaluateDue _ | .approveOccurrence .. | .cancelOccurrence .. => true
  | _ => false

/-- The call approves the occurrence and returns. -/
def Approves (env : Environment) (key : String × String) (w : World) (call : Call) : Prop :=
  (∃ decision, call = .approveOccurrence key.1 key.2 decision) ∧ w.Succeeds env call

/-- Schedules that have no occurrences yet, and that no worker holds. -/
structure Untouched (db : Database) : Prop where
  schedules : (db.schedules.map AuditSchedule.scheduleId).Nodup
  leases : db.LeasesFree
  occurrences : db.occurrences = []

/-- No evaluation finds the due date of an occurrence that carries a decision, where an approval
is asked for and none has succeeded before. -/
def FindsApproved (env : Environment) (w : World) (calls : List Call) : Prop :=
  Runs.EachSplit (fun before call => ∀ request, call = .evaluateDue request →
    0 < request.leaseSeconds → ∀ o ∈ (w.run env before).db.occurrences,
      Gated (w.run env before).db o → Decided o →
      Finds env (w.run env before).db request (env.clock (w.run env before).ticks)
        o.scheduleId o.nominalDue →
      Runs.SomeStep (World.perform env) (Approves env o.key) w before) calls

variable {A : String × String → Prop} {w : World}

theorem Untouched.guarded {db : Database} (h : Untouched db) : Guarded A db where
  schedules := h.schedules
  occurrences := by
    rw [h.occurrences]
    exact ⟨List.nodup_nil, List.nodup_nil⟩
  leases := h.leases
  held := by simp [h.occurrences]

theorem run_drop {α : Type} (p : Method α) (w : World) :
    (do let _ ← p : Method Unit).run (exec env) w =
      ((p.run (exec env) w).1.map fun _ => (), (p.run (exec env) w).2) := by
  rw [Program.run_bind]
  rcases p.run (exec env) w with ⟨e | a, w'⟩ <;> rfl

/-- **One call**: what it approves, it approves by returning. -/
theorem perform_guarded {call : Call} (hcall : call.operates = true) (h : Guarded A w.db)
    (hfound : ∀ request, call = .evaluateDue request → 0 < request.leaseSeconds →
      ∀ o ∈ w.db.occurrences, Gated w.db o → Decided o →
        Finds env w.db request (env.clock w.ticks) o.scheduleId o.nominalDue → A o.key) :
    Guarded (fun k => A k ∨ Approves env k w call) (w.perform env call).db := by
  have hmono : ∀ {db : Database}, Guarded A db →
      Guarded (fun k => A k ∨ Approves env k w call) db := fun h => h.mono fun _ => Or.inl
  cases call with
  | evaluateDue request =>
    rw [World.perform, Call.program, run_drop]
    exact hmono (evaluate_guarded h (hfound request rfl))
  | cancelOccurrence t i decision =>
    have hcancelled : Guarded A (exec env (.cancelOccurrence t i decision) w).2.db :=
      cancel_guarded h
    rw [World.perform, Call.program, run_drop]
    exact hmono hcancelled
  | approveOccurrence t i decision =>
    rw [World.perform, Call.program, run_drop]
    rcases hrun : (approveOccurrence t i decision).run (exec env) w with ⟨e | o, w'⟩
    · exact hmono (approve_error h hrun)
    · have happroved : Guarded (fun k => A k ∨ k = (t, i))
          ((approveOccurrence t i decision).run (exec env) w).2.db :=
        approve_guarded h decision
      rw [hrun] at happroved
      refine happroved.mono fun k hk => hk.imp_right ?_
      rintro rfl
      refine ⟨⟨decision, rfl⟩, ?_⟩
      rw [World.Succeeds, Call.program, run_drop, hrun]
      rfl
  | createDraft | revise | approve | disable => cases hcall

theorem run_guarded (h : Untouched w.db) (calls : List Call)
    (hcalls : ∀ c ∈ calls, c.operates = true) (hfound : FindsApproved env w calls) :
    Guarded (fun k => Runs.SomeStep (World.perform env) (Approves env k) w calls)
      (w.run env calls).db := by
  induction calls using List.reverseRecOn with
  | nil => exact h.guarded
  | append_singleton calls call ih =>
    have hbefore := ih (fun c hc => hcalls c (List.mem_append_left _ hc))
      fun before c after heq => hfound before c (after ++ [call]) (by rw [heq]; simp)
    have hstep := perform_guarded (hcalls call (by simp)) hbefore (hfound calls call [] rfl)
    rw [World.run, List.foldl_append]
    refine hstep.mono fun k hk => ?_
    rcases hk with hbefore | hlast
    · exact hbefore.append [call]
    · exact Runs.SomeStep.last hlast

/-- **Launches and approvals.**  In every sequence of evaluations, approvals and cancellations in
which no evaluation finds an unapproved occurrence that carries a decision, an occurrence whose
schedule asks for an approval is launching, launched, or failed in its launch, only after an
approval of it has returned. -/
theorem run_launches_approved (h : Untouched w.db) (calls : List Call)
    (hcalls : ∀ c ∈ calls, c.operates = true) (hfound : FindsApproved env w calls)
    {o : ScheduleOccurrence} (ho : o ∈ (w.run env calls).db.occurrences)
    (hgated : Gated (w.run env calls).db o)
    (hstatus : o.status = .launching ∨ o.status = .launched ∨ o.status = .launchFailed) :
    Runs.SomeStep (World.perform env) (Approves env o.key) w calls := by
  have hguarded := run_guarded h calls hcalls hfound
  refine (hguarded.held o ho hgated).resolve_right fun hheld => ?_
  rcases hstatus with hs | hs | hs
  · exact hheld.status.1 hs
  · exact hheld.status.2.1 hs
  · exact hheld.status.2.2 hs

theorem sampleClock_mono {values : List Timestamp} {ticks : ℕ} {early late : Timestamp}
    (h : early ≤ late) : ∀ m n, m ≤ n → (sampleEnvironment values ticks early late).clock m ≤
      (sampleEnvironment values ticks early late).clock n := by
  intro m n hmn
  show (if m < ticks then early else late) ≤ (if n < ticks then early else late)
  by_cases hn : n < ticks
  · rw [if_pos (lt_of_le_of_lt hmn hn), if_pos hn]
  · rw [if_neg hn]
    split
    · exact h
    · exact le_rfl

def tenEnvironment : Environment :=
  sampleEnvironment sampleValues 0 (sampleTime 10 10) (sampleTime 10 10)

theorem manager_ne_empty : "manager" ≠ "" := by decide

/-- A schedule that asks for an approval. -/
def approvalSample : World where
  db := sampleDatabase [{ sampleSchedule with launchMode := .approvalRequired }]

/-- The schedule is evaluated, its occurrence is approved, and it is evaluated once more. -/
def approvalCalls : List Call :=
  [.evaluateDue { tenantId := "tnt_a" },
   .approveOccurrence "tnt_a" "occ_sch_1|2026-08-10T09:"
     { actorId := "manager", reason := "start", actorId_ne_empty := manager_ne_empty },
   .evaluateDue { tenantId := "tnt_a" }]

theorem approvalCalls_found : FindsApproved tenEnvironment approvalSample approvalCalls := by
  refine Runs.eachSplit_cons.mpr ⟨?_, Runs.eachSplit_cons.mpr ⟨?_, Runs.eachSplit_cons.mpr
    ⟨?_, Runs.eachSplit_nil⟩⟩⟩
  · rintro request - - o ho
    exact absurd ho List.not_mem_nil
  · intro request hcall
    cases hcall
  · -- the cursor stands at the reading of the clock already
    rintro request - - o - - - ⟨S, hS, hid, -, dues, hlists, hdue⟩
    have hposition : ∀ S ∈ (approvalSample.run tenEnvironment (approvalCalls.take 2)).db.schedules,
        (approvalSample.run tenEnvironment (approvalCalls.take 2)).db.position S.scheduleId =
          some (sampleTime 10 10) := by
      decide +kernel
    rw [← hid] at hlists
    have hnow := (hposition S hS) ▸ hlists
    rw [Lists.at_now hnow] at hdue
    exact absurd hdue List.not_mem_nil

theorem run_launches_approved_sample :
    ∃ o ∈ (approvalSample.run tenEnvironment approvalCalls).db.occurrences,
      o.status = .launched ∧ Runs.SomeStep (World.perform tenEnvironment)
        (Approves tenEnvironment o.key) approvalSample approvalCalls := by
  have hfound : ∃ o ∈ (approvalSample.run tenEnvironment approvalCalls).db.occurrences,
      o.status = .launched ∧
      ∃ s ∈ (approvalSample.run tenEnvironment approvalCalls).db.schedules,
        s.scheduleId = o.scheduleId ∧ s.launchMode ≠ .automatic := by
    decide +kernel
  obtain ⟨o, ho, hstatus, hgated⟩ := hfound
  have huntouched : Untouched approvalSample.db :=
    ⟨by decide, fun c hc => absurd hc List.not_mem_nil, rfl⟩
  exact ⟨o, ho, hstatus, run_launches_approved huntouched approvalCalls (by decide)
    approvalCalls_found ho hgated (Or.inr (Or.inl hstatus))⟩

/-- Berlin in the second half of 2026: on 25 October, at one o'clock UTC, the clocks are set back
from three to two. -/
def berlinZone : Zone where
  toLocal t :=
    if t < sampleTime 86 1 then { wall := t + 2 * 3600000000, fold := false }
    else { wall := t + 3600000000, fold := t < sampleTime 86 2 }
  toUtc l :=
    if l.wall < sampleTime 86 2 ∨ (l.wall < sampleTime 86 3 ∧ l.fold = false) then
      l.wall - 2 * 3600000000
    else l.wall - 3600000000

/-- Five past two on 25 October, on the wall. -/
def fivePastTwo : ℤ := sampleTime 86 2 + seconds 300

/-- The clock begins at twenty past midnight UTC, and six minutes pass with every operation. -/
def berlinEnvironment : Environment :=
  { tenEnvironment with
    clock := fun n => sampleTime 86 0 + seconds (1200 + 360 * n)
    engine :=
      { sampleEngine [] with
        zoneInfo := fun name => if name = "Europe/Berlin" then some berlinZone else none
        between := fun _ _ _ start stop =>
          .ok (if start.wall ≤ fivePastTwo ∧ fivePastTwo ≤ stop.wall then
            [.reading { wall := fivePastTwo, fold := false }] else []) } }

def berlinSchedule : AuditSchedule :=
  { sampleSchedule with
    recurrenceRule := "FREQ=DAILY;BYHOUR=2;BYMINUTE=5"
    timezone := "Europe/Berlin"
    effectiveFrom := sampleTime 85 22
    effective_window := no_effectiveUntil
    launchMode := .approvalRequired }

def berlinWorld : World where
  db := sampleDatabase [berlinSchedule]

/-- The occurrence is cancelled, and the schedule is evaluated again and again. -/
def berlinCalls : List Call :=
  [.evaluateDue { tenantId := "tnt_a" },
   .cancelOccurrence "tnt_a" "occ_sch_1|2026-10-25T00:"
     { actorId := "manager", reason := "not now", actorId_ne_empty := manager_ne_empty },
   .evaluateDue { tenantId := "tnt_a" }, .evaluateDue { tenantId := "tnt_a" },
   .evaluateDue { tenantId := "tnt_a" }]

theorem berlinClock_mono (m n : ℕ) (h : m ≤ n) :
    berlinEnvironment.clock m ≤ berlinEnvironment.clock n := by
  have hseconds : seconds (1200 + 360 * m) ≤ seconds (1200 + 360 * n) := by
    show (1200 + 360 * (m : ℤ)) * 1000000 ≤ (1200 + 360 * (n : ℤ)) * 1000000
    omega
  exact Int.add_le_add_left hseconds _

/-- In the hour that is repeated the cancelled occurrence is found again; its launch fails, and a
retry launches it. -/
theorem launched_after_set_back :
    Untouched berlinWorld.db ∧ (∀ c ∈ berlinCalls, c.operates = true) ∧
    (∀ m n, m ≤ n → berlinEnvironment.clock m ≤ berlinEnvironment.clock n) ∧
    ∃ o ∈ (berlinWorld.run berlinEnvironment berlinCalls).db.occurrences,
      Gated (berlinWorld.run berlinEnvironment berlinCalls).db o ∧ o.status = .launched ∧
      ¬ Runs.SomeStep (World.perform berlinEnvironment) (Approves berlinEnvironment o.key)
        berlinWorld berlinCalls := by
  have hlaunched : ∃ o ∈ (berlinWorld.run berlinEnvironment berlinCalls).db.occurrences,
      (∃ s ∈ (berlinWorld.run berlinEnvironment berlinCalls).db.schedules,
        s.scheduleId = o.scheduleId ∧ s.launchMode ≠ .automatic) ∧ o.status = .launched := by
    decide +kernel
  obtain ⟨o, ho, hgated, hstatus⟩ := hlaunched
  refine ⟨⟨by decide, fun c hc => absurd hc List.not_mem_nil, rfl⟩, by decide, berlinClock_mono,
    o, ho, hgated, hstatus, ?_⟩
  rintro ⟨before, call, after, heq, ⟨decision, rfl⟩, -⟩
  have hmem : Call.approveOccurrence o.key.1 o.key.2 decision ∈ berlinCalls := by
    rw [heq]
    simp
  simp [berlinCalls] at hmem

end Runs

end Scheduling
