/-
No engagement gets stuck.

A quiescent engagement has no pending task that could be blocked or promoted.
If every finished prerequisite of a pending task ended in a status that the
dependency allows (`Agreeing`), then a pending task has, further up the
dependency graph, a task that is still active (`Quiescent.active_of_pending`):
the argument goes up the graph along the rank that `WellFormed.acyclic` gives.

A success or a skip that a pending dependant does not accept is neither allowed
nor a failure, so it leaves the dependant pending for good; `OutcomeAccepted` is the
condition that no call produces one.
-/
import AssuranceOS.Orchestration.Engagements

namespace Orchestration

/-- A finished prerequisite of a pending task has an allowed status. -/
def Agreeing (db : Database) : Prop :=
  ∀ d ∈ db.dependencies, ∀ u ∈ db.tasks, u.taskId = d.taskId → u.status = .pending →
    ∀ p ∈ db.tasks, p.taskId = d.dependsOnTaskId → p.status = .succeeded ∨ p.status = .skipped →
      p.status ∈ d.allowedStatuses

variable {db : Database}
variable {u : EngagementTask} {E : String} {call : Timestamp × Op} {db' : Database}

theorem WellFormed.parent (hwf : WellFormed db) {d : TaskDependency} (hd : d ∈ db.dependencies)
    (hu : u ∈ db.tasks) (hid : d.taskId = u.taskId) :
    ∃ p ∈ db.tasks, p.taskId = d.dependsOnTaskId ∧ p.engagementId = u.engagementId := by
  obtain ⟨t, ht, p, hp, htid, hpid, -, hE⟩ := hwf.dependencyEnds d hd
  have htu : t = u := hwf.eq_of_taskId ht hu (htid.trans hid)
  exact ⟨p, hp, hpid, htu ▸ hE⟩

theorem TaskStatus.cases_four (s : TaskStatus) :
    s = .pending ∨ s.isActive = true ∨ (s = .succeeded ∨ s = .skipped) ∨ s.isFailure = true := by
  cases s <;> simp [TaskStatus.isActive, TaskStatus.isFailure]

/-- **Progress.**  In a quiescent engagement a pending task waits for an active
one. -/
theorem Quiescent.active_of_pending (hquiet : Quiescent db E) (hwf : WellFormed db)
    (hagree : Agreeing db) (hu : u ∈ db.tasks) (hE : u.engagementId = E)
    (hpending : u.status = .pending) :
    ∃ t ∈ db.tasks, t.engagementId = E ∧ t.status.isActive = true := by
  obtain ⟨rank, hrank⟩ := hwf.acyclic
  -- induction on the rank of the pending task
  induction hn : rank u.taskId using Nat.strong_induction_on generalizing u with
  | _ n ih =>
    obtain ⟨hclear, hunsat⟩ := hquiet u hu hE hpending
    unfold Satisfied at hunsat
    push Not at hunsat
    obtain ⟨d, hd, hid, hnone⟩ := hunsat
    obtain ⟨p, hp, hpid, hpE⟩ := hwf.parent hd hu hid
    have hlt : rank p.taskId < n := by
      rw [hpid, ← hn, ← hid]
      exact hrank d hd
    rcases p.status.cases_four with hs | hs | hs | hs
    · -- the prerequisite itself waits, at a lower rank
      exact ih _ hlt hp (hpE.trans hE) hs rfl
    · exact ⟨p, hp, hpE.trans hE, hs⟩
    · exact absurd (hagree d hd u hu hid.symm hpending p hp hpid hs) (hnone p hp hpid)
    · exact absurd ⟨d, hd, hid, p, hp, hpid, hs⟩ hclear

/-- Every task that waits for the task acted on accepts the outcome. -/
def OutcomeAccepted (db : Database) (call : Timestamp × Op) : Prop :=
  ∀ t ∈ db.tasks, ∀ d ∈ db.dependencies, d.dependsOnTaskId = t.taskId →
    (∃ u ∈ db.tasks, u.taskId = d.taskId ∧ u.status = .pending) →
      (call.2.acts call.1 t .complete ∨ call.2.acts call.1 t .accept →
        .succeeded ∈ d.allowedStatuses) ∧
      (call.2.acts call.1 t .forceSkip → .skipped ∈ d.allowedStatuses)

section Steps

variable {now : Timestamp} {k : MoveKind} {t t' : EngagementTask} {db : Database}

theorem TaskStep.not_pending (h : TaskStep now db t t' k) : t'.status ≠ .pending := by
  cases h <;> rename_i become <;> rw [become.status] <;> simp

theorem TaskStep.of_succeeded (h : TaskStep now db t t' k) (hs : t'.status = .succeeded) :
    k = .complete ∨ k = .accept := by
  cases h with
  | complete => exact Or.inl rfl
  | accept => exact Or.inr rfl
  | _ =>
    rename_i become
    exact absurd (become.status.symm.trans hs) (by simp)

theorem TaskStep.of_skipped (h : TaskStep now db t t' k) (hs : t'.status = .skipped) :
    k = .forceSkip := by
  cases h with
  | forceSkip => rfl
  | _ =>
    rename_i become
    exact absurd (become.status.symm.trans hs) (by simp)

end Steps

theorem step_agreeing (hwf : WellFormed db) (hagree : Agreeing db) (hok : OutcomeAccepted db call) :
    Agreeing (step db call) := by
  refine step_invariant_move hwf hagree ?_ ?_
  · -- the new tasks are all pending, and nothing waits for a task of another engagement
    intro tenantId engagementId rows deps db' hc d hd u hu hid hpending p hp hpid hdone
    rw [hc.dependencies, List.mem_append] at hd
    rcases hc.mem_tasks.mp hp with hpold | hpnew
    · rcases hd with hd | hd
      · rcases hc.mem_tasks.mp hu with huold | hunew
        · exact hagree d hd u huold hid hpending p hpold hpid hdone
        · obtain ⟨v, hv, -, -, hvid, -⟩ := hwf.dependencyEnds d hd
          exact absurd (hvid.trans hid.symm) (hc.fresh u hunew v hv)
      · obtain ⟨-, -, r, hr, hrid⟩ := hc.ends d hd
        exact absurd (hpid.trans hrid.symm) (hc.fresh r hr p hpold)
    · rw [(hc.new p hpnew).status] at hdone
      simp at hdone
  · intro db₁ db₂ hwf₁ hagree₁ hmove d hd u hu hid hpending p hp hpid hdone
    cases hmove with
    | engagement move =>
      rw [move.dependencies] at hd
      rw [move.tasks] at hu hp
      exact hagree₁ d hd u hu hid hpending p hp hpid hdone
    | @task k t t' allowed move =>
      rw [move.dependencies] at hd
      -- the pending task is not the one that moves
      have hu₁ : u ∈ db₁.tasks := by
        obtain ⟨v, hv, -, ⟨rfl, -⟩ | ⟨-, rfl⟩⟩ := move.preimage hwf₁ hu
        · exact hv
        · exact absurd hpending move.step.not_pending
      obtain ⟨q, hq, hsame, ⟨rfl, -⟩ | ⟨rfl, rfl⟩⟩ := move.preimage hwf₁ hp
      · exact hagree₁ d hd u hu₁ hid hpending p hq hpid hdone
      · have hqid : d.dependsOnTaskId = q.taskId := hpid.symm.trans hsame.taskId
        rcases hdone with hs | hs
        · rcases move.step.of_succeeded hs with rfl | rfl
          · obtain ⟨rfl, hacts⟩ := allowed
            rw [hs]
            exact (hok q hq d hd hqid ⟨u, hu₁, hid, hpending⟩).1 (Or.inl hacts)
          · obtain ⟨rfl, hacts⟩ := allowed
            rw [hs]
            exact (hok q hq d hd hqid ⟨u, hu₁, hid, hpending⟩).1 (Or.inr hacts)
        · obtain rfl := move.step.of_skipped hs
          obtain ⟨rfl, hacts⟩ := allowed
          rw [hs]
          exact (hok q hq d hd hqid ⟨u, hu₁, hid, hpending⟩).2 hacts

/-! ### Quiescent engagements -/

def Quiet (db : Database) (e : Engagement) : Prop :=
  e.status ≠ .planned → e.status ≠ .cancelled → Quiescent db e.engagementId

theorem Quiescent.of_tasks (h : Quiescent db E)
    (hdeps : ∀ d ∈ db'.dependencies, (∃ u ∈ db.tasks, u.engagementId = E ∧ u.taskId = d.taskId) →
      d ∈ db.dependencies)
    (hdeps' : ∀ d ∈ db.dependencies, d ∈ db'.dependencies)
    (htasks : ∀ t : EngagementTask, t.engagementId = E → (t ∈ db'.tasks ↔ t ∈ db.tasks))
    (hwf' : WellFormed db') : Quiescent db' E := by
  intro u hu hE hpending
  have hu₀ := (htasks u hE).mp hu
  obtain ⟨hclear, hunsat⟩ := h u hu₀ hE hpending
  constructor
  · rintro ⟨d, hd, hid, p, hp, hpid, hfail⟩
    have hd₀ := hdeps d hd ⟨u, hu₀, hE, hid.symm⟩
    obtain ⟨q, hq, hqid, hqE⟩ := hwf'.parent hd hu hid
    -- prerequisites stay within the engagement
    have hpq : p = q := hwf'.eq_of_taskId hp hq (hpid.trans hqid.symm)
    subst hpq
    exact hclear ⟨d, hd₀, hid, p, (htasks p (hqE.trans hE)).mp hp, hpid, hfail⟩
  · intro hsat
    refine hunsat fun d hd hid => ?_
    obtain ⟨p, hp, hpid, hstatus⟩ := hsat d (hdeps' d hd) hid
    obtain ⟨q, hq, hqid, hqE⟩ := hwf'.parent (hdeps' d hd) hu hid
    have hpq : p = q := hwf'.eq_of_taskId hp hq (hpid.trans hqid.symm)
    subst hpq
    exact ⟨p, (htasks p (hqE.trans hE)).mp hp, hpid, hstatus⟩

theorem quiet_framed : Framed Quiet := by
  intro S db db' f hwf hwf' hlocal hout _ h hplanned hcancelled
  refine (h hplanned hcancelled).of_tasks ?_ ?_ ?_ hwf'
  · intro d hd _
    rw [hlocal.dependencies] at hd
    exact hd
  · intro d hd
    rw [hlocal.dependencies]
    exact hd
  · intro t hE
    exact hlocal.tasks t (hE ▸ hout)

theorem Reconciled.quiescent {now : Timestamp} {e : Engagement} (h : Reconciled now e db db') :
    Quiescent db' e.engagementId := by
  obtain ⟨db₁, -, -, hquiet, hclosing⟩ := h
  cases hclosing with
  | untouched _ eq =>
    rw [eq]
    exact hquiet
  | settled e' _ move =>
    intro t ht hE hpending
    rw [move.tasks] at ht
    unfold Obstructed Satisfied
    rw [move.tasks, move.dependencies]
    exact hquiet t ht hE hpending

section Effects

variable {now : Timestamp} {op : Op} {db db' : Database} (hwf : WellFormed db)
  (hI : ∀ e ∈ db.engagements, Quiet db e)
include hwf hI

variable {tenantId : String}

theorem Compiled.quiet {engagementId : String} {rows : List EngagementTask}
    {deps : List TaskDependency} (h : Compiled now tenantId engagementId rows deps db db')
    (hsynced : ∀ e ∈ db.engagements, Synced db e) : ∀ e ∈ db'.engagements, Quiet db' e := by
  intro e he hplanned hcancelled
  rw [h.engagements] at he
  have hne := h.ne_of_hasTask hwf he (hsynced e he hplanned hcancelled).2
  refine (hI e he hplanned hcancelled).of_tasks ?_ ?_ ?_ (h.wellFormed hwf)
  · rintro d hd ⟨u, hu, -, hid⟩
    rw [h.dependencies, List.mem_append] at hd
    refine hd.resolve_right fun hnew => ?_
    obtain ⟨-, ⟨r, hr, hrid⟩, -⟩ := h.ends d hnew
    exact h.fresh r hr u hu (hid.trans hrid.symm)
  · intro d hd
    rw [h.dependencies]
    exact List.mem_append_left _ hd
  · intro t hE
    rw [h.mem_tasks]
    refine ⟨fun ht => ht.resolve_right fun hnew => ?_, Or.inl⟩
    exact hne (hE.symm.trans (h.new t hnew).engagementId)

theorem Started.quiet (h : Started now db db') : ∀ e ∈ db'.engagements, Quiet db' e := by
  obtain ⟨e, e', db₁, move, -, -, -, -, reconciled⟩ := h
  refine quiet_framed.forall_of_local hwf (reconciled.wellFormed (move.wellFormed hwf))
    (started_localTo move reconciled hwf) hI ?_
  intro f _ hid _ _
  rw [hid, ← move.engagementId]
  exact reconciled.quiescent

theorem Acted.quiet (h : Acted now op db db') : ∀ e ∈ db'.engagements, Quiet db' e := by
  obtain ⟨k, t, t', e, db₁, -, -, move, owner, reconciled⟩ := h
  refine quiet_framed.forall_of_local hwf (reconciled.wellFormed (move.wellFormed hwf))
    (acted_localTo move owner reconciled hwf) hI ?_
  intro f _ hid _ _
  rw [hid]
  exact reconciled.quiescent

theorem Retried.quiet (h : Retried now op db db') : ∀ e ∈ db'.engagements, Quiet db' e := by
  obtain ⟨t, t', e, e', db₁, db₂, -, move, owner, reopen, -, -, reconciled⟩ := h
  have hwf₁ := move.wellFormed hwf
  refine quiet_framed.forall_of_local hwf (reconciled.wellFormed (reopen.wellFormed hwf₁))
    (retried_localTo move owner reopen reconciled hwf) hI ?_
  intro f _ hid _ _
  rw [hid, ← reopen.engagementId]
  exact reconciled.quiescent

theorem Cancelled.quiet (h : Cancelled now db db') : ∀ e ∈ db'.engagements, Quiet db' e := by
  obtain ⟨e, e', db₁, path, move, status, -, -⟩ := h
  have hwf₁ := path.path.wellFormed hwf
  refine quiet_framed.forall_of_local hwf (move.wellFormed hwf₁)
    (cancelled_localTo path move hwf) hI ?_
  intro f hf hid _ hcancelled
  rcases (move.mem_engagements hwf₁).mp hf with rfl | ⟨hf₁, hne⟩
  · exact absurd status hcancelled
  · exact absurd (hwf₁.eq_of_engagementId hf₁ move.mem hid) hne

theorem TaskMove.quiet_active {k : MoveKind} {t t' : EngagementTask}
    (h : TaskMove now k t t' db db') (hactive : t'.status.isActive = true) :
    ∀ e ∈ db'.engagements, Quiet db' e := by
  refine quiet_framed.forall_of_local hwf (h.wellFormed hwf) (h.localTo hwf) hI ?_
  intro e he _ hplanned hcancelled u' hu' hE hpending
  rw [h.engagements] at he
  obtain ⟨u, hu, -, ⟨rfl, -⟩ | ⟨-, rfl⟩⟩ := h.preimage hwf hu'
  · obtain ⟨hclear, hunsat⟩ := hI e he hplanned hcancelled u' hu hE hpending
    have hrest : (t'.status ≠ .succeeded ∧ t'.status ≠ .skipped) ∧
        t'.status.isFailure = false := by
      cases hs : t'.status <;> simp_all [TaskStatus.isActive, TaskStatus.isFailure]
    refine ⟨?_, fun hsat => hunsat (h.satisfied_back hwf hrest.1 hsat)⟩
    rintro ⟨d, hd, hid, p', hp', hpid, hfail⟩
    rw [h.dependencies] at hd
    obtain ⟨p, hp, -, ⟨rfl, -⟩ | ⟨-, rfl⟩⟩ := h.preimage hwf hp'
    · exact hclear ⟨d, hd, hid, p', hp, hpid, hfail⟩
    · rw [hrest.2] at hfail
      exact absurd hfail (by simp)
  · rw [hpending] at hactive
    exact absurd hactive (by simp [TaskStatus.isActive])

include hI in
theorem Synced.terminal {e : Engagement} (hsynced : Synced db e) (hagree : Agreeing db)
    (he : e ∈ db.engagements) (hrest : e.status = .completed ∨ e.status = .failed) :
    ∀ s, StatusIn db e.engagementId s → s.isTerminal = true := by
  have hplanned : e.status ≠ .planned := by rcases hrest with hs | hs <;> simp [hs]
  have hcancelled : e.status ≠ .cancelled := by rcases hrest with hs | hs <;> simp [hs]
  have htarget := (hsynced hplanned hcancelled).1.symm
  rintro s ⟨u, hu, hE, rfl⟩
  rcases hrest with hs | hs
  · rw [hs, targetOf_eq_completed hwf he] at htarget
    rcases htarget _ ⟨u, hu, hE, rfl⟩ with hdone | hdone <;> rw [hdone] <;> rfl
  · rw [hs, targetOf_eq_failed hwf he] at htarget
    have hquiet := htarget.2 _ ⟨u, hu, hE, rfl⟩
    -- it would wait for an active task, and there is none
    have hpending : u.status ≠ .pending := by
      intro hp
      obtain ⟨t, ht, htE, hactive⟩ :=
        (hI e he hplanned hcancelled).active_of_pending hwf hagree hu hE hp
      rw [htarget.2 _ ⟨t, ht, htE, rfl⟩] at hactive
      exact absurd hactive (by simp)
    cases hst : u.status <;> simp_all [TaskStatus.isActive, TaskStatus.isTerminal]

omit hI in
theorem sweep_terminal {E : String} (h : TaskPath now (SweepOf tenantId) db db')
    (hterm : ∀ s, StatusIn db E s → s.isTerminal = true) :
    ∀ s, StatusIn db' E s → s.isTerminal = true := by
  induction h with
  | refl => exact hterm
  | tail hpath hlast ih =>
    obtain ⟨k, t, t', ⟨-, hk⟩, hmove⟩ := hlast
    have hwf₁ := (TaskPath.path hpath).wellFormed hwf
    -- a sweep moves no terminal task
    have hE : t.engagementId ≠ E := by
      intro hE
      have ht := ih t.status ⟨t, hmove.mem, hE, rfl⟩
      have hinactive : t.status.isActive = false := by
        cases hs : t.status <;> simp_all [TaskStatus.isActive, TaskStatus.isTerminal]
      rw [(hmove.sweep_overdue hk hinactive).1] at ht
      exact absurd ht (by simp)
    intro s hs
    exact ih s (((hmove.localTo hwf₁).statusIn (fun hmem => hE hmem.symm) s).mp hs)

theorem Ticked.quiet (hsynced : ∀ e ∈ db.engagements, Synced db e) (hagree : Agreeing db)
    (h : Ticked now tenantId db db') :
    ∀ e ∈ db'.engagements, Quiet db' e := by
  refine h.forall hwf hsynced quiet_framed hI ?_ ?_
  · intro e db₁ db₂ f _ _ _ hrec _ _ hid _ _
    rw [hid]
    exact hrec.quiescent
  · intro db₁ f sweep hf hactive hplanned hcancelled
    have hrest : f.status = .completed ∨ f.status = .failed := by
      cases hs : f.status <;> simp_all [Database.isActive]
    have hterm := sweep_terminal hwf sweep
      ((hsynced f hf).terminal hwf hI hagree hf hrest)
    intro u hu hE hpending
    have hu' := hterm u.status ⟨u, hu, hE, rfl⟩
    rw [hpending] at hu'
    exact absurd hu' (by simp [TaskStatus.isTerminal])

theorem Effect.quiet (hsynced : ∀ e ∈ db.engagements, Synced db e) (hagree : Agreeing db)
    (h : Effect now op db db') : ∀ e ∈ db'.engagements, Quiet db' e := by
  cases h with
  | compiled tenantId engagementId rows deps compiled => exact compiled.quiet hwf hI hsynced
  | started started => exact started.quiet hwf hI
  | ticked tenantId ticked => exact ticked.quiet hwf hI hsynced hagree
  | claimed tenantId workerId leaseSeconds filter lease call positive claimed =>
    cases claimed with
    | idle eq =>
      rw [eq]
      exact hI
    | leased t t' lease best move _ _ =>
      cases move.step with
      | claim _ _ _ _ become => exact move.quiet_active hwf hI (by rw [become.status]; rfl)
  | extended t t' move =>
    cases move.step with
    | heartbeat _ _ become => exact move.quiet_active hwf hI (by rw [become.status]; rfl)
  | acted acted => exact acted.quiet hwf hI
  | retried retried => exact retried.quiet hwf hI
  | cancelled cancelled => exact cancelled.quiet hwf hI

end Effects

def Progressing (db : Database) : Prop :=
  Agreeing db ∧ (∀ e ∈ db.engagements, Synced db e) ∧ ∀ e ∈ db.engagements, Quiet db e

theorem Fresh.progressing (h : Fresh db) : Progressing db := by
  refine ⟨?_, fun e he hplanned => ?_, fun e he hplanned => ?_⟩
  · intro d hd
    rw [h.dependencies] at hd
    exact absurd hd List.not_mem_nil
  · exact absurd (h.planned e he).1 hplanned
  · exact absurd (h.planned e he).1 hplanned

theorem step_progressing (hwf : WellFormed db) (hI : Progressing db)
    (hok : OutcomeAccepted db call) : Progressing (step db call) := by
  obtain ⟨hagree, hsynced, hquiet⟩ := hI
  refine ⟨step_agreeing hwf hagree hok, ?_⟩
  refine step_invariant_exec (I := fun db => (∀ e ∈ db.engagements, Synced db e) ∧
    ∀ e ∈ db.engagements, Quiet db e) ⟨hsynced, hquiet⟩ fun db' hexec => ?_
  have heffect := exec_effect hwf hexec
  exact ⟨heffect.synced hwf hsynced, heffect.quiet hwf hquiet hsynced hagree⟩

/-- **No engagement gets stuck.**  In every state reached by a run in which every
success and every skip is accepted by the tasks that wait for it, a started
engagement that is not cancelled has no pending task, or it has a task that is
ready, running, waiting for a retry or waiting for approval. -/
theorem run_not_stuck {db : Database} (hfresh : Fresh db) {calls : List (Timestamp × Op)}
    (hok : Runs.EachStep step OutcomeAccepted db calls) :
    ∀ e ∈ (run db calls).engagements, e.status ≠ .planned → e.status ≠ .cancelled →
      (∀ t ∈ (run db calls).tasks, t.engagementId = e.engagementId → t.status ≠ .pending) ∨
      ∃ t ∈ (run db calls).tasks, t.engagementId = e.engagementId ∧
        (t.status = .ready ∨ t.status = .running ∨ t.status = .retryWait ∨
          t.status = .waitingApproval) := by
  have hwf : WellFormed (run db calls) := run_wellFormed hfresh.wellFormed
  obtain ⟨hagree, -, hquiet⟩ := run_invariant_step (fun _ _ => step_progressing)
    hfresh.wellFormed hfresh.progressing hok
  intro e he hplanned hcancelled
  by_cases hpending : ∃ u ∈ (run db calls).tasks, u.engagementId = e.engagementId ∧
      u.status = .pending
  · obtain ⟨u, hu, hE, hs⟩ := hpending
    obtain ⟨t, ht, htE, hactive⟩ :=
      (hquiet e he hplanned hcancelled).active_of_pending hwf hagree hu hE hs
    refine Or.inr ⟨t, ht, htE, ?_⟩
    cases hst : t.status <;> simp_all [TaskStatus.isActive]
  · push Not at hpending
    exact Or.inl hpending

/-- The first task is skipped; the second waits for its success. -/
def skippedFirst : List (Timestamp × Op) :=
  sampleStart ++ [(2, .forceSkipTask "tenant" "collect" "admin" "not needed")]

/-- The second task is pending and nothing in the engagement is active. -/
theorem skipped_prerequisite_strands :
    ¬ ∀ calls, ∀ e ∈ (run sampleDatabase calls).engagements,
      e.status ≠ .planned → e.status ≠ .cancelled →
      (∀ t ∈ (run sampleDatabase calls).tasks, t.engagementId = e.engagementId →
        t.status ≠ .pending) ∨
      ∃ t ∈ (run sampleDatabase calls).tasks, t.engagementId = e.engagementId ∧
        (t.status = .ready ∨ t.status = .running ∨ t.status = .retryWait ∨
          t.status = .waitingApproval) := by
  intro h
  obtain ⟨e, he, hrunning, hid⟩ : ∃ e ∈ (run sampleDatabase skippedFirst).engagements,
      e.status = .running ∧ e.engagementId = "engagement" := by decide +kernel
  obtain ⟨u, hu, hpending, huE⟩ : ∃ t ∈ (run sampleDatabase skippedFirst).tasks,
      t.status = .pending ∧ t.engagementId = "engagement" := by decide +kernel
  have hrest : ∀ t ∈ (run sampleDatabase skippedFirst).tasks,
      t.status = .pending ∨ t.status = .skipped := by decide +kernel
  rcases h skippedFirst e he (by simp [hrunning]) (by simp [hrunning]) with hnone | hactive
  · exact hnone u hu (huE.trans hid.symm) hpending
  · obtain ⟨t, ht, -, hs⟩ := hactive
    rcases hrest t ht with hst | hst <;> simp [hst] at hs

def completedFirst : List (Timestamp × Op) :=
  sampleStart ++
    [(2, .claimNext "tenant" "worker" 10 {}),
      (3, .completeTask "tenant" "collect" "worker" {})]

/-- The second task accepts the success of the first. -/
theorem run_not_stuck_completed :
    ∃ e ∈ (run sampleDatabase completedFirst).engagements, e.status = .running ∧
      ((∀ t ∈ (run sampleDatabase completedFirst).tasks, t.engagementId = e.engagementId →
          t.status ≠ .pending) ∨
        ∃ t ∈ (run sampleDatabase completedFirst).tasks, t.engagementId = e.engagementId ∧
          (t.status = .ready ∨ t.status = .running ∨ t.status = .retryWait ∨
            t.status = .waitingApproval)) := by
  obtain ⟨e, he, hrunning⟩ : ∃ e ∈ (run sampleDatabase completedFirst).engagements,
      e.status = .running := by decide +kernel
  refine ⟨e, he, hrunning, run_not_stuck sampleDatabase_fresh ?_ e he (by simp [hrunning])
    (by simp [hrunning])⟩
  refine ⟨?_, ?_, ?_, ?_, trivial⟩
  case refine_4 =>
    have hallowed : ∀ d ∈ (run sampleDatabase (completedFirst.take 3)).dependencies,
        TaskStatus.succeeded ∈ d.allowedStatuses := by decide +kernel
    intro t _ d hd _ _
    refine ⟨fun _ => hallowed d hd, ?_⟩
    rintro ⟨-, -, -, h⟩
    unfold completeKind at h
    split at h <;> simp at h
  all_goals exact fun _ _ _ _ _ _ => ⟨fun h => h.elim False.elim False.elim, fun h => h.elim⟩

end Orchestration
