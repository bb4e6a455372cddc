/-
Cancelled engagements stay at rest.

A claim looks at the task rows only, so nothing of a cancelled engagement is
leased as long as none of its tasks becomes ready.  The administrative calls
are the ones that can do that: a forced retry makes a task ready whatever its
engagement is, and a forced skip runs the reconciliation, which promotes what
it finds (tasks compiled after the cancellation).  `CancelKept` excludes these;
every other call keeps a cancelled engagement at rest.
-/
import AssuranceOS.Orchestration.Skips

namespace Orchestration

/-- No task of a cancelled engagement is ready, running, or on its way there. -/
def AtRest (db : Database) (e : Engagement) : Prop :=
  e.status = .cancelled → ∀ s, StatusIn db e.engagementId s → s.isActive = false

theorem atRest_framed : Framed AtRest := by
  intro S db db' f _ _ hlocal hout _ h hc s hs
  exact h hc s ((hlocal.statusIn hout s).mp hs)

variable {db : Database}
variable {now : Timestamp} {db' : Database} {E : String}

theorem Reconciled.not_cancelled {e f : Engagement} (h : Reconciled now e db db')
    (hwf : WellFormed db) (htask : HasTask db e.engagementId) (hlive : e.status ≠ .cancelled)
    (hf : f ∈ db'.engagements) (hid : f.engagementId = e.engagementId) : f.status ≠ .cancelled := by
  rcases h.row hwf htask hf hid with ⟨-, hc⟩ | ⟨-, hstatus, -⟩
  · exact absurd hc hlive
  · rw [hstatus]
    exact engagementTarget_live.2

theorem Move.cancelled {allows : Database → MoveKind → EngagementTask → Prop}
    (h : Move now allows db db') (hwf : WellFormed db)
    (hc : ∃ e ∈ db.engagements, e.engagementId = E ∧ e.status = .cancelled) :
    ∃ e ∈ db'.engagements, e.engagementId = E ∧ e.status = .cancelled := by
  obtain ⟨e, he, hid, hstatus⟩ := hc
  cases h with
  | task _ move => exact ⟨e, by rw [move.engagements]; exact he, hid, hstatus⟩
  | @engagement f f' move =>
    by_cases hef : e = f
    · subst hef
      refine ⟨f', (move.mem_engagements hwf).mpr (Or.inl rfl), move.engagementId.trans hid, ?_⟩
      cases move.step with
      | start planned => exact absurd (planned.symm.trans hstatus) (by simp)
      | settle settle => exact absurd hstatus settle.live
      | cancel live => exact absurd hstatus live.2
      | reopen status => exact status.trans hstatus
    · exact ⟨e, (move.mem_engagements hwf).mpr (Or.inr ⟨he, hef⟩), hid, hstatus⟩

theorem run_cancelled (hwf : WellFormed db)
    (hc : ∃ e ∈ db.engagements, e.engagementId = E ∧ e.status = .cancelled)
    (calls : List (Timestamp × Op)) :
    ∃ e ∈ (run db calls).engagements, e.engagementId = E ∧ e.status = .cancelled := by
  refine run_invariant_move_always
    (I := fun db => ∃ e ∈ db.engagements, e.engagementId = E ∧ e.status = .cancelled) ?_ ?_ hwf hc
    calls
  · intro now tenantId engagementId rows deps db db' _ hc hcompiled
    rw [hcompiled.engagements]
    exact hc
  · intro now op db₀ db db' hwf hc hmove
    exact hmove.cancelled hwf hc

/-- No forced retry in a cancelled engagement, and no forced skip there that
releases a task that is still in time. -/
def CancelKept (db : Database) (call : Timestamp × Op) : Prop :=
  ∀ t ∈ db.tasks, ∀ e ∈ db.engagements, e.engagementId = t.engagementId →
    e.status = .cancelled → ¬ call.2.acts call.1 t .forceRetry ∧
      (call.2.acts call.1 t .forceSkip → ∀ u ∈ db.tasks, u.engagementId = t.engagementId →
        u.taskId ≠ t.taskId → u.status = .pending → SatisfiedSkipping db t u →
          elapsed u.deadlineAt call.1)

section Effects

variable {now : Timestamp} {op : Op} {db db' : Database}
variable {tenantId : String}

theorem Compiled.atRest {engagementId : String} {rows : List EngagementTask}
    {deps : List TaskDependency} (h : Compiled now tenantId engagementId rows deps db db')
    (hI : ∀ e ∈ db.engagements, AtRest db e) : ∀ e ∈ db'.engagements, AtRest db' e := by
  intro e he hc s hs
  rw [h.engagements] at he
  obtain ⟨u, hu, hE, rfl⟩ := hs
  rcases h.mem_tasks.mp hu with hold | hnew
  · exact hI e he hc _ ⟨u, hold, hE, rfl⟩
  · rw [(h.new u hnew).status]
    rfl

variable (hwf : WellFormed db) (hI : ∀ e ∈ db.engagements, AtRest db e)
include hwf hI

theorem Started.atRest (h : Started now db db') : ∀ e ∈ db'.engagements, AtRest db' e := by
  obtain ⟨e, e', db₁, move, -, htasks, hrunning, -, reconciled⟩ := h
  have hwf₁ := move.wellFormed hwf
  refine atRest_framed.forall_of_local hwf (reconciled.wellFormed hwf₁)
    (started_localTo move reconciled hwf) hI ?_
  intro f hf hid hc
  refine absurd hc (reconciled.not_cancelled hwf₁ ?_ (by simp [hrunning]) hf
    (hid.trans move.engagementId.symm))
  obtain ⟨t, ht⟩ := List.exists_mem_of_ne_nil _ htasks
  obtain ⟨ht, hE⟩ := (hwf.mem_listTasks move.mem).mp ht
  exact ⟨t, by rw [move.tasks]; exact ht, hE.trans move.engagementId.symm⟩

theorem TaskMove.atRest_active {k : MoveKind} {t t' : EngagementTask}
    (h : TaskMove now k t t' db db') (hactive : t.status.isActive = true) :
    ∀ e ∈ db'.engagements, AtRest db' e := by
  refine atRest_framed.forall_of_local hwf (h.wellFormed hwf) (h.localTo hwf) hI ?_
  intro e he hid hc
  rw [h.engagements] at he
  rw [hI e he hc t.status ⟨t, h.mem, hid.symm, rfl⟩] at hactive
  exact absurd hactive (by simp)

/-- The sweeps of `tick` at most fail overdue tasks of a cancelled engagement. -/
theorem Ticked.atRest (hsynced : ∀ e ∈ db.engagements, Synced db e)
    (h : Ticked now tenantId db db') : ∀ e ∈ db'.engagements, AtRest db' e := by
  refine h.forall hwf hsynced atRest_framed hI ?_ ?_
  · intro e db₁ db₂ f _ hactive hwf₁ hrec htask hf hid hc
    have hlive : e.status ≠ .cancelled := by
      intro hs
      simp [hs, Database.isActive] at hactive
    exact absurd hc (hrec.not_cancelled hwf₁ htask hlive hf hid)
  · intro db₁ f sweep hf _ hc
    induction sweep with
    | refl => exact hI f hf hc
    | tail hpath hlast ih =>
      obtain ⟨k, t, t', ⟨-, hk⟩, hmove⟩ := hlast
      exact hmove.sweep_inactive ((TaskPath.path hpath).wellFormed hwf) hk ih

theorem Acted.atRest (hok : CancelKept db (now, op)) (h : Acted now op db db') :
    ∀ e ∈ db'.engagements, AtRest db' e := by
  obtain ⟨k, t, t', e, db₁, acts, hretry, move, owner, reconciled⟩ := h
  have hwf₁ := move.wellFormed hwf
  have he : e ∈ db.engagements := acted_mem move reconciled
  refine atRest_framed.forall_of_local hwf (reconciled.wellFormed hwf₁)
    (acted_localTo move owner reconciled hwf) hI ?_
  intro f hf hid hc
  have htask : HasTask db₁ e.engagementId :=
    ⟨t', move.new_mem, move.same.engagementId.trans owner.symm⟩
  -- the engagement was cancelled before, so the call is a forced skip
  have hcancelled : e.status = .cancelled := by
    by_contra hlive
    exact reconciled.not_cancelled hwf₁ htask hlive hf hid hc
  have hrest := hI e he hcancelled
  rcases acts_active acts hretry with rfl | hactive
  · have hlate := (hok t move.mem e he owner hcancelled).2 acts
    have hstalled : Stalled now e.engagementId db₁ := by
      rw [owner]
      refine move.stalled_skip hwf (fun u hu huE _ => ?_) hlate
      exact hrest u.status ⟨u, hu, huE.trans owner.symm, rfl⟩
    rw [hid]
    exact (reconciled.stalled hwf₁ hstalled).1
  · rw [hrest t.status ⟨t, move.mem, owner.symm, rfl⟩] at hactive
    exact absurd hactive (by simp)

theorem Retried.atRest (hok : CancelKept db (now, op)) (h : Retried now op db db') :
    ∀ e ∈ db'.engagements, AtRest db' e := by
  obtain ⟨t, t', e, e', db₁, db₂, acts, move, owner, reopen, status, -, reconciled⟩ := h
  have hwf₁ := move.wellFormed hwf
  have hwf₂ := reopen.wellFormed hwf₁
  refine atRest_framed.forall_of_local hwf (reconciled.wellFormed hwf₂)
    (retried_localTo move owner reopen reconciled hwf) hI ?_
  intro f hf hid hc
  have he := reopen.mem
  rw [move.engagements] at he
  have hlive : e'.status ≠ .cancelled := by
    rw [status]
    intro hs
    exact (hok t move.mem e he owner hs).1 acts
  refine absurd hc (reconciled.not_cancelled hwf₂ ⟨t', ?_, ?_⟩ hlive hf
    (hid.trans reopen.engagementId.symm))
  · rw [reopen.tasks]
    exact move.new_mem
  · rw [move.same.engagementId, reopen.engagementId, owner]

theorem Cancelled.atRest (h : Cancelled now db db') : ∀ e ∈ db'.engagements, AtRest db' e := by
  obtain ⟨e, e', db₁, path, move, -, -, settled⟩ := h
  have hwf₁ := path.path.wellFormed hwf
  refine atRest_framed.forall_of_local hwf (move.wellFormed hwf₁)
    (cancelled_localTo path move hwf) hI ?_
  rintro f - hid - s ⟨u, hu, huE, rfl⟩
  rw [move.tasks] at hu
  have hterm := settled u hu (huE.trans hid)
  cases hs : u.status <;> simp_all [TaskStatus.isTerminal, TaskStatus.isActive]

theorem Effect.atRest (hsynced : ∀ e ∈ db.engagements, Synced db e)
    (hok : CancelKept db (now, op)) (h : Effect now op db db') :
    ∀ e ∈ db'.engagements, AtRest db' e := by
  cases h with
  | compiled tenantId engagementId rows deps compiled => exact compiled.atRest hI
  | started started => exact started.atRest hwf hI
  | ticked tenantId ticked => exact ticked.atRest hwf hI hsynced
  | claimed tenantId workerId leaseSeconds filter lease call positive claimed =>
    cases claimed with
    | idle eq =>
      rw [eq]
      exact hI
    | leased t t' lease best move _ _ =>
      cases move.step with
      | claim _ _ ready => exact move.atRest_active hwf hI (by rw [ready]; rfl)
  | extended t t' move =>
    cases move.step with
    | heartbeat _ running => exact move.atRest_active hwf hI (by rw [running]; rfl)
  | acted acted => exact acted.atRest hwf hI hok
  | retried retried => exact retried.atRest hwf hI hok
  | cancelled cancelled => exact cancelled.atRest hwf hI

end Effects

theorem run_atRest (hfresh : Fresh db) {calls : List (Timestamp × Op)}
    (hok : Runs.EachStep step CancelKept db calls) :
    ∀ e ∈ (run db calls).engagements, AtRest (run db calls) e := by
  have hI : (∀ e ∈ db.engagements, Synced db e) ∧ ∀ e ∈ db.engagements, AtRest db e := by
    constructor
    · intro e he hplanned _
      exact absurd (hfresh.planned e he).1 hplanned
    · intro e he hc
      exact absurd ((hfresh.planned e he).1.symm.trans hc) (by simp)
  refine (run_invariant_exec (I := fun db => (∀ e ∈ db.engagements, Synced db e) ∧
    ∀ e ∈ db.engagements, AtRest db e) ?_ hfresh.wellFormed hI hok).2
  intro db now op db' hwf hI hcall hexec
  have heffect := exec_effect hwf hexec
  exact ⟨heffect.synced hwf hI.1, heffect.atRest hwf hI.2 hI.1 hcall⟩

/-- **Cancelled for good.**  After an engagement is cancelled, and as long as no
administrative call takes one of its tasks up again, no task of it is ready or
running and no claim leases one. -/
theorem run_cancelled_at_rest {db : Database} (hfresh : Fresh db)
    {before later : List (Timestamp × Op)}
    (hok : Runs.EachStep step CancelKept db (before ++ later)) {e : Engagement}
    (he : e ∈ (run db before).engagements) (hcancelled : e.status = .cancelled) :
    (∀ t ∈ (run db (before ++ later)).tasks, t.engagementId = e.engagementId →
      t.status ≠ .ready ∧ t.status ≠ .running) ∧
    ∀ now tenantId workerId leaseSeconds filter db' lease,
      Orchestrator.claimNext (run db (before ++ later)) now tenantId workerId leaseSeconds filter
        = .ok (db', some lease) → lease.engagementId ≠ e.engagementId := by
  have hwf : WellFormed (run db before) := run_wellFormed hfresh.wellFormed
  have happend : run db (before ++ later) = run (run db before) later := List.foldl_append
  have hrest := run_atRest hfresh hok
  rw [happend] at hrest ⊢
  have hwf' : WellFormed (run (run db before) later) := run_wellFormed hwf
  -- the row may change later on, but it stays cancelled
  obtain ⟨f, hf, hid, hfc⟩ := run_cancelled hwf ⟨e, he, rfl, hcancelled⟩ later
  have hquiet : ∀ t ∈ (run (run db before) later).tasks, t.engagementId = e.engagementId →
      t.status.isActive = false := by
    intro t ht hE
    exact hrest f hf hfc t.status ⟨t, ht, hE.trans hid.symm, rfl⟩
  constructor
  · intro t ht hE
    have hactive := hquiet t ht hE
    constructor
    · intro hs
      simp [hs, TaskStatus.isActive] at hactive
    · intro hs
      simp [hs, TaskStatus.isActive] at hactive
  · intro now tenantId workerId leaseSeconds filter db' lease hclaim hE
    obtain ⟨-, hclaimed⟩ := claimNext_claimed hwf' hclaim
    cases hclaimed with
    | leased t t' lease best move _ engagementId =>
      -- a claim starts from a ready task
      cases move.step with
      | claim _ _ ready =>
        have hactive := hquiet t move.mem (engagementId.symm.trans hE)
        simp [ready, TaskStatus.isActive] at hactive

def cancelledFailed : List (Timestamp × Op) :=
  sampleFailed ++ [(4, .cancelEngagement "tenant" "engagement" "sponsor" "out of scope")]

def retriedCancelled : List (Timestamp × Op) :=
  [(5, .forceRetryTask "tenant" "collect" "admin" "fixed"),
    (6, .claimNext "tenant" "worker" 10 {})]

/-- A task of a cancelled engagement runs. -/
theorem retried_cancelled_task_runs :
    ¬ ∀ before later, ∀ e ∈ (run sampleDatabase before).engagements, e.status = .cancelled →
      (∀ t ∈ (run sampleDatabase (before ++ later)).tasks, t.engagementId = e.engagementId →
        t.status ≠ .ready ∧ t.status ≠ .running) ∧
      ∀ now tenantId workerId leaseSeconds filter db' lease,
        Orchestrator.claimNext (run sampleDatabase (before ++ later)) now tenantId workerId
          leaseSeconds filter = .ok (db', some lease) → lease.engagementId ≠ e.engagementId := by
  intro h
  obtain ⟨e, he, hcancelled, hid⟩ : ∃ e ∈ (run sampleDatabase cancelledFailed).engagements,
      e.status = .cancelled ∧ e.engagementId = "engagement" := by decide +kernel
  obtain ⟨t, ht, hrunning, hE⟩ :
      ∃ t ∈ (run sampleDatabase (cancelledFailed ++ retriedCancelled)).tasks,
        t.status = .running ∧ t.engagementId = "engagement" := by decide +kernel
  exact ((h cancelledFailed retriedCancelled e he hcancelled).1 t ht (hE.trans hid.symm)).2
    hrunning

def cancelledRunning : List (Timestamp × Op) :=
  sampleStart ++
    [(2, .claimNext "tenant" "worker" 10 {}),
      (3, .cancelEngagement "tenant" "engagement" "sponsor" "out of scope")]

def lateCalls : List (Timestamp × Op) :=
  [(4, .tick "tenant"), (5, .completeTask "tenant" "collect" "worker" {}),
    (6, .claimNext "tenant" "worker" 10 {})]

/-- Nothing of the engagement runs after them. -/
theorem run_cancelled_at_rest_late :
    ∃ e ∈ (run sampleDatabase cancelledRunning).engagements, e.status = .cancelled ∧
      ∀ t ∈ (run sampleDatabase (cancelledRunning ++ lateCalls)).tasks,
        t.engagementId = e.engagementId → t.status ≠ .ready ∧ t.status ≠ .running := by
  obtain ⟨e, he, hcancelled⟩ : ∃ e ∈ (run sampleDatabase cancelledRunning).engagements,
      e.status = .cancelled := by decide +kernel
  refine ⟨e, he, hcancelled, (run_cancelled_at_rest sampleDatabase_fresh ?_ he hcancelled).1⟩
  have hcomplete : ∀ t, completeKind t ≠ .forceRetry ∧ completeKind t ≠ .forceSkip := by
    intro t
    unfold completeKind
    split <;> simp
  refine ⟨?_, ?_, ?_, ?_, ?_, ?_, ?_, trivial⟩
  case refine_6 =>
    intro t _ e _ _ _
    constructor
    · rintro ⟨-, -, -, h⟩
      exact (hcomplete t).1 h.symm
    · rintro ⟨-, -, -, h⟩
      exact absurd h.symm (hcomplete t).2
  all_goals exact fun _ _ _ _ _ _ => ⟨fun h => h, fun h => h.elim⟩

end Orchestration
