/-
What the reconciliation of an engagement does.

`reconcileEngagement` is a sequence of the four reconciliation moves on tasks
of the engagement (`ReconcileOf`), after which no pending task of the
engagement can move (`Quiescent`), followed by one write to the engagement row
that gives it the status its tasks call for.  The `while changed` loop of the
source is a `Saturate.loop`; its measure is the number of pending tasks.
-/
import AssuranceOS.Orchestration.Moves

namespace Orchestration

open Orchestrator

/-- `deps` lists exactly the dependencies of the tasks of engagement `E`. -/
def DependenciesOf (deps : List TaskDependency) (db : Database) (E : String) : Prop :=
  ∀ t ∈ db.tasks, t.engagementId = E → ∀ d, d.taskId = t.taskId →
    (d ∈ deps ↔ d ∈ db.dependencies)

theorem dependenciesOf_listDependencies {db : Database} (hwf : WellFormed db) {e : Engagement}
    (he : e ∈ db.engagements) :
    DependenciesOf (db.listDependencies e.tenantId e.engagementId) db e.engagementId := by
  intro t ht hE d hdt
  simp only [Database.listDependencies, List.mem_insertionSort, List.mem_filter,
    decide_eq_true_eq, List.any_eq_true]
  constructor
  · exact fun hd => hd.1
  · intro hd
    obtain ⟨u, hu, -, -, hud, -, hten, -⟩ := hwf.dependencyEnds d hd
    have hut : u = t := hwf.eq_of_taskId hu ht (hud.trans hdt)
    refine ⟨hd, ?_, t, ht, hdt.symm, hE⟩
    rw [← hten, hut, hwf.tenant_eq he ht hE]

section Tests

variable {db : Database} {deps : List TaskDependency} {E : String} {t : EngagementTask}

theorem dependenciesSatisfied_iff (hwf : WellFormed db) (hdeps : DependenciesOf deps db E)
    (ht : t ∈ db.tasks) (hE : t.engagementId = E) :
    dependenciesSatisfied db (deps.filter fun d => d.taskId = t.taskId) ↔ Satisfied db t := by
  simp only [dependenciesSatisfied, List.all_eq_true, List.mem_filter, decide_eq_true_eq,
    Option.any_eq_true]
  constructor
  · intro h d hd hdt
    obtain ⟨p, hp, hs⟩ := h d ⟨(hdeps t ht hE d hdt).mpr hd, hdt⟩
    obtain ⟨hp, hid⟩ := hwf.findTask_eq_some.mp hp
    exact ⟨p, hp, hid, hs⟩
  · rintro h d ⟨hd, hdt⟩
    obtain ⟨p, hp, hid, hs⟩ := h d ((hdeps t ht hE d hdt).mp hd) hdt
    exact ⟨p, hwf.findTask_eq_some.mpr ⟨hp, hid⟩, hs⟩

theorem dependencyRows_any_iff (hwf : WellFormed db) (hdeps : DependenciesOf deps db E)
    (ht : t ∈ db.tasks) (hE : t.engagementId = E) :
    (((deps.filter fun d => d.taskId = t.taskId).filterMap fun d =>
      db.findTask d.dependsOnTaskId).any fun row => row.status.isFailure) ↔ Obstructed db t := by
  simp only [List.any_eq_true, List.mem_filterMap, List.mem_filter, decide_eq_true_eq]
  constructor
  · rintro ⟨p, ⟨d, ⟨hd, hdt⟩, hp⟩, hfail⟩
    obtain ⟨hp, hid⟩ := hwf.findTask_eq_some.mp hp
    exact ⟨d, (hdeps t ht hE d hdt).mp hd, hdt, p, hp, hid, hfail⟩
  · rintro ⟨d, hd, hdt, p, hp, hid, hfail⟩
    exact ⟨p, ⟨d, ⟨(hdeps t ht hE d hdt).mpr hd, hdt⟩,
      hwf.findTask_eq_some.mpr ⟨hp, hid⟩⟩, hfail⟩

end Tests

/-- The reconciliation moves of tasks of engagement `E`. -/
abbrev ReconcileOf (E : String) : Database → MoveKind → EngagementTask → Prop :=
  fun _ k t => k.isReconcile ∧ t.engagementId = E

/-- No pending task of the engagement can be blocked or promoted. -/
def Quiescent (db : Database) (E : String) : Prop :=
  ∀ t ∈ db.tasks, t.engagementId = E → t.status = .pending →
    ¬ Obstructed db t ∧ ¬ Satisfied db t

section OneTask

variable {now : Timestamp} {db db' : Database} {deps : List TaskDependency} {E : String}
  {t t' : EngagementTask}

theorem taskMove_pending {k : MoveKind} {reason : TransitionReason} (ht : t ∈ db.tasks)
    (hpending : t.status = .pending) (hk : k.isReconcile) (hstep : TaskStep now db t t' k)
    (happroved : reason ≠ .humanGateApproved) (hrejected : reason ≠ .humanGateRejected) :
    TaskMove now k t t' db
      (recordTaskTransition (db.putTask t') now t' .pending reason .none) where
  mem := ht
  step := hstep
  tasks := rfl
  engagements := rfl
  dependencies := rfl
  attempts := by
    have hkept : AttemptsKept t t' db.attempts db.attempts :=
      .refl (by simp [hpending]) db.attempts
    cases k <;> simp only [MoveKind.isReconcile] at hk <;> exact hkept
  event := by
    refine ⟨_, ?_, rfl⟩
    refine ⟨rfl, hpending.symm, rfl, rfl, ?_, ?_, ?_⟩
    · rintro rfl
      exact hk
    · refine ⟨fun h => absurd h happroved, ?_⟩
      rintro (rfl | rfl)
      · exact hk.elim
      · exact hk.elim
    · refine ⟨fun h => absurd h hrejected, ?_⟩
      rintro rfl
      exact hk.elim

theorem promote_step (now : Timestamp) (hpending : t.status = .pending) (hsat : Satisfied db t) :
    ∃ k, k.isReconcile ∧ TaskStep now db t (promote now t).1 k ∧
      (promote now t).2 ≠ .humanGateApproved ∧ (promote now t).2 ≠ .humanGateRejected := by
  unfold promote
  split
  · rename_i hlate
    refine ⟨.lapse, trivial, .lapse hpending hsat hlate ?_, by simp, by simp⟩
    exact ⟨⟨rfl, rfl, rfl, rfl, rfl, rfl, rfl⟩, rfl, rfl, rfl, rfl, rfl⟩
  · rename_i hlate
    split
    · rename_i hgate
      refine ⟨.wait, trivial, .wait hpending hsat hlate ⟨hgate.1, hgate.2.1⟩ ?_, by simp, by simp⟩
      exact ⟨⟨rfl, rfl, rfl, rfl, rfl, rfl, rfl⟩, rfl, rfl, rfl, rfl, rfl⟩
    · rename_i hgate
      have hopen : GatedBefore t → t.reviewStatus = some .approved := by
        rintro ⟨h1, h2⟩
        by_contra hne
        exact hgate ⟨h1, h2, hne⟩
      refine ⟨.release, trivial, .release hpending hsat hlate hopen ?_, by simp, by simp⟩
      exact ⟨⟨rfl, rfl, rfl, rfl, rfl, rfl, rfl⟩, rfl, rfl, rfl, rfl, rfl⟩

theorem reconcileTask_eq_some (hwf : WellFormed db) (hdeps : DependenciesOf deps db E)
    (ht : t ∈ db.tasks) (hE : t.engagementId = E)
    (h : reconcileTask deps now db t.taskId = some db') :
    ∃ k t', k.isReconcile ∧ t.status = .pending ∧ TaskMove now k t t' db db' := by
  rw [reconcileTask, hwf.findTask_eq_some.mpr ⟨ht, rfl⟩] at h
  dsimp only at h
  split at h
  · exact absurd h (by simp)
  · rename_i hpend
    have hpending : t.status = .pending := by simpa using hpend
    split at h
    · rename_i hobs
      have hobs' := (dependencyRows_any_iff hwf hdeps ht hE).mp hobs
      rw [Option.some_inj] at h
      subst h
      refine ⟨.block, _, trivial, hpending, taskMove_pending ht hpending trivial ?_ ?_ ?_⟩
      · refine .block hpending hobs' ?_
        exact ⟨⟨rfl, rfl, rfl, rfl, rfl, rfl, rfl⟩, rfl, rfl, rfl, rfl, rfl⟩
      · simp
      · simp
    · split at h
      · exact absurd h (by simp)
      · rename_i hsat
        have hsat' := (dependenciesSatisfied_iff hwf hdeps ht hE).mp (by simpa using hsat)
        obtain ⟨k, hk, hstep, happ, hrej⟩ := promote_step now hpending hsat'
        rw [Option.some_inj] at h
        subst h
        exact ⟨k, _, hk, hpending, taskMove_pending ht hpending hk hstep happ hrej⟩

theorem reconcileTask_eq_none (hwf : WellFormed db) (hdeps : DependenciesOf deps db E)
    (ht : t ∈ db.tasks) (hE : t.engagementId = E) (hpending : t.status = .pending)
    (h : reconcileTask deps now db t.taskId = none) : ¬ Obstructed db t ∧ ¬ Satisfied db t := by
  rw [reconcileTask, hwf.findTask_eq_some.mpr ⟨ht, rfl⟩] at h
  dsimp only at h
  rw [if_neg (by simp [hpending])] at h
  split at h
  · exact absurd h (by simp)
  · rename_i hobs
    refine ⟨fun hc => hobs ((dependencyRows_any_iff hwf hdeps ht hE).mpr hc), fun hc => ?_⟩
    rw [if_neg (by simpa using (dependenciesSatisfied_iff hwf hdeps ht hE).mpr hc)] at h
    exact absurd h (by simp)

end OneTask

section Loop

variable {now : Timestamp} {db db' : Database} {E : String}
variable {k : MoveKind} {t t' : EngagementTask}

theorem TaskStep.leaves_pending (hk : k.isReconcile) (h : TaskStep now db t t' k) :
    t.status = .pending ∧ t'.status ≠ .pending := by
  cases h with
  | block pending _ become => exact ⟨pending, by rw [become.status]; decide⟩
  | lapse pending _ _ become => exact ⟨pending, by rw [become.status]; decide⟩
  | wait pending _ _ _ become => exact ⟨pending, by rw [become.status]; decide⟩
  | release pending _ _ _ become => exact ⟨pending, by rw [become.status]; decide⟩
  | _ => exact hk.elim

/-- The loop invariant: `deps` and `taskIds` keep describing the engagement. -/
structure LoopState (deps : List TaskDependency) (taskIds : List String) (E : String)
    (db : Database) : Prop where
  wellFormed : WellFormed db
  dependencies : DependenciesOf deps db E
  ids : ∀ id, id ∈ taskIds ↔ ∃ t ∈ db.tasks, t.engagementId = E ∧ t.taskId = id

/-- The measure of the loop: how many of the tasks are pending. -/
def pendingCount (taskIds : List String) (db : Database) : Nat :=
  taskIds.countP fun id => (db.findTask id).any fun t => t.status = .pending

variable {deps : List TaskDependency} {taskIds : List String}

theorem LoopState.next (hs : LoopState deps taskIds E db) (hmove : TaskMove now k t t' db db') :
    LoopState deps taskIds E db' where
  wellFormed := hmove.wellFormed hs.wellFormed
  dependencies := by
    intro u' hu' hE d hd
    obtain ⟨u, hu, hsame, -⟩ := hmove.preimage hs.wellFormed hu'
    rw [hmove.dependencies]
    exact hs.dependencies u hu (hsame.engagementId.symm.trans hE) d (hd.trans hsame.taskId)
  ids := by
    intro id
    rw [hs.ids id]
    constructor
    · rintro ⟨u, hu, hE, hid⟩
      obtain ⟨u', hu', hsame, -⟩ := hmove.image hs.wellFormed hu
      exact ⟨u', hu', hsame.engagementId.trans hE, hsame.taskId.trans hid⟩
    · rintro ⟨u', hu', hE, hid⟩
      obtain ⟨u, hu, hsame, -⟩ := hmove.preimage hs.wellFormed hu'
      exact ⟨u, hu, hsame.engagementId.symm.trans hE, hsame.taskId.symm.trans hid⟩

/-- Every change of the loop is a reconciliation move, keeps the loop
invariant and lowers the measure. -/
theorem change_spec (hs : LoopState deps taskIds E db)
    (h : Saturate.Change (reconcileTask deps now) taskIds db db') :
    TaskChange now (ReconcileOf E) db db' ∧ LoopState deps taskIds E db' ∧
      pendingCount taskIds db' < pendingCount taskIds db := by
  obtain ⟨id, hid, hrec⟩ := h
  obtain ⟨t, ht, hE, rfl⟩ := (hs.ids id).mp hid
  obtain ⟨k, t', hk, hpending, hmove⟩ :=
    reconcileTask_eq_some hs.wellFormed hs.dependencies ht hE hrec
  have hs' := hs.next hmove
  have hleft := (hmove.step.leaves_pending hk).2
  refine ⟨⟨k, t, t', ⟨hk, hE⟩, hmove⟩, hs', ?_⟩
  have hnew : db'.findTask t.taskId = some t' :=
    hs'.wellFormed.findTask_eq_some.mpr ⟨hmove.new_mem, hmove.same.taskId⟩
  have hold : db.findTask t.taskId = some t := hs.wellFormed.findTask_eq_some.mpr ⟨ht, rfl⟩
  -- only `t` changes, and it is no longer pending
  refine Saturate.countP_lt_countP (x := t.taskId) ?_ hid (by simp [hold, hpending])
    (by simp [hnew, hleft])
  intro id' _ hpend
  obtain ⟨u', hfind, hu⟩ := (Option.any_eq_true _ _).mp hpend
  obtain ⟨hu', huid⟩ := hs'.wellFormed.findTask_eq_some.mp hfind
  obtain ⟨u, humem, -, hcase⟩ := hmove.preimage hs.wellFormed hu'
  rcases hcase with ⟨rfl, -⟩ | ⟨-, rfl⟩
  · rw [hs.wellFormed.findTask_eq_some.mpr ⟨humem, huid⟩]
    exact hu
  · exact absurd (by simpa using hu) hleft

theorem changes_spec (hs : LoopState deps taskIds E db)
    (h : Relation.ReflTransGen (Saturate.Change (reconcileTask deps now) taskIds) db db') :
    TaskPath now (ReconcileOf E) db db' ∧ LoopState deps taskIds E db' := by
  induction h with
  | refl => exact ⟨.refl, hs⟩
  | tail _ hc ih =>
    obtain ⟨hrec, hs', -⟩ := change_spec ih.2 hc
    exact ⟨ih.1.tail hrec, hs'⟩

theorem reconcileLoop_spec (now : Timestamp) (hs : LoopState deps taskIds E db) :
    TaskPath now (ReconcileOf E) db
        (reconcileLoop deps now taskIds (taskIds.length + 1) db) ∧
      Quiescent (reconcileLoop deps now taskIds (taskIds.length + 1) db) E := by
  obtain ⟨hpath, hend⟩ := changes_spec hs (Saturate.loop_path (taskIds.length + 1) db)
  refine ⟨hpath, ?_⟩
  intro t ht hE hpending
  have hlower : ∀ s s', LoopState deps taskIds E s →
      Saturate.Change (reconcileTask deps now) taskIds s s' →
      LoopState deps taskIds E s' ∧ pendingCount taskIds s' < pendingCount taskIds s :=
    fun s s' hs hc => (change_spec hs hc).2
  have hsat := Saturate.loop_saturated hlower (taskIds.length + 1) db hs
    (Nat.lt_succ_of_le List.countP_le_length)
  have hid : t.taskId ∈ taskIds := (hend.ids t.taskId).mpr ⟨t, ht, hE, rfl⟩
  exact reconcileTask_eq_none hend.wellFormed hend.dependencies ht hE hpending
    (hsat t.taskId hid)

end Loop

section Engagement

variable {now : Timestamp} {db db' : Database} {e : Engagement}

theorem transitionEngagement_move (now : Timestamp) (e₁ : Engagement)
    (target : EngagementStatus) (reason : EngagementReason) (extra : Extra)
    (he : e ∈ db.engagements) (hid : e₁.engagementId = e.engagementId)
    (hten : e₁.tenantId = e.tenantId) (hstatus : e₁.status = e.status)
    (hstep : EngagementStep now db e { e₁ with status := target }) :
    EngagementMove now e { e₁ with status := target } db
      (transitionEngagement db now e₁ target reason extra) := by
  unfold transitionEngagement
  split
  · rename_i heq
    have hsame : { e₁ with status := target } = e₁ := by rw [← heq]
    rw [hsame] at hstep ⊢
    exact
      { mem := he, step := hstep, engagementId := hid, tenantId := hten, engagements := rfl,
        tasks := rfl, dependencies := rfl, attempts := rfl, event := Or.inl ⟨hstatus, rfl⟩ }
  · refine
      { mem := he, step := hstep, engagementId := hid, tenantId := hten, engagements := rfl,
        tasks := rfl, dependencies := rfl, attempts := rfl, event := Or.inr ?_ }
    rw [← hid, ← hten, ← hstatus]
    exact ⟨reason, extra, rfl⟩

/-- How the reconciliation ends: nothing is written to the row of a cancelled
engagement or of one without tasks; any other row is settled. -/
inductive Closing (now : Timestamp) (e : Engagement) (db db' : Database) : Prop
  | untouched (h : e.status = .cancelled ∨ db.listTasks e.tenantId e.engagementId = [])
      (eq : db' = db)
  | settled (e' : Engagement) (settle : Settle now db e e') (move : EngagementMove now e e' db db')

theorem reconcileEngagementStatus_closing (he : e ∈ db.engagements)
    (htasks : db.listTasks e.tenantId e.engagementId ≠ []) :
    Closing now e db
      (reconcileEngagementStatus db now e (db.listTasks e.tenantId e.engagementId)) := by
  unfold reconcileEngagementStatus
  split
  · rename_i hc
    exact .untouched (Or.inl hc) rfl
  · rename_i hlive
    -- the stamp is written with the target, whether or not the status changes
    show Closing now e db (transitionEngagement db now
      (if (targetOf db e).2.2 then { e with completedAt := some now } else e)
      (targetOf db e).1 (targetOf db e).2.1 .none)
    set e₁ : Engagement :=
      if (targetOf db e).2.2 then { e with completedAt := some now } else e with he₁
    have hfields : e₁.engagementId = e.engagementId ∧ e₁.tenantId = e.tenantId ∧
        e₁.status = e.status ∧
        e₁.completedAt = if (targetOf db e).2.2 then some now else e.completedAt := by
      rw [he₁]
      cases (targetOf db e).2.2 <;> exact ⟨rfl, rfl, rfl, rfl⟩
    obtain ⟨hid, hten, hstatus, hcompleted⟩ := hfields
    have hsettle : Settle now db e { e₁ with status := (targetOf db e).1 } :=
      { live := hlive, tasks := htasks, status := rfl, completedAt := hcompleted }
    exact .settled _ hsettle
      (transitionEngagement_move now e₁ _ _ _ he hid hten hstatus (.settle hsettle))

/-- Engagement `e` is reconciled: reconciliation moves up to a state in which
none is possible, then the write to the engagement row. -/
inductive Reconciled (now : Timestamp) (e : Engagement) (db db' : Database) : Prop
  | intro (db₁ : Database) (mem : e ∈ db.engagements)
      (path : TaskPath now (ReconcileOf e.engagementId) db db₁)
      (quiet : Quiescent db₁ e.engagementId) (closing : Closing now e db₁ db')

/-- **What `reconcileEngagement` does.** -/
theorem reconcileEngagement_spec (hwf : WellFormed db) (he : e ∈ db.engagements) :
    Reconciled now e db (reconcileEngagement db now e) := by
  unfold reconcileEngagement
  dsimp only
  split
  · rename_i hempty
    have hnil : db.listTasks e.tenantId e.engagementId = [] := List.isEmpty_iff.mp hempty
    refine ⟨db, he, .refl, ?_, .untouched (Or.inr hnil) rfl⟩
    intro t ht hE
    have hmem := (hwf.mem_listTasks he).mpr ⟨ht, hE⟩
    rw [hnil] at hmem
    exact absurd hmem (List.not_mem_nil)
  · rename_i hempty
    have hstate : LoopState (db.listDependencies e.tenantId e.engagementId)
        ((db.listTasks e.tenantId e.engagementId).map (·.taskId)) e.engagementId db :=
      { wellFormed := hwf
        dependencies := dependenciesOf_listDependencies hwf he
        ids := by
          intro id
          rw [List.mem_map]
          constructor
          · rintro ⟨t, ht, rfl⟩
            obtain ⟨ht, hE⟩ := (hwf.mem_listTasks he).mp ht
            exact ⟨t, ht, hE, rfl⟩
          · rintro ⟨t, ht, hE, rfl⟩
            exact ⟨t, (hwf.mem_listTasks he).mpr ⟨ht, hE⟩, rfl⟩ }
    obtain ⟨hpath, hquiet⟩ := reconcileLoop_spec now hstate
    have he' := he
    rw [← hpath.engagements] at he'
    refine ⟨_, he, hpath, hquiet, reconcileEngagementStatus_closing he' ?_⟩
    -- the engagement still has the tasks it had
    obtain ⟨t, ht⟩ := List.exists_mem_of_ne_nil _ (by simpa using hempty)
    obtain ⟨ht, hE⟩ := (hwf.mem_listTasks he).mp ht
    obtain ⟨t', ht', hsame⟩ := hpath.path.image hwf t ht
    have hwf' := hpath.path.wellFormed hwf
    exact List.ne_nil_of_mem
      ((hwf'.mem_listTasks he').mpr ⟨ht', hsame.engagementId.trans hE⟩)

theorem Reconciled.path (h : Reconciled now e db db') :
    Path now (ReconcileOf e.engagementId) db db' := by
  obtain ⟨db₁, -, hpath, -, hclosing⟩ := h
  cases hclosing with
  | untouched _ eq =>
    rw [eq]
    exact hpath.path
  | settled e' _ move => exact hpath.path.tail (.engagement move)

theorem Reconciled.wellFormed (h : Reconciled now e db db') (hwf : WellFormed db) :
    WellFormed db' :=
  h.path.wellFormed hwf

theorem Reconciled.mem_engagements_of_ne (hwf : WellFormed db) (h : Reconciled now e db db')
    {f : Engagement} (hne : f.engagementId ≠ e.engagementId) :
    f ∈ db'.engagements ↔ f ∈ db.engagements := by
  obtain ⟨db₁, he, hpath, -, hclosing⟩ := h
  rw [← hpath.engagements]
  cases hclosing with
  | untouched _ eq => rw [eq]
  | settled e' _ move =>
    rw [move.mem_engagements (hpath.path.wellFormed hwf)]
    constructor
    · rintro (rfl | ⟨hf, -⟩)
      · exact absurd move.engagementId hne
      · exact hf
    · intro hf
      exact Or.inr ⟨hf, fun heq => hne (by rw [heq])⟩

end Engagement

end Orchestration
