/-
The status of an engagement.

In every reachable state the stored status of an engagement that has started
and is not cancelled is the one its tasks call for (`run_synced`): every call
that changes a task's status either reconciles its engagement or, like a claim,
leaves what the tasks call for as it is.  `tick` reconciles the active
engagements only; for the failed and completed ones its sweeps change nothing
that matters (`TaskMove.sweep_failed`, `TaskMove.sweep_completed`).
-/
import AssuranceOS.Orchestration.Locality

namespace Orchestration

def HasTask (db : Database) (E : String) : Prop :=
  ∃ t ∈ db.tasks, t.engagementId = E

variable {now : Timestamp} {db db' : Database} {P : Database → Engagement → Prop}
variable {E tenantId : String} {e : Engagement} {es : List Engagement}

theorem HasTask.of_path {allows : Database → MoveKind → EngagementTask → Prop} (h : HasTask db E)
    (hpath : Path now allows db db') (hwf : WellFormed db) : HasTask db' E := by
  obtain ⟨t, ht, hE⟩ := h
  obtain ⟨t', ht', hsame⟩ := hpath.image hwf t ht
  exact ⟨t', ht', hsame.engagementId.trans hE⟩

theorem Compiled.ne_of_hasTask {engagementId : String} {rows : List EngagementTask}
    {deps : List TaskDependency} (h : Compiled now tenantId engagementId rows deps db db')
    (hwf : WellFormed db) (he : e ∈ db.engagements) (htask : HasTask db e.engagementId) :
    e.engagementId ≠ engagementId := by
  intro heq
  obtain ⟨t, ht, hE⟩ := htask
  obtain ⟨f, hf, hften, hfid⟩ := h.engagement
  have hfe : f = e := hwf.eq_of_engagementId hf he (hfid.trans heq.symm)
  refine h.vacant t ht ⟨?_, hE.trans heq⟩
  rw [hwf.tenant_eq he ht hE, ← hfe, hften]

/-- The row of a reconciled engagement: a cancelled one is left alone, any other
has the status its tasks call for. -/
theorem Reconciled.row {now : Timestamp} {e f : Engagement} {db db' : Database}
    (h : Reconciled now e db db') (hwf : WellFormed db) (htask : HasTask db e.engagementId)
    (hf : f ∈ db'.engagements) (hid : f.engagementId = e.engagementId) :
    (f = e ∧ e.status = .cancelled) ∨
      (e.status ≠ .cancelled ∧ f.status = (targetOf db' f).1 ∧
        f.completedAt = if (targetOf db' f).2.2 then some now else e.completedAt) := by
  have hwf' := h.wellFormed hwf
  obtain ⟨db₁, he, hpath, -, hclosing⟩ := h
  have hwf₁ := hpath.path.wellFormed hwf
  have he₁ : e ∈ db₁.engagements := by
    rw [hpath.engagements]
    exact he
  cases hclosing with
  | untouched hcase eq =>
    left
    rw [eq] at hf
    have hfe : f = e := hwf₁.eq_of_engagementId hf he₁ hid
    refine ⟨hfe, hcase.resolve_right fun hnil => ?_⟩
    -- the engagement has a task, so its task list is not empty
    obtain ⟨t, ht, hE⟩ := htask.of_path hpath.path hwf
    have hmem := (hwf₁.mem_listTasks he₁).mpr ⟨ht, hE⟩
    rw [hnil] at hmem
    exact absurd hmem List.not_mem_nil
  | settled e' settle move =>
    right
    have hfe : f = e' := by
      rcases (move.mem_engagements hwf₁).mp hf with hfe | ⟨hf₁, hne⟩
      · exact hfe
      · exact absurd (hwf₁.eq_of_engagementId hf₁ he₁ hid) hne
    subst hfe
    have htarget : targetOf db' f = targetOf db₁ e := by
      refine targetOf_congr hwf₁ hwf' he₁ hf hid fun s => ?_
      unfold StatusIn
      rw [move.tasks]
    rw [htarget]
    exact ⟨settle.live, settle.status, settle.completedAt⟩

section Sweeps

variable {now : Timestamp} {k : MoveKind} {t t' : EngagementTask} {db db' : Database} {E : String}
variable {s : TaskStatus} {tenantId : String}

theorem TaskMove.statusIn_cases (h : TaskMove now k t t' db db') (hwf : WellFormed db)
    (hs : StatusIn db' E s) :
    StatusIn db E s ∨ (t.engagementId = E ∧ s = t'.status) := by
  obtain ⟨u', hu', hE, hstatus⟩ := hs
  obtain ⟨u, hu, hsame, ⟨rfl, -⟩ | ⟨rfl, rfl⟩⟩ := h.preimage hwf hu'
  · exact Or.inl ⟨u', hu, hE, hstatus⟩
  · exact Or.inr ⟨hsame.engagementId.symm.trans hE, hstatus.symm⟩

theorem TaskMove.statusIn_of_ne (h : TaskMove now k t t' db db') (hwf : WellFormed db)
    (hne : s ≠ t.status) (hs : StatusIn db E s) : StatusIn db' E s := by
  obtain ⟨u, hu, hE, hstatus⟩ := hs
  obtain ⟨u', hu', hsame, ⟨rfl, -⟩ | ⟨rfl, rfl⟩⟩ := h.image hwf hu
  · exact ⟨u', hu', hE, hstatus⟩
  · exact absurd hstatus.symm hne

theorem TaskMove.sweep_completed (h : TaskMove now k t t' db db') (hwf : WellFormed db)
    (hdone : ∀ s, StatusIn db E s → s = .succeeded ∨ s = .skipped) :
    ∀ s, StatusIn db' E s → s = .succeeded ∨ s = .skipped := by
  intro s hs
  rcases h.statusIn_cases hwf hs with hold | ⟨hE, -⟩
  · exact hdone s hold
  · rcases hdone t.status ⟨t, h.mem, hE, rfl⟩ with hst | hst
    · exact absurd hst h.step.not_done.1
    · exact absurd hst h.step.not_done.2

/-- The maintenance passes move an engagement without active tasks at most by
failing overdue pending tasks. -/
theorem TaskMove.sweep_overdue (h : TaskMove now k t t' db db')
    (hk : k = .retry ∨ k = .fail ∨ k = .overdue ∨ k = .promote)
    (hrest : t.status.isActive = false) : t.status.isTerminal = false ∧ t'.status = .failed := by
  have hrun : t.status ≠ .running := fun hs => by simp [hs, TaskStatus.isActive] at hrest
  have hretry : t.status ≠ .retryWait := fun hs => by simp [hs, TaskStatus.isActive] at hrest
  rcases hk with rfl | rfl | rfl | rfl
  · cases h.step with
    | retry running => exact absurd running hrun
  · cases h.step with
    | fail running => exact absurd running hrun
  · cases h.step with
    | overdue active become => exact ⟨active, become.status⟩
  · cases h.step with
    | promote waiting => exact absurd waiting hretry

theorem TaskMove.sweep_inactive (h : TaskMove now k t t' db db') (hwf : WellFormed db)
    (hk : k = .retry ∨ k = .fail ∨ k = .overdue ∨ k = .promote)
    (hrest : ∀ s, StatusIn db E s → s.isActive = false) :
    ∀ s, StatusIn db' E s → s.isActive = false := by
  intro s hs
  rcases h.statusIn_cases hwf hs with hold | ⟨hE, hnew⟩
  · exact hrest s hold
  · rw [hnew, (h.sweep_overdue hk (hrest t.status ⟨t, h.mem, hE, rfl⟩)).2]
    rfl

theorem TaskMove.sweep_failed (h : TaskMove now k t t' db db') (hwf : WellFormed db)
    (hk : k = .retry ∨ k = .fail ∨ k = .overdue ∨ k = .promote)
    (hfailed : StatusIn db E .failed ∧ ∀ s, StatusIn db E s → s.isActive = false) :
    StatusIn db' E .failed ∧ ∀ s, StatusIn db' E s → s.isActive = false := by
  refine ⟨?_, h.sweep_inactive hwf hk hfailed.2⟩
  by_cases hE : t.engagementId = E
  · refine h.statusIn_of_ne hwf (fun heq => ?_) hfailed.1
    have hactive := (h.sweep_overdue hk (hfailed.2 t.status ⟨t, h.mem, hE, rfl⟩)).1
    rw [← heq] at hactive
    simp [TaskStatus.isTerminal] at hactive
  · exact ((h.localTo hwf).statusIn (fun hmem => hE hmem.symm) _).mpr hfailed.1

theorem sweep_target {e : Engagement} (h : TaskPath now (SweepOf tenantId) db db')
    (hwf : WellFormed db) (he : e ∈ db.engagements)
    (hrest : e.status = .completed ∨ e.status = .failed) (htarget : (targetOf db e).1 = e.status) :
    (targetOf db' e).1 = e.status := by
  induction h with
  | refl => exact htarget
  | tail hpath hlast ih =>
    obtain ⟨k, t, t', ⟨-, hk⟩, hmove⟩ := hlast
    have hwf₁ := (TaskPath.path hpath).wellFormed hwf
    have he₁ := he
    rw [← TaskPath.engagements hpath] at he₁
    have he₂ := he₁
    rw [← hmove.engagements] at he₂
    rcases hrest with hc | hf
    · rw [hc, targetOf_eq_completed hwf₁ he₁] at ih
      rw [hc, targetOf_eq_completed (hmove.wellFormed hwf₁) he₂]
      exact hmove.sweep_completed hwf₁ ih
    · rw [hf, targetOf_eq_failed hwf₁ he₁] at ih
      rw [hf, targetOf_eq_failed (hmove.wellFormed hwf₁) he₂]
      exact hmove.sweep_failed hwf₁ hk ih

theorem sweep_localTo (h : TaskPath now (SweepOf tenantId) db db') (hwf : WellFormed db) :
    LocalTo {E | ∃ e ∈ db.engagements, e.engagementId = E ∧ e.tenantId = tenantId} db db' := by
  refine h.localTo hwf fun db₁ k t hwf₁ ht heng hk => ?_
  obtain ⟨e, he, hid, hten⟩ := hwf₁.taskEngagement t ht
  exact ⟨e, heng ▸ he, hid, hten.trans hk.1⟩

end Sweeps

theorem ReconciledEach.wellFormed (h : ReconciledEach now es db db') (hwf : WellFormed db) :
    WellFormed db' :=
  h.path.wellFormed hwf

/-- What a reconciliation establishes for its engagement, and local changes of
the others keep, holds of all engagements of the list at the end. -/
theorem ReconciledEach.establishes {Q : Engagement → Prop}
    (hlocal : ∀ {S : Set String} {db db' f}, WellFormed db → WellFormed db' →
      LocalTo S db db' → f.engagementId ∉ S → f ∈ db.engagements → P db f → P db' f)
    (hrec : ∀ {e db db' f}, WellFormed db → Reconciled now e db db' → Q e →
      HasTask db e.engagementId → f ∈ db'.engagements → f.engagementId = e.engagementId → P db' f)
    (h : ReconciledEach now es db db')
    (hwf : WellFormed db) (hnodup : (es.map (·.engagementId)).Nodup)
    (hes : ∀ e ∈ es, Q e ∧ HasTask db e.engagementId) :
    ∀ f ∈ db'.engagements, f.engagementId ∈ es.map (·.engagementId) → P db' f := by
  induction h with
  | nil db =>
    intro f _ hid
    exact absurd hid List.not_mem_nil
  | @cons e es db db₁ db' head tail ih =>
    intro f hf hid
    have hwf₁ := head.wellFormed hwf
    rw [List.map_cons, List.nodup_cons] at hnodup
    rw [List.map_cons, List.mem_cons] at hid
    rcases hid with hid | hid
    · -- the rest of the list leaves `e` alone
      have hout : f.engagementId ∉ {E | E ∈ es.map (·.engagementId)} := by
        rw [hid]
        exact hnodup.1
      have hf₁ := ((tail.localTo hwf₁).engagements f hout).mp hf
      have hP : P db₁ f := hrec hwf head (hes e List.mem_cons_self).1
        (hes e List.mem_cons_self).2 hf₁ hid
      exact hlocal hwf₁ (tail.wellFormed hwf₁) (tail.localTo hwf₁) hout hf₁ hP
    · refine ih hwf₁ hnodup.2 (fun g hg => ?_) f hf hid
      obtain ⟨hpre, htask⟩ := hes g (List.mem_cons_of_mem _ hg)
      exact ⟨hpre, htask.of_path head.path hwf⟩

/-! ### Properties of single engagements -/

/-- Local changes of other engagements keep `P`. -/
def Framed (P : Database → Engagement → Prop) : Prop :=
  ∀ {S : Set String} {db db' : Database} {f : Engagement}, WellFormed db → WellFormed db' →
    LocalTo S db db' → f.engagementId ∉ S → f ∈ db.engagements → P db f → P db' f

/-- After a change that is local to `E`, only the row of `E` has to be looked
at. -/
theorem Framed.forall_of_local (hP : Framed P) (hwf : WellFormed db) (hwf' : WellFormed db')
    (hlocal : LocalTo {E} db db') (hI : ∀ e ∈ db.engagements, P db e)
    (hown : ∀ e ∈ db'.engagements, e.engagementId = E → P db' e) :
    ∀ e ∈ db'.engagements, P db' e := by
  intro e he'
  by_cases hid : e.engagementId = E
  · exact hown e he' hid
  · have he := (hlocal.engagements e hid).mp he'
    exact hP hwf hwf' hlocal hid he (hI e he)

def Synced (db : Database) (e : Engagement) : Prop :=
  e.status ≠ .planned → e.status ≠ .cancelled →
    e.status = (targetOf db e).1 ∧ HasTask db e.engagementId

theorem synced_framed : Framed Synced := by
  intro S db db' f hwf hwf' hlocal hout hf h hplanned hcancelled
  obtain ⟨hstatus, t, ht, hE⟩ := h hplanned hcancelled
  have hf' := (hlocal.engagements f hout).mpr hf
  constructor
  · rw [targetOf_congr hwf hwf' hf hf' rfl (hlocal.statusIn hout)]
    exact hstatus
  · exact ⟨t, (hlocal.tasks t (hE ▸ hout)).mpr ht, hE⟩

/-- **The rule for `tick`.**  A framed property holds of all engagements after a
`tick` if the reconciliations establish it for the active ones and the sweeps
keep it for the others. -/
theorem Ticked.forall (h : Ticked now tenantId db db') (hwf : WellFormed db)
    (hsynced : ∀ e ∈ db.engagements, Synced db e)
    (hP : Framed P) (hI : ∀ e ∈ db.engagements, P db e)
    (hrec : ∀ {e db₁ db₂ f}, e ∈ db.engagements → Database.isActive e.status →
      WellFormed db₁ → Reconciled now e db₁ db₂ → HasTask db₁ e.engagementId →
      f ∈ db₂.engagements → f.engagementId = e.engagementId → P db₂ f)
    (hsweep : ∀ {db₁ f}, TaskPath now (SweepOf tenantId) db db₁ → f ∈ db.engagements →
      ¬ Database.isActive f.status → P db₁ f) :
    ∀ e ∈ db'.engagements, P db' e := by
  obtain ⟨db₁, sweep, reconciled⟩ := h
  have hwf₁ := sweep.path.wellFormed hwf
  intro f hf'
  by_cases hmem : f.engagementId ∈ (db₁.listActiveEngagements tenantId).map (·.engagementId)
  · -- the engagement is reconciled after the sweeps
    refine ReconciledEach.establishes
      (Q := fun e => e ∈ db.engagements ∧ Database.isActive e.status) hP
      (fun hwf h hpre htask hf hid => hrec hpre.1 hpre.2 hwf h htask hf hid) reconciled hwf₁
      (nodup_listActiveEngagements hwf₁ tenantId) ?_ f hf' hmem
    intro e he
    obtain ⟨he₁, -, hactive⟩ := mem_listActiveEngagements.mp he
    rw [sweep.engagements] at he₁
    refine ⟨⟨he₁, hactive⟩, (hsynced e he₁ ?_ ?_).2.of_path sweep.path hwf⟩
    · intro hs
      simp [hs, Database.isActive] at hactive
    · intro hs
      simp [hs, Database.isActive] at hactive
  · have hlocal := reconciled.localTo hwf₁
    have hf₁ := (hlocal.engagements f hmem).mp hf'
    refine hP hwf₁ (reconciled.wellFormed hwf₁) hlocal hmem hf₁ ?_
    have hf := hf₁
    rw [sweep.engagements] at hf
    by_cases hactive : Database.isActive f.status
    · -- the engagement is active, so it belongs to another tenant
      have hten : f.tenantId ≠ tenantId := fun hten =>
        hmem (List.mem_map_of_mem (mem_listActiveEngagements.mpr ⟨hf₁, hten, hactive⟩))
      refine hP hwf hwf₁ (sweep_localTo sweep hwf) ?_ hf (hI f hf)
      rintro ⟨g, hg, hid, hgten⟩
      exact hten (hwf.eq_of_engagementId hg hf hid ▸ hgten)
    · exact hsweep sweep hf hactive

theorem Reconciled.synced {f : Engagement} (hwf : WellFormed db) (h : Reconciled now e db db')
    (htask : HasTask db e.engagementId) (hf : f ∈ db'.engagements)
    (hid : f.engagementId = e.engagementId) : Synced db' f := by
  intro _ hcancelled
  rcases h.row hwf htask hf hid with ⟨rfl, hc⟩ | ⟨-, hstatus, -⟩
  · exact absurd hc hcancelled
  · refine ⟨hstatus, ?_⟩
    rw [hid]
    exact htask.of_path h.path hwf

section Effects

variable {now : Timestamp} {db db' : Database} (hwf : WellFormed db)
  (hI : ∀ e ∈ db.engagements, Synced db e)
include hwf hI

variable {tenantId : String}

theorem Compiled.synced {engagementId : String} {rows : List EngagementTask}
    {deps : List TaskDependency} (h : Compiled now tenantId engagementId rows deps db db') :
    ∀ e ∈ db'.engagements, Synced db' e := by
  intro e he' hplanned hcancelled
  have hwf' := h.wellFormed hwf
  have he := he'
  rw [h.engagements] at he
  obtain ⟨hstatus, t, ht, hE⟩ := hI e he hplanned hcancelled
  have hne := h.ne_of_hasTask hwf he ⟨t, ht, hE⟩
  refine ⟨?_, t, h.mem_tasks.mpr (Or.inl ht), hE⟩
  rw [targetOf_congr hwf hwf' he he' rfl fun s => ?_]
  · exact hstatus
  · constructor
    · rintro ⟨u, hu, huE, hus⟩
      rcases h.mem_tasks.mp hu with hold | hnew
      · exact ⟨u, hold, huE, hus⟩
      · exact absurd (huE.symm.trans (h.new u hnew).engagementId) hne
    · rintro ⟨u, hu, huE, hus⟩
      exact ⟨u, h.mem_tasks.mpr (Or.inl hu), huE, hus⟩

theorem Started.synced (h : Started now db db') : ∀ e ∈ db'.engagements, Synced db' e := by
  obtain ⟨e, e', db₁, move, -, htasks, -, -, reconciled⟩ := h
  have hwf₁ := move.wellFormed hwf
  refine synced_framed.forall_of_local hwf (reconciled.wellFormed hwf₁)
    (started_localTo move reconciled hwf) hI ?_
  intro f hf hid
  refine reconciled.synced hwf₁ ?_ hf (hid.trans move.engagementId.symm)
  obtain ⟨t, ht⟩ := List.exists_mem_of_ne_nil _ htasks
  obtain ⟨ht, hE⟩ := (hwf.mem_listTasks move.mem).mp ht
  exact ⟨t, by rw [move.tasks]; exact ht, hE.trans move.engagementId.symm⟩

theorem TaskMove.synced_lease {k : MoveKind} {t t' : EngagementTask}
    (h : TaskMove now k t t' db db') (hold : t.status = .ready ∨ t.status = .running)
    (hnew : t'.status = .running) : ∀ e ∈ db'.engagements, Synced db' e := by
  have hwf' := h.wellFormed hwf
  refine synced_framed.forall_of_local hwf hwf' (h.localTo hwf) hI ?_
  intro e he' hid hplanned hcancelled
  have he := he'
  rw [h.engagements] at he
  obtain ⟨hstatus, -⟩ := hI e he hplanned hcancelled
  have hbefore : (targetOf db e).1 = .running :=
    targetOf_running hwf he ⟨t, h.mem, hid.symm, rfl⟩ (hold.imp_right Or.inl)
  have hafter : (targetOf db' e).1 = .running :=
    targetOf_running hwf' he' ⟨t', h.new_mem, h.same.engagementId.trans hid.symm, hnew⟩
      (Or.inr (Or.inl rfl))
  refine ⟨?_, t', h.new_mem, h.same.engagementId.trans hid.symm⟩
  rw [hafter, ← hbefore]
  exact hstatus

variable {op : Op}

theorem Acted.synced (h : Acted now op db db') :
    ∀ e ∈ db'.engagements, Synced db' e := by
  obtain ⟨k, t, t', e, db₁, -, -, move, owner, reconciled⟩ := h
  have hwf₁ := move.wellFormed hwf
  refine synced_framed.forall_of_local hwf (reconciled.wellFormed hwf₁)
    (acted_localTo move owner reconciled hwf) hI ?_
  intro f hf hid
  exact reconciled.synced hwf₁
    ⟨t', move.new_mem, move.same.engagementId.trans owner.symm⟩ hf hid

theorem Retried.synced (h : Retried now op db db') :
    ∀ e ∈ db'.engagements, Synced db' e := by
  obtain ⟨t, t', e, e', db₁, db₂, -, move, owner, reopen, -, -, reconciled⟩ := h
  have hwf₁ := move.wellFormed hwf
  have hwf₂ := reopen.wellFormed hwf₁
  refine synced_framed.forall_of_local hwf (reconciled.wellFormed hwf₂)
    (retried_localTo move owner reopen reconciled hwf) hI ?_
  intro f hf hid
  refine reconciled.synced hwf₂ ⟨t', ?_, ?_⟩ hf (hid.trans reopen.engagementId.symm)
  · rw [reopen.tasks]
    exact move.new_mem
  · rw [move.same.engagementId, reopen.engagementId, owner]

theorem Cancelled.synced (h : Cancelled now db db') : ∀ e ∈ db'.engagements, Synced db' e := by
  obtain ⟨e, e', db₁, path, move, status, -, -⟩ := h
  have hwf₁ := path.path.wellFormed hwf
  refine synced_framed.forall_of_local hwf (move.wellFormed hwf₁)
    (cancelled_localTo path move hwf) hI ?_
  intro f hf hid _ hcancelled
  rcases (move.mem_engagements hwf₁).mp hf with rfl | ⟨hf₁, hne⟩
  · exact absurd status hcancelled
  · exact absurd (hwf₁.eq_of_engagementId hf₁ move.mem hid) hne

/-- Active engagements are reconciled; for the others the sweeps change
nothing that matters. -/
theorem Ticked.synced (h : Ticked now tenantId db db') :
    ∀ e ∈ db'.engagements, Synced db' e := by
  refine h.forall hwf hI synced_framed hI ?_ ?_
  · intro e db₁ db₂ f _ _ hwf₁ hrec htask hf hid
    exact hrec.synced hwf₁ htask hf hid
  · intro db₁ f sweep hf hactive hplanned hcancelled
    have hrest : f.status = .completed ∨ f.status = .failed := by
      cases hs : f.status <;> simp_all [Database.isActive]
    obtain ⟨hstatus, htask⟩ := hI f hf hplanned hcancelled
    exact ⟨(sweep_target sweep hwf hf hrest hstatus.symm).symm, htask.of_path sweep.path hwf⟩

theorem Effect.synced (h : Effect now op db db') :
    ∀ e ∈ db'.engagements, Synced db' e := by
  cases h with
  | compiled tenantId engagementId rows deps compiled => exact compiled.synced hwf hI
  | started started => exact started.synced hwf hI
  | ticked tenantId ticked => exact ticked.synced hwf hI
  | claimed tenantId workerId leaseSeconds filter lease call positive claimed =>
    cases claimed with
    | idle eq =>
      rw [eq]
      exact hI
    | leased t t' lease best move _ _ =>
      cases move.step with
      | claim _ _ ready _ become => exact move.synced_lease hwf hI (Or.inl ready) become.status
  | extended t t' move =>
    cases move.step with
    | heartbeat _ running become => exact move.synced_lease hwf hI (Or.inr running) become.status
  | acted acted => exact acted.synced hwf hI
  | retried retried => exact retried.synced hwf hI
  | cancelled cancelled => exact cancelled.synced hwf hI

end Effects

theorem run_synced (hfresh : Fresh db) (calls : List (Timestamp × Op)) :
    ∀ e ∈ (run db calls).engagements, Synced (run db calls) e := by
  have hI : ∀ e ∈ db.engagements, Synced db e := by
    intro e he hplanned _
    exact absurd (hfresh.planned e he).1 hplanned
  have hok : Runs.EachStep step (fun _ _ => True) db calls := .of_forall (by simp)
  refine run_invariant_exec (I := fun db => ∀ e ∈ db.engagements, Synced db e) ?_
    hfresh.wellFormed hI hok
  intro db now op db' hwf hI _ hexec
  exact (exec_effect hwf hexec).synced hwf hI

/-- **No stale status.**  After every call of every run, the stored status of an
engagement that is neither planned nor cancelled is the one that
`_reconcile_engagement_status` computes from its tasks. -/
theorem run_status_eq_target {db : Database} (hfresh : Fresh db)
    (calls : List (Timestamp × Op)) :
    ∀ e ∈ (run db calls).engagements, e.status ≠ .planned → e.status ≠ .cancelled →
      e.status = (Orchestrator.engagementTarget
        (((run db calls).listTasks e.tenantId e.engagementId).map (·.status))).1 := by
  intro e he hplanned hcancelled
  exact (run_synced hfresh calls e he hplanned hcancelled).1

/-- The engagement of `sampleFailed` has failed. -/
theorem run_status_eq_target_failed :
    ∃ e ∈ (run sampleDatabase sampleFailed).engagements,
      e.status = .failed ∧ (Orchestrator.engagementTarget (((run sampleDatabase
        sampleFailed).listTasks e.tenantId e.engagementId).map (·.status))).1 = .failed := by
  obtain ⟨e, he, hfailed⟩ : ∃ e ∈ (run sampleDatabase sampleFailed).engagements,
      e.status = .failed := by decide +kernel
  have hstatus := run_status_eq_target sampleDatabase_fresh _ e he (by simp [hfailed])
    (by simp [hfailed])
  exact ⟨e, he, hfailed, hstatus.symm.trans hfailed⟩

end Orchestration
