/-
What a forced skip releases, and engagements that have not been started.

When the service skips a task, the pending tasks that become promotable are those whose dependencies
are satisfied once it counts as skipped (`SatisfiedSkipping`).  If all of them are past their
deadline, the engagement is `Stalled`.

Until `start_engagement` a planned engagement has nothing but pending tasks, and tasks that `tick` has
failed for their deadline (`Idle`).  `force_retry_task` and `force_skip_task` reconcile the engagement
of their task whatever its status is; hence the condition `Unforced`.
-/
import AssuranceOS.Orchestration.Engagements

namespace Orchestration

/-- Every dependency of `u` is in one of its allowed statuses, if `t` is counted
as skipped. -/
def SatisfiedSkipping (db : Database) (t u : EngagementTask) : Prop :=
  ∀ d ∈ db.dependencies, d.taskId = u.taskId → ∃ p ∈ db.tasks, p.taskId = d.dependsOnTaskId ∧
    (if p.taskId = t.taskId then .skipped else p.status) ∈ d.allowedStatuses

section Skip

variable {now : Timestamp} {t t' u : EngagementTask} {db db' : Database}

theorem TaskMove.satisfied_skip_iff (h : TaskMove now .forceSkip t t' db db')
    (hwf : WellFormed db) : Satisfied db' u ↔ SatisfiedSkipping db t u := by
  have hskipped : t'.status = .skipped := by
    cases h.step with
    | forceSkip _ become => exact become.status
  constructor
  · intro hsat d hd hid
    obtain ⟨p', hp', hpid, hstatus⟩ := hsat d (h.dependencies ▸ hd) hid
    obtain ⟨p, hp, hsame, ⟨rfl, hne⟩ | ⟨rfl, rfl⟩⟩ := h.preimage hwf hp'
    · have hother : p'.taskId ≠ t.taskId := fun heq => hne (hwf.eq_of_taskId hp h.mem heq)
      exact ⟨p', hp, hpid, by rw [if_neg hother]; exact hstatus⟩
    · refine ⟨p, hp, hsame.taskId.symm.trans hpid, ?_⟩
      rw [if_pos rfl, ← hskipped]
      exact hstatus
  · intro hsat d hd hid
    obtain ⟨p, hp, hpid, hstatus⟩ := hsat d (h.dependencies ▸ hd) hid
    by_cases hpt : p.taskId = t.taskId
    · rw [if_pos hpt, ← hskipped] at hstatus
      exact ⟨t', h.new_mem, by rw [h.same.taskId, ← hpt, hpid], hstatus⟩
    · rw [if_neg hpt] at hstatus
      exact ⟨p, h.other_mem hp hpt, hpid, hstatus⟩

end Skip

/-- Forced retries apart, only a forced skip acts on a task that is not active:
the other calls find it running or waiting for approval. -/
theorem acts_active {now : Timestamp} {op : Op} {t : EngagementTask} {k : MoveKind}
    (h : op.acts now t k) (hretry : k ≠ .forceRetry) :
    k = .forceSkip ∨ t.status.isActive = true := by
  cases op with
  | completeTask | failTask =>
    obtain ⟨-, -, hlease, -⟩ := h
    right
    rw [(leaseMatches_running hlease).1]
    rfl
  | approveGate | rejectGate =>
    obtain ⟨-, -, hwait, -⟩ := h
    right
    rw [hwait]
    rfl
  | forceRetryTask => exact absurd h.2.2.2.2 hretry
  | forceSkipTask => exact Or.inl h.2.2.2.2
  | _ => exact h.elim

/-! ### Stalled engagements -/

/-- No task of `E` is active, and whatever could be promoted is past its
deadline. -/
def Stalled (now : Timestamp) (E : String) (db : Database) : Prop :=
  ∀ u ∈ db.tasks, u.engagementId = E → u.status.isActive = false ∧
    (u.status = .pending → Satisfied db u → elapsed u.deadlineAt now)

section Reconcile

variable {now : Timestamp} {E : String} {k : MoveKind} {t t' u : EngagementTask}
  {db db' : Database}

theorem Stalled.step (h : Stalled now E db) (hE : t.engagementId = E) (ht : t ∈ db.tasks)
    (hk : k.isReconcile) (hstep : TaskStep now db t t' k) :
    (k = .block ∧ t'.status = .blocked) ∨ (k = .lapse ∧ t'.status = .failed) := by
  cases hstep with
  | block _ _ become => exact Or.inl ⟨rfl, become.status⟩
  | lapse _ _ _ become => exact Or.inr ⟨rfl, become.status⟩
  | wait pending satisfied inTime => exact absurd ((h t ht hE).2 pending satisfied) inTime
  | release pending satisfied inTime => exact absurd ((h t ht hE).2 pending satisfied) inTime
  | _ => exact hk.elim

theorem Stalled.next (h : Stalled now E db) (hwf : WellFormed db) (hE : t.engagementId = E)
    (hk : k.isReconcile) (hmove : TaskMove now k t t' db db') : Stalled now E db' := by
  have hnew : t'.status = .blocked ∨ t'.status = .failed :=
    (h.step hE hmove.mem hk hmove.step).imp And.right And.right
  have hnotDone : t'.status ≠ .succeeded ∧ t'.status ≠ .skipped := by
    rcases hnew with hs | hs <;> simp [hs]
  intro u' hu' huE
  obtain ⟨u, hu, hsame, ⟨rfl, -⟩ | ⟨rfl, rfl⟩⟩ := hmove.preimage hwf hu'
  · obtain ⟨hactive, hpending⟩ := h u' hu huE
    exact ⟨hactive, fun hp hsat => hpending hp (hmove.satisfied_back hwf hnotDone hsat)⟩
  · rcases hnew with hs | hs <;> simp [hs, TaskStatus.isActive]

def Failing (db : Database) (E : String) : Prop :=
  ∃ u ∈ db.tasks, u.engagementId = E ∧
    (u.status = .failed ∨ (u.status = .pending ∧ Satisfied db u))

theorem Satisfied.not_obstructed (hwf : WellFormed db) (h : Satisfied db t) :
    ¬ Obstructed db t := by
  rintro ⟨d, hd, hid, p, hp, hpid, hfail⟩
  obtain ⟨q, hq, hqid, hstatus⟩ := h d hd hid
  rw [hwf.eq_of_taskId hp hq (hpid.trans hqid.symm)] at hfail
  rcases hwf.allowed d hd _ hstatus with hs | hs
  · simp [hs, TaskStatus.isFailure] at hfail
  · simp [hs, TaskStatus.isFailure] at hfail

theorem Failing.next (h : Failing db E) (hstalled : Stalled now E db) (hwf : WellFormed db)
    (hE : t.engagementId = E) (hk : k.isReconcile) (hmove : TaskMove now k t t' db db') :
    Failing db' E := by
  obtain ⟨u, hu, huE, hcase⟩ := h
  obtain ⟨u', hu', hsame, ⟨rfl, -⟩ | ⟨rfl, rfl⟩⟩ := hmove.image hwf hu
  · refine ⟨u', hu', huE, hcase.imp_right fun hc => ⟨hc.1, hmove.satisfied hwf hc.2⟩⟩
  · refine ⟨u', hu', hsame.engagementId.trans huE, Or.inl ?_⟩
    have hpending := (hmove.step.leaves_pending hk).1
    rcases hcase with hfailed | ⟨-, hsat⟩
    · rw [hpending] at hfailed
      exact absurd hfailed (by simp)
    · -- the promotable task is not blocked, so it lapses
      rcases hstalled.step hE hmove.mem hk hmove.step with ⟨rfl, -⟩ | ⟨-, hs⟩
      · cases hmove.step with
        | block _ obstructed => exact absurd obstructed (hsat.not_obstructed hwf)
      · exact hs

theorem Stalled.of_path (h : Stalled now E db) (hwf : WellFormed db)
    (hpath : TaskPath now (ReconcileOf E) db db') :
    Stalled now E db' ∧ (Failing db E → Failing db' E) := by
  induction hpath with
  | refl => exact ⟨h, id⟩
  | tail hpath hlast ih =>
    obtain ⟨k, t, t', ⟨hk, hE⟩, hmove⟩ := hlast
    have hwf₁ := (TaskPath.path hpath).wellFormed hwf
    exact ⟨ih.1.next hwf₁ hE hk hmove, fun hf => (ih.2 hf).next ih.1 hwf₁ hE hk hmove⟩

/-- Skipping `t` leaves the engagement stalled when it releases nothing that is
still in time. -/
theorem TaskMove.stalled_skip (h : TaskMove now .forceSkip t t' db db') (hwf : WellFormed db)
    (hrest : ∀ u ∈ db.tasks, u.engagementId = t.engagementId → u.taskId ≠ t.taskId →
      u.status.isActive = false)
    (hlate : ∀ u ∈ db.tasks, u.engagementId = t.engagementId → u.taskId ≠ t.taskId →
      u.status = .pending → SatisfiedSkipping db t u → elapsed u.deadlineAt now) :
    Stalled now t.engagementId db' := by
  intro u' hu' huE
  obtain ⟨u, hu, hsame, ⟨rfl, hne⟩ | ⟨rfl, rfl⟩⟩ := h.preimage hwf hu'
  · have hid : u'.taskId ≠ t.taskId := fun heq => hne (hwf.eq_of_taskId hu h.mem heq)
    refine ⟨hrest u' hu huE hid, fun hp hsat => hlate u' hu huE hid hp ?_⟩
    exact (h.satisfied_skip_iff hwf).mp hsat
  · cases h.step with
    | forceSkip _ become => simp [become.status, TaskStatus.isActive]

variable {e : Engagement}

theorem Closing.tasks (h : Closing now e db db') : db'.tasks = db.tasks := by
  cases h with
  | untouched _ eq => rw [eq]
  | settled _ _ move => exact move.tasks

theorem Reconciled.stalled (h : Reconciled now e db db') (hwf : WellFormed db)
    (hstalled : Stalled now e.engagementId db) :
    (∀ s, StatusIn db' e.engagementId s → s.isActive = false) ∧
      (Failing db e.engagementId → StatusIn db' e.engagementId .failed) := by
  obtain ⟨db₁, -, hpath, hquiet, hclosing⟩ := h
  obtain ⟨hstalled₁, hfailing⟩ := hstalled.of_path hwf hpath
  constructor
  · rintro s ⟨u, hu, huE, rfl⟩
    rw [hclosing.tasks] at hu
    exact (hstalled₁ u hu huE).1
  · intro hf
    obtain ⟨u, hu, huE, hcase⟩ := hfailing hf
    refine ⟨u, by rw [hclosing.tasks]; exact hu, huE, hcase.resolve_right fun hc => ?_⟩
    exact (hquiet u hu huE hc.1).2 hc.2

theorem Reconciled.done (h : Reconciled now e db db') (hwf : WellFormed db)
    (hdone : ∀ s, StatusIn db e.engagementId s → s = .succeeded ∨ s = .skipped) :
    ∀ s, StatusIn db' e.engagementId s → s = .succeeded ∨ s = .skipped := by
  obtain ⟨db₁, -, hpath, -, hclosing⟩ := h
  have hdone₁ : ∀ s, StatusIn db₁ e.engagementId s → s = .succeeded ∨ s = .skipped := by
    clear hclosing
    induction hpath with
    | refl => exact hdone
    | tail hpath hlast ih =>
      obtain ⟨k, t, t', -, hmove⟩ := hlast
      exact hmove.sweep_completed ((TaskPath.path hpath).wellFormed hwf) ih
  unfold StatusIn
  rw [hclosing.tasks]
  exact hdone₁

end Reconcile

open Orchestrator

/-- The call starts or cancels engagement `E`. -/
def Op.opens (E : String) : Op → Prop
  | .startEngagement _ engagementId => engagementId = E
  | .cancelEngagement _ engagementId _ _ => engagementId = E
  | _ => False

section Targets

variable {now : Timestamp} {tenantId engagementId : String} {db db' : Database}
  {s : EngagementSnapshot}

theorem startEngagement_localTo (hwf : WellFormed db)
    (h : startEngagement db now tenantId engagementId = .ok (db', s)) :
    LocalTo {engagementId} db db' := by
  obtain ⟨e, e', db₁, rfl, move, -, -, -, -, reconciled⟩ := startEngagement_moves hwf h
  exact started_localTo move reconciled hwf

theorem cancelEngagement_localTo (hwf : WellFormed db) {actorId reason : String}
    (h : cancelEngagement db now tenantId engagementId actorId reason = .ok (db', s)) :
    LocalTo {engagementId} db db' := by
  obtain ⟨e, e', db₁, rfl, path, move, -, -, -⟩ := cancelEngagement_moves hwf h
  exact cancelled_localTo path move hwf

end Targets

/-- The row of `e` is as it was, and no task of `e` has been taken up. -/
def Idle (e : Engagement) (db : Database) : Prop :=
  e ∈ db.engagements ∧
    ∀ s, StatusIn db e.engagementId s → s = .pending ∨ s = .failed

/-- No forced retry or skip of a task of `E`. -/
def Unforced (E : String) (db : Database) (call : Timestamp × Op) : Prop :=
  ∀ t ∈ db.tasks, t.engagementId = E →
    ¬ call.2.acts call.1 t .forceRetry ∧ ¬ call.2.acts call.1 t .forceSkip

section Effects

variable {now : Timestamp} {op : Op} {e : Engagement} {db db' : Database}

theorem Idle.of_local {S : Set String} (h : Idle e db) (hlocal : LocalTo S db db')
    (hout : e.engagementId ∉ S) : Idle e db' := by
  refine ⟨(hlocal.engagements e hout).mpr h.1, fun s hs => ?_⟩
  exact h.2 s ((hlocal.statusIn hout s).mp hs)

theorem Idle.ne_of_active {t : EngagementTask} (h : Idle e db) (ht : t ∈ db.tasks)
    (hactive : t.status.isActive = true) : e.engagementId ∉ ({t.engagementId} : Set String) := by
  intro hE
  rcases h.2 t.status ⟨t, ht, hE.symm, rfl⟩ with hs | hs
  · simp [hs, TaskStatus.isActive] at hactive
  · simp [hs, TaskStatus.isActive] at hactive

variable {tenantId : String}

theorem Compiled.idle {engagementId : String} {rows : List EngagementTask}
    {deps : List TaskDependency} (h : Compiled now tenantId engagementId rows deps db db')
    (hI : Idle e db) : Idle e db' := by
  refine ⟨by rw [h.engagements]; exact hI.1, ?_⟩
  rintro s ⟨u, hu, hE, rfl⟩
  rcases h.mem_tasks.mp hu with hold | hnew
  · exact hI.2 _ ⟨u, hold, hE, rfl⟩
  · exact Or.inl (h.new u hnew).status

variable (hwf : WellFormed db) (hI : Idle e db)
include hwf hI

theorem sweep_idle (h : TaskPath now (SweepOf tenantId) db db') :
    Idle e db' := by
  refine ⟨by rw [h.engagements]; exact hI.1, ?_⟩
  induction h with
  | refl => exact hI.2
  | tail hpath hlast ih =>
    obtain ⟨k, t, t', ⟨-, hk⟩, hmove⟩ := hlast
    intro s hs
    rcases hmove.statusIn_cases ((TaskPath.path hpath).wellFormed hwf) hs with hold | ⟨hE, hnew⟩
    · exact ih s hold
    · have hrest : t.status.isActive = false := by
        rcases ih t.status ⟨t, hmove.mem, hE, rfl⟩ with hs | hs <;> rw [hs] <;> rfl
      right
      rw [hnew]
      exact (hmove.sweep_overdue hk hrest).2

theorem Ticked.idle (hplanned : e.status = .planned) (h : Ticked now tenantId db db') :
    Idle e db' := by
  obtain ⟨db₁, sweep, reconciled⟩ := h
  have hidle := sweep_idle hwf hI sweep
  have hwf₁ := sweep.path.wellFormed hwf
  refine hidle.of_local (reconciled.localTo hwf₁) ?_
  intro hmem
  obtain ⟨f, hf, hid⟩ := List.mem_map.mp hmem
  obtain ⟨hf₁, -, hactive⟩ := mem_listActiveEngagements.mp hf
  rw [hwf₁.eq_of_engagementId hf₁ hidle.1 hid, hplanned] at hactive
  simp [Database.isActive] at hactive

theorem Claimed.idle_kept {workerId : String} {filter : Database.ClaimFilter}
    {lease : Option TaskLease} (h : Claimed now tenantId workerId filter db db' lease) :
    Idle e db' := by
  cases h with
  | idle eq =>
    rw [eq]
    exact hI
  | leased t t' lease best move _ _ =>
    cases move.step with
    | claim _ _ ready =>
      exact hI.of_local (move.localTo hwf) (hI.ne_of_active move.mem (by rw [ready]; rfl))

theorem Acted.idle (hok : Unforced e.engagementId db (now, op)) (h : Acted now op db db') :
    Idle e db' := by
  obtain ⟨k, t, t', f, db₁, acts, hretry, move, owner, reconciled⟩ := h
  refine hI.of_local (acted_localTo move owner reconciled hwf) ?_
  rw [owner]
  rcases acts_active acts hretry with rfl | hactive
  · intro hE
    exact (hok t move.mem hE.symm).2 acts
  · exact hI.ne_of_active move.mem hactive

theorem Retried.idle (hok : Unforced e.engagementId db (now, op)) (h : Retried now op db db') :
    Idle e db' := by
  obtain ⟨t, t', f, f', db₁, db₂, acts, move, owner, reopen, -, -, reconciled⟩ := h
  refine hI.of_local (retried_localTo move owner reopen reconciled hwf) ?_
  rw [owner]
  intro hE
  exact (hok t move.mem hE.symm).1 acts

theorem exec_idle (hplanned : e.status = .planned) (hopen : ¬ op.opens e.engagementId)
    (hok : Unforced e.engagementId db (now, op)) (h : op.exec db now = .ok db') : Idle e db' := by
  cases op with
  | compileWorkflow tenantId engagementId workflow taskIds createdAt =>
    obtain ⟨s, hs⟩ := map_fst_eq_ok.mp h
    obtain ⟨rows, deps, hcompiled⟩ := compileWorkflow_compiled hs
    exact hcompiled.idle hI
  | startEngagement tenantId engagementId =>
    obtain ⟨s, hs⟩ := map_fst_eq_ok.mp h
    exact hI.of_local (startEngagement_localTo hwf hs) fun hE => hopen hE.symm
  | cancelEngagement tenantId engagementId actorId reason =>
    obtain ⟨s, hs⟩ := map_fst_eq_ok.mp h
    exact hI.of_local (cancelEngagement_localTo hwf hs) fun hE => hopen hE.symm
  | tick tenantId =>
    have hdb' : (tick db now tenantId).1 = db' := by simpa [Op.exec] using h
    rw [← hdb']
    exact (tick_ticked hwf tenantId).idle hwf hI hplanned
  | claimNext tenantId workerId leaseSeconds filter =>
    obtain ⟨lease, hs⟩ := map_fst_eq_ok.mp h
    exact (claimNext_claimed hwf hs).2.idle_kept hwf hI
  | heartbeat tenantId taskId workerId leaseSeconds =>
    obtain ⟨lease, hs⟩ := map_fst_eq_ok.mp h
    obtain ⟨t, t', move⟩ := heartbeat_move hs
    cases move.step with
    | heartbeat _ running =>
      exact hI.of_local (move.localTo hwf) (hI.ne_of_active move.mem (by rw [running]; rfl))
  | completeTask tenantId taskId workerId result =>
    obtain ⟨s, hs⟩ := map_fst_eq_ok.mp h
    exact (completeTask_acted hwf hs).idle hwf hI hok
  | failTask tenantId taskId workerId failureClass message forceRetryable =>
    obtain ⟨s, hs⟩ := map_fst_eq_ok.mp h
    exact (failTask_acted hwf hs).idle hwf hI hok
  | approveGate tenantId taskId decision =>
    obtain ⟨s, hs⟩ := map_fst_eq_ok.mp h
    exact (decideGate_acted hwf hs).idle hwf hI hok
  | rejectGate tenantId taskId decision =>
    obtain ⟨s, hs⟩ := map_fst_eq_ok.mp h
    exact (decideGate_acted hwf hs).idle hwf hI hok
  | forceRetryTask tenantId taskId actorId reason =>
    obtain ⟨s, hs⟩ := map_fst_eq_ok.mp h
    exact (forceRetryTask_retried hwf hs).idle hwf hI hok
  | forceSkipTask tenantId taskId actorId reason =>
    obtain ⟨s, hs⟩ := map_fst_eq_ok.mp h
    exact (forceSkipTask_acted hwf hs).idle hwf hI hok

end Effects

/-- **Nothing happens before the start.**  Along a run that neither starts nor
cancels the engagement and forces none of its tasks, its row stays as it is,
planned, and none of its tasks is ready, waits for approval or runs. -/
theorem run_planned_until_start {db : Database} (hfresh : Fresh db) {e : Engagement}
    (he : e ∈ db.engagements) {calls : List (Timestamp × Op)}
    (hcalls : ∀ call ∈ calls, ¬ call.2.opens e.engagementId)
    (hok : Runs.EachStep step (Unforced e.engagementId) db calls) :
    e ∈ (run db calls).engagements ∧ e.status = .planned ∧
      ∀ t ∈ (run db calls).tasks, t.engagementId = e.engagementId →
        t.status ≠ .ready ∧ t.status ≠ .waitingApproval ∧ t.status ≠ .running := by
  have hplanned := (hfresh.planned e he).1
  have hidle : Idle e db := by
    refine ⟨he, ?_⟩
    rintro s ⟨t, ht, -⟩
    rw [hfresh.tasks] at ht
    exact absurd ht List.not_mem_nil
  have hboth : Runs.EachStep step (fun db call => ¬ call.2.opens e.engagementId ∧
      Unforced e.engagementId db call) db calls :=
    (Runs.EachStep.of_forall fun call hcall _ => hcalls call hcall).and hok
  have hend : Idle e (run db calls) := by
    refine run_invariant_exec (I := Idle e) ?_ hfresh.wellFormed hidle hboth
    intro db now op db' hwf hI hcall hexec
    exact exec_idle hwf hI hplanned hcall.1 hcall.2 hexec
  refine ⟨hend.1, hplanned, fun t ht hE => ?_⟩
  rcases hend.2 t.status ⟨t, ht, hE, rfl⟩ with hs | hs
  · simp [hs]
  · simp [hs]

/-- `sampleTasks` compiled, and its first task skipped by force. -/
def skippedPlanned : List (Timestamp × Op) :=
  [(0, sampleCompile sampleTasks sampleTasks_ne_nil),
    (1, .forceSkipTask "tenant" "collect" "admin" "not needed")]

/-- The engagement runs although it was never started. -/
theorem skipped_planned_engagement_runs :
    ¬ ∀ calls : List (Timestamp × Op), ∀ e ∈ sampleDatabase.engagements,
      (∀ call ∈ calls, ¬ call.2.opens e.engagementId) →
      (∀ f ∈ (run sampleDatabase calls).engagements, f.engagementId = e.engagementId →
        f.status = .planned) ∧
      ∀ t ∈ (run sampleDatabase calls).tasks, t.engagementId = e.engagementId →
        t.status ≠ .ready ∧ t.status ≠ .waitingApproval ∧ t.status ≠ .running := by
  intro h
  obtain ⟨f, hf, hid, hstatus⟩ : ∃ f ∈ (run sampleDatabase skippedPlanned).engagements,
      f.engagementId = "engagement" ∧ f.status ≠ .planned := by decide +kernel
  refine hstatus ((h skippedPlanned _ List.mem_cons_self ?_).1 f hf hid)
  intro call hcall
  simp only [skippedPlanned, List.mem_cons, List.not_mem_nil, or_false] at hcall
  rcases hcall with rfl | rfl
  · exact id
  · exact id

/-- `sampleTasks` compiled, a tick and a claim. -/
def tickedPlanned : List (Timestamp × Op) :=
  [(0, sampleCompile sampleTasks sampleTasks_ne_nil), (1, .tick "tenant"),
    (2, .claimNext "tenant" "worker" 10 {})]

/-- They take up nothing. -/
theorem run_planned_until_start_ticked :
    ∃ t ∈ (run sampleDatabase tickedPlanned).tasks, t.engagementId = "engagement" ∧
      t.status ≠ .ready ∧ t.status ≠ .waitingApproval ∧ t.status ≠ .running := by
  obtain ⟨t, ht, hE⟩ : ∃ t ∈ (run sampleDatabase tickedPlanned).tasks,
      t.engagementId = "engagement" := by decide +kernel
  refine ⟨t, ht, hE, ?_⟩
  refine (run_planned_until_start sampleDatabase_fresh List.mem_cons_self ?_ ?_).2.2 t ht hE
  · intro call hcall
    simp only [tickedPlanned, List.mem_cons, List.not_mem_nil, or_false] at hcall
    rcases hcall with rfl | rfl | rfl <;> exact id
  · exact ⟨fun _ _ _ => ⟨id, id⟩, fun _ _ _ => ⟨id, id⟩, fun _ _ _ => ⟨id, id⟩, trivial⟩

end Orchestration
