/-
What a call of the orchestrator does, as a sequence of moves.

`Effect now op db db'` lists the ways in which an accepted call changes the
database; `exec_effect` is the inversion lemma.  A call that acts on one task
makes one move of that task (`Op.acts` says which, by the guards of the
source) and then reconciles the engagement; `tick` sweeps over expired leases,
overdue tasks and due retries before it reconciles the active engagements.
-/
import AssuranceOS.Orchestration.Reconcile
import AssuranceOS.Orchestration.TaskWrites

namespace Orchestration

open Orchestrator

section Binds

variable {α β : Type} {db db' : Database}

theorem map_fst_eq_ok {x : Except OrchestrationError (α × β)} {a : α} :
    x.map Prod.fst = .ok a ↔ ∃ b, x = .ok (a, b) := by
  rcases x with err | ⟨a', b'⟩
  · simp [Except.map]
  · simp [Except.map]

variable {r : α} {tenantId : String}

theorem require_bind_ok {c : Prop} [Decidable c] {err : OrchestrationError}
    {f : Unit → Except OrchestrationError α} :
    (require c err >>= f) = .ok r ↔ c ∧ f () = .ok r := by
  unfold require
  split
  · rename_i hc
    exact ⟨fun h => ⟨hc, h⟩, fun h => h.2⟩
  · rename_i hc
    exact ⟨fun h => absurd h (by simp [bind, Except.bind]), fun h => absurd h.1 hc⟩

theorem requireTask_bind_ok {taskId : String} {f : EngagementTask → Except OrchestrationError α} :
    (requireTask db tenantId taskId >>= f) = .ok r →
      ∃ t ∈ db.tasks, t.tenantId = tenantId ∧ t.taskId = taskId ∧ f t = .ok r := by
  intro h
  unfold requireTask at h
  split at h
  · exact absurd h (by simp [bind, Except.bind])
  · rename_i t hfind
    have hprop := List.find?_some hfind
    simp only [decide_eq_true_eq] at hprop
    exact ⟨t, List.mem_of_find?_eq_some hfind, hprop.1, hprop.2, h⟩

variable {engagementId : String}

theorem requireEngagement_bind_ok {f : Engagement → Except OrchestrationError α} :
    (requireEngagement db tenantId engagementId >>= f) = .ok r →
      ∃ e ∈ db.engagements, e.tenantId = tenantId ∧ e.engagementId = engagementId ∧
        f e = .ok r := by
  intro h
  unfold requireEngagement at h
  split at h
  · exact absurd h (by simp [bind, Except.bind])
  · rename_i e hfind
    have hprop := List.find?_some hfind
    simp only [decide_eq_true_eq] at hprop
    exact ⟨e, List.mem_of_find?_eq_some hfind, hprop.1, hprop.2, h⟩

theorem withSnapshot_ok {s : EngagementSnapshot}
    (h : withSnapshot db tenantId engagementId = .ok (db', s)) : db' = db := by
  unfold withSnapshot at h
  rcases hs : snapshot db tenantId engagementId with err | s'
  · rw [hs] at h
    exact absurd h (by simp [bind, Except.bind])
  · rw [hs] at h
    simp only [bind, Except.bind, pure, Except.pure, Except.ok.injEq, Prod.mk.injEq] at h
    exact h.1.symm

end Binds

/-- The call, made at `now`, is accepted for task `t` and writes to it by a move
of kind `k`. -/
def Op.acts (now : Timestamp) (t : EngagementTask) : Op → MoveKind → Prop
  | .completeTask tenantId taskId workerId _, k =>
    t.tenantId = tenantId ∧ t.taskId = taskId ∧ leaseMatches t workerId now ∧ k = completeKind t
  | .failTask tenantId taskId workerId _ _ _, k =>
    t.tenantId = tenantId ∧ t.taskId = taskId ∧ leaseMatches t workerId now ∧
      (k = .retry ∨ k = .fail)
  | .approveGate tenantId taskId _, k =>
    t.tenantId = tenantId ∧ t.taskId = taskId ∧ t.status = .waitingApproval ∧
      PyString.truthy t.humanGate ∧ k = decideKind t true
  | .rejectGate tenantId taskId _, k =>
    t.tenantId = tenantId ∧ t.taskId = taskId ∧ t.status = .waitingApproval ∧
      PyString.truthy t.humanGate ∧ k = decideKind t false
  | .forceRetryTask tenantId taskId _ reason, k =>
    t.tenantId = tenantId ∧ t.taskId = taskId ∧ ¬ PyString.isBlank reason ∧
      (t.status = .failed ∨ t.status = .blocked ∨ t.status = .retryWait) ∧ k = .forceRetry
  | .forceSkipTask tenantId taskId _ reason, k =>
    t.tenantId = tenantId ∧ t.taskId = taskId ∧ ¬ PyString.isBlank reason ∧
      ¬ (t.status = .succeeded ∨ t.status = .skipped ∨ t.status = .cancelled) ∧ k = .forceSkip
  | _, _ => False

/-- The call acts on `t` by a move of kind `k`, and then reconciles the
engagement of `t`. -/
inductive Acted (now : Timestamp) (op : Op) (db db' : Database) : Prop
  | intro (k : MoveKind) (t t' : EngagementTask) (e : Engagement) (db₁ : Database)
      (acts : op.acts now t k) (notRetry : k ≠ .forceRetry) (move : TaskMove now k t t' db db₁)
      (owner : e.engagementId = t.engagementId) (reconciled : Reconciled now e db₁ db')

section Acting

variable {now : Timestamp} {db db' : Database}
variable {tenantId taskId : String} {s : EngagementSnapshot}

theorem acted_of_reconcile {op : Op} {k : MoveKind} {t t' : EngagementTask} {db₁ : Database}
    (hwf : WellFormed db) (hacts : op.acts now t k)
    (hretry : k ≠ .forceRetry) (hmove : TaskMove now k t t' db db₁)
    (h : (requireEngagement db₁ tenantId t'.engagementId >>= fun e =>
      withSnapshot (reconcileEngagement db₁ now e) tenantId t'.engagementId) = .ok (db', s)) :
    Acted now op db db' := by
  obtain ⟨e, he, -, hid, h⟩ := requireEngagement_bind_ok h
  rw [withSnapshot_ok h]
  exact ⟨k, t, t', e, db₁, hacts, hretry, hmove, hid.trans hmove.same.engagementId,
    reconcileEngagement_spec (hmove.wellFormed hwf) he⟩

variable {workerId actorId reason : String}

theorem completeTask_acted (hwf : WellFormed db) {result : TaskExecutionResult}
    (h : completeTask db now tenantId taskId workerId result = .ok (db', s)) :
    Acted now (.completeTask tenantId taskId workerId result) db db' := by
  obtain ⟨t, ht, hten, hid, h⟩ := requireTask_bind_ok h
  obtain ⟨hlease, h⟩ := require_bind_ok.mp h
  have hout : AttemptStatus.succeeded ≠ .running := by simp
  have hmove := completeTask_move now hwf ht (leaseMatches_running hlease).1 result
    (.outputs (executedTask now result t).1.outputRefs)
    ⟨.succeeded, none, none, some result.result, result.outputRefs⟩ hout
  have hretry : completeKind t ≠ .forceRetry := by
    unfold completeKind
    split <;> simp
  exact acted_of_reconcile hwf ⟨hten, hid, hlease, rfl⟩ hretry hmove h

theorem failTask_acted (hwf : WellFormed db)
    {failureClass : FailureClass} {message : String} {forceRetryable : Option Bool}
    (h : failTask db now tenantId taskId workerId failureClass message forceRetryable
      = .ok (db', s)) :
    Acted now (.failTask tenantId taskId workerId failureClass message forceRetryable) db db' := by
  obtain ⟨t, ht, hten, hid, h⟩ := requireTask_bind_ok h
  obtain ⟨hlease, h⟩ := require_bind_ok.mp h
  set row := (applyFailure db now t failureClass message forceRetryable).2 with hrow
  have hout : (if row.status = .retryWait then AttemptStatus.retryScheduled else .failed)
      ≠ .running := by
    split <;> simp
  obtain ⟨k, hk, hmove⟩ := applyFailure_move now hwf ht (leaseMatches_running hlease).1
    failureClass message forceRetryable
    ⟨_, some (.failure failureClass), some message, none, []⟩ hout
  have hretry : k ≠ .forceRetry := by
    rcases hk with rfl | rfl <;> simp
  exact acted_of_reconcile hwf ⟨hten, hid, hlease, hk⟩ hretry hmove h

theorem decideGate_acted (hwf : WellFormed db) {decision : GateDecision} {approved : Bool}
    (h : decideGate db now tenantId taskId decision approved = .ok (db', s)) :
    Acted now (if approved then .approveGate tenantId taskId decision
      else .rejectGate tenantId taskId decision) db db' := by
  obtain ⟨t, ht, hten, hid, h⟩ := requireTask_bind_ok h
  obtain ⟨⟨hwait, hgate⟩, h⟩ := require_bind_ok.mp h
  refine acted_of_reconcile (k := decideKind t approved) hwf ?_ ?_
    (decideTask_move now ht hwait hgate decision approved _) h
  · cases approved with
    | true => exact ⟨hten, hid, hwait, hgate, rfl⟩
    | false => exact ⟨hten, hid, hwait, hgate, rfl⟩
  · unfold decideKind
    split_ifs <;> simp

theorem forceSkipTask_acted (hwf : WellFormed db)
    (h : forceSkipTask db now tenantId taskId actorId reason = .ok (db', s)) :
    Acted now (.forceSkipTask tenantId taskId actorId reason) db db' := by
  obtain ⟨hreason, h⟩ := require_bind_ok.mp h
  obtain ⟨t, ht, hten, hid, h⟩ := requireTask_bind_ok h
  obtain ⟨hopen, h⟩ := require_bind_ok.mp h
  have hout : AttemptStatus.cancelled ≠ .running := by simp
  have hmove := skippedTask_move now hwf ht hopen (.decision actorId reason)
    ⟨.cancelled, some .administrativeSkip, some reason, none, []⟩ hout
  exact acted_of_reconcile hwf ⟨hten, hid, hreason, hopen, rfl⟩ (by simp) hmove h

/-- `force_retry_task` also reopens the engagement before it reconciles it. -/
inductive Retried (now : Timestamp) (op : Op) (db db' : Database) : Prop
  | intro (t t' : EngagementTask) (e e' : Engagement) (db₁ db₂ : Database)
      (acts : op.acts now t .forceRetry) (move : TaskMove now .forceRetry t t' db db₁)
      (owner : e.engagementId = t.engagementId) (reopen : EngagementMove now e e' db₁ db₂)
      (status : e'.status = e.status) (completedAt : e'.completedAt = none)
      (reconciled : Reconciled now e' db₂ db')

theorem forceRetryTask_retried (hwf : WellFormed db)
    (h : forceRetryTask db now tenantId taskId actorId reason = .ok (db', s)) :
    Retried now (.forceRetryTask tenantId taskId actorId reason) db db' := by
  obtain ⟨hreason, h⟩ := require_bind_ok.mp h
  obtain ⟨t, ht, hten, hid, h⟩ := requireTask_bind_ok h
  obtain ⟨hstopped, h⟩ := require_bind_ok.mp h
  have hmove := retriedTask_move now ht hstopped (.decision actorId reason)
  have hwf₁ := hmove.wellFormed hwf
  obtain ⟨e, he, -, heid, h⟩ := requireEngagement_bind_ok h
  rw [withSnapshot_ok h]
  have hreopen : EngagementMove now e { e with completedAt := none } _
      (Database.putEngagement _ { e with completedAt := none }) :=
    { mem := he, step := .reopen rfl rfl, engagementId := rfl, tenantId := rfl
      engagements := rfl, tasks := rfl, dependencies := rfl, attempts := rfl
      event := Or.inl ⟨rfl, rfl⟩ }
  have hwf₂ := hreopen.wellFormed hwf₁
  exact ⟨t, _, e, _, _, _, ⟨hten, hid, hreason, hstopped, rfl⟩, hmove, heid, hreopen, rfl, rfl,
    reconcileEngagement_spec hwf₂ ((hreopen.mem_engagements hwf₁).mpr (Or.inl rfl))⟩

end Acting

/-! ### Starting, claiming and heartbeats -/

section Simple

variable {now : Timestamp} {db db' : Database}

inductive Started (now : Timestamp) (db db' : Database) : Prop
  | intro (e e' : Engagement) (db₁ : Database) (move : EngagementMove now e e' db db₁)
      (planned : e.status = .planned) (tasks : db.listTasks e.tenantId e.engagementId ≠ [])
      (status : e'.status = .running) (completedAt : e'.completedAt = e.completedAt)
      (reconciled : Reconciled now e' db₁ db')

variable {tenantId : String}
variable {engagementId workerId : String} {s : EngagementSnapshot} {lease : TaskLease}
  {leaseSeconds : Int}

theorem startEngagement_moves (hwf : WellFormed db)
    (h : startEngagement db now tenantId engagementId = .ok (db', s)) :
    ∃ e e' db₁, e.engagementId = engagementId ∧ EngagementMove now e e' db db₁ ∧
      e.status = .planned ∧ db.listTasks e.tenantId e.engagementId ≠ [] ∧
      e'.status = .running ∧ e'.completedAt = e.completedAt ∧ Reconciled now e' db₁ db' := by
  obtain ⟨e, he, rfl, rfl, h⟩ := requireEngagement_bind_ok h
  obtain ⟨hplanned, h⟩ := require_bind_ok.mp h
  obtain ⟨htasks, h⟩ := require_bind_ok.mp h
  rw [withSnapshot_ok h]
  have hmove := transitionEngagement_move now { e with startedAt := some now } .running
    .engagementStarted .none he rfl rfl rfl (.start hplanned rfl rfl)
  exact ⟨e, _, _, rfl, hmove, hplanned, by simpa using htasks, rfl, rfl,
    reconcileEngagement_spec (hmove.wellFormed hwf)
    ((hmove.mem_engagements hwf).mpr (Or.inl rfl))⟩

theorem startEngagement_started (hwf : WellFormed db)
    (h : startEngagement db now tenantId engagementId = .ok (db', s)) :
    Started now db db' := by
  obtain ⟨e, e', db₁, -, move, planned, tasks, status, completedAt, reconciled⟩ :=
    startEngagement_moves hwf h
  exact ⟨e, e', db₁, move, planned, tasks, status, completedAt, reconciled⟩

/-- What a claim does: nothing, when no task is claimable, or it leases the
best candidate. -/
inductive Claimed (now : Timestamp) (tenantId workerId : String) (filter : Database.ClaimFilter)
    (db db' : Database) : Option TaskLease → Prop
  | idle (eq : db' = db) : Claimed now tenantId workerId filter db db' none
  | leased (t t' : EngagementTask) (lease : TaskLease)
      (best : (db.claimable tenantId now filter).head? = some t)
      (move : TaskMove now (.claim workerId) t t' db db')
      (taskId : lease.taskId = t.taskId) (engagementId : lease.engagementId = t.engagementId) :
      Claimed now tenantId workerId filter db db' (some lease)

theorem leaseFromTask_ok {t : EngagementTask} (h : leaseFromTask t = .ok lease) :
    lease.taskId = t.taskId ∧ lease.engagementId = t.engagementId := by
  unfold leaseFromTask at h
  split at h
  · rw [Except.ok.injEq] at h
    subst h
    exact ⟨rfl, rfl⟩
  · exact absurd h (by simp)

theorem claimNext_claimed (hwf : WellFormed db) {filter : Database.ClaimFilter}
    {lease : Option TaskLease}
    (h : claimNext db now tenantId workerId leaseSeconds filter = .ok (db', lease)) :
    0 < leaseSeconds ∧ Claimed now tenantId workerId filter db db' lease := by
  obtain ⟨hpos, h⟩ := require_bind_ok.mp h
  refine ⟨hpos, ?_⟩
  rcases claimNext_cases hwf tenantId workerId now leaseSeconds filter with
    ⟨hnone, -⟩ | ⟨t, t', hhead, hsome, hstep⟩
  · rw [hnone] at h
    simp only [pure, Except.pure, Except.ok.injEq, Prod.mk.injEq] at h
    rw [← h.2]
    exact .idle h.1.symm
  · rw [hsome] at h
    have ht := (mem_claimable (List.mem_of_mem_head? hhead)).1
    rcases hattempt : (db.putTask t').startAttempt t' workerId now with _ | db₂
    · -- the claim is rolled back
      simp only [hattempt] at h
      exact absurd h (by simp [throw, throwThe, MonadExceptOf.throw])
    · simp only [hattempt] at h
      have hmove := startAttempt_move (.lease workerId t'.leaseExpiresAt) ht hstep hattempt
      rcases hlease : leaseFromTask t' with err | l
      · rw [hlease] at h
        exact absurd h (by simp [bind, Except.bind])
      · rw [hlease] at h
        simp only [bind, Except.bind, pure, Except.pure, Except.ok.injEq, Prod.mk.injEq] at h
        obtain ⟨rfl, rfl⟩ := h
        obtain ⟨h1, h2⟩ := leaseFromTask_ok hlease
        exact .leased t t' l hhead hmove (h1.trans hmove.same.taskId)
          (h2.trans hmove.same.engagementId)

theorem heartbeat_move {taskId : String}
    (h : heartbeat db now tenantId taskId workerId leaseSeconds = .ok (db', lease)) :
    ∃ t t', TaskMove now .heartbeat t t' db db' := by
  obtain ⟨-, h⟩ := require_bind_ok.mp h
  rcases hext : db.extendLease tenantId taskId workerId now leaseSeconds with _ | ⟨db₁, t'⟩
  · rw [hext] at h
    exact absurd h (by simp [throw, throwThe, MonadExceptOf.throw])
  · rw [hext] at h
    obtain ⟨t, -, -, hmove⟩ := extendLease_move hext
    rcases hlease : leaseFromTask t' with err | l
    · simp only [hlease] at h
      exact absurd h (by simp [bind, Except.bind])
    · simp only [hlease, bind, Except.bind, pure, Except.pure, Except.ok.injEq,
        Prod.mk.injEq] at h
      rw [← h.1]
      exact ⟨t, t', hmove⟩

end Simple

section Sweeps

variable {now : Timestamp} {db db' : Database}

theorem nodup_query (hwf : WellFormed db) (p : EngagementTask → Bool)
    (r : EngagementTask → EngagementTask → Prop) [DecidableRel r] :
    ((db.tasks.filter p).insertionSort r).Pairwise fun a b => a.taskId ≠ b.taskId := by
  have hsub : ((db.tasks.filter p).map (·.taskId)).Nodup :=
    hwf.taskKeys.sublist (List.filter_sublist.map _)
  have hperm := ((db.tasks.filter p).perm_insertionSort r).map (·.taskId)
  exact List.pairwise_map.mp (hperm.nodup_iff.mpr hsub)

section Loop

variable {allows : Database → MoveKind → EngagementTask → Prop} {P : EngagementTask → Prop}
  {f : Database → EngagementTask → Database}
  (hstep : ∀ db t, WellFormed db → t ∈ db.tasks → P t →
    f db t = db ∨ ∃ k t', allows db k t ∧ TaskMove now k t t' db (f db t))
include hstep

private theorem sweep_step (db : Database) (t : EngagementTask)
    (h : WellFormed db ∧ t ∈ db.tasks ∧ P t) : TaskPath now allows db (f db t) := by
  rcases hstep db t h.1 h.2.1 h.2.2 with heq | ⟨k, t', hallow, hmove⟩
  · rw [heq]
  · exact .single ⟨k, t, t', hallow, hmove⟩

private theorem sweep_keep (db : Database) (t u : EngagementTask)
    (h : WellFormed db ∧ t ∈ db.tasks ∧ P t) (hu : WellFormed db ∧ u ∈ db.tasks ∧ P u)
    (hne : t.taskId ≠ u.taskId) : WellFormed (f db t) ∧ u ∈ (f db t).tasks ∧ P u := by
  refine ⟨(sweep_step hstep db t h).path.wellFormed h.1, ?_, hu.2.2⟩
  rcases hstep db t h.1 h.2.1 h.2.2 with heq | ⟨k, t', -, hmove⟩
  · rw [heq]
    exact hu.2.1
  · exact hmove.other_mem hu.2.1 fun heq => hne heq.symm

variable {l : List EngagementTask}

theorem sweep_path (hwf : WellFormed db) (hl : l.Pairwise fun a b => a.taskId ≠ b.taskId)
    (hmem : ∀ t ∈ l, t ∈ db.tasks ∧ P t) :
    TaskPath now allows db (l.foldl f db) :=
  Runs.foldl_path (sweep_step hstep) (sweep_keep hstep) l db hl
    fun t ht => ⟨hwf, hmem t ht⟩

theorem sweep_done {Done : Database → EngagementTask → Prop} (hwf : WellFormed db)
    (hl : l.Pairwise fun a b => a.taskId ≠ b.taskId) (hmem : ∀ t ∈ l, t ∈ db.tasks ∧ P t)
    (hdone : ∀ db t, WellFormed db ∧ t ∈ db.tasks ∧ P t → Done (f db t) t)
    (hstay : ∀ db db' t, TaskChange now allows db db' → Done db t → Done db' t) :
    ∀ t ∈ l, Done (l.foldl f db) t :=
  Runs.foldl_done (sweep_step hstep) (sweep_keep hstep) hdone hstay l db hl
    fun t ht => ⟨hwf, hmem t ht⟩

end Loop

/-- Cancellation moves of tasks of `E`. -/
abbrev CancelOf (E : String) : Database → MoveKind → EngagementTask → Prop :=
  fun _ k t => k = .cancel ∧ t.engagementId = E

/-- The row of `t` is terminal. -/
def Ended (db : Database) (t : EngagementTask) : Prop :=
  WellFormed db ∧ ∃ t' ∈ db.tasks, t'.taskId = t.taskId ∧ t'.status.isTerminal

theorem cancelTask_cases (now : Timestamp) (E actorId reason : String) (db : Database)
    (t : EngagementTask) (hwf : WellFormed db) (ht : t ∈ db.tasks) (hE : t.engagementId = E) :
    cancelTask now actorId reason db t = db ∨ ∃ k t', CancelOf E db k t ∧
      TaskMove now k t t' db (cancelTask now actorId reason db t) := by
  by_cases hterm : t.status.isTerminal = true
  · left
    rw [cancelTask, if_pos hterm]
  · right
    obtain ⟨t', hmove⟩ := cancelTask_move now hwf ht (by simpa using hterm) actorId reason
    exact ⟨.cancel, t', ⟨rfl, hE⟩, hmove⟩

variable {actorId reason tenantId : String}
variable {E engagementId : String} {s : EngagementSnapshot}

theorem cancelTask_ended (db : Database) (t : EngagementTask)
    (h : WellFormed db ∧ t ∈ db.tasks ∧ t.engagementId = E) :
    Ended (cancelTask now actorId reason db t) t := by
  obtain ⟨hwf, ht, -⟩ := h
  by_cases hterm : t.status.isTerminal = true
  · rw [cancelTask, if_pos hterm]
    exact ⟨hwf, t, ht, rfl, hterm⟩
  · obtain ⟨t', hmove⟩ := cancelTask_move now hwf ht (by simpa using hterm) actorId reason
    refine ⟨hmove.wellFormed hwf, t', hmove.new_mem, hmove.same.taskId, ?_⟩
    cases hmove.step with
    | cancel _ become =>
      rw [become.status]
      rfl

theorem Ended.stays (db db' : Database) (t : EngagementTask)
    (hchange : TaskChange now (CancelOf E) db db') (h : Ended db t) : Ended db' t := by
  obtain ⟨k, u, u', ⟨rfl, -⟩, hmove⟩ := hchange
  obtain ⟨hwf, t₁, ht₁, hid, hterm⟩ := h
  refine ⟨hmove.wellFormed hwf, t₁, hmove.other_mem ht₁ fun heq => ?_, hid, hterm⟩
  -- a terminal row is not cancelled again
  have hut : t₁ = u := hwf.eq_of_taskId ht₁ hmove.mem heq
  cases hmove.step with
  | cancel active _ =>
    rw [← hut, hterm] at active
    exact absurd active (by simp)

/-- `cancel_engagement` cancels the open tasks and then the engagement. -/
inductive Cancelled (now : Timestamp) (db db' : Database) : Prop
  | intro (e e' : Engagement) (db₁ : Database)
      (path : TaskPath now (CancelOf e.engagementId) db db₁)
      (move : EngagementMove now e e' db₁ db') (status : e'.status = .cancelled)
      (completedAt : e'.completedAt = some now)
      (settled : ∀ t ∈ db₁.tasks, t.engagementId = e.engagementId → t.status.isTerminal)

theorem cancelEngagement_moves (hwf : WellFormed db)
    (h : cancelEngagement db now tenantId engagementId actorId reason = .ok (db', s)) :
    ∃ e e' db₁, e.engagementId = engagementId ∧
      TaskPath now (CancelOf e.engagementId) db db₁ ∧ EngagementMove now e e' db₁ db' ∧
      e'.status = .cancelled ∧ e'.completedAt = some now ∧
      ∀ t ∈ db₁.tasks, t.engagementId = e.engagementId → t.status.isTerminal := by
  obtain ⟨-, h⟩ := require_bind_ok.mp h
  obtain ⟨e, he, rfl, rfl, h⟩ := requireEngagement_bind_ok h
  obtain ⟨hlive, h⟩ := require_bind_ok.mp h
  rw [withSnapshot_ok h]
  have hmem : ∀ t ∈ db.listTasks e.tenantId e.engagementId,
      t ∈ db.tasks ∧ t.engagementId = e.engagementId := fun t ht => (hwf.mem_listTasks he).mp ht
  have hdistinct : (db.listTasks e.tenantId e.engagementId).Pairwise fun a b =>
      a.taskId ≠ b.taskId := nodup_query hwf _ _
  have hcases := cancelTask_cases now e.engagementId actorId reason
  have hpath := sweep_path hcases hwf hdistinct hmem
  have hended := sweep_done hcases hwf hdistinct hmem cancelTask_ended Ended.stays
  set db₁ := (db.listTasks e.tenantId e.engagementId).foldl (cancelTask now actorId reason) db
  -- every task of the engagement was in the list
  have hsettled : ∀ t ∈ db₁.tasks, t.engagementId = e.engagementId → t.status.isTerminal := by
    intro t ht hE
    obtain ⟨t₀, ht₀, hsame⟩ := hpath.path.preimage hwf t ht
    obtain ⟨hwf₁, t₁, ht₁, hid, hterm⟩ := hended t₀
      ((hwf.mem_listTasks he).mpr ⟨ht₀, hsame.engagementId.symm.trans hE⟩)
    rw [hwf₁.eq_of_taskId ht ht₁ (hsame.taskId.trans hid.symm)]
    exact hterm
  have he₁ : e ∈ db₁.engagements := by
    rw [hpath.engagements]
    exact he
  exact ⟨e, _, db₁, rfl, hpath, transitionEngagement_move now { e with completedAt := some now } _ _ _
    he₁ rfl rfl rfl (.cancel hlive hsettled rfl rfl), rfl, rfl, hsettled⟩

theorem cancelEngagement_cancelled (hwf : WellFormed db)
    (h : cancelEngagement db now tenantId engagementId actorId reason = .ok (db', s)) :
    Cancelled now db db' := by
  obtain ⟨e, e', db₁, -, path, move, status, completedAt, settled⟩ := cancelEngagement_moves hwf h
  exact ⟨e, e', db₁, path, move, status, completedAt, settled⟩

/-- The moves of the maintenance passes over the tasks of a tenant. -/
abbrev SweepOf (tenantId : String) : Database → MoveKind → EngagementTask → Prop :=
  fun _ k t => t.tenantId = tenantId ∧ (k = .retry ∨ k = .fail ∨ k = .overdue ∨ k = .promote)

theorem recoverExpiredLeases_path (hwf : WellFormed db) (tenantId : String) (now : Timestamp) :
    TaskPath now (SweepOf tenantId) db (recoverExpiredLeases db tenantId now).1 := by
  refine sweep_path (P := fun t => t.tenantId = tenantId ∧ t.status = .running) ?_ hwf
    (nodup_query hwf _ _) ?_
  · intro db t hwf ht hP
    obtain ⟨k, t', hk, hmove⟩ := recoverExpiredLease_move now hwf ht hP.2
    refine Or.inr ⟨k, t', ⟨hP.1, ?_⟩, hmove⟩
    rcases hk with rfl | rfl
    · exact Or.inl rfl
    · exact Or.inr (Or.inl rfl)
  · intro t ht
    simp only [Database.expiredRunningTasks, List.mem_insertionSort, List.mem_filter,
      decide_eq_true_eq] at ht
    exact ⟨ht.1, ht.2.1, ht.2.2.1⟩

theorem failOverdueTasks_path (hwf : WellFormed db) (tenantId : String) (now : Timestamp) :
    TaskPath now (SweepOf tenantId) db (failOverdueTasks db tenantId now).1 := by
  refine sweep_path (P := fun t => t.tenantId = tenantId ∧ t.status.isTerminal = false) ?_ hwf
    (nodup_query hwf _ _) ?_
  · intro db t hwf ht hP
    obtain ⟨t', hmove⟩ := failOverdueTask_move now hwf ht hP.2
    exact Or.inr ⟨.overdue, t', ⟨hP.1, by simp⟩, hmove⟩
  · intro t ht
    simp only [Database.overdueNonterminalTasks, List.mem_insertionSort, List.mem_filter,
      decide_eq_true_eq] at ht
    exact ⟨ht.1, ht.2.1, by simpa using ht.2.2.1⟩

theorem promoteDueRetries_path (hwf : WellFormed db) (tenantId : String) (now : Timestamp) :
    TaskPath now (SweepOf tenantId) db (promoteDueRetries db tenantId now).1 := by
  refine sweep_path (P := fun t => t.tenantId = tenantId ∧ t.status = .retryWait) ?_ hwf
    (nodup_query hwf _ _) ?_
  · intro db t _ ht hP
    obtain ⟨t', hmove⟩ := promoteDueRetry_move now ht hP.2
    exact Or.inr ⟨.promote, t', ⟨hP.1, by simp⟩, hmove⟩
  · intro t ht
    simp only [Database.dueRetryTasks, List.mem_insertionSort, List.mem_filter,
      decide_eq_true_eq] at ht
    exact ⟨ht.1, ht.2.1, ht.2.2.1⟩

/-- The engagements of the list are reconciled one after the other. -/
inductive ReconciledEach (now : Timestamp) : List Engagement → Database → Database → Prop
  | nil (db : Database) : ReconciledEach now [] db db
  | cons {e : Engagement} {es : List Engagement} {db db₁ db' : Database}
      (head : Reconciled now e db db₁) (tail : ReconciledEach now es db₁ db') :
      ReconciledEach now (e :: es) db db'

theorem reconciledEach_foldl {es : List Engagement} (hwf : WellFormed db)
    (hdistinct : (es.map (·.engagementId)).Nodup) (hes : ∀ e ∈ es, e ∈ db.engagements) :
    ReconciledEach now es db
      (es.foldl (fun db e => reconcileEngagement db now e) db) := by
  induction es generalizing db with
  | nil => exact .nil db
  | cons e es ih =>
    rw [List.map_cons, List.nodup_cons] at hdistinct
    have hrec : Reconciled now e db (reconcileEngagement db now e) :=
      reconcileEngagement_spec hwf (hes e List.mem_cons_self)
    refine .cons hrec (ih (hrec.wellFormed hwf) hdistinct.2 fun f hf => ?_)
    have hne : f.engagementId ≠ e.engagementId := fun heq =>
      hdistinct.1 (heq ▸ List.mem_map_of_mem hf)
    exact (hrec.mem_engagements_of_ne hwf hne).mpr (hes f (List.mem_cons_of_mem _ hf))

theorem mem_listActiveEngagements {e : Engagement} :
    e ∈ db.listActiveEngagements tenantId ↔
      e ∈ db.engagements ∧ e.tenantId = tenantId ∧ Database.isActive e.status := by
  simp only [Database.listActiveEngagements, List.mem_insertionSort, List.mem_filter,
    decide_eq_true_eq]

theorem nodup_listActiveEngagements (hwf : WellFormed db) (tenantId : String) :
    ((db.listActiveEngagements tenantId).map (·.engagementId)).Nodup := by
  have hsub : ((db.engagements.filter fun e =>
      e.tenantId = tenantId ∧ Database.isActive e.status).map (·.engagementId)).Nodup :=
    hwf.engagementKeys.sublist (List.filter_sublist.map _)
  exact ((List.perm_insertionSort _ _).map _).nodup_iff.mpr hsub

/-- `tick` sweeps over the tasks of the tenant and then reconciles its active
engagements. -/
inductive Ticked (now : Timestamp) (tenantId : String) (db db' : Database) : Prop
  | intro (db₁ : Database) (sweep : TaskPath now (SweepOf tenantId) db db₁)
      (reconciled : ReconciledEach now (db₁.listActiveEngagements tenantId) db₁ db')

theorem tick_ticked (hwf : WellFormed db) (tenantId : String) :
    Ticked now tenantId db (tick db now tenantId).1 := by
  have h₁ := recoverExpiredLeases_path hwf tenantId now
  have hwf₁ := h₁.path.wellFormed hwf
  have h₂ := failOverdueTasks_path hwf₁ tenantId now
  have hwf₂ := h₂.path.wellFormed hwf₁
  have h₃ := promoteDueRetries_path hwf₂ tenantId now
  have hwf₃ := h₃.path.wellFormed hwf₂
  exact ⟨_, (h₁.trans h₂).trans h₃, reconciledEach_foldl hwf₃
    (nodup_listActiveEngagements hwf₃ tenantId) fun e he => (mem_listActiveEngagements.mp he).1⟩

end Sweeps

end Orchestration
