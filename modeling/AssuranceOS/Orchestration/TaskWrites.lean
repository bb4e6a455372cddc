/-
Every write of the service to a task row is a move.

For each helper and each branch of `orchestration/service.py` that changes a
task row, closes its attempt and appends the transition, the lemmas below name
the move it makes.  `TaskMove.of_transition` is the common shape: a rewritten
row, new attempt rows, and the event of the transition.
-/
import AssuranceOS.Orchestration.Moves

namespace Orchestration

open Orchestrator

variable {now : Timestamp} {k : MoveKind} {t t' : EngagementTask} {db : Database}
variable {db₁ : Database} {tenantId workerId : String}
variable {reason : TransitionReason} {filter : Database.ClaimFilter}

theorem TaskMove.of_transition {attempts : List TaskAttempt} {extra : Extra} (ht : t ∈ db.tasks)
    (hstep : TaskStep now db t t' k)
    (hdb : db₁ =
      { db with tasks := Table.put EngagementTask.taskId t' db.tasks, attempts := attempts })
    (hattempts : AttemptChange k t t' db.attempts attempts) (hk : k ≠ .heartbeat)
    (happroved : reason = .humanGateApproved ↔ k = .approve ∨ k = .accept)
    (hrejected : reason = .humanGateRejected ↔ k = .reject) :
    TaskMove now k t t' db (recordTaskTransition db₁ now t' t.status reason extra) := by
  subst hdb
  refine
    { mem := ht
      step := hstep
      tasks := rfl
      engagements := rfl
      dependencies := rfl
      attempts := hattempts
      event := ⟨_, ?_, rfl⟩ }
  exact ⟨rfl, rfl, rfl, rfl, hk, happroved, hrejected⟩

theorem AttemptsKept.finishIfRunning (hwf : WellFormed db) (ht : t ∈ db.tasks)
    (hstop : t'.status ≠ .running) {task : EngagementTask}
    (hrow : db₁.attempts = db.attempts ∧ task.tenantId = t.tenantId ∧ task.taskId = t.taskId ∧
      task.attemptCount = t.attemptCount)
    {outcome : Database.AttemptOutcome} (hout : outcome.status ≠ .running) :
    AttemptsKept t t' db.attempts
      (if t.status = .running then db₁.finishAttempt task now outcome else db₁).attempts := by
  split
  · rename_i hrun
    exact .finishAttempt hwf ht hrun hstop hrow hout
  · rename_i hrun
    rw [hrow.1]
    exact .refl (fun hc => hrun hc.1) db.attempts

theorem finishIfRunning_eq (db : Database) (task : EngagementTask)
    (outcome : Database.AttemptOutcome) (status : TaskStatus) :
    (if status = .running then db.finishAttempt task now outcome else db) =
      { db with attempts :=
          (if status = .running then db.finishAttempt task now outcome else db).attempts } := by
  split
  · exact finishAttempt_eq task outcome
  · rfl

theorem mem_claimable :
    t ∈ db.claimable tenantId now filter → t ∈ db.tasks ∧ t.tenantId = tenantId ∧
      t.status = .ready ∧ Database.available t now ∧ ¬ elapsed t.deadlineAt now := by
  intro h
  have hmem := List.mem_of_mem_take h
  simp only [List.mem_insertionSort, List.mem_filter, decide_eq_true_eq] at hmem
  obtain ⟨ht, hten, hready, havail, hlate, -⟩ := hmem
  exact ⟨ht, hten, hready, havail, hlate⟩

theorem tryLease_eq (hwf : WellFormed db) (workerId : String) (leaseSeconds : Int)
    (ht : t ∈ db.claimable tenantId now filter) :
    ∃ t', db.tryLease tenantId workerId now leaseSeconds t = some (db.putTask t', t') ∧
      TaskStep now db t t' (.claim workerId) := by
  obtain ⟨hmem, hten, hready, havail, hlate⟩ := mem_claimable ht
  -- the compare-and-set finds the candidate itself
  have hfind : (db.tasks.find? fun u => u.taskId = t.taskId ∧ u.tenantId = tenantId
      ∧ u.status = .ready ∧ Database.available u now) = some t := by
    rcases hf : db.tasks.find? fun u => u.taskId = t.taskId ∧ u.tenantId = tenantId
      ∧ u.status = .ready ∧ Database.available u now with _ | u
    · have hnone := List.find?_eq_none.mp hf t hmem
      simp [hten, hready, havail] at hnone
    · have hprop := List.find?_some hf
      simp only [decide_eq_true_eq] at hprop
      rw [hf, hwf.eq_of_taskId (List.mem_of_find?_eq_some hf) hmem hprop.1]
  rw [Database.tryLease, hfind]
  refine ⟨_, rfl, .claim workerId (now + timedelta leaseSeconds) hready hlate ?_⟩
  exact ⟨⟨rfl, rfl, rfl, rfl, rfl, rfl, rfl⟩, rfl, rfl, rfl, rfl, rfl⟩

theorem claimNext_cases (hwf : WellFormed db) (tenantId workerId : String) (now : Timestamp)
    (leaseSeconds : Int) (filter : Database.ClaimFilter) :
    (db.claimNext tenantId workerId now leaseSeconds filter = none ∧
      db.claimable tenantId now filter = []) ∨
    ∃ t t', (db.claimable tenantId now filter).head? = some t ∧
      db.claimNext tenantId workerId now leaseSeconds filter = some (db.putTask t', t') ∧
      TaskStep now db t t' (.claim workerId) := by
  unfold Database.claimNext
  rcases hc : db.claimable tenantId now filter with _ | ⟨t, ts⟩
  · exact Or.inl ⟨rfl, rfl⟩
  · right
    have ht : t ∈ db.claimable tenantId now filter := by
      rw [hc]
      exact List.mem_cons_self
    obtain ⟨t', hlease, hstep⟩ := tryLease_eq hwf workerId leaseSeconds ht
    exact ⟨t, t', rfl, by rw [List.findSome?_cons, hlease], hstep⟩

theorem startAttempt_move (extra : Extra) {db₂ : Database} (ht : t ∈ db.tasks)
    (hstep : TaskStep now db t t' (.claim workerId))
    (h : (db.putTask t').startAttempt t' workerId now = some db₂) :
    TaskMove now (.claim workerId) t t' db
      (recordTaskTransition db₂ now t' .ready .workerClaimed extra) := by
  unfold Database.startAttempt at h
  split at h
  · exact absurd h (by simp)
  · rename_i hfresh
    rw [Option.some_inj] at h
    subst h
    have hready : t.status = .ready := by
      cases hstep
      assumption
    rw [← hready]
    refine .of_transition ht hstep rfl ?_ (by simp) (by simp) (by simp)
    refine ⟨_, rfl, rfl, rfl, rfl, rfl, ?_⟩
    intro b hb hno
    exact hfresh (List.any_eq_true.mpr ⟨b, hb, decide_eq_true hno⟩)

theorem extendLease_move {taskId : String} {leaseSeconds : Int}
    (h : db.extendLease tenantId taskId workerId now leaseSeconds = some (db₁, t')) :
    ∃ t, t.tenantId = tenantId ∧ t.taskId = taskId ∧ TaskMove now .heartbeat t t' db
      ((db₁.updateAttemptLease tenantId t'.taskId t'.attemptCount t'.leaseExpiresAt).recordTask
        now t' (.taskHeartbeat workerId t'.leaseExpiresAt t'.attemptCount)) := by
  unfold Database.extendLease at h
  split at h
  · exact absurd h (by simp)
  · rename_i u hfind
    have hu := List.mem_of_find?_eq_some hfind
    have hprop := List.find?_some hfind
    simp only [decide_eq_true_eq] at hprop
    obtain ⟨hten, hid, hrun, -⟩ := hprop
    simp only [Option.some.injEq, Prod.mk.injEq] at h
    obtain ⟨rfl, rfl⟩ := h
    refine ⟨u, hten, hid, ?_⟩
    refine
      { mem := hu
        step := .heartbeat (now + timedelta leaseSeconds) hrun
          ⟨⟨rfl, rfl, rfl, rfl, rfl, rfl, rfl⟩, hrun, rfl, rfl, rfl, rfl⟩
        tasks := rfl
        engagements := rfl
        dependencies := rfl
        attempts := ?_
        event := ⟨.taskHeartbeat workerId _ _, rfl, rfl⟩ }
    refine ⟨_, rfl, fun a _ => ?_⟩
    split
    · rename_i hlive
      simp only at hlive
      exact ⟨rfl, rfl, rfl, by simp [hrun], fun hstopped => absurd hlive.2.2.2 hstopped⟩
    · exact ⟨rfl, rfl, rfl, by simp [hrun], fun _ => rfl⟩

theorem leaseMatches_running (h : leaseMatches t workerId now) :
    t.status = .running ∧ t.leaseOwner = some workerId := by
  simp only [leaseMatches, decide_eq_true_eq] at h
  exact ⟨h.1, h.2.1⟩

variable (now)

/-- The kind of move that `complete_task` makes. -/
def completeKind (t : EngagementTask) : MoveKind :=
  if PyString.truthy t.humanGate ∧ t.executionPolicy.gatePosition = .after then .submit
  else .complete

theorem completeTask_move (hwf : WellFormed db) (ht : t ∈ db.tasks) (hrun : t.status = .running)
    (result : TaskExecutionResult) (extra : Extra) (outcome : Database.AttemptOutcome)
    (hout : outcome.status ≠ .running) :
    TaskMove now (completeKind t) t (executedTask now result t).1 db
      (recordTaskTransition
        ((db.putTask (executedTask now result t).1).finishAttempt (executedTask now result t).1 now
          outcome)
        now (executedTask now result t).1 t.status (executedTask now result t).2 extra) := by
  unfold executedTask completeKind
  dsimp only
  split
  · rename_i hgate
    refine .of_transition ht (.submit hrun hgate.2 ?_) (finishAttempt_eq _ _) ?_ (by simp)
      (by simp) (by simp)
    · exact ⟨⟨rfl, rfl, rfl, rfl, rfl, rfl, rfl⟩, rfl, rfl, rfl, rfl, rfl⟩
    · show AttemptsKept t _ db.attempts _
      refine .finishAttempt hwf ht hrun ?_ ?_ hout
      · simp
      · exact ⟨rfl, rfl, rfl, rfl⟩
  · refine .of_transition ht (.complete hrun ?_) (finishAttempt_eq _ _) ?_ (by simp)
      (by simp) (by simp)
    · exact ⟨⟨rfl, rfl, rfl, rfl, rfl, rfl, rfl⟩, rfl, rfl, rfl, rfl, rfl⟩
    · show AttemptsKept t _ db.attempts _
      refine .finishAttempt hwf ht hrun ?_ ?_ hout
      · simp
      · exact ⟨rfl, rfl, rfl, rfl⟩

/-- The row of a failed attempt is written with its event, and the attempt is
closed after that. -/
theorem TaskMove.of_failure (hwf : WellFormed db) (ht : t ∈ db.tasks) (hrun : t.status = .running)
    (hk : k = .retry ∨ k = .fail) (hstep : TaskStep now db t t' k)
    (hstop : t'.status ≠ .running)
    (hreason : Announces k t t'
      (.taskTransitioned t'.taskKey t.status t'.status reason t'.attemptCount extra))
    (outcome : Database.AttemptOutcome) (hout : outcome.status ≠ .running) :
    TaskMove now k t t' db
      ((recordTaskTransition (db.putTask t') now t' t.status reason extra).finishAttempt t' now
        outcome) where
  mem := ht
  step := hstep
  tasks := by rw [finishAttempt_tasks]; rfl
  engagements := by rw [finishAttempt_engagements]; rfl
  dependencies := by rw [finishAttempt_dependencies]; rfl
  attempts := by
    have hcount : t'.attemptCount = t.attemptCount := by
      rcases hk with rfl | rfl
      · cases hstep with
        | retry _ _ become => exact become.attemptCount
      · cases hstep with
        | fail _ become => exact become.attemptCount
    have hkept : AttemptsKept t t' db.attempts
        ((recordTaskTransition (db.putTask t') now t' t.status reason extra).finishAttempt t' now
          outcome).attempts := by
      refine .finishAttempt hwf ht hrun hstop ?_ hout
      exact ⟨rfl, hstep.same.tenantId, hstep.same.taskId, hcount⟩
    rcases hk with rfl | rfl
    · exact hkept
    · exact hkept
  event := ⟨_, hreason, by rw [finishAttempt_auditEvents]; rfl⟩

/-- `_apply_failure` schedules a retry within the budget or fails the task,
and the caller closes the attempt. -/
theorem applyFailure_move (hwf : WellFormed db) (ht : t ∈ db.tasks) (hrun : t.status = .running)
    (failureClass : FailureClass) (message : String) (forceRetryable : Option Bool)
    (outcome : Database.AttemptOutcome) (hout : outcome.status ≠ .running) :
    ∃ k, (k = .retry ∨ k = .fail) ∧
      TaskMove now k t (applyFailure db now t failureClass message forceRetryable).2 db
        ((applyFailure db now t failureClass message forceRetryable).1.finishAttempt
          (applyFailure db now t failureClass message forceRetryable).2 now outcome) := by
  unfold applyFailure
  dsimp only
  split
  · rename_i hretry
    refine ⟨.retry, Or.inl rfl, .of_failure now hwf ht hrun (Or.inl rfl) ?_ (by simp) ?_ outcome
      hout⟩
    · exact .retry hrun hretry.2.1
        ⟨⟨rfl, rfl, rfl, rfl, rfl, rfl, rfl⟩, rfl, rfl, rfl, rfl, rfl⟩
    · exact ⟨rfl, rfl, rfl, rfl, by simp, by simp, by simp⟩
  · refine ⟨.fail, Or.inr rfl, .of_failure now hwf ht hrun (Or.inr rfl) ?_ (by simp) ?_ outcome
      hout⟩
    · exact .fail hrun ⟨⟨rfl, rfl, rfl, rfl, rfl, rfl, rfl⟩, rfl, rfl, rfl, rfl, rfl⟩
    · exact ⟨rfl, rfl, rfl, rfl, by simp, by simp, by simp⟩

theorem recoverExpiredLease_move (hwf : WellFormed db) (ht : t ∈ db.tasks)
    (hrun : t.status = .running) :
    ∃ k t', (k = .retry ∨ k = .fail) ∧ TaskMove now k t t' db (recoverExpiredLease now db t) := by
  unfold recoverExpiredLease
  have hout : AttemptStatus.leaseExpired ≠ .running := by simp
  obtain ⟨k, hk, hmove⟩ := applyFailure_move now hwf ht hrun .leaseExpired
    leaseExpiredMessage none ⟨.leaseExpired, _, _, none, []⟩ hout
  exact ⟨k, _, hk, hmove⟩

theorem promoteDueRetry_move (ht : t ∈ db.tasks) (hwait : t.status = .retryWait) :
    ∃ t', TaskMove now .promote t t' db (promoteDueRetry now db t) := by
  unfold promoteDueRetry
  rw [← hwait]
  refine ⟨_, .of_transition ht (.promote hwait ?_) rfl ?_ (by simp) (by simp) (by simp)⟩
  · exact ⟨⟨rfl, rfl, rfl, rfl, rfl, rfl, rfl⟩, rfl, rfl, rfl, rfl, rfl⟩
  · exact AttemptsKept.refl (by simp [hwait]) db.attempts

theorem failOverdueTask_move (hwf : WellFormed db) (ht : t ∈ db.tasks)
    (hactive : t.status.isTerminal = false) :
    ∃ t', TaskMove now .overdue t t' db (failOverdueTask now db t) := by
  unfold failOverdueTask
  refine ⟨_, .of_transition ht (.overdue hactive ?_) (finishIfRunning_eq _ _ _ _) ?_ (by simp)
    (by simp) (by simp)⟩
  · exact ⟨⟨rfl, rfl, rfl, rfl, rfl, rfl, rfl⟩, rfl, rfl, rfl, rfl, rfl⟩
  · show AttemptsKept t _ db.attempts _
    refine .finishIfRunning hwf ht ?_ ?_ ?_
    · simp
    · exact ⟨rfl, rfl, rfl, rfl⟩
    · simp

def decideKind (t : EngagementTask) (approved : Bool) : MoveKind :=
  if approved then if t.executionPolicy.gatePosition = .before then .approve else .accept
  else .reject

theorem decideTask_move (ht : t ∈ db.tasks) (hwait : t.status = .waitingApproval)
    (hgate : PyString.truthy t.humanGate) (decision : GateDecision) (approved : Bool)
    (extra : Extra) :
    TaskMove now (decideKind t approved) t (decideTask now t decision approved) db
      (recordTaskTransition (db.putTask (decideTask now t decision approved)) now
        (decideTask now t decision approved) .waitingApproval
        (if approved then .humanGateApproved else .humanGateRejected) extra) := by
  have hkept : ∀ t' : EngagementTask, AttemptsKept t t' db.attempts db.attempts :=
    fun t' => .refl (by simp [hwait]) db.attempts
  rw [← hwait]
  unfold decideTask decideKind
  dsimp only
  cases approved with
  | true =>
    simp only [if_true]
    split
    · rename_i hpos
      refine .of_transition ht (.approve hwait ⟨hgate, hpos⟩ ?_) rfl (hkept _) (by simp)
        (by simp) (by simp)
      exact ⟨⟨rfl, rfl, rfl, rfl, rfl, rfl, rfl⟩, rfl, rfl, rfl, rfl, rfl⟩
    · rename_i hpos
      refine .of_transition ht (.accept hwait (fun hc => hpos hc.2) ?_) rfl (hkept _) (by simp)
        (by simp) (by simp)
      exact ⟨⟨rfl, rfl, rfl, rfl, rfl, rfl, rfl⟩, rfl, rfl, rfl, rfl, rfl⟩
  | false =>
    refine .of_transition ht (.reject hwait ?_) rfl (hkept _) (by simp) (by simp) (by simp)
    exact ⟨⟨rfl, rfl, rfl, rfl, rfl, rfl, rfl⟩, rfl, rfl, rfl, rfl, rfl⟩

theorem cancelTask_move (hwf : WellFormed db) (ht : t ∈ db.tasks)
    (hactive : t.status.isTerminal = false) (actorId reason : String) :
    ∃ t', TaskMove now .cancel t t' db (cancelTask now actorId reason db t) := by
  unfold cancelTask
  rw [if_neg (by simp [hactive])]
  refine ⟨_, .of_transition ht (.cancel hactive ?_) (finishIfRunning_eq _ _ _ _) ?_ (by simp)
    (by simp) (by simp)⟩
  · exact ⟨⟨rfl, rfl, rfl, rfl, rfl, rfl, rfl⟩, rfl, rfl, rfl, rfl, rfl⟩
  · show AttemptsKept t _ db.attempts _
    refine .finishIfRunning hwf ht ?_ ?_ ?_
    · simp
    · exact ⟨rfl, rfl, rfl, rfl⟩
    · simp

theorem retriedTask_move (ht : t ∈ db.tasks)
    (hstopped : t.status = .failed ∨ t.status = .blocked ∨ t.status = .retryWait)
    (extra : Extra) :
    TaskMove now .forceRetry t (retriedTask now t) db
      (recordTaskTransition (db.putTask (retriedTask now t)) now (retriedTask now t) t.status
        .administrativeRetry extra) := by
  refine .of_transition ht (.forceRetry hstopped ?_) rfl ?_ (by simp) (by simp) (by simp)
  · exact ⟨⟨rfl, rfl, rfl, rfl, rfl, rfl, rfl⟩, rfl, rfl, rfl, rfl, rfl⟩
  · have hrun : t.status ≠ .running := by
      rcases hstopped with h | h | h <;> simp [h]
    exact AttemptsKept.refl (fun hc => hrun hc.1) db.attempts

theorem skippedTask_move (hwf : WellFormed db) (ht : t ∈ db.tasks)
    (hopen : ¬ (t.status = .succeeded ∨ t.status = .skipped ∨ t.status = .cancelled))
    (extra : Extra) (outcome : Database.AttemptOutcome) (hout : outcome.status ≠ .running) :
    TaskMove now .forceSkip t (skippedTask now t) db
      (recordTaskTransition
        ((if t.status = .running then db.finishAttempt t now outcome else db).putTask
          (skippedTask now t)) now (skippedTask now t) t.status .administrativeSkip extra) := by
  have hrow : (if t.status = .running then db.finishAttempt t now outcome else db).putTask
      (skippedTask now t) = { db with
        tasks := Table.put EngagementTask.taskId (skippedTask now t) db.tasks
        attempts :=
          (if t.status = .running then db.finishAttempt t now outcome else db).attempts } := by
    rw [finishIfRunning_eq]
    rfl
  refine .of_transition ht (.forceSkip hopen ?_) hrow ?_ (by simp) (by simp) (by simp)
  · exact ⟨⟨rfl, rfl, rfl, rfl, rfl, rfl, rfl⟩, rfl, rfl, rfl, rfl, rfl⟩
  · show AttemptsKept t _ db.attempts _
    refine .finishIfRunning hwf ht ?_ ⟨rfl, rfl, rfl, rfl⟩ hout
    simp [skippedTask]

end Orchestration
