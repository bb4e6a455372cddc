/-
Attempts and leases.

In every reachable state (`run_allAttemptsInOrder`) the attempt rows of a task are numbered
`1, …, attempt_count`, the running one is the latest and exists exactly while the task is running, and
the lease columns are set exactly then.

`complete_task` and `fail_task` identify the lease by its owner and its expiry, and are not told which
attempt the result was computed under.  A result finishes the attempt that its worker currently holds,
which is its own as long as no worker is leased a task again while an attempt of its own at it is
unreported (`ClaimsAfresh`).
-/
import AssuranceOS.Orchestration.Executions

namespace Orchestration

namespace TaskStep

variable {now : Timestamp} {db : Database} {t t' : EngagementTask} {k : MoveKind}

theorem attemptCount_eq (h : TaskStep now db t t' k) :
    (∃ workerId, k = .claim workerId ∧ t.status = .ready ∧ t'.status = .running ∧
      t'.attemptCount = t.attemptCount + 1) ∨
    ((∀ workerId, k ≠ .claim workerId) ∧ t'.attemptCount = t.attemptCount) := by
  cases h with
  | claim workerId expiry ready _ become =>
    exact Or.inl ⟨workerId, rfl, ready, become.status, become.attemptCount⟩
  | _ =>
    rename_i become
    exact Or.inr ⟨fun _ => by simp, become.attemptCount⟩

theorem running_of_running (h : TaskStep now db t t' k) (hk : ∀ workerId, k ≠ .claim workerId)
    (hrun : t'.status = .running) : t.status = .running := by
  cases h with
  | claim workerId => exact absurd rfl (hk workerId)
  | heartbeat _ running _ => exact running
  | _ =>
    rename_i become
    rw [become.status] at hrun
    exact absurd hrun (by simp)

/-- The lease columns are set exactly while the task is running. -/
def Leased (t : EngagementTask) : Prop :=
  (t.leaseOwner.isSome ↔ t.status = .running) ∧ (t.leaseExpiresAt.isSome ↔ t.status = .running)

theorem leased (h : TaskStep now db t t' k) (hl : Leased t) : Leased t' := by
  obtain ⟨howner, hexpiry⟩ := hl
  unfold Leased
  cases h with
  | claim workerId expiry _ _ become =>
    rw [become.leaseOwner, become.leaseExpiresAt, become.status]
    simp
  | heartbeat expiry running become =>
    rw [become.leaseOwner, become.leaseExpiresAt, become.status, howner]
    simp [running]
  | block pending _ become | lapse pending _ _ become | wait pending _ _ _ become
  | release pending _ _ _ become =>
    rw [become.leaseOwner, become.leaseExpiresAt, become.status, howner, hexpiry, pending]
    simp
  | promote waiting become | approve waiting _ become | accept waiting _ become
  | reject waiting become =>
    rw [become.leaseOwner, become.leaseExpiresAt, become.status, howner, hexpiry, waiting]
    simp
  | _ =>
    rename_i become
    rw [become.leaseOwner, become.leaseExpiresAt, become.status]
    simp

end TaskStep

/-- The attempts of a task, in the order of their rows. -/
def attemptsOf (db : Database) (taskId : String) : List TaskAttempt :=
  db.attempts.filter fun a => a.taskId = taskId

/-- The attempts of `t` are in order. -/
structure AttemptsInOrder (db : Database) (t : EngagementTask) : Prop where
  numbers : (attemptsOf db t.taskId).map (·.attemptNo) = List.range' 1 t.attemptCount
  running : ∀ a ∈ attemptsOf db t.taskId,
    a.status = .running ↔ t.status = .running ∧ a.attemptNo = t.attemptCount
  started : t.status = .running → 1 ≤ t.attemptCount
  leased : TaskStep.Leased t

variable {db : Database} {t : EngagementTask} {now : Timestamp}

theorem AttemptsInOrder.le_count (h : AttemptsInOrder db t) {a : TaskAttempt}
    (ha : a ∈ attemptsOf db t.taskId) : a.attemptNo ≤ t.attemptCount := by
  have hmem : a.attemptNo ∈ (attemptsOf db t.taskId).map (·.attemptNo) := List.mem_map_of_mem ha
  rw [h.numbers, List.mem_range'_1] at hmem
  omega

theorem AttemptsInOrder.exists_running (h : AttemptsInOrder db t) (hrun : t.status = .running) :
    ∃ a ∈ attemptsOf db t.taskId, a.attemptNo = t.attemptCount ∧ a.status = .running := by
  have hone := h.started hrun
  have hmem : t.attemptCount ∈ (attemptsOf db t.taskId).map (·.attemptNo) := by
    rw [h.numbers, List.mem_range'_1]
    omega
  obtain ⟨a, ha, hno⟩ := List.mem_map.mp hmem
  exact ⟨a, ha, hno, (h.running a ha).mpr ⟨hrun, hno⟩⟩

theorem AttemptsInOrder.running_le_one (h : AttemptsInOrder db t) :
    ((attemptsOf db t.taskId).filter fun a => a.status = .running).length ≤ 1 := by
  have hnodup : (((attemptsOf db t.taskId).filter fun a => a.status = .running).map
      (·.attemptNo)).Nodup := by
    refine List.Nodup.sublist (List.filter_sublist.map _) ?_
    rw [h.numbers]
    exact List.nodup_range'
  have hlast : ∀ a ∈ (attemptsOf db t.taskId).filter fun a => a.status = .running,
      a.attemptNo = t.attemptCount := by
    intro a ha
    obtain ⟨hmem, hrun⟩ := List.mem_filter.mp ha
    exact ((h.running a hmem).mp (by simpa using hrun)).2
  rcases hl : (attemptsOf db t.taskId).filter fun a => a.status = .running with
    _ | ⟨a, _ | ⟨b, l⟩⟩
  · rw [hl]
    simp
  · rw [hl]
    simp
  · -- two running attempts would have the same number
    rw [hl] at hnodup hlast
    have hab : a.attemptNo = b.attemptNo :=
      (hlast a (by simp)).trans (hlast b (by simp)).symm
    simp [hab] at hnodup

section Moves

variable {now : Timestamp} {k : MoveKind} {t t' : EngagementTask} {db db' : Database}

theorem AttemptsKept.attemptsOf (h : AttemptsKept t t' db.attempts db'.attempts)
    (taskId : String) :
    ∃ f : TaskAttempt → TaskAttempt,
      attemptsOf db' taskId = (attemptsOf db taskId).map f ∧
      ∀ a ∈ attemptsOf db taskId, (f a).attemptNo = a.attemptNo ∧
        ((f a).status = .running ↔ a.status = .running ∧
          ¬ (a.number = (t.taskId, t.attemptCount) ∧ t.status = .running ∧
            t'.status ≠ .running)) := by
  obtain ⟨f, hafter, hf⟩ := h
  refine ⟨f, ?_, fun a ha => ?_⟩
  · unfold Orchestration.attemptsOf
    rw [hafter, List.filter_map]
    congr 1
    refine List.filter_congr fun a ha => ?_
    have hid : (f a).taskId = a.taskId := congrArg Prod.fst (hf a ha).2.1
    simp [hid]
  · obtain ⟨-, hno, -, hstatus, -⟩ := hf a (List.mem_filter.mp ha).1
    exact ⟨congrArg Prod.snd hno, hstatus⟩

theorem TaskMove.attemptsInOrder_of_ne (h : TaskMove now k t t' db db') {u : EngagementTask}
    (hne : u.taskId ≠ t.taskId) (hu : AttemptsInOrder db u) : AttemptsInOrder db' u := by
  have hc := h.attempts
  unfold AttemptChange at hc
  split at hc
  · obtain ⟨a, hafter, -, hno, -⟩ := hc
    -- a claim of `t` adds an attempt of `t` only
    have hsame : attemptsOf db' u.taskId = attemptsOf db u.taskId := by
      have hid : a.taskId ≠ u.taskId := by
        have haid : a.taskId = t'.taskId := congrArg Prod.fst hno
        rw [haid, h.same.taskId]
        exact hne.symm
      unfold attemptsOf
      rw [hafter, List.filter_append, List.filter_cons_of_neg (by simpa using hid),
        List.filter_nil, List.append_nil]
    exact ⟨by rw [hsame]; exact hu.numbers, by rw [hsame]; exact hu.running, hu.started, hu.leased⟩
  · obtain ⟨f, hof, hf⟩ := hc.attemptsOf u.taskId
    refine ⟨?_, ?_, hu.started, hu.leased⟩
    · rw [hof, List.map_map, ← hu.numbers]
      exact List.map_congr_left fun a ha => (hf a ha).1
    · intro a' ha'
      rw [hof] at ha'
      obtain ⟨a, ha, rfl⟩ := List.mem_map.mp ha'
      obtain ⟨hno, hstatus⟩ := hf a ha
      have hid : a.taskId = u.taskId := by simpa using (List.mem_filter.mp ha).2
      -- the attempt that the move may close is not one of `u`
      have hother : a.number ≠ (t.taskId, t.attemptCount) := fun heq =>
        hne (hid ▸ congrArg Prod.fst heq)
      rw [hstatus, hno, hu.running a ha]
      simp [hother]

theorem TaskMove.attemptsInOrder_of_claim {workerId : String}
    (h : TaskMove now (.claim workerId) t t' db db') (hready : t.status = .ready)
    (hrun : t'.status = .running) (hcount : t'.attemptCount = t.attemptCount + 1)
    (ht : AttemptsInOrder db t) : AttemptsInOrder db' t' := by
  have hid : t'.taskId = t.taskId := h.same.taskId
  obtain ⟨a, hafter, -, hno, -, hstatus, -⟩ := h.attempts
  have haid : a.taskId = t.taskId := (congrArg Prod.fst hno).trans hid
  have hano : a.attemptNo = t.attemptCount + 1 := (congrArg Prod.snd hno).trans hcount
  have hof : attemptsOf db' t'.taskId = attemptsOf db t.taskId ++ [a] := by
    unfold attemptsOf
    rw [hafter, List.filter_append, hid, List.filter_cons_of_pos (by simpa using haid),
      List.filter_nil]
  refine ⟨?_, ?_, fun _ => by omega, h.step.leased ht.leased⟩
  · rw [hof, List.map_append, ht.numbers, hcount, List.range'_1_concat, List.map_singleton, hano]
    simp [Nat.add_comm]
  · intro b hb
    rw [hof, List.mem_append, List.mem_singleton] at hb
    rcases hb with hb | rfl
    · -- the task was ready, so none of its old attempts runs
      have hle := ht.le_count hb
      rw [ht.running b hb, hready, hcount]
      constructor
      · exact fun hc => absurd hc.1 (by simp)
      · intro hc
        omega
    · rw [hstatus, hrun, hano, hcount]
      simp

/-- A move that keeps the attempt rows can only end the running attempt, and
ends it exactly when the task stops running. -/
theorem TaskMove.attemptsInOrder_of_kept (h : TaskMove now k t t' db db')
    (hk : ∀ workerId, k ≠ .claim workerId) (hcount : t'.attemptCount = t.attemptCount)
    (ht : AttemptsInOrder db t) : AttemptsInOrder db' t' := by
  have hid : t'.taskId = t.taskId := h.same.taskId
  have hc : AttemptsKept t t' db.attempts db'.attempts := by
    have hchange := h.attempts
    unfold AttemptChange at hchange
    split at hchange
    · rename_i workerId
      exact absurd rfl (hk workerId)
    · exact hchange
  obtain ⟨f, hof, hf⟩ := hc.attemptsOf t'.taskId
  rw [hid] at hof hf
  have hback := h.step.running_of_running hk
  refine ⟨?_, ?_, ?_, h.step.leased ht.leased⟩
  · rw [hid, hof, List.map_map, hcount, ← ht.numbers]
    exact List.map_congr_left fun a ha => (hf a ha).1
  · intro a' ha'
    rw [hid, hof] at ha'
    obtain ⟨a, ha, rfl⟩ := List.mem_map.mp ha'
    obtain ⟨hno, hstatus⟩ := hf a ha
    have haid : a.taskId = t.taskId := by simpa using (List.mem_filter.mp ha).2
    have hnumber : a.number = (t.taskId, t.attemptCount) ↔ a.attemptNo = t.attemptCount := by
      rw [TaskAttempt.number, haid, Prod.mk.injEq]
      simp
    rw [hstatus, hno, hcount, ht.running a ha, hnumber]
    constructor
    · rintro ⟨⟨hrun, hlast⟩, hnot⟩
      refine ⟨?_, hlast⟩
      -- otherwise the move would have closed this attempt
      by_contra hstop
      exact hnot ⟨hlast, hrun, hstop⟩
    · rintro ⟨hrun', hlast⟩
      exact ⟨⟨hback hrun', hlast⟩, fun hc => hc.2.2 hrun'⟩
  · intro hrun'
    rw [hcount]
    exact ht.started (hback hrun')

/-- **One move.**  The moved task keeps its attempts in order. -/
theorem TaskMove.attemptsInOrder (h : TaskMove now k t t' db db') (ht : AttemptsInOrder db t) :
    AttemptsInOrder db' t' := by
  rcases h.step.attemptCount_eq with ⟨workerId, rfl, hready, hrun, hcount⟩ | ⟨hk, hcount⟩
  · exact h.attemptsInOrder_of_claim hready hrun hcount ht
  · exact h.attemptsInOrder_of_kept hk hcount ht

end Moves

def AllAttemptsInOrder (db : Database) : Prop :=
  ∀ t ∈ db.tasks, AttemptsInOrder db t

variable {db' : Database} {k : MoveKind}

theorem Move.allAttemptsInOrder {allows : Database → MoveKind → EngagementTask → Prop}
    (h : Move now allows db db') (hwf : WellFormed db) (hI : AllAttemptsInOrder db) :
    AllAttemptsInOrder db' := by
  cases h with
  | engagement move =>
    intro t ht
    rw [move.tasks] at ht
    have hof : ∀ id, attemptsOf db' id = attemptsOf db id := by
      intro id
      unfold attemptsOf
      rw [move.attempts]
    obtain ⟨h1, h2, h3, h4⟩ := hI t ht
    exact ⟨by rw [hof]; exact h1, by rw [hof]; exact h2, h3, h4⟩
  | task _ move =>
    intro u' hu'
    obtain ⟨u, hu, hsame, hcase⟩ := move.preimage hwf hu'
    rcases hcase with ⟨rfl, hne⟩ | ⟨rfl, rfl⟩
    · refine move.attemptsInOrder_of_ne (fun heq => hne ?_) (hI _ hu)
      exact hwf.eq_of_taskId hu move.mem heq
    · exact move.attemptsInOrder (hI _ hu)

theorem Compiled.allAttemptsInOrder {tenantId engagementId : String} {rows : List EngagementTask}
    {deps : List TaskDependency} (h : Compiled now tenantId engagementId rows deps db db')
    (hwf : WellFormed db) (hI : AllAttemptsInOrder db) : AllAttemptsInOrder db' := by
  have hof : ∀ id, attemptsOf db' id = attemptsOf db id := by
    intro id
    unfold attemptsOf
    rw [h.attempts]
  intro t ht
  rcases h.mem_tasks.mp ht with hold | hnew
  · obtain ⟨h1, h2, h3, h4⟩ := hI t hold
    exact ⟨by rw [hof]; exact h1, by rw [hof]; exact h2, h3, h4⟩
  · have hrow := h.new t hnew
    have hnone : attemptsOf db' t.taskId = [] := by
      rw [hof]
      refine List.filter_eq_nil_iff.mpr fun a ha => ?_
      obtain ⟨u, hu, hid, -⟩ := hwf.attemptTask a ha
      have hne := h.fresh t hnew u hu
      rw [hid] at hne
      simpa using hne
    refine ⟨?_, ?_, ?_, ?_, ?_⟩
    · rw [hnone, hrow.attemptCount]
      rfl
    · rw [hnone]
      simp
    · rw [hrow.status]
      simp
    · rw [hrow.leaseOwner, hrow.status]
      simp
    · rw [hrow.leaseExpiresAt, hrow.status]
      simp

/-- **Attempts are in order** in every reachable state. -/
theorem run_allAttemptsInOrder (hfresh : Fresh db) (calls : List (Timestamp × Op)) :
    AllAttemptsInOrder (run db calls) := by
  have hI : AllAttemptsInOrder db := by
    intro t ht
    rw [hfresh.tasks] at ht
    exact absurd ht List.not_mem_nil
  exact run_invariant_move_always (fun hwf hI h => h.allAttemptsInOrder hwf hI)
    (fun hwf hI h => h.allAttemptsInOrder hwf hI) hfresh.wellFormed hI calls

/-- **Attempts and leases**, for every task of every reachable state: the
attempt rows are numbered `1, …, attempt_count`; at most one is running, one is
running exactly when the task is, and it is the latest; the lease columns are
set exactly when the task is running. -/
theorem run_attempts_and_leases {db : Database} (hfresh : Fresh db)
    (calls : List (Timestamp × Op)) :
    ∀ t ∈ (run db calls).tasks,
      (attemptsOf (run db calls) t.taskId).map (·.attemptNo) = List.range' 1 t.attemptCount ∧
      ((attemptsOf (run db calls) t.taskId).filter fun a => a.status = .running).length ≤ 1 ∧
      ((∃ a ∈ attemptsOf (run db calls) t.taskId, a.status = .running) ↔ t.status = .running) ∧
      (∀ a ∈ attemptsOf (run db calls) t.taskId, a.status = .running →
        a.attemptNo = t.attemptCount) ∧
      (t.leaseOwner.isSome ↔ t.status = .running) ∧
      (t.leaseExpiresAt.isSome ↔ t.status = .running) := by
  intro t ht
  have h := run_allAttemptsInOrder hfresh calls t ht
  refine ⟨h.numbers, h.running_le_one, ?_, ?_, h.leased.1, h.leased.2⟩
  · constructor
    · rintro ⟨a, ha, hrun⟩
      exact ((h.running a ha).mp hrun).1
    · intro hrun
      obtain ⟨a, ha, -, hstatus⟩ := h.exists_running hrun
      exact ⟨a, ha, hstatus⟩
  · intro a ha hrun
    exact ((h.running a ha).mp hrun).2

/-- The claimed task of a concrete run has one attempt and a lease. -/
theorem run_attempts_and_leases_claimed :
    ∃ t ∈ (run sampleDatabase
        (sampleStart ++ [(2, .claimNext "tenant" "worker" 10 {})])).tasks,
      t.status = .running ∧ t.leaseOwner.isSome ∧
      (attemptsOf (run sampleDatabase (sampleStart ++
        [(2, .claimNext "tenant" "worker" 10 {})])) t.taskId).map (·.attemptNo) = [1] := by
  obtain ⟨t, ht, hrun, hcount⟩ : ∃ t ∈ (run sampleDatabase
      (sampleStart ++ [(2, .claimNext "tenant" "worker" 10 {})])).tasks,
      t.status = .running ∧ t.attemptCount = 1 := by decide +kernel
  obtain ⟨hnumbers, -, -, -, hlease, -⟩ :=
    run_attempts_and_leases sampleDatabase_fresh _ t ht
  rw [hcount] at hnumbers
  exact ⟨t, ht, hrun, hlease.mpr hrun, hnumbers⟩

/-- A task whose next lease is not yet decided has attempts left. -/
structure WithinBudget (t : EngagementTask) : Prop where
  count : t.attemptCount ≤ t.executionPolicy.retryPolicy.maxAttempts
  left : t.status = .pending ∨ t.status = .ready ∨ t.status = .retryWait ∨
      (t.status = .waitingApproval ∧ t.executionPolicy.gatePosition = .before) →
    t.attemptCount < t.executionPolicy.retryPolicy.maxAttempts

theorem TaskStep.withinBudget {t' : EngagementTask} (h : TaskStep now db t t' k)
    (hk : k ≠ .forceRetry) (ht : WithinBudget t) :
    WithinBudget t' := by
  obtain ⟨hcount, hleft⟩ := ht
  have hpolicy : t'.executionPolicy = t.executionPolicy := h.same.executionPolicy
  constructor
  · rw [hpolicy]
    cases h with
    | claim _ _ ready _ become =>
      have hlt := hleft (Or.inr (Or.inl ready))
      rw [become.attemptCount]
      omega
    | _ =>
      rename_i become
      rw [become.attemptCount]
      exact hcount
  · intro hopen
    rw [hpolicy] at hopen ⊢
    cases h with
    | block _ _ become | lapse _ _ _ become | claim _ _ _ _ become | heartbeat _ _ become
    | complete _ become | fail _ become | overdue _ become | accept _ _ become | reject _ become
    | cancel _ become | forceSkip _ become =>
      -- these end in a status in which no lease is open
      rw [become.status] at hopen
      simp at hopen
    | submit _ gatedAfter become =>
      rw [become.status, gatedAfter] at hopen
      simp at hopen
    | wait pending _ _ _ become | release pending _ _ _ become =>
      rw [become.attemptCount]
      exact hleft (Or.inl pending)
    | retry _ budget become =>
      rw [become.attemptCount]
      exact budget
    | promote waiting become =>
      rw [become.attemptCount]
      exact hleft (Or.inr (Or.inr (Or.inl waiting)))
    | approve waiting gated become =>
      rw [become.attemptCount]
      exact hleft (Or.inr (Or.inr (Or.inr ⟨waiting, gated.2⟩)))
    | forceRetry => exact absurd rfl hk

def AllWithinBudget (db : Database) : Prop :=
  ∀ t ∈ db.tasks, WithinBudget t

/-- Forcing a retry. -/
def Op.isForceRetry : Op → Prop
  | .forceRetryTask _ _ _ _ => True
  | _ => False

theorem Op.causes.ne_forceRetry {op : Op} {db₀ : Database} (h : op.causes now db₀ db k t)
    (hop : ¬ op.isForceRetry) :
    k ≠ .forceRetry := by
  rintro rfl
  obtain ⟨-, hacts⟩ := h
  cases op with
  | forceRetryTask => exact hop trivial
  | completeTask | approveGate | rejectGate =>
    simp only [Op.acts, completeKind, decideKind] at hacts
    grind
  | failTask | forceSkipTask =>
    simp only [Op.acts] at hacts
    grind
  | _ => exact hacts

theorem run_allWithinBudget (hfresh : Fresh db) (calls : List (Timestamp × Op))
    (hcalls : ∀ call ∈ calls, ¬ call.2.isForceRetry) : AllWithinBudget (run db calls) := by
  have hI : AllWithinBudget db := by
    intro t ht
    rw [hfresh.tasks] at ht
    exact absurd ht List.not_mem_nil
  have hok : Runs.EachStep step (fun _ call => ¬ call.2.isForceRetry) db calls :=
    .of_forall fun call hcall _ => hcalls call hcall
  refine run_invariant_move ?_ ?_ hfresh.wellFormed hI hok
  · intro now tenantId engagementId rows deps db db' _ hI hc t ht
    rcases hc.mem_tasks.mp ht with hold | hnew
    · exact hI t hold
    · have hcount := (hc.new t hnew).attemptCount
      have hone := t.executionPolicy.retryPolicy.one_le_maxAttempts
      exact ⟨by omega, fun _ => by omega⟩
  · intro now op db₀ db db' hop hwf hI hmove u' hu'
    cases hmove with
    | engagement move =>
      rw [move.tasks] at hu'
      exact hI u' hu'
    | task allowed move =>
      obtain ⟨u, hu, -, ⟨rfl, -⟩ | ⟨rfl, rfl⟩⟩ := move.preimage hwf hu'
      · exact hI _ hu
      · exact move.step.withinBudget (allowed.ne_forceRetry hop) (hI _ hu)

/-- **Retry budget and deadline.**  In a run without `force_retry_task` no task
is leased more often than its retry policy allows, and `claim_next` leases no
task whose deadline has come. -/
theorem run_budget_and_deadline {db : Database} (hfresh : Fresh db)
    (calls : List (Timestamp × Op)) (hcalls : ∀ call ∈ calls, ¬ call.2.isForceRetry) :
    (∀ t ∈ (run db calls).tasks,
      t.attemptCount ≤ t.executionPolicy.retryPolicy.maxAttempts) ∧
    ∀ now tenantId workerId leaseSeconds filter db' lease,
      Orchestrator.claimNext (run db calls) now tenantId workerId leaseSeconds filter =
        .ok (db', some lease) →
      ∃ t ∈ (run db calls).tasks, t.taskId = lease.taskId ∧
        ∀ deadline, t.deadlineAt = some deadline → now < deadline := by
  refine ⟨fun t ht => (run_allWithinBudget hfresh calls hcalls t ht).count, ?_⟩
  intro now tenantId workerId leaseSeconds filter db' lease h
  have hwf : WellFormed (run db calls) := run_wellFormed hfresh.wellFormed
  cases (claimNext_claimed hwf h).2 with
  | leased t t' lease best move taskId _ =>
    refine ⟨t, move.mem, taskId.symm, fun deadline hdeadline => ?_⟩
    have hlate := (mem_claimable (List.mem_of_mem_head? best)).2.2.2.2
    rw [hdeadline] at hlate
    simpa [elapsed] using hlate

/-- A run that uses up an attempt and is still within the budget. -/
theorem run_budget_and_deadline_retried :
    ∃ t ∈ (run sampleDatabase (sampleStart ++ [(2, .claimNext "tenant" "worker" 10 {}),
        (3, .failTask "tenant" "collect" "worker" .modelTimeout "timed out" none)])).tasks,
      t.status = .retryWait ∧ t.attemptCount = 1 ∧
      t.attemptCount ≤ t.executionPolicy.retryPolicy.maxAttempts := by
  obtain ⟨t, ht, hwait, hcount⟩ : ∃ t ∈ (run sampleDatabase (sampleStart ++
      [(2, .claimNext "tenant" "worker" 10 {}),
        (3, .failTask "tenant" "collect" "worker" .modelTimeout "timed out" none)])).tasks,
      t.status = .retryWait ∧ t.attemptCount = 1 := by decide +kernel
  refine ⟨t, ht, hwait, hcount, (run_budget_and_deadline sampleDatabase_fresh _ ?_).1 t ht⟩
  simp [sampleStart, sampleCompile, Op.isForceRetry]

/-! ### Holding and finishing attempts -/

/-- No result of its worker has closed the attempt.  `complete_task` closes an attempt as
succeeded, `fail_task` as retry_scheduled or failed; a sweep closes it as lease_expired, or as
failed with the class deadline_exceeded, and its worker may still report. -/
def TaskAttempt.Unreported (a : TaskAttempt) : Prop :=
  a.status = .running ∨ a.status = .leaseExpired ∨ a.status = .cancelled ∨
    (a.status = .failed ∧ a.failureClass = some .deadlineExceeded)

/-- Worker `workerId` was leased attempt `n` of the task and has not reported on it. -/
def Holds (db : Database) (workerId taskId : String) (n : Nat) : Prop :=
  ∃ a ∈ db.attempts, a.number = (taskId, n) ∧ a.workerId = workerId ∧ a.Unreported

def RunningAttempt (db : Database) (number : String × Nat) : Prop :=
  ∃ a ∈ db.attempts, a.number = number ∧ a.status = .running

/-- The attempt with this number is running before and not after. -/
def Finished (db db' : Database) (number : String × Nat) : Prop :=
  RunningAttempt db number ∧ ¬ RunningAttempt db' number

instance (a : TaskAttempt) : Decidable a.Unreported :=
  inferInstanceAs (Decidable (_ ∨ _))

instance (db : Database) (workerId taskId : String) (n : Nat) :
    Decidable (Holds db workerId taskId n) :=
  inferInstanceAs (Decidable (∃ a ∈ db.attempts,
    a.number = (taskId, n) ∧ a.workerId = workerId ∧ a.Unreported))

instance (db : Database) (number : String × Nat) : Decidable (RunningAttempt db number) :=
  inferInstanceAs (Decidable (∃ a ∈ db.attempts, a.number = number ∧ a.status = .running))

instance (db db' : Database) (number : String × Nat) : Decidable (Finished db db' number) :=
  inferInstanceAs (Decidable (RunningAttempt db number ∧ ¬ RunningAttempt db' number))

def Op.resultOf : Op → Option (String × String)
  | .completeTask _ taskId workerId _ => some (taskId, workerId)
  | .failTask _ taskId workerId _ _ _ => some (taskId, workerId)
  | _ => none

/-- A result of the holder of attempt `n` finishes no other attempt. -/
def FinishesOwnAttempt (db : Database) (call : Timestamp × Op) : Prop :=
  ∀ taskId workerId, call.2.resultOf = some (taskId, workerId) →
    ∀ n, Holds db workerId taskId n →
      ∀ number, Finished db (step db call) number → number = (taskId, n)

/-- A result of the holder of attempt `n` is accepted only while the lease of
attempt `n` runs. -/
def RejectsExpired (db : Database) (call : Timestamp × Op) : Prop :=
  ∀ taskId workerId, call.2.resultOf = some (taskId, workerId) →
    ∀ n, Holds db workerId taskId n → ∀ db', call.2.exec db call.1 = .ok db' →
      ∃ t ∈ db.tasks, t.taskId = taskId ∧ t.attemptCount = n ∧ t.leaseOwner = some workerId ∧
        ∃ expiry, t.leaseExpiresAt = some expiry ∧ call.1 < expiry

/-- A claim does not lease a task to a worker that has an attempt of it to report on. -/
def ClaimsAfresh (db : Database) (call : Timestamp × Op) : Prop :=
  match call.2 with
  | .claimNext tenantId workerId leaseSeconds filter => 0 < leaseSeconds →
      ∀ t ∈ (db.claimable tenantId call.1 filter).head?,
        ∀ a ∈ db.attempts, a.taskId = t.taskId → a.Unreported → a.workerId ≠ workerId
  | _ => True

instance (db : Database) (call : Timestamp × Op) : Decidable (ClaimsAfresh db call) := by
  unfold ClaimsAfresh
  split <;> infer_instance

/-- Leases and attempts name the same worker, and no worker has two attempts of
one task to report on. -/
structure Exclusive (db : Database) : Prop where
  owner : ∀ t ∈ db.tasks, t.status = .running → ∀ a ∈ db.attempts,
    a.number = (t.taskId, t.attemptCount) → t.leaseOwner = some a.workerId
  once : ∀ a ∈ db.attempts, ∀ b ∈ db.attempts, a.Unreported → b.Unreported →
    a.taskId = b.taskId → a.workerId = b.workerId → a.number = b.number

theorem TaskAttempt.unreported_of_running {a : TaskAttempt} (h : a.status = .running) :
    a.Unreported :=
  Or.inl h

section Moves

variable {now : Timestamp} {k : MoveKind} {t t' : EngagementTask} {db db' : Database}

/-- What has been reported stays so: a move closes a running attempt or none. -/
theorem TaskMove.attempt_cases (h : TaskMove now k t t' db db') {a' : TaskAttempt}
    (ha' : a' ∈ db'.attempts) :
    (∃ a ∈ db.attempts, a'.number = a.number ∧ a'.workerId = a.workerId ∧
        (a'.Unreported → a.Unreported)) ∨
      ∃ workerId, k = .claim workerId ∧ a'.number = (t'.taskId, t'.attemptCount) ∧
        a'.workerId = workerId := by
  have hc := h.attempts
  unfold AttemptChange at hc
  split at hc
  · rename_i workerId
    obtain ⟨a, hafter, -, hno, hworker, -⟩ := hc
    rw [hafter, List.mem_append, List.mem_singleton] at ha'
    rcases ha' with ha' | rfl
    · exact Or.inl ⟨a', ha', rfl, rfl, id⟩
    · exact Or.inr ⟨workerId, rfl, hno, hworker⟩
  · obtain ⟨f, hafter, hf⟩ := hc
    rw [hafter] at ha'
    obtain ⟨a, ha, rfl⟩ := List.mem_map.mp ha'
    obtain ⟨-, hnumber, hworker, -, hclosed⟩ := hf a ha
    refine Or.inl ⟨a, ha, hnumber, hworker, fun hopen => ?_⟩
    by_cases hrun : a.status = .running
    · exact TaskAttempt.unreported_of_running hrun
    · rwa [hclosed hrun] at hopen

theorem TaskMove.claim_fresh {workerId : String} (h : TaskMove now (.claim workerId) t t' db db') :
    ∀ b ∈ db.attempts, b.number ≠ (t'.taskId, t'.attemptCount) := by
  obtain ⟨a, -, -, hno, -, -, hfresh⟩ := h.attempts
  intro b hb
  rw [← hno]
  exact hfresh b hb

theorem TaskMove.owner (h : TaskMove now k t t' db db') (hwf : WellFormed db)
    (hI : ∀ t ∈ db.tasks, t.status = .running → ∀ a ∈ db.attempts,
      a.number = (t.taskId, t.attemptCount) → t.leaseOwner = some a.workerId) :
    ∀ u ∈ db'.tasks, u.status = .running → ∀ a ∈ db'.attempts,
      a.number = (u.taskId, u.attemptCount) → u.leaseOwner = some a.workerId := by
  intro u hu hrun a' ha' hno
  obtain ⟨u₀, hu₀, hsame, hcase⟩ := h.preimage hwf hu
  rcases hcase with ⟨rfl, hne⟩ | ⟨rfl, rfl⟩
  · rcases h.attempt_cases ha' with ⟨a, ha, hnum, hworker, -⟩ | ⟨workerId, -, hnum, -⟩
    · rw [hworker]
      exact hI u hu₀ hrun a ha (hnum ▸ hno)
    · -- the started attempt belongs to another task
      have hid : u.taskId = t'.taskId := congrArg Prod.fst (hno.symm.trans hnum)
      exact absurd (hwf.eq_of_taskId hu₀ h.mem (hid.trans h.same.taskId)) hne
  · rcases h.step.attemptCount_eq with ⟨workerId, rfl, -, -, -⟩ | ⟨hk, hcount⟩
    · rcases h.attempt_cases ha' with ⟨a, ha, hnum, -⟩ | ⟨w, hw, -, hworker⟩
      · -- the number of a claim is new, so the attempt is the one just started
        exact absurd (hnum ▸ hno) (h.claim_fresh a ha)
      · cases hw
        rw [hworker]
        cases h.step with
        | claim _ _ _ _ become => exact become.leaseOwner
    · rcases h.attempt_cases ha' with ⟨a, ha, hnum, hworker, -⟩ | ⟨w, hw, -⟩
      · have hold : u₀.leaseOwner = some a.workerId := by
          refine hI u₀ hu₀ (h.step.running_of_running hk hrun) a ha ?_
          rw [← hnum, hno, h.same.taskId, hcount]
        rw [hworker, ← hold]
        -- only a heartbeat keeps a task running, and it keeps the owner
        cases h.step with
        | heartbeat _ _ become => exact become.leaseOwner
        | claim workerId => exact absurd rfl (hk workerId)
        | _ =>
          rename_i become
          rw [become.status] at hrun
          exact absurd hrun (by simp)
      · exact absurd hw (hk w)

theorem TaskMove.once (h : TaskMove now k t t' db db')
    (hclaim : ∀ workerId, k = .claim workerId →
      ∀ a ∈ db.attempts, a.taskId = t.taskId → a.Unreported → a.workerId ≠ workerId)
    (hI : ∀ a ∈ db.attempts, ∀ b ∈ db.attempts, a.Unreported → b.Unreported →
      a.taskId = b.taskId → a.workerId = b.workerId → a.number = b.number) :
    ∀ a ∈ db'.attempts, ∀ b ∈ db'.attempts, a.Unreported → b.Unreported →
      a.taskId = b.taskId → a.workerId = b.workerId → a.number = b.number := by
  intro a' ha' b' hb' hopen hopen' hid hworker
  have htask : ∀ c : TaskAttempt, c.number = (t'.taskId, t'.attemptCount) →
      c.taskId = t.taskId := fun c hc => (congrArg Prod.fst hc).trans h.same.taskId
  rcases h.attempt_cases ha' with ⟨a, ha, hna, hwa, hback⟩ | ⟨w, hw, hna, hwa⟩
  · have haid : a'.taskId = a.taskId := congrArg Prod.fst hna
    rcases h.attempt_cases hb' with ⟨b, hb, hnb, hwb, hback'⟩ | ⟨w, hw, hnb, hwb⟩
    · have hbid : b'.taskId = b.taskId := congrArg Prod.fst hnb
      rw [hna, hnb]
      exact hI a ha b hb (hback hopen) (hback' hopen') (by rw [← haid, ← hbid, hid])
        (by rw [← hwa, ← hwb, hworker])
    · -- the claiming worker has no attempt of the task to report on
      have hat : a.taskId = t.taskId := by rw [← haid, hid, htask b' hnb]
      exact absurd (by rw [← hwa, hworker, hwb]) (hclaim w hw a ha hat (hback hopen))
  · rcases h.attempt_cases hb' with ⟨b, hb, hnb, hwb, hback'⟩ | ⟨w', hw', hnb, hwb⟩
    · have hbid : b'.taskId = b.taskId := congrArg Prod.fst hnb
      have hbt : b.taskId = t.taskId := by rw [← hbid, ← hid, htask a' hna]
      exact absurd (by rw [← hwb, ← hworker, hwa]) (hclaim w hw b hb hbt (hback' hopen'))
    · rw [hna, hnb]

end Moves

theorem run_exclusive {db : Database} (hfresh : Fresh db) {calls : List (Timestamp × Op)}
    (hok : Runs.EachStep step ClaimsAfresh db calls) : Exclusive (run db calls) := by
  have hI : Exclusive db := by
    constructor
    · rw [hfresh.tasks]
      simp
    · rw [hfresh.attempts]
      simp
  refine run_invariant_move ?_ ?_ hfresh.wellFormed hI hok
  · intro now tenantId engagementId rows deps db db' hwf hI hc
    refine ⟨?_, by rw [hc.attempts]; exact hI.once⟩
    intro t ht hrun a ha hno
    rw [hc.attempts] at ha
    rcases hc.mem_tasks.mp ht with hold | hnew
    · exact hI.owner t hold hrun a ha hno
    · rw [(hc.new t hnew).status] at hrun
      exact absurd hrun (by simp)
  · intro now op db₀ db db' hafresh hwf hI hmove
    cases hmove with
    | engagement move =>
      exact ⟨by rw [move.tasks, move.attempts]; exact hI.owner,
        by rw [move.attempts]; exact hI.once⟩
    | task allowed move =>
      refine ⟨move.owner hwf hI.owner, move.once ?_ hI.once⟩
      rintro workerId rfl a ha hid
      obtain ⟨rfl, tenantId, leaseSeconds, filter, rfl, hpos, hbest⟩ := allowed
      exact hafresh hpos _ hbest a ha hid

section Results

variable {now : Timestamp} {db db' : Database} {op : Op} {taskId workerId : String}

theorem result_acted (hwf : WellFormed db) (hop : op.resultOf = some (taskId, workerId))
    (h : op.exec db now = .ok db') :
    Acted now op db db' ∧
      ∀ t k, op.acts now t k → t.taskId = taskId ∧ leaseMatches t workerId now := by
  cases op with
  | completeTask tenantId taskId' workerId' result =>
    obtain ⟨s, hs⟩ := map_fst_eq_ok.mp h
    obtain ⟨rfl, rfl⟩ : taskId' = taskId ∧ workerId' = workerId := by simpa [Op.resultOf] using hop
    exact ⟨completeTask_acted hwf hs, fun t k hacts => ⟨hacts.2.1, hacts.2.2.1⟩⟩
  | failTask tenantId taskId' workerId' failureClass message forceRetryable =>
    obtain ⟨s, hs⟩ := map_fst_eq_ok.mp h
    obtain ⟨rfl, rfl⟩ : taskId' = taskId ∧ workerId' = workerId := by simpa [Op.resultOf] using hop
    exact ⟨failTask_acted hwf hs, fun t k hacts => ⟨hacts.2.1, hacts.2.2.1⟩⟩
  | _ => exact absurd hop (by simp [Op.resultOf])

variable {number : String × Nat}

theorem TaskMove.runningAttempt {k : MoveKind} {t t' : EngagementTask}
    (h : TaskMove now k t t' db db') (hrun : RunningAttempt db number)
    (hother : number ≠ (t.taskId, t.attemptCount) ∨ t.status ≠ .running) :
    RunningAttempt db' number := by
  obtain ⟨a, ha, hno, hstatus⟩ := hrun
  have hc := h.attempts
  unfold AttemptChange at hc
  split at hc
  · obtain ⟨b, hafter, -⟩ := hc
    exact ⟨a, by rw [hafter]; exact List.mem_append_left _ ha, hno, hstatus⟩
  · obtain ⟨f, hafter, hf⟩ := hc
    obtain ⟨-, hnumber, -, hrunning, -⟩ := hf a ha
    refine ⟨f a, by rw [hafter]; exact List.mem_map_of_mem ha, hnumber.trans hno, ?_⟩
    refine hrunning.mpr ⟨hstatus, fun hc => ?_⟩
    rcases hother with hne | hstop
    · exact hne (hno.symm.trans hc.1)
    · exact hstop hc.2.1

theorem Reconciled.runningAttempt {e : Engagement} (h : Reconciled now e db db')
    (hrun : RunningAttempt db number) : RunningAttempt db' number := by
  refine Runs.path_invariant (I := fun db => RunningAttempt db number)
    (fun db₁ db₂ hmove hr => ?_) h.path hrun
  cases hmove with
  | engagement move =>
    obtain ⟨a, ha, hno, hstatus⟩ := hr
    exact ⟨a, by rw [move.attempts]; exact ha, hno, hstatus⟩
  | task allowed move =>
    refine move.runningAttempt hr (Or.inr ?_)
    rw [(move.step.leaves_pending allowed.1).1]
    simp

/-- What the holder of attempt `n` learns from an accepted result: the task's
current attempt is `n`, and nothing else is finished. -/
theorem result_accepted (hwf : WellFormed db) (horder : AllAttemptsInOrder db)
    (hexcl : Exclusive db) (hop : op.resultOf = some (taskId, workerId)) {n : Nat}
    (hholds : Holds db workerId taskId n) (h : op.exec db now = .ok db') :
    (∃ t ∈ db.tasks, t.taskId = taskId ∧ t.attemptCount = n ∧ leaseMatches t workerId now) ∧
      ∀ number, Finished db db' number → number = (taskId, n) := by
  obtain ⟨⟨k, t, t', e, db₁, acts, -, move, -, reconciled⟩, hresult⟩ := result_acted hwf hop h
  obtain ⟨hid, hlease⟩ := hresult t k acts
  obtain ⟨hrun, howner⟩ := leaseMatches_running hlease
  -- the worker holds the current attempt, hence `n` is that attempt
  have hcount : t.attemptCount = n := by
    obtain ⟨a, ha, hno, hlive⟩ := (horder t move.mem).exists_running hrun
    obtain ⟨hmem, haid⟩ := List.mem_filter.mp ha
    have hnum : a.number = (t.taskId, t.attemptCount) :=
      Prod.ext (of_decide_eq_true haid) hno
    have haw := hexcl.owner t move.mem hrun a hmem hnum
    obtain ⟨b, hb, hbno, hbw, hopen⟩ := hholds
    have hbid : b.taskId = taskId := congrArg Prod.fst hbno
    have haid' : a.taskId = t.taskId := congrArg Prod.fst hnum
    have hsame := hexcl.once a hmem b hb (TaskAttempt.unreported_of_running hlive) hopen
      (by rw [haid', hid, hbid]) (by
      rw [howner] at haw
      rw [hbw]
      exact (Option.some.inj haw).symm)
    rw [hnum, hbno] at hsame
    exact congrArg Prod.snd hsame
  refine ⟨⟨t, move.mem, hid, hcount, hlease⟩, fun number hfin => ?_⟩
  by_contra hne
  refine hfin.2 (reconciled.runningAttempt (move.runningAttempt hfin.1 (Or.inl ?_)))
  rw [hid, hcount]
  exact hne

end Results

/-- **Results finish their own attempt.**  In every state reached by a run in
which no claim leases a task to a worker that still has an attempt of it to report
on, a result of the holder of attempt `n` finishes no other attempt, and it is
refused once the lease of attempt `n` has run out. -/
theorem run_result_finishes_own_attempt {db : Database} (hfresh : Fresh db)
    {calls : List (Timestamp × Op)} (hok : Runs.EachStep step ClaimsAfresh db calls)
    (call : Timestamp × Op) :
    FinishesOwnAttempt (run db calls) call ∧ RejectsExpired (run db calls) call := by
  have hwf : WellFormed (run db calls) := run_wellFormed hfresh.wellFormed
  have horder := run_allAttemptsInOrder hfresh calls
  have hexcl := run_exclusive hfresh hok
  constructor
  · intro taskId workerId hop n hholds number hfin
    rcases hexec : call.2.exec (run db calls) call.1 with err | db'
    · -- a refused call finishes nothing
      have hsame : step (run db calls) call = run db calls := by rw [step, hexec]
      rw [hsame] at hfin
      exact absurd hfin.1 hfin.2
    · have hnext : step (run db calls) call = db' := by rw [step, hexec]
      rw [hnext] at hfin
      exact (result_accepted hwf horder hexcl hop hholds hexec).2 number hfin
  · intro taskId workerId hop n hholds db' hexec
    obtain ⟨⟨t, ht, hid, hcount, hlease⟩, -⟩ := result_accepted hwf horder hexcl hop hholds hexec
    refine ⟨t, ht, hid, hcount, (leaseMatches_running hlease).2, ?_⟩
    simp only [leaseMatches, decide_eq_true_eq, Option.any_eq_true] at hlease
    obtain ⟨-, -, expiry, hexpiry, hlt⟩ := hlease
    exact ⟨expiry, hexpiry, hlt⟩

/-- The worker's lease runs out, the worker is leased the task again, and the
result of its first attempt comes late. -/
def lateResult : List (Timestamp × Op) :=
  sampleStart ++
    [(2, .claimNext "tenant" "worker" 10 {}), (20000000, .tick "tenant"),
      (30000000, .tick "tenant"), (30000001, .claimNext "tenant" "worker" 10 {})]

/-- The holder of attempt 1 finishes attempt 2. -/
theorem late_result_finishes_other_attempt :
    ¬ ∀ calls call, FinishesOwnAttempt (run sampleDatabase calls) call := by
  intro h
  have hholds : Holds (run sampleDatabase lateResult) "worker" "collect" 1 := by decide +kernel
  have hfinished : Finished (run sampleDatabase lateResult)
      (step (run sampleDatabase lateResult)
        (30000002, .completeTask "tenant" "collect" "worker" {})) ("collect", 2) := by
    decide +kernel
  have heq := h lateResult (30000002, .completeTask "tenant" "collect" "worker" {}) "collect"
    "worker" rfl 1 hholds _ hfinished
  simp at heq

/-- The worker fails its first attempt in time and is leased the task again. -/
def retriedInTime : List (Timestamp × Op) :=
  sampleStart ++
    [(2, .claimNext "tenant" "worker" 10 {}),
      (3, .failTask "tenant" "collect" "worker" .modelTimeout "timed out" none),
      (30000000, .tick "tenant"), (30000001, .claimNext "tenant" "worker" 10 {})]

/-- It holds the second attempt only, and its result finishes that one. -/
theorem run_result_finishes_own_attempt_retried :
    ¬ Holds (run sampleDatabase retriedInTime) "worker" "collect" 1 ∧
      Holds (run sampleDatabase retriedInTime) "worker" "collect" 2 ∧
      Finished (run sampleDatabase retriedInTime) (step (run sampleDatabase retriedInTime)
        (30000002, .completeTask "tenant" "collect" "worker" {})) ("collect", 2) ∧
      FinishesOwnAttempt (run sampleDatabase retriedInTime)
        (30000002, .completeTask "tenant" "collect" "worker" {}) := by
  have hok : Runs.EachStep step ClaimsAfresh sampleDatabase retriedInTime := by decide +kernel
  exact ⟨by decide +kernel, by decide +kernel, by decide +kernel,
    (run_result_finishes_own_attempt sampleDatabase_fresh hok _).1⟩

end Orchestration
