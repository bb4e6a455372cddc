/-
Dependencies, human gates and blocked tasks.

A task leaves `pending` for execution only when its dependencies are satisfied, and no step leaves
`succeeded` or `skipped`.  A gated task becomes ready by an approval only (`Approved`).  A task is
blocked when a dependency has failed, is blocked or was cancelled, which lasts until somebody
retries or skips that dependency by force.

`force_retry_task` makes a task ready without looking at either, hence the conditions
`RetriesSatisfied` and `RetriesApproved`.
-/
import AssuranceOS.Orchestration.Executions

namespace Orchestration

section Moves

variable {now : Timestamp} {k : MoveKind} {t t' : EngagementTask} {db : Database}

def UnderWay (t : EngagementTask) : Prop :=
  t.status = .ready ∨ t.status = .running ∨ t.status = .retryWait ∨ t.status = .waitingApproval

theorem TaskStep.underWay (h : TaskStep now db t t' k) (hk : k ≠ .forceRetry)
    (hway : UnderWay t') : UnderWay t ∨ Satisfied db t := by
  cases h with
  | wait _ satisfied | release _ satisfied => exact Or.inr satisfied
  | claim _ _ ready => exact Or.inl (Or.inl ready)
  | heartbeat _ running | submit running | retry running => exact Or.inl (Or.inr (Or.inl running))
  | promote waiting => exact Or.inl (Or.inr (Or.inr (Or.inl waiting)))
  | approve waiting => exact Or.inl (Or.inr (Or.inr (Or.inr waiting)))
  | forceRetry => exact absurd rfl hk
  | _ =>
    rename_i become
    unfold UnderWay at hway
    rw [become.status] at hway
    simp at hway

end Moves

/-- A forced retry is made only of a task whose dependencies are satisfied. -/
def RetriesSatisfied (db : Database) (call : Timestamp × Op) : Prop :=
  ∀ t ∈ db.tasks, call.2.acts call.1 t .forceRetry → Satisfied db t

theorem run_underWay_satisfied {db : Database} (hfresh : Fresh db)
    {calls : List (Timestamp × Op)} (hok : Runs.EachStep step RetriesSatisfied db calls) :
    ∀ t ∈ (run db calls).tasks, UnderWay t → Satisfied (run db calls) t := by
  have hI : ∀ t ∈ db.tasks, UnderWay t → Satisfied db t := by
    rw [hfresh.tasks]
    simp
  refine run_invariant_move (I := fun db => ∀ t ∈ db.tasks, UnderWay t → Satisfied db t) ?_ ?_
    hfresh.wellFormed hI hok
  · intro now tenantId engagementId rows deps db db' hwf hI hc t ht hway
    rcases hc.mem_tasks.mp ht with hold | hnew
    · intro d hd hid
      rw [hc.dependencies, List.mem_append] at hd
      rcases hd with hd | hd
      · obtain ⟨p, hp, hpid, hstatus⟩ := hI t hold hway d hd hid
        exact ⟨p, hc.mem_tasks.mpr (Or.inl hp), hpid, hstatus⟩
      · -- a new dependency belongs to a new task
        obtain ⟨-, ⟨r, hr, hrid⟩, -⟩ := hc.ends d hd
        exact absurd (hid.symm.trans hrid.symm) (hc.fresh r hr t hold)
    · unfold UnderWay at hway
      rw [(hc.new t hnew).status] at hway
      simp at hway
  · intro now op db₀ db db' hretry hwf hI hmove u' hu' hway
    cases hmove with
    | engagement move =>
      rw [move.tasks] at hu'
      intro d hd hid
      rw [move.dependencies] at hd
      rw [move.tasks]
      exact hI u' hu' hway d hd hid
    | @task k t t' allowed move =>
      obtain ⟨u, hu, hsame, ⟨rfl, -⟩ | ⟨rfl, rfl⟩⟩ := move.preimage hwf hu'
      · -- another task moves, and it does not leave an allowed status
        exact move.satisfied hwf (hI _ hu hway)
      · refine (move.satisfied hwf ?_).of_same hsame
        -- every other move needs the dependencies or a task already under way
        by_cases hk : k = .forceRetry
        · subst hk
          obtain ⟨rfl, hacts⟩ := allowed
          exact hretry _ hu hacts
        · rcases move.step.underWay hk hway with hold | hsat
          · exact hI _ hu hold
          · exact hsat

/-- **Dependencies of running tasks.**  In every state reached by a run whose
forced retries are all of tasks with satisfied dependencies, each dependency of
a running task is in one of its allowed statuses. -/
theorem run_running_satisfied {db : Database} (hfresh : Fresh db)
    {calls : List (Timestamp × Op)} (hok : Runs.EachStep step RetriesSatisfied db calls) :
    ∀ t ∈ (run db calls).tasks, t.status = .running → Satisfied (run db calls) t := by
  intro t ht hrun
  exact run_underWay_satisfied hfresh hok t ht (Or.inr (Or.inl hrun))

def retriedBlocked : List (Timestamp × Op) :=
  sampleFailed ++
    [(4, .forceRetryTask "tenant" "report" "admin" "run it anyway"),
      (5, .claimNext "tenant" "worker" 10 {})]

/-- A task runs whose only dependency has failed. -/
theorem retried_blocked_task_runs :
    ¬ ∀ calls, ∀ t ∈ (run sampleDatabase calls).tasks, t.status = .running →
      Satisfied (run sampleDatabase calls) t := by
  intro h
  obtain ⟨t, ht, hrun, d, hd, hid, hnone⟩ : ∃ t ∈ (run sampleDatabase retriedBlocked).tasks,
      t.status = .running ∧ ∃ d ∈ (run sampleDatabase retriedBlocked).dependencies,
        d.taskId = t.taskId ∧ ∀ p ∈ (run sampleDatabase retriedBlocked).tasks,
          p.taskId = d.dependsOnTaskId → p.status ∉ d.allowedStatuses := by
    decide +kernel
  obtain ⟨p, hp, hpid, hstatus⟩ := h retriedBlocked t ht hrun d hd hid
  exact hnone p hp hpid hstatus

/-- The first task succeeds and the second fails; the second is retried by force and claimed
again. -/
def retriedReport : List (Timestamp × Op) :=
  sampleStart ++
    [(2, .claimNext "tenant" "worker" 10 {}),
      (3, .completeTask "tenant" "collect" "worker" {}),
      (4, .claimNext "tenant" "worker" 10 {}),
      (5, .failTask "tenant" "report" "worker" .configurationError "misconfigured" none),
      (6, .forceRetryTask "tenant" "report" "admin" "fixed"),
      (7, .claimNext "tenant" "worker" 10 {})]

/-- The failed second task may be retried: the task that it depends on has succeeded. -/
theorem run_running_satisfied_retried :
    ∃ t ∈ (run sampleDatabase retriedReport).tasks, t.status = .running ∧
      (∃ d ∈ (run sampleDatabase retriedReport).dependencies, d.taskId = t.taskId) ∧
      Satisfied (run sampleDatabase retriedReport) t := by
  obtain ⟨t, ht, hrun, hdepends⟩ : ∃ t ∈ (run sampleDatabase retriedReport).tasks,
      t.status = .running ∧
        ∃ d ∈ (run sampleDatabase retriedReport).dependencies, d.taskId = t.taskId := by
    decide +kernel
  refine ⟨t, ht, hrun, hdepends, run_running_satisfied sampleDatabase_fresh ?_ t ht hrun⟩
  refine ⟨fun _ _ h => h.elim, fun _ _ h => h.elim, fun _ _ h => h.elim, ?_, fun _ _ h => h.elim,
    ?_, ?_, fun _ _ h => h.elim, trivial⟩
  · rintro u - ⟨-, -, -, h⟩
    unfold completeKind at h
    split at h <;> simp at h
  · rintro u - ⟨-, -, -, h | h⟩ <;> simp at h
  · rintro u - ⟨-, hid, -⟩ d hd hdu
    have hsatisfied : ∀ d ∈ (run sampleDatabase (retriedReport.take 6)).dependencies,
        d.taskId = "report" → ∃ p ∈ (run sampleDatabase (retriedReport.take 6)).tasks,
          p.taskId = d.dependsOnTaskId ∧ p.status ∈ d.allowedStatuses := by decide +kernel
    exact hsatisfied d hd (hdu.trans hid)

def Payload.decision : Payload → Option ReviewStatus
  | .taskTransitioned _ _ _ .humanGateApproved _ _ => some .approved
  | .taskTransitioned _ _ _ .humanGateRejected _ _ => some .rejected
  | _ => none

def gateDecisions (events : List AuditEventRow) (taskId : String) : List ReviewStatus :=
  events.filterMap fun row => if row.taskId = some taskId then row.payload.decision else none

/-- The last decision on the gate of the task is an approval. -/
def Approved (db : Database) (t : EngagementTask) : Prop :=
  (gateDecisions db.auditEvents t.taskId).getLast? = some .approved

theorem gateDecisions_record (db : Database) (now : Timestamp) (tenantId : String)
    (engagementId task : Option String) (aggregateType : AggregateType) (aggregateId : String)
    (payload : Payload) (taskId : String) :
    gateDecisions (db.record now tenantId engagementId task aggregateType aggregateId
        payload).auditEvents taskId =
      gateDecisions db.auditEvents taskId ++
        (if task = some taskId then payload.decision else none).toList := by
  simp only [gateDecisions, Database.record, List.filterMap_append, List.filterMap_cons,
    List.filterMap_nil]
  by_cases h : task = some taskId
  · simp only [h, if_true]
    cases payload.decision <;> rfl
  · simp only [h, if_false]
    rfl

section Moves

variable {now : Timestamp} {k : MoveKind} {t t' : EngagementTask} {db db' : Database}

theorem Announces.decision_eq {payload : Payload} (h : Announces k t t' payload) :
    payload.decision = if k = .approve ∨ k = .accept then some .approved
      else if k = .reject then some .rejected else none := by
  cases payload with
  | taskTransitioned taskKey fromStatus toStatus reason attemptCount extra =>
    obtain ⟨-, -, -, -, -, happroved, hrejected⟩ := h
    by_cases ha : k = .approve ∨ k = .accept
    · rw [if_pos ha, happroved.mpr ha]
      rfl
    · rw [if_neg ha]
      by_cases hr : k = .reject
      · rw [if_pos hr, hrejected.mpr hr]
        rfl
      · rw [if_neg hr]
        have h1 : reason ≠ .humanGateApproved := fun h => ha (happroved.mp h)
        have h2 : reason ≠ .humanGateRejected := fun h => hr (hrejected.mp h)
        cases reason <;> first | rfl | exact absurd rfl h1 | exact absurd rfl h2
  | taskHeartbeat =>
    have hk : k = .heartbeat := h
    simp [hk, Payload.decision]
  | _ => exact h.elim

theorem TaskMove.gateDecisions_eq (h : TaskMove now k t t' db db') (taskId : String) :
    gateDecisions db'.auditEvents taskId = gateDecisions db.auditEvents taskId ++
      (if t.taskId = taskId then
        if k = .approve ∨ k = .accept then some ReviewStatus.approved
        else if k = .reject then some .rejected else none
      else none).toList := by
  obtain ⟨payload, hann, hev⟩ := h.event
  rw [hev, Database.recordTask, gateDecisions_record, hann.decision_eq, h.same.taskId]
  simp only [Option.some_inj]

theorem TaskMove.approved (h : TaskMove now k t t' db db') {u : EngagementTask}
    (hu : u.taskId ≠ t.taskId ∨ k ≠ .reject) (happ : Approved db u) : Approved db' u := by
  unfold Approved at happ ⊢
  rw [h.gateDecisions_eq]
  by_cases hid : t.taskId = u.taskId
  · have hk : k ≠ .reject := hu.resolve_left fun hne => hne hid.symm
    rw [if_pos hid, if_neg hk]
    split
    · simp
    · simpa using happ
  · rw [if_neg hid]
    simpa using happ

theorem EngagementMove.gateDecisions_eq {e e' : Engagement} (h : EngagementMove now e e' db db')
    (taskId : String) :
    gateDecisions db'.auditEvents taskId = gateDecisions db.auditEvents taskId := by
  rcases h.event with ⟨-, hev⟩ | ⟨reason, extra, hev⟩
  · rw [hev]
  · rw [hev, Database.recordEngagement, gateDecisions_record]
    simp

theorem Compiled.gateDecisions_eq {tenantId engagementId : String} {rows : List EngagementTask}
    {deps : List TaskDependency} (h : Compiled now tenantId engagementId rows deps db db')
    (taskId : String) :
    gateDecisions db'.auditEvents taskId = gateDecisions db.auditEvents taskId := by
  have hcreated : ∀ (rows : List EngagementTask) (db : Database),
      gateDecisions (rows.foldl (fun db t => Orchestrator.recordTaskCreated db now t)
        db).auditEvents taskId = gateDecisions db.auditEvents taskId := by
    intro rows
    induction rows with
    | nil => exact fun _ => rfl
    | cons t rows ih =>
      intro db
      rw [List.foldl_cons, ih, Orchestrator.recordTaskCreated, Database.recordTask,
        gateDecisions_record]
      simp [Payload.decision]
  obtain ⟨version, metadata, hev⟩ := h.event
  rw [hev, Database.recordEngagement, gateDecisions_record, hcreated]
  simp

end Moves

/-- A gated task is not promoted past its gate, and stands approved while it is
in execution. -/
structure Gated (db : Database) (t : EngagementTask) : Prop where
  undecided : t.status = .pending → t.reviewStatus = none
  approved : GatedBefore t → t.status = .ready ∨ t.status = .running ∨ t.status = .retryWait →
    Approved db t

variable {t t' : EngagementTask} {db : Database}

theorem SameTask.gatedBefore (h : SameTask t t') :
    GatedBefore t' ↔ GatedBefore t := by
  unfold GatedBefore
  rw [h.humanGate, h.executionPolicy]

theorem Approved.of_same (h : SameTask t t') (happ : Approved db t) : Approved db t' := by
  unfold Approved at happ ⊢
  rw [h.taskId]
  exact happ

/-- A forced retry of a gated task is made only while its approval stands. -/
def RetriesApproved (db : Database) (call : Timestamp × Op) : Prop :=
  ∀ t ∈ db.tasks, call.2.acts call.1 t .forceRetry → GatedBefore t → Approved db t

/-- **One move.**  The moved task stays behind its gate. -/
theorem TaskMove.gated {now : Timestamp} {k : MoveKind} {db' : Database}
    (h : TaskMove now k t t' db db') (ht : Gated db t)
    (hretry : k = .forceRetry → GatedBefore t → Approved db t) : Gated db' t' := by
  have hsame := h.same
  have hkeep : k ≠ .reject → Approved db t → Approved db' t' := fun hk happ =>
    (h.approved (Or.inr hk) happ).of_same hsame
  constructor
  · intro hpending
    cases h.step <;> rename_i become <;> rw [become.status] at hpending <;> simp at hpending
  · intro hgate hexec
    rw [hsame.gatedBefore] at hgate
    cases h.step with
    | release pending _ _ open_ _ =>
      -- the promotion would need an approval, but nothing has been decided yet
      have hreview := open_ hgate
      rw [ht.undecided pending] at hreview
      exact absurd hreview (by simp)
    | claim _ _ ready => exact hkeep (by simp) (ht.approved hgate (Or.inl ready))
    | heartbeat _ running => exact hkeep (by simp) (ht.approved hgate (Or.inr (Or.inl running)))
    | retry running => exact hkeep (by simp) (ht.approved hgate (Or.inr (Or.inl running)))
    | promote waiting => exact hkeep (by simp) (ht.approved hgate (Or.inr (Or.inr waiting)))
    | approve =>
      unfold Approved
      rw [h.gateDecisions_eq, if_pos hsame.taskId.symm, if_pos (Or.inl rfl)]
      simp
    | forceRetry => exact hkeep (by simp) (hretry rfl hgate)
    | _ =>
      rename_i become
      rw [become.status] at hexec
      simp at hexec

theorem run_gated (hfresh : Fresh db) {calls : List (Timestamp × Op)}
    (hok : Runs.EachStep step RetriesApproved db calls) :
    ∀ t ∈ (run db calls).tasks, Gated (run db calls) t := by
  have hI : ∀ t ∈ db.tasks, Gated db t := by
    rw [hfresh.tasks]
    simp
  refine run_invariant_move (I := fun db => ∀ t ∈ db.tasks, Gated db t) ?_ ?_
    hfresh.wellFormed hI hok
  · intro now tenantId engagementId rows deps db db' _ hI hc t ht
    rcases hc.mem_tasks.mp ht with hold | hnew
    · refine ⟨(hI t hold).undecided, fun hgate hexec => ?_⟩
      have happ := (hI t hold).approved hgate hexec
      unfold Approved at happ ⊢
      rw [hc.gateDecisions_eq]
      exact happ
    · have hrow := hc.new t hnew
      refine ⟨fun _ => hrow.reviewStatus, fun _ hexec => ?_⟩
      rw [hrow.status] at hexec
      simp at hexec
  · intro now op db₀ db db' hretry hwf hI hmove u' hu'
    cases hmove with
    | engagement move =>
      rw [move.tasks] at hu'
      refine ⟨(hI u' hu').undecided, fun hgate hexec => ?_⟩
      have happ := (hI u' hu').approved hgate hexec
      unfold Approved at happ ⊢
      rw [move.gateDecisions_eq]
      exact happ
    | task allowed move =>
      obtain ⟨u, hu, hsame, ⟨rfl, hne⟩ | ⟨rfl, rfl⟩⟩ := move.preimage hwf hu'
      · -- the decisions at the gate of `u` are not those of the task that moves
        refine ⟨(hI _ hu).undecided, fun hgate hexec => ?_⟩
        refine move.approved (Or.inl fun hid => hne ?_) ((hI _ hu).approved hgate hexec)
        exact hwf.eq_of_taskId hu move.mem hid
      · refine move.gated (hI _ hu) ?_
        rintro rfl hgate
        obtain ⟨rfl, hacts⟩ := allowed
        exact hretry _ hu hacts hgate

/-- **Gates before execution.**  In every state reached by a run whose forced
retries of gated tasks are all made while the approval stands, a running task
with a gate before its execution has been approved, and no rejection followed. -/
theorem run_running_approved {db : Database} (hfresh : Fresh db)
    {calls : List (Timestamp × Op)} (hok : Runs.EachStep step RetriesApproved db calls) :
    ∀ t ∈ (run db calls).tasks, GatedBefore t → t.status = .running →
      Approved (run db calls) t := by
  intro t ht hgate hrun
  exact (run_gated hfresh hok t ht).approved hgate (Or.inr (Or.inl hrun))

/-- One task with a gate before its execution, compiled and started. -/
def gatedStart : List (Timestamp × Op) :=
  [(0, sampleCompile [{ sampleReport with
      key := "issue"
      humanGate := some "issuance"
      key_valid := by decide
      gatePositionRequiresGate := by decide }] (by simp)),
    (1, .startEngagement "tenant" "engagement")]

/-- The gate is closed by a rejection; a forced retry opens it. -/
def retriedRejected : List (Timestamp × Op) :=
  gatedStart ++
    [(2, .rejectGate "tenant" "issue" { actorId := "partner", reason := "not ready" }),
      (3, .forceRetryTask "tenant" "issue" "admin" "try again"),
      (4, .claimNext "tenant" "worker" 10 {})]

instance (t : EngagementTask) : Decidable (GatedBefore t) :=
  inferInstanceAs (Decidable (PyString.truthy t.humanGate ∧ t.executionPolicy.gatePosition = .before))

instance (db : Database) (t : EngagementTask) : Decidable (Approved db t) :=
  inferInstanceAs (Decidable
    ((gateDecisions db.auditEvents t.taskId).getLast? = some ReviewStatus.approved))

/-- A rejected task runs. -/
theorem retried_rejected_task_runs :
    ¬ ∀ calls, ∀ t ∈ (run sampleDatabase calls).tasks, GatedBefore t → t.status = .running →
      Approved (run sampleDatabase calls) t := by
  intro h
  obtain ⟨t, ht, hgate, hrun, hnot⟩ : ∃ t ∈ (run sampleDatabase retriedRejected).tasks,
      GatedBefore t ∧ t.status = .running ∧ ¬ Approved (run sampleDatabase retriedRejected) t := by
    decide +kernel
  exact hnot (h retriedRejected t ht hgate hrun)

/-- An approved task runs. -/
theorem run_running_approved_claimed :
    ∃ t ∈ (run sampleDatabase (gatedStart ++
        [(2, .approveGate "tenant" "issue" { actorId := "partner", reason := "complete" }),
          (3, .claimNext "tenant" "worker" 10 {})])).tasks,
      GatedBefore t ∧ t.status = .running ∧ Approved (run sampleDatabase (gatedStart ++
        [(2, .approveGate "tenant" "issue" { actorId := "partner", reason := "complete" }),
          (3, .claimNext "tenant" "worker" 10 {})])) t := by
  obtain ⟨t, ht, hgate, hrun⟩ : ∃ t ∈ (run sampleDatabase (gatedStart ++
      [(2, .approveGate "tenant" "issue" { actorId := "partner", reason := "complete" }),
        (3, .claimNext "tenant" "worker" 10 {})])).tasks,
      GatedBefore t ∧ t.status = .running := by decide +kernel
  refine ⟨t, ht, hgate, hrun, run_running_approved sampleDatabase_fresh ?_ t ht hgate hrun⟩
  refine ⟨fun _ _ h => h.elim, fun _ _ h => h.elim, ?_, fun _ _ h => h.elim, trivial⟩
  rintro u - ⟨-, -, -, -, hk⟩
  simp only [decideKind, if_true] at hk
  split at hk <;> simp at hk

variable {now : Timestamp} {db : Database} {t t' : EngagementTask} {k : MoveKind}

theorem TaskStep.of_failure (h : TaskStep now db t t' k) (hfail : t.status.isFailure = true) :
    k = .forceRetry ∨ k = .forceSkip := by
  cases h with
  | forceRetry => exact Or.inl rfl
  | forceSkip => exact Or.inr rfl
  | block pending | lapse pending | wait pending | release pending =>
    simp [pending, TaskStatus.isFailure] at hfail
  | claim _ _ ready => simp [ready, TaskStatus.isFailure] at hfail
  | heartbeat _ running | complete running | submit running | retry running | fail running =>
    simp [running, TaskStatus.isFailure] at hfail
  | promote waiting | approve waiting | accept waiting | reject waiting =>
    simp [waiting, TaskStatus.isFailure] at hfail
  | overdue active | cancel active =>
    cases hs : t.status <;> simp_all [TaskStatus.isFailure, TaskStatus.isTerminal]

theorem TaskStep.of_blocked (h : TaskStep now db t t' k) (hs : t'.status = .blocked) :
    t.status = .pending ∧ Obstructed db t := by
  cases h with
  | block pending obstructed => exact ⟨pending, obstructed⟩
  | _ =>
    rename_i become
    rw [become.status] at hs
    exact absurd hs (by simp)

/-- The call takes a dependency of the blocked task `taskId` out of its failure
status by force. -/
def Lifted (taskId : String) (db : Database) (call : Timestamp × Op) : Prop :=
  (∃ u ∈ db.tasks, u.taskId = taskId ∧ u.status = .blocked) ∧
    ∃ d ∈ db.dependencies, d.taskId = taskId ∧
      ∃ p ∈ db.tasks, p.taskId = d.dependsOnTaskId ∧ p.status.isFailure ∧
        (call.2.acts call.1 p .forceRetry ∨ call.2.acts call.1 p .forceSkip)

section Steps

variable {now : Timestamp} {db db' : Database}
variable {u : EngagementTask}

theorem Compiled.obstructed {tenantId engagementId : String} {rows : List EngagementTask}
    {deps : List TaskDependency} (h : Compiled now tenantId engagementId rows deps db db')
    (hu : Obstructed db u) :
    Obstructed db' u := by
  obtain ⟨d, hd, hid, p, hp, hpid, hfail⟩ := hu
  refine ⟨d, ?_, hid, p, h.mem_tasks.mpr (Or.inl hp), hpid, hfail⟩
  rw [h.dependencies]
  exact List.mem_append_left _ hd

theorem TaskMove.obstructed {k : MoveKind} {t t' : EngagementTask} (h : TaskMove now k t t' db db')
    (hwf : WellFormed db) (hu : Obstructed db u) :
    Obstructed db' u ∨ (t.status.isFailure = true ∧
      ∃ d ∈ db.dependencies, d.taskId = u.taskId ∧ t.taskId = d.dependsOnTaskId) := by
  obtain ⟨d, hd, hid, p, hp, hpid, hfail⟩ := hu
  by_cases hpt : p.taskId = t.taskId
  · right
    rw [hwf.eq_of_taskId hp h.mem hpt] at hpid hfail
    exact ⟨hfail, d, hd, hid, hpid⟩
  · left
    refine ⟨d, ?_, hid, p, h.other_mem hp hpt, hpid, hfail⟩
    rw [h.dependencies]
    exact hd

/-- What a call leaves blocked: tasks with a reason, tasks whose reason it
lifts, and tasks that had none before. -/
theorem step_blocked (hwf : WellFormed db) (call : Timestamp × Op) :
    ∀ t ∈ (step db call).tasks, t.status = .blocked → Obstructed (step db call) t ∨
      Lifted t.taskId db call ∨
        ∃ u ∈ db.tasks, u.taskId = t.taskId ∧ u.status = .blocked ∧ ¬ Obstructed db u := by
  refine step_invariant_move (I := fun db₁ => ∀ t ∈ db₁.tasks, t.status = .blocked →
    Obstructed db₁ t ∨ Lifted t.taskId db call ∨
      ∃ u ∈ db.tasks, u.taskId = t.taskId ∧ u.status = .blocked ∧ ¬ Obstructed db u) hwf ?_ ?_ ?_
  · intro t ht hs
    by_cases hobs : Obstructed db t
    · exact Or.inl hobs
    · exact Or.inr (Or.inr ⟨t, ht, rfl, hs, hobs⟩)
  · intro tenantId engagementId rows deps db' hc t ht hs
    rcases hc.mem_tasks.mp ht with hold | hnew
    · by_cases hobs : Obstructed db t
      · exact Or.inl (hc.obstructed hobs)
      · exact Or.inr (Or.inr ⟨t, hold, rfl, hs, hobs⟩)
    · rw [(hc.new t hnew).status] at hs
      exact absurd hs (by simp)
  · intro db₁ db₂ hwf₁ hI hmove u' hu' hs
    cases hmove with
    | engagement move =>
      unfold Obstructed
      rw [move.tasks] at hu'
      rw [move.tasks, move.dependencies]
      exact hI u' hu' hs
    | @task k t t' allowed move =>
      obtain ⟨u, hu, hsame, ⟨rfl, -⟩ | ⟨rfl, rfl⟩⟩ := move.preimage hwf₁ hu'
      · rcases hI _ hu hs with hobs | hpast
        · rcases move.obstructed hwf₁ hobs with hstay | ⟨hfail, d, hd, hid, hpid⟩
          · exact Or.inl hstay
          · -- only a forced move takes the reason away, and the call starts with it
            right
            left
            rcases move.step.of_failure hfail with rfl | rfl
            · obtain ⟨rfl, hacts⟩ := allowed
              exact ⟨⟨_, hu, rfl, hs⟩, d, hd, hid, t, move.mem, hpid, hfail, Or.inl hacts⟩
            · obtain ⟨rfl, hacts⟩ := allowed
              exact ⟨⟨_, hu, rfl, hs⟩, d, hd, hid, t, move.mem, hpid, hfail, Or.inr hacts⟩
        · exact Or.inr hpast
      · -- the task is blocked by this move, for a reason that the move leaves alone
        obtain ⟨hpending, hobs⟩ := move.step.of_blocked hs
        left
        rcases move.obstructed hwf₁ hobs with ⟨d, hd, hid, hp⟩ | ⟨hfail, -⟩
        · exact ⟨d, hd, hid.trans hsame.taskId.symm, hp⟩
        · rw [hpending] at hfail
          simp [TaskStatus.isFailure] at hfail

end Steps

/-- **Why tasks are blocked.**  In every state of every run each blocked task
has a dependency that has failed, is blocked or was cancelled, or had one when
an administrative retry or skip took that dependency out of its failure
status while the task was blocked. -/
theorem run_blocked_reason {db : Database} (hfresh : Fresh db) (calls : List (Timestamp × Op)) :
    ∀ t ∈ (run db calls).tasks, t.status = .blocked →
      Obstructed (run db calls) t ∨ Runs.SomeStep step (Lifted t.taskId) db calls := by
  induction calls using List.reverseRecOn with
  | nil =>
    intro t ht
    rw [run, List.foldl_nil, hfresh.tasks] at ht
    exact absurd ht List.not_mem_nil
  | append_singleton calls call ih =>
    intro t ht hs
    have hlast : run db (calls ++ [call]) = step (run db calls) call := List.foldl_concat ..
    rw [hlast] at ht ⊢
    rcases step_blocked (run_wellFormed hfresh.wellFormed) call t ht hs with
      hobs | hlift | ⟨u, hu, hid, hus, hnot⟩
    · exact Or.inl hobs
    · exact Or.inr (.last hlift)
    · rcases ih u hu hus with hobs | hpast
      · exact absurd hobs hnot
      · rw [hid] at hpast
        exact Or.inr (hpast.append [call])

/-- The failed first task is retried by force; the second stays blocked. -/
def retriedPrerequisite : List (Timestamp × Op) :=
  sampleFailed ++ [(4, .forceRetryTask "tenant" "collect" "admin" "fixed")]

/-- A task is blocked whose only dependency is ready again. -/
theorem blocked_after_retry :
    ¬ ∀ calls, ∀ t ∈ (run sampleDatabase calls).tasks, t.status = .blocked →
      Obstructed (run sampleDatabase calls) t := by
  intro h
  obtain ⟨t, ht, hs, hnone⟩ : ∃ t ∈ (run sampleDatabase retriedPrerequisite).tasks,
      t.status = .blocked ∧ ∀ d ∈ (run sampleDatabase retriedPrerequisite).dependencies,
        d.taskId = t.taskId → ∀ p ∈ (run sampleDatabase retriedPrerequisite).tasks,
          p.taskId = d.dependsOnTaskId → p.status.isFailure = false := by decide +kernel
  obtain ⟨d, hd, hid, p, hp, hpid, hfail⟩ := h retriedPrerequisite t ht hs
  rw [hnone d hd hid p hp hpid] at hfail
  exact absurd hfail (by simp)

/-- Before the retry it is blocked by the failed one. -/
theorem run_blocked_reason_failed :
    ∃ t ∈ (run sampleDatabase sampleFailed).tasks, t.status = .blocked ∧
      (Obstructed (run sampleDatabase sampleFailed) t ∨
        Runs.SomeStep step (Lifted t.taskId) sampleDatabase sampleFailed) := by
  obtain ⟨t, ht, hs⟩ : ∃ t ∈ (run sampleDatabase sampleFailed).tasks, t.status = .blocked := by
    decide +kernel
  exact ⟨t, ht, hs, run_blocked_reason sampleDatabase_fresh sampleFailed t ht hs⟩

end Orchestration
