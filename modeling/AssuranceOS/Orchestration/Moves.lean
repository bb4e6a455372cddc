/-
The moves of the orchestrator.

A *move* is one write of the service to one row, with the attempt row it
closes or opens and the event it appends: `TaskMove` for a task row,
`EngagementMove` for an engagement row.  `TaskStep` is the life cycle of a
task, one constructor for every way a row can change, with the guard under
which the source makes the change.  Whole operations are paths of moves
(`Operations.lean`), so an invariant is proved by looking at the constructors
once.

`WellFormed` collects what the tables satisfy in every reachable state; every
move keeps it (`TaskMove.wellFormed`, `EngagementMove.wellFormed`).
-/
import AssuranceOS.Lib.Runs
import AssuranceOS.Orchestration.Service

namespace Orchestration

/-- Every dependency of `t` is in one of its allowed statuses. -/
def Satisfied (db : Database) (t : EngagementTask) : Prop :=
  ∀ d ∈ db.dependencies, d.taskId = t.taskId →
    ∃ p ∈ db.tasks, p.taskId = d.dependsOnTaskId ∧ p.status ∈ d.allowedStatuses

/-- Some dependency of `t` has failed, is blocked or was cancelled. -/
def Obstructed (db : Database) (t : EngagementTask) : Prop :=
  ∃ d ∈ db.dependencies, d.taskId = t.taskId ∧
    ∃ p ∈ db.tasks, p.taskId = d.dependsOnTaskId ∧ p.status.isFailure

/-- The task waits for a human before it is executed. -/
def GatedBefore (t : EngagementTask) : Prop :=
  PyString.truthy t.humanGate ∧ t.executionPolicy.gatePosition = .before

/-! ### The life cycle of a task -/

/-- The columns that are written once, by the compiler. -/
structure SameTask (t t' : EngagementTask) : Prop where
  taskId : t'.taskId = t.taskId
  tenantId : t'.tenantId = t.tenantId
  engagementId : t'.engagementId = t.engagementId
  taskKey : t'.taskKey = t.taskKey
  deadlineAt : t'.deadlineAt = t.deadlineAt
  executionPolicy : t'.executionPolicy = t.executionPolicy
  humanGate : t'.humanGate = t.humanGate

theorem SameTask.refl (t : EngagementTask) : SameTask t t :=
  ⟨rfl, rfl, rfl, rfl, rfl, rfl, rfl⟩

theorem SameTask.trans {t u v : EngagementTask} (h₁ : SameTask t u) (h₂ : SameTask u v) :
    SameTask t v :=
  ⟨h₂.taskId.trans h₁.taskId, h₂.tenantId.trans h₁.tenantId,
    h₂.engagementId.trans h₁.engagementId, h₂.taskKey.trans h₁.taskKey,
    h₂.deadlineAt.trans h₁.deadlineAt, h₂.executionPolicy.trans h₁.executionPolicy,
    h₂.humanGate.trans h₁.humanGate⟩

variable {db db' : Database} {now : Timestamp}
  {allows : Database → MoveKind → EngagementTask → Prop}

theorem Satisfied.of_same {u u' : EngagementTask} (h : Satisfied db u) (hsame : SameTask u u') :
    Satisfied db u' := by
  intro d hd hid
  exact h d hd (hid.trans hsame.taskId)

/-- `t'` is `t` with these control columns. -/
structure Becomes (t t' : EngagementTask) (status : TaskStatus) (attemptCount : Nat)
    (leaseOwner : Option String) (leaseExpiresAt : Option Timestamp)
    (reviewStatus : Option ReviewStatus) : Prop where
  same : SameTask t t'
  status : t'.status = status
  attemptCount : t'.attemptCount = attemptCount
  leaseOwner : t'.leaseOwner = leaseOwner
  leaseExpiresAt : t'.leaseExpiresAt = leaseExpiresAt
  reviewStatus : t'.reviewStatus = reviewStatus

/-- The ways a task row changes.  The first four are made by the
reconciliation. -/
inductive MoveKind where
  | block
  | lapse
  | wait
  | release
  | claim (workerId : String)
  | heartbeat
  | complete
  | submit
  | retry
  | fail
  | overdue
  | promote
  | approve
  | accept
  | reject
  | cancel
  | forceRetry
  | forceSkip
  deriving DecidableEq

def MoveKind.isReconcile : MoveKind → Prop
  | .block | .lapse | .wait | .release => True
  | _ => False

/-- The life cycle: how the row `t` becomes `t'` at time `now`. -/
inductive TaskStep (now : Timestamp) (db : Database) (t t' : EngagementTask) : MoveKind → Prop
  | block (pending : t.status = .pending) (obstructed : Obstructed db t)
      (become : Becomes t t' .blocked t.attemptCount t.leaseOwner t.leaseExpiresAt
        t.reviewStatus) : TaskStep now db t t' .block
  | lapse (pending : t.status = .pending) (satisfied : Satisfied db t)
      (late : elapsed t.deadlineAt now)
      (become : Becomes t t' .failed t.attemptCount t.leaseOwner t.leaseExpiresAt
        t.reviewStatus) : TaskStep now db t t' .lapse
  | wait (pending : t.status = .pending) (satisfied : Satisfied db t)
      (inTime : ¬ elapsed t.deadlineAt now) (gated : GatedBefore t)
      (become : Becomes t t' .waitingApproval t.attemptCount t.leaseOwner t.leaseExpiresAt
        (some .pending)) : TaskStep now db t t' .wait
  | release (pending : t.status = .pending) (satisfied : Satisfied db t)
      (inTime : ¬ elapsed t.deadlineAt now)
      (open_ : GatedBefore t → t.reviewStatus = some .approved)
      (become : Becomes t t' .ready t.attemptCount t.leaseOwner t.leaseExpiresAt
        t.reviewStatus) : TaskStep now db t t' .release
  | claim (workerId : String) (expiry : Timestamp) (ready : t.status = .ready)
      (inTime : ¬ elapsed t.deadlineAt now)
      (become : Becomes t t' .running (t.attemptCount + 1) (some workerId) (some expiry)
        t.reviewStatus) : TaskStep now db t t' (.claim workerId)
  | heartbeat (expiry : Timestamp) (running : t.status = .running)
      (become : Becomes t t' .running t.attemptCount t.leaseOwner (some expiry)
        t.reviewStatus) : TaskStep now db t t' .heartbeat
  | complete (running : t.status = .running)
      (become : Becomes t t' .succeeded t.attemptCount none none t.reviewStatus) :
      TaskStep now db t t' .complete
  | submit (running : t.status = .running) (gatedAfter : t.executionPolicy.gatePosition = .after)
      (become : Becomes t t' .waitingApproval t.attemptCount none none (some .pending)) :
      TaskStep now db t t' .submit
  | retry (running : t.status = .running)
      (budget : t.attemptCount < t.executionPolicy.retryPolicy.maxAttempts)
      (become : Becomes t t' .retryWait t.attemptCount none none t.reviewStatus) :
      TaskStep now db t t' .retry
  | fail (running : t.status = .running)
      (become : Becomes t t' .failed t.attemptCount none none t.reviewStatus) :
      TaskStep now db t t' .fail
  | overdue (active : t.status.isTerminal = false)
      (become : Becomes t t' .failed t.attemptCount none none t.reviewStatus) :
      TaskStep now db t t' .overdue
  | promote (waiting : t.status = .retryWait)
      (become : Becomes t t' .ready t.attemptCount t.leaseOwner t.leaseExpiresAt
        t.reviewStatus) : TaskStep now db t t' .promote
  | approve (waiting : t.status = .waitingApproval) (gated : GatedBefore t)
      (become : Becomes t t' .ready t.attemptCount t.leaseOwner t.leaseExpiresAt
        (some .approved)) : TaskStep now db t t' .approve
  | accept (waiting : t.status = .waitingApproval) (gated : ¬ GatedBefore t)
      (become : Becomes t t' .succeeded t.attemptCount t.leaseOwner t.leaseExpiresAt
        (some .approved)) : TaskStep now db t t' .accept
  | reject (waiting : t.status = .waitingApproval)
      (become : Becomes t t' .failed t.attemptCount t.leaseOwner t.leaseExpiresAt
        (some .rejected)) : TaskStep now db t t' .reject
  | cancel (active : t.status.isTerminal = false)
      (become : Becomes t t' .cancelled t.attemptCount none none t.reviewStatus) :
      TaskStep now db t t' .cancel
  | forceRetry (stopped : t.status = .failed ∨ t.status = .blocked ∨ t.status = .retryWait)
      (become : Becomes t t' .ready t.attemptCount none none none) :
      TaskStep now db t t' .forceRetry
  | forceSkip (open_ : ¬ (t.status = .succeeded ∨ t.status = .skipped ∨ t.status = .cancelled))
      (become : Becomes t t' .skipped t.attemptCount none none t.reviewStatus) :
      TaskStep now db t t' .forceSkip

/-- The attempts after a move of `t` to `t'` that claims nothing: rows keep
their identity, the only one that stops running is the current attempt of a
task that stops running, and one that had stopped is left alone. -/
def AttemptsKept (t t' : EngagementTask) (before after : List TaskAttempt) : Prop :=
  ∃ f : TaskAttempt → TaskAttempt, after = before.map f ∧ ∀ a ∈ before,
    (f a).tenantId = a.tenantId ∧ (f a).number = a.number ∧ (f a).workerId = a.workerId ∧
    ((f a).status = .running ↔ a.status = .running ∧
      ¬ (a.number = (t.taskId, t.attemptCount) ∧ t.status = .running ∧ t'.status ≠ .running)) ∧
    (a.status ≠ .running → f a = a)

/-- The attempts after a claim: one more, running, under the new number. -/
def AttemptStarted (workerId : String) (t' : EngagementTask) (before after : List TaskAttempt) :
    Prop :=
  ∃ a : TaskAttempt, after = before ++ [a] ∧ a.tenantId = t'.tenantId ∧
    a.number = (t'.taskId, t'.attemptCount) ∧ a.workerId = workerId ∧ a.status = .running ∧
    ∀ b ∈ before, b.number ≠ a.number

def AttemptChange (k : MoveKind) (t t' : EngagementTask) (before after : List TaskAttempt) :
    Prop :=
  match k with
  | .claim workerId => AttemptStarted workerId t' before after
  | _ => AttemptsKept t t' before after

def Announces (k : MoveKind) (t t' : EngagementTask) : Payload → Prop
  | .taskHeartbeat _ _ _ => k = .heartbeat
  | .taskTransitioned taskKey fromStatus toStatus reason attemptCount _ =>
    taskKey = t'.taskKey ∧ fromStatus = t.status ∧ toStatus = t'.status ∧
    attemptCount = t'.attemptCount ∧ k ≠ .heartbeat ∧
    (reason = .humanGateApproved ↔ k = .approve ∨ k = .accept) ∧
    (reason = .humanGateRejected ↔ k = .reject)
  | _ => False

/-- One write to a task row, with its attempt row and its event. -/
structure TaskMove (now : Timestamp) (k : MoveKind) (t t' : EngagementTask)
    (db db' : Database) : Prop where
  mem : t ∈ db.tasks
  step : TaskStep now db t t' k
  tasks : db'.tasks = Table.put EngagementTask.taskId t' db.tasks
  engagements : db'.engagements = db.engagements
  dependencies : db'.dependencies = db.dependencies
  attempts : AttemptChange k t t' db.attempts db'.attempts
  event : ∃ payload, Announces k t t' payload ∧
    db'.auditEvents = (db.recordTask now t' payload).auditEvents

/-- What the statuses of its tasks call for: the status of the engagement, the
reason, and whether it is then completed. -/
def targetOf (db : Database) (e : Engagement) : EngagementStatus × EngagementReason × Bool :=
  Orchestrator.engagementTarget ((db.listTasks e.tenantId e.engagementId).map (·.status))

/-- `e'` is `e` after `_reconcile_engagement_status`. -/
structure Settle (now : Timestamp) (db : Database) (e e' : Engagement) : Prop where
  live : e.status ≠ .cancelled
  tasks : db.listTasks e.tenantId e.engagementId ≠ []
  status : e'.status = (targetOf db e).1
  completedAt : e'.completedAt = if (targetOf db e).2.2 then some now else e.completedAt

/-- The ways an engagement row changes. -/
inductive EngagementStep (now : Timestamp) (db : Database) (e e' : Engagement) : Prop
  | start (planned : e.status = .planned) (status : e'.status = .running)
      (completedAt : e'.completedAt = e.completedAt)
  | settle (settle : Settle now db e e')
  | cancel (live : e.status ≠ .completed ∧ e.status ≠ .cancelled)
      (settled : ∀ t ∈ db.tasks, t.engagementId = e.engagementId → t.status.isTerminal)
      (status : e'.status = .cancelled) (completedAt : e'.completedAt = some now)
  | reopen (status : e'.status = e.status) (completedAt : e'.completedAt = none)

/-- One write to an engagement row, with the event if the status changed. -/
structure EngagementMove (now : Timestamp) (e e' : Engagement) (db db' : Database) : Prop where
  mem : e ∈ db.engagements
  step : EngagementStep now db e e'
  engagementId : e'.engagementId = e.engagementId
  tenantId : e'.tenantId = e.tenantId
  engagements : db'.engagements = Table.put Engagement.engagementId e' db.engagements
  tasks : db'.tasks = db.tasks
  dependencies : db'.dependencies = db.dependencies
  attempts : db'.attempts = db.attempts
  event : (e'.status = e.status ∧ db'.auditEvents = db.auditEvents) ∨
    ∃ reason extra, db'.auditEvents = (db.recordEngagement now e.tenantId e.engagementId
      (.engagementTransitioned e.status e'.status reason extra)).auditEvents

/-- One move of a task row, among those that `allows` lists. -/
def TaskChange (now : Timestamp) (allows : Database → MoveKind → EngagementTask → Prop)
    (db db' : Database) : Prop :=
  ∃ k t t', allows db k t ∧ TaskMove now k t t' db db'

abbrev TaskPath (now : Timestamp) (allows : Database → MoveKind → EngagementTask → Prop) :
    Database → Database → Prop :=
  Relation.ReflTransGen (TaskChange now allows)

/-- One move; `allows` restricts the moves of task rows. -/
inductive Move (now : Timestamp) (allows : Database → MoveKind → EngagementTask → Prop) :
    Database → Database → Prop
  | task {db db' : Database} {k : MoveKind} {t t' : EngagementTask} (allowed : allows db k t)
      (move : TaskMove now k t t' db db') : Move now allows db db'
  | engagement {db db' : Database} {e e' : Engagement}
      (move : EngagementMove now e e' db db') : Move now allows db db'

abbrev Path (now : Timestamp) (allows : Database → MoveKind → EngagementTask → Prop) :
    Database → Database → Prop :=
  Relation.ReflTransGen (Move now allows)

theorem Path.mono {P Q : Database → MoveKind → EngagementTask → Prop}
    (h : ∀ db k t, P db k t → Q db k t) (hp : Path now P db db') :
    Path now Q db db' := by
  refine Relation.ReflTransGen.mono (fun a b hab => ?_) _ _ hp
  cases hab with
  | task allowed move => exact .task (h _ _ _ allowed) move
  | engagement move => exact .engagement move

theorem TaskPath.engagements (h : TaskPath now allows db db') :
    db'.engagements = db.engagements := by
  induction h with
  | refl => rfl
  | tail _ hlast ih =>
    obtain ⟨k, t, t', -, hmove⟩ := hlast
    exact hmove.engagements.trans ih

theorem TaskPath.path (h : TaskPath now allows db db') : Path now allows db db' := by
  refine Relation.ReflTransGen.mono (fun _ _ hchange => ?_) _ _ h
  obtain ⟨k, t, t', hallow, hmove⟩ := hchange
  exact .task hallow hmove

namespace TaskStep

variable {now : Timestamp} {db : Database} {t t' : EngagementTask} {k : MoveKind}

theorem same (h : TaskStep now db t t' k) : SameTask t t' := by
  cases h <;> rename_i become <;> exact become.same

theorem not_done (h : TaskStep now db t t' k) :
    t.status ≠ .succeeded ∧ t.status ≠ .skipped := by
  cases h with
  | block pending | lapse pending | wait pending | release pending => simp [pending]
  | claim _ _ ready => simp [ready]
  | heartbeat _ running | complete running | submit running | retry running | fail running =>
    simp [running]
  | promote waiting | approve waiting | accept waiting | reject waiting => simp [waiting]
  | overdue active | cancel active =>
    constructor
    · intro hs
      rw [hs] at active
      simp [TaskStatus.isTerminal] at active
    · intro hs
      rw [hs] at active
      simp [TaskStatus.isTerminal] at active
  | forceRetry stopped => rcases stopped with h | h | h <;> simp [h]
  | forceSkip open_ => exact ⟨fun h => open_ (Or.inl h), fun h => open_ (Or.inr (Or.inl h))⟩

end TaskStep

/-- What the tables satisfy in every reachable state. -/
structure WellFormed (db : Database) : Prop where
  engagementKeys : (db.engagements.map (·.engagementId)).Nodup
  taskKeys : (db.tasks.map (·.taskId)).Nodup
  taskEngagement : ∀ t ∈ db.tasks, ∃ e ∈ db.engagements,
    e.engagementId = t.engagementId ∧ e.tenantId = t.tenantId
  dependencyEnds : ∀ d ∈ db.dependencies, ∃ t ∈ db.tasks, ∃ p ∈ db.tasks,
    t.taskId = d.taskId ∧ p.taskId = d.dependsOnTaskId ∧ t.tenantId = d.tenantId ∧
    p.engagementId = t.engagementId
  allowed : ∀ d ∈ db.dependencies, ∀ s ∈ d.allowedStatuses,
    s = TaskStatus.succeeded ∨ s = TaskStatus.skipped
  acyclic : ∃ rank : String → Nat, ∀ d ∈ db.dependencies,
    rank d.dependsOnTaskId < rank d.taskId
  attemptKeys : (db.attempts.map TaskAttempt.number).Nodup
  attemptTask : ∀ a ∈ db.attempts, ∃ t ∈ db.tasks,
    t.taskId = a.taskId ∧ t.tenantId = a.tenantId

theorem Fresh.wellFormed (h : Fresh db) : WellFormed db where
  engagementKeys := h.engagementKeys
  taskKeys := by simp [h.tasks]
  taskEngagement := by simp [h.tasks]
  dependencyEnds := by simp [h.dependencies]
  allowed := by simp [h.dependencies]
  acyclic := ⟨fun _ => 0, by simp [h.dependencies]⟩
  attemptKeys := by simp [h.attempts]
  attemptTask := by simp [h.attempts]

namespace WellFormed

variable {db : Database} (hwf : WellFormed db)
include hwf

variable {t : EngagementTask} {e : Engagement}

theorem eq_of_taskId {u : EngagementTask} (ht : t ∈ db.tasks) (hu : u ∈ db.tasks)
    (h : t.taskId = u.taskId) : t = u :=
  Table.eq_of_key_eq hwf.taskKeys ht hu h

theorem eq_of_engagementId {f : Engagement} (he : e ∈ db.engagements) (hf : f ∈ db.engagements)
    (h : e.engagementId = f.engagementId) : e = f :=
  Table.eq_of_key_eq hwf.engagementKeys he hf h

theorem findTask_eq_some {taskId : String} :
    db.findTask taskId = some t ↔ t ∈ db.tasks ∧ t.taskId = taskId :=
  Table.get?_eq_some hwf.taskKeys

theorem tenant_eq (he : e ∈ db.engagements) (ht : t ∈ db.tasks)
    (h : t.engagementId = e.engagementId) : t.tenantId = e.tenantId := by
  obtain ⟨f, hf, hid, hten⟩ := hwf.taskEngagement t ht
  rw [← hten, hwf.eq_of_engagementId hf he (hid.trans h)]

theorem mem_listTasks (he : e ∈ db.engagements) :
    t ∈ db.listTasks e.tenantId e.engagementId ↔
      t ∈ db.tasks ∧ t.engagementId = e.engagementId := by
  simp only [Database.listTasks, List.mem_insertionSort, List.mem_filter, decide_eq_true_eq]
  constructor
  · rintro ⟨ht, -, hid⟩
    exact ⟨ht, hid⟩
  · rintro ⟨ht, hid⟩
    exact ⟨ht, hwf.tenant_eq he ht hid, hid⟩

end WellFormed

/-! ### Moves of tasks -/

namespace TaskMove

variable {now : Timestamp} {k : MoveKind} {t t' : EngagementTask} {db db' : Database}
  (h : TaskMove now k t t' db db')
include h

theorem same : SameTask t t' := h.step.same

variable {u : EngagementTask}

theorem mem_tasks (hwf : WellFormed db) :
    u ∈ db'.tasks ↔ u = t' ∨ (u ∈ db.tasks ∧ u ≠ t) := by
  rw [h.tasks]
  exact Table.mem_put hwf.taskKeys h.mem h.same.taskId

theorem new_mem : t' ∈ db'.tasks := by
  rw [h.tasks]
  exact Table.mem_put_self h.mem h.same.taskId

theorem other_mem (hu : u ∈ db.tasks) (hne : u.taskId ≠ t.taskId) :
    u ∈ db'.tasks := by
  rw [h.tasks]
  exact Table.mem_put_of_ne hu (by rw [h.same.taskId]; exact hne)

theorem image (hwf : WellFormed db) (hu : u ∈ db.tasks) :
    ∃ u' ∈ db'.tasks, SameTask u u' ∧ (u' = u ∧ u ≠ t ∨ u = t ∧ u' = t') := by
  by_cases hut : u = t
  · subst hut
    exact ⟨t', h.new_mem, h.same, Or.inr ⟨rfl, rfl⟩⟩
  · have hne : u.taskId ≠ t.taskId := fun he => hut (hwf.eq_of_taskId hu h.mem he)
    exact ⟨u, h.other_mem hu hne, .refl u, Or.inl ⟨rfl, hut⟩⟩

theorem preimage (hwf : WellFormed db) {u' : EngagementTask} (hu' : u' ∈ db'.tasks) :
    ∃ u ∈ db.tasks, SameTask u u' ∧ (u' = u ∧ u ≠ t ∨ u = t ∧ u' = t') := by
  rcases (h.mem_tasks hwf).mp hu' with rfl | ⟨hu, hne⟩
  · exact ⟨t, h.mem, h.same, Or.inr ⟨rfl, rfl⟩⟩
  · exact ⟨u', hu, .refl u', Or.inl ⟨rfl, hne⟩⟩

theorem satisfied (hwf : WellFormed db) (hu : Satisfied db u) : Satisfied db' u := by
  intro d hd hid
  rw [h.dependencies] at hd
  obtain ⟨p, hp, hpid, hstatus⟩ := hu d hd hid
  -- the prerequisite has succeeded or was skipped, so it is not the task that moves
  have hpt : p ≠ t := by
    rintro rfl
    rcases hwf.allowed d hd _ hstatus with hs | hs
    · exact h.step.not_done.1 hs
    · exact h.step.not_done.2 hs
  exact ⟨p, (h.mem_tasks hwf).mpr (Or.inr ⟨hp, hpt⟩), hpid, hstatus⟩

theorem satisfied_back (hwf : WellFormed db) (hnew : t'.status ≠ .succeeded ∧ t'.status ≠ .skipped)
    (hu : Satisfied db' u) :
    Satisfied db u := by
  intro d hd hid
  obtain ⟨p', hp', hpid, hstatus⟩ := hu d (h.dependencies ▸ hd) hid
  obtain ⟨p, hp, -, ⟨rfl, -⟩ | ⟨rfl, rfl⟩⟩ := h.preimage hwf hp'
  · exact ⟨p', hp, hpid, hstatus⟩
  · rcases hwf.allowed d hd _ hstatus with hs | hs
    · exact absurd hs hnew.1
    · exact absurd hs hnew.2

theorem attempt_preimage {a' : TaskAttempt} (ha' : a' ∈ db'.attempts) :
    (∃ a ∈ db.attempts, a'.number = a.number ∧ a'.tenantId = a.tenantId) ∨
      (a'.number = (t.taskId, t'.attemptCount) ∧ a'.tenantId = t.tenantId) := by
  have hc := h.attempts
  have hsame := h.same
  unfold AttemptChange at hc
  split at hc
  · obtain ⟨a, hafter, hten, hno, -⟩ := hc
    rw [hafter, List.mem_append, List.mem_singleton] at ha'
    rcases ha' with ha' | rfl
    · exact Or.inl ⟨a', ha', rfl, rfl⟩
    · exact Or.inr ⟨by rw [hno, hsame.taskId], by rw [hten, hsame.tenantId]⟩
  · obtain ⟨f, hafter, hf⟩ := hc
    rw [hafter, List.mem_map] at ha'
    obtain ⟨a, ha, rfl⟩ := ha'
    exact Or.inl ⟨a, ha, (hf a ha).2.1, (hf a ha).1⟩

theorem attempt_keys (hn : (db.attempts.map TaskAttempt.number).Nodup) :
    (db'.attempts.map TaskAttempt.number).Nodup := by
  have hc := h.attempts
  unfold AttemptChange at hc
  split at hc
  · obtain ⟨a, hafter, -, -, -, -, hfresh⟩ := hc
    rw [hafter, List.map_append, List.map_singleton, List.nodup_append]
    refine ⟨hn, List.nodup_singleton _, ?_⟩
    intro n hn' m hm
    obtain ⟨b, hb, rfl⟩ := List.mem_map.mp hn'
    rw [List.mem_singleton.mp hm]
    exact hfresh b hb
  · obtain ⟨f, hafter, hf⟩ := hc
    have hmap : db'.attempts.map TaskAttempt.number = db.attempts.map TaskAttempt.number := by
      rw [hafter, List.map_map]
      exact List.map_congr_left fun a ha => (hf a ha).2.1
    rw [hmap]
    exact hn

theorem wellFormed (hwf : WellFormed db) : WellFormed db' where
  engagementKeys := by
    rw [h.engagements]
    exact hwf.engagementKeys
  taskKeys := by
    rw [h.tasks, Table.map_put_key]
    exact hwf.taskKeys
  taskEngagement := by
    intro u' hu'
    obtain ⟨u, hu, hsame, -⟩ := h.preimage hwf hu'
    obtain ⟨e, he, hid, hten⟩ := hwf.taskEngagement u hu
    refine ⟨e, by rw [h.engagements]; exact he, ?_, ?_⟩
    · rw [hid, hsame.engagementId]
    · rw [hten, hsame.tenantId]
  dependencyEnds := by
    intro d hd
    rw [h.dependencies] at hd
    obtain ⟨u, hu, p, hp, h1, h2, h3, h4⟩ := hwf.dependencyEnds d hd
    obtain ⟨u', hu', hsu, -⟩ := h.image hwf hu
    obtain ⟨p', hp', hsp, -⟩ := h.image hwf hp
    refine ⟨u', hu', p', hp', ?_, ?_, ?_, ?_⟩
    · rw [hsu.taskId, h1]
    · rw [hsp.taskId, h2]
    · rw [hsu.tenantId, h3]
    · rw [hsp.engagementId, hsu.engagementId, h4]
  allowed := by
    rw [h.dependencies]
    exact hwf.allowed
  acyclic := by
    rw [h.dependencies]
    exact hwf.acyclic
  attemptKeys := h.attempt_keys hwf.attemptKeys
  attemptTask := by
    intro a' ha'
    rcases h.attempt_preimage ha' with ⟨a, ha, hno, hten⟩ | ⟨hno, hten⟩
    · obtain ⟨u, hu, hid, hut⟩ := hwf.attemptTask a ha
      obtain ⟨u', hu', hsu, -⟩ := h.image hwf hu
      have hid' : a'.taskId = a.taskId := congrArg Prod.fst hno
      exact ⟨u', hu', by rw [hsu.taskId, hid, hid'], by rw [hsu.tenantId, hut, hten]⟩
    · have hid' : a'.taskId = t.taskId := congrArg Prod.fst hno
      exact ⟨t', h.new_mem, by rw [h.same.taskId, hid'], by rw [h.same.tenantId, hten]⟩

end TaskMove

namespace EngagementMove

variable {now : Timestamp} {e e' : Engagement} {db db' : Database}
  (h : EngagementMove now e e' db db')
include h

theorem mem_engagements (hwf : WellFormed db) {f : Engagement} :
    f ∈ db'.engagements ↔ f = e' ∨ (f ∈ db.engagements ∧ f ≠ e) := by
  rw [h.engagements]
  exact Table.mem_put hwf.engagementKeys h.mem h.engagementId

theorem wellFormed (hwf : WellFormed db) : WellFormed db' where
  engagementKeys := by
    rw [h.engagements, Table.map_put_key]
    exact hwf.engagementKeys
  taskKeys := by
    rw [h.tasks]
    exact hwf.taskKeys
  taskEngagement := by
    intro u hu
    rw [h.tasks] at hu
    obtain ⟨f, hf, hid, hten⟩ := hwf.taskEngagement u hu
    by_cases hfe : f = e
    · subst hfe
      refine ⟨e', (h.mem_engagements hwf).mpr (Or.inl rfl), ?_, ?_⟩
      · rw [h.engagementId, hid]
      · rw [h.tenantId, hten]
    · exact ⟨f, (h.mem_engagements hwf).mpr (Or.inr ⟨hf, hfe⟩), hid, hten⟩
  dependencyEnds := by
    rw [h.tasks, h.dependencies]
    exact hwf.dependencyEnds
  allowed := by
    rw [h.dependencies]
    exact hwf.allowed
  acyclic := by
    rw [h.dependencies]
    exact hwf.acyclic
  attemptKeys := by
    rw [h.attempts]
    exact hwf.attemptKeys
  attemptTask := by
    rw [h.tasks, h.attempts]
    exact hwf.attemptTask

end EngagementMove

/-! ### Writes that are moves -/

section Writes

open Database

variable {now : Timestamp} {t t' : EngagementTask} {db : Database}

theorem AttemptsKept.unchanged {attempts : List TaskAttempt}
    (h : ∀ a ∈ attempts, a.number = (t.taskId, t.attemptCount) → a.status = .running →
      ¬ (t.status = .running ∧ t'.status ≠ .running)) : AttemptsKept t t' attempts attempts := by
  refine ⟨id, (List.map_id _).symm, fun a ha => ⟨rfl, rfl, rfl, ?_, fun _ => rfl⟩⟩
  constructor
  · intro hstatus
    exact ⟨hstatus, fun hc => h a ha hc.1 hstatus hc.2⟩
  · exact fun hc => hc.1

theorem AttemptsKept.refl (hrun : ¬ (t.status = .running ∧ t'.status ≠ .running))
    (attempts : List TaskAttempt) : AttemptsKept t t' attempts attempts :=
  .unchanged fun _ _ _ _ => hrun

theorem finishAttempt_eq (task : EngagementTask) (outcome : AttemptOutcome) :
    db.finishAttempt task now outcome =
      { db with attempts := (db.finishAttempt task now outcome).attempts } := by
  unfold finishAttempt
  split
  · rfl
  · split <;> rfl

@[simp] theorem finishAttempt_tasks (task : EngagementTask) (outcome : AttemptOutcome) :
    (db.finishAttempt task now outcome).tasks = db.tasks := by
  rw [finishAttempt_eq]

@[simp] theorem finishAttempt_engagements (task : EngagementTask) (outcome : AttemptOutcome) :
    (db.finishAttempt task now outcome).engagements = db.engagements := by
  rw [finishAttempt_eq]

@[simp] theorem finishAttempt_dependencies (task : EngagementTask) (outcome : AttemptOutcome) :
    (db.finishAttempt task now outcome).dependencies = db.dependencies := by
  rw [finishAttempt_eq]

@[simp] theorem finishAttempt_auditEvents (task : EngagementTask) (outcome : AttemptOutcome) :
    (db.finishAttempt task now outcome).auditEvents = db.auditEvents := by
  rw [finishAttempt_eq]

theorem record_auditEvents {db₁ db₂ : Database} (hev : db₁.auditEvents = db₂.auditEvents)
    (hid : db₁.uuid = db₂.uuid) (tenantId : String) (engagementId taskId : Option String)
    (aggregateType : AggregateType) (aggregateId : String) (payload : Payload) :
    (db₁.record now tenantId engagementId taskId aggregateType aggregateId payload).auditEvents =
      (db₂.record now tenantId engagementId taskId aggregateType aggregateId
        payload).auditEvents := by
  simp only [record, nextSequence, hev, hid]

theorem AttemptsKept.closed {attempts : List TaskAttempt} {attempt : TaskAttempt}
    {outcome : AttemptOutcome} (task : EngagementTask)
    (hkeys : (attempts.map TaskAttempt.number).Nodup) (hmem : attempt ∈ attempts)
    (hnum : attempt.number = (t.taskId, t.attemptCount)) (hlive : attempt.status = .running)
    (hout : outcome.status ≠ .running) (hrun : t.status = .running) (hstop : t'.status ≠ .running) :
    AttemptsKept t t' attempts
      (Table.put TaskAttempt.number (outcome.close task now attempt) attempts) := by
  refine ⟨_, rfl, fun a ha => ?_⟩
  have hkey : (outcome.close task now attempt).number = attempt.number := rfl
  rw [hkey]
  by_cases hno : a.number = attempt.number
  · have haa : a = attempt := Table.eq_of_key_eq hkeys ha hmem hno
    have hclosed : (outcome.close task now attempt).status ≠ .running := hout
    rw [haa, if_pos rfl]
    refine ⟨rfl, rfl, rfl, ?_, fun hstopped => absurd hlive hstopped⟩
    simp [hclosed, hnum, hrun, hstop]
  · rw [if_neg hno]
    refine ⟨rfl, rfl, rfl, ?_, fun _ => rfl⟩
    rw [hnum] at hno
    simp [hno]

theorem AttemptsKept.finishAttempt (hwf : WellFormed db) (ht : t ∈ db.tasks)
    (hrun : t.status = .running) (hstop : t'.status ≠ .running) {db₁ : Database}
    {task : EngagementTask}
    (hrow : db₁.attempts = db.attempts ∧ task.tenantId = t.tenantId ∧ task.taskId = t.taskId ∧
      task.attemptCount = t.attemptCount)
    {outcome : AttemptOutcome} (hout : outcome.status ≠ .running) :
    AttemptsKept t t' db.attempts (db₁.finishAttempt task now outcome).attempts := by
  obtain ⟨hdb, hten, hid, hcount⟩ := hrow
  -- the row that `getAttempt` finds is the only one with its number
  have huniq : ∀ a ∈ db.attempts, a.number = (t.taskId, t.attemptCount) →
      a.tenantId = t.tenantId := by
    intro a ha hno
    obtain ⟨u, hu, huid, huten⟩ := hwf.attemptTask a ha
    have hut : u = t := hwf.eq_of_taskId hu ht (huid.trans (congrArg Prod.fst hno))
    rw [← huten, hut]
  unfold Database.finishAttempt
  rw [getAttempt, hten, hid, hcount, hdb]
  split
  · rename_i hnone
    rw [hdb]
    refine .unchanged fun a ha hno => ?_
    have hfind := List.find?_eq_none.mp hnone a ha
    have h1 : a.taskId = t.taskId := congrArg Prod.fst hno
    have h2 : a.attemptNo = t.attemptCount := congrArg Prod.snd hno
    simp [huniq a ha hno, h1, h2] at hfind
  · rename_i attempt hsome
    have hmem : attempt ∈ db.attempts := List.mem_of_find?_eq_some hsome
    have hprop := List.find?_some hsome
    simp only [decide_eq_true_eq] at hprop
    have hnum : attempt.number = (t.taskId, t.attemptCount) := Prod.ext hprop.2.1 hprop.2.2
    split
    · rename_i hnot
      rw [hdb]
      refine .unchanged fun a ha hno hstatus => absurd ?_ hnot
      rwa [← Table.eq_of_key_eq hwf.attemptKeys ha hmem (hno.trans hnum.symm)]
    · rename_i hlive
      exact .closed task hwf.attemptKeys hmem hnum (not_not.mp hlive) hout hrun hstop

end Writes

theorem Move.wellFormed (h : Move now allows db db') (hwf : WellFormed db) : WellFormed db' := by
  cases h with
  | task _ move => exact move.wellFormed hwf
  | engagement move => exact move.wellFormed hwf

theorem Path.wellFormed (h : Path now allows db db') (hwf : WellFormed db) : WellFormed db' :=
  Runs.path_invariant (fun _ _ hmove => hmove.wellFormed) h hwf

theorem Path.image (h : Path now allows db db') (hwf : WellFormed db) :
    ∀ t ∈ db.tasks, ∃ t' ∈ db'.tasks, SameTask t t' := by
  induction h with
  | refl => exact fun t ht => ⟨t, ht, .refl t⟩
  | tail hpath hlast ih =>
    intro t ht
    obtain ⟨t₁, ht₁, hsame₁⟩ := ih t ht
    cases hlast with
    | task _ move =>
      obtain ⟨t₂, ht₂, hsame₂, -⟩ := move.image (Path.wellFormed hpath hwf) ht₁
      exact ⟨t₂, ht₂, hsame₁.trans hsame₂⟩
    | engagement move => exact ⟨t₁, by rw [move.tasks]; exact ht₁, hsame₁⟩

theorem Path.preimage (h : Path now allows db db') (hwf : WellFormed db) :
    ∀ t' ∈ db'.tasks, ∃ t ∈ db.tasks, SameTask t t' := by
  induction h with
  | refl => exact fun t ht => ⟨t, ht, .refl t⟩
  | tail hpath hlast ih =>
    intro t' ht'
    cases hlast with
    | task _ move =>
      obtain ⟨t₁, ht₁, hsame₁, -⟩ := move.preimage (Path.wellFormed hpath hwf) ht'
      obtain ⟨t, ht, hsame⟩ := ih t₁ ht₁
      exact ⟨t, ht, hsame.trans hsame₁⟩
    | engagement move =>
      rw [move.tasks] at ht'
      exact ih t' ht'

end Orchestration
