/-
Event replay (`orchestration/replay.py`), and what the ledger tells.

`replayEvents` groups the audit events of an engagement by stream, sorts each stream by sequence
number and folds it into the projection; `compareProjection` sets the result against a snapshot.

Every write to a task row or an engagement row appends an event with the new status, so the rows can
be read off the ledger (`trackTask`, `trackStatus`).  `Ledger` states this together with what a reader
relies on: the sequence numbers of a stream increase, and an event names its stream, its task and its
engagement.
-/
import AssuranceOS.Lib.EventLog
import AssuranceOS.Orchestration.Executions

namespace Orchestration

structure ReplayTask where
  taskId : String
  taskKey : String
  status : TaskStatus
  attemptCount : Nat := 0

/-- The dictionary `tasks` is the list of its values, keyed by `taskId`. -/
structure ReplayProjection where
  tenantId : String
  engagementId : String
  engagementStatus : EngagementStatus := .planned
  tasks : List ReplayTask := []

structure ReplayComparison where
  matched : Bool
  replayedEngagementStatus : EngagementStatus
  canonicalEngagementStatus : EngagementStatus
  taskStatusMismatches : List (String × TaskStatus × TaskStatus)
  missingInReplay : List String
  missingInCanonical : List String

namespace Replay

/-- `projection.tasks[task.task_id] = task`. -/
def setTask (tasks : List ReplayTask) (task : ReplayTask) : List ReplayTask :=
  if tasks.any fun t => t.taskId = task.taskId then Table.put ReplayTask.taskId task tasks
  else tasks ++ [task]

def applyEvent (projection : ReplayProjection) (event : AuditEventRow) :
    Except OrchestrationError ReplayProjection :=
  match event.payload with
  | .taskCreated taskKey _ status _ _ =>
    match event.taskId with
    | none => .error .assertionError
    | some taskId => .ok { projection with
        tasks := setTask projection.tasks
          { taskId := taskId, taskKey := taskKey, status := status } }
  | .taskTransitioned _ _ toStatus _ attemptCount _ =>
    match event.taskId with
    | none => .ok projection
    | some taskId =>
      match Table.get? ReplayTask.taskId taskId projection.tasks with
      | none => .ok projection
      | some task => .ok { projection with
          tasks := setTask projection.tasks
            { task with status := toStatus, attemptCount := attemptCount } }
  | .engagementTransitioned _ toStatus _ _ => .ok { projection with engagementStatus := toStatus }
  | _ => .ok projection

/-- The sort key `(sequence_no, event_id)`. -/
def eventOrder (a b : AuditEventRow) : Prop :=
  toLex (a.sequenceNo, a.eventId) ≤ toLex (b.sequenceNo, b.eventId)

instance : DecidableRel eventOrder := fun a b =>
  inferInstanceAs (Decidable (toLex (a.sequenceNo, a.eventId) ≤ toLex (b.sequenceNo, b.eventId)))

/-- The streams in the order of their first event, each sorted. -/
def streams (events : List AuditEventRow) : List (List AuditEventRow) :=
  (events.map (·.streamId)).eraseDups.map fun stream =>
    (events.filter fun event => event.streamId = stream).insertionSort eventOrder

/-- What the events say about the engagement and its tasks. -/
def replayEvents (events : List AuditEventRow) (tenantId engagementId : String) :
    Except OrchestrationError ReplayProjection :=
  (streams events).foldlM (fun projection stream => stream.foldlM applyEvent projection)
    { tenantId := tenantId, engagementId := engagementId }

/-- The audit events of an engagement (`AuditEventRepository.list`), in the
order in which they were appended. -/
def auditEvents (db : Database) (tenantId engagementId : String) : List AuditEventRow :=
  db.auditEvents.filter fun row => row.tenantId = tenantId ∧ row.engagementId = some engagementId

/-- The entry of `task_status_mismatches` for a task that both sides have. -/
def statusMismatch (replayed : ReplayProjection) (canonical : EngagementSnapshot)
    (taskId : String) : Option (String × TaskStatus × TaskStatus) :=
  match Table.get? ReplayTask.taskId taskId replayed.tasks,
      Table.get? TaskSnapshot.taskId taskId canonical.tasks with
  | some replayTask, some canonicalTask =>
    if replayTask.status ≠ canonicalTask.status then
      some (taskId, replayTask.status, canonicalTask.status)
    else none
  | _, _ => none

/-- Where the replayed projection and the canonical rows differ. -/
def compareProjection (replayed : ReplayProjection) (canonical : EngagementSnapshot) :
    ReplayComparison :=
  let replayIds := replayed.tasks.map (·.taskId)
  let canonicalIds := canonical.tasks.map (·.taskId)
  let mismatches := (WorkflowCompiler.sorted (replayIds.filter (· ∈ canonicalIds))).filterMap
    (statusMismatch replayed canonical)
  let missingInReplay := WorkflowCompiler.sorted (canonicalIds.filter (· ∉ replayIds))
  let missingInCanonical := WorkflowCompiler.sorted (replayIds.filter (· ∉ canonicalIds))
  { matched := replayed.engagementStatus = canonical.status ∧ mismatches.isEmpty
      ∧ missingInReplay.isEmpty ∧ missingInCanonical.isEmpty
    replayedEngagementStatus := replayed.engagementStatus
    canonicalEngagementStatus := canonical.status
    taskStatusMismatches := mismatches
    missingInReplay := missingInReplay
    missingInCanonical := missingInCanonical }

end Replay

def trackTask (task : Option ReplayTask) (row : AuditEventRow) : Option ReplayTask :=
  match row.payload, row.taskId with
  | .taskCreated taskKey _ status _ _, some taskId =>
    some { taskId := taskId, taskKey := taskKey, status := status }
  | .taskTransitioned _ _ toStatus _ attemptCount _, _ =>
    task.map fun t => { t with status := toStatus, attemptCount := attemptCount }
  | _, _ => task

def trackStatus (status : EngagementStatus) (row : AuditEventRow) : EngagementStatus :=
  match row.payload with
  | .engagementTransitioned _ toStatus _ _ => toStatus
  | _ => status

def EngagementTask.replayed (t : EngagementTask) : ReplayTask where
  taskId := t.taskId
  taskKey := t.taskKey
  status := t.status
  attemptCount := t.attemptCount

def taskHistory (events : List AuditEventRow) (taskId : String) : Option ReplayTask :=
  (events.filter fun row => row.taskId = some taskId).foldl trackTask none

def statusHistory (events : List AuditEventRow) (e : Engagement) : EngagementStatus :=
  (events.filter fun row => (row.tenantId = e.tenantId ∧ row.engagementId = some e.engagementId) ∧
    row.taskId = none).foldl trackStatus .planned

def Addressed (row : AuditEventRow) : Prop :=
  match row.payload with
  | .taskCreated .. | .taskTransitioned .. | .taskHeartbeat .. => row.taskId ≠ none
  | .workflowCompiled .. | .engagementTransitioned .. => row.taskId = none

def BelongsTo (tasks : List EngagementTask) (row : AuditEventRow) : Prop :=
  ∀ taskId, row.taskId = some taskId → ∃ t ∈ tasks, t.taskId = taskId ∧
    row.tenantId = t.tenantId ∧ row.engagementId = some t.engagementId

structure Ledger (events : List AuditEventRow) (tasks : List EngagementTask)
    (engagements : List Engagement) : Prop where
  numbered : events.Pairwise fun a b => a.tenantId = b.tenantId → a.streamId = b.streamId →
    a.sequenceNo < b.sequenceNo
  homed : ∀ row ∈ events, row.streamId = Database.streamId row.tenantId row.engagementId row.taskId
  addressed : ∀ row ∈ events, Addressed row
  owned : ∀ row ∈ events, BelongsTo tasks row
  tasks : ∀ t ∈ tasks, taskHistory events t.taskId = some t.replayed
  engagements : ∀ e ∈ engagements, statusHistory events e = e.status

/-- The event may be appended to the ledger. -/
structure Appendable (events : List AuditEventRow) (row : AuditEventRow) : Prop where
  homed : row.streamId = Database.streamId row.tenantId row.engagementId row.taskId
  later : ∀ r ∈ events, r.tenantId = row.tenantId → r.streamId = row.streamId →
    r.sequenceNo < row.sequenceNo

theorem le_foldr_max {l : List Nat} {n : Nat} (h : n ∈ l) : n ≤ l.foldr max 0 := by
  induction l with
  | nil => exact absurd h List.not_mem_nil
  | cons m l ih =>
    rw [List.foldr_cons]
    rcases List.mem_cons.mp h with rfl | h
    · exact le_max_left _ _
    · exact (ih h).trans (le_max_right _ _)

theorem record_appends (db : Database) (now : Timestamp) (tenantId : String)
    (engagementId taskId : Option String) (aggregateType : AggregateType) (aggregateId : String)
    (payload : Payload) :
    ∃ row, (db.record now tenantId engagementId taskId aggregateType aggregateId
        payload).auditEvents = db.auditEvents ++ [row] ∧ Appendable db.auditEvents row ∧
      row.tenantId = tenantId ∧ row.engagementId = engagementId ∧ row.taskId = taskId ∧
      row.payload = payload := by
  refine ⟨_, rfl, ⟨rfl, ?_⟩, rfl, rfl, rfl, rfl⟩
  intro r hr hten hstream
  refine Nat.lt_succ_of_le (le_foldr_max (List.mem_map_of_mem (List.mem_filter.mpr ⟨hr, ?_⟩)))
  exact decide_eq_true ⟨hten, hstream⟩

variable {row : AuditEventRow} {db : Database}

theorem Addressed.of_task {k : MoveKind} {t t' : EngagementTask} (h : Announces k t t' row.payload)
    {taskId : String} (hid : row.taskId = some taskId) :
    Addressed row := by
  unfold Addressed
  cases hp : row.payload with
  | taskHeartbeat | taskTransitioned => simp [hid]
  | _ =>
    rw [hp] at h
    exact h.elim

section Append

variable {events : List AuditEventRow} {tasks tasks' : List EngagementTask}
  {engagements engagements' : List Engagement} {row : AuditEventRow}

theorem taskHistory_append (taskId : String) :
    taskHistory (events ++ [row]) taskId = if row.taskId = some taskId
      then trackTask (taskHistory events taskId) row else taskHistory events taskId := by
  unfold taskHistory
  rw [EventLog.foldl_filter_concat]
  simp only [decide_eq_true_eq]

theorem statusHistory_append (e : Engagement) :
    statusHistory (events ++ [row]) e =
      if (row.tenantId = e.tenantId ∧ row.engagementId = some e.engagementId) ∧ row.taskId = none
      then trackStatus (statusHistory events e) row else statusHistory events e := by
  unfold statusHistory
  rw [EventLog.foldl_filter_concat]
  simp only [decide_eq_true_eq]

theorem Ledger.append (h : Ledger events tasks engagements) (hrow : Appendable events row)
    (haddressed : Addressed row) (hgrow : ∀ r ∈ events, BelongsTo tasks' r)
    (howned : BelongsTo tasks' row)
    (htasks : ∀ t ∈ tasks', taskHistory (events ++ [row]) t.taskId = some t.replayed)
    (hengagements : ∀ e ∈ engagements', statusHistory (events ++ [row]) e = e.status) :
    Ledger (events ++ [row]) tasks' engagements' where
  numbered := by
    rw [List.pairwise_append]
    refine ⟨h.numbered, List.pairwise_singleton _ _, fun r hr r' hr' => ?_⟩
    rw [List.mem_singleton.mp hr']
    exact hrow.later r hr
  homed := by
    intro r hr
    rcases List.mem_append.mp hr with hr | hr
    · exact h.homed r hr
    · rw [List.mem_singleton.mp hr]
      exact hrow.homed
  addressed := by
    intro r hr
    rcases List.mem_append.mp hr with hr | hr
    · exact h.addressed r hr
    · rw [List.mem_singleton.mp hr]
      exact haddressed
  owned := by
    intro r hr
    rcases List.mem_append.mp hr with hr | hr
    · exact hgrow r hr
    · rw [List.mem_singleton.mp hr]
      exact howned
  tasks := htasks
  engagements := hengagements

theorem Ledger.append_engagement (h : Ledger events tasks engagements)
    (hrow : Appendable events row) (haddressed : Addressed row) (hid : row.taskId = none)
    (hengagements : ∀ e ∈ engagements', statusHistory (events ++ [row]) e = e.status) :
    Ledger (events ++ [row]) tasks engagements' := by
  refine h.append hrow haddressed h.owned ?_ ?_ hengagements
  · intro taskId htask
    exact absurd (hid.symm.trans htask) (by simp)
  · intro t ht
    rw [taskHistory_append, if_neg (by simp [hid])]
    exact h.tasks t ht

end Append

def Recorded (db : Database) : Prop :=
  Ledger db.auditEvents db.tasks db.engagements

theorem BelongsTo.mono {tasks tasks' : List EngagementTask} (h : BelongsTo tasks row)
    (himage : ∀ t ∈ tasks, ∃ t' ∈ tasks', SameTask t t') :
    BelongsTo tasks' row := by
  intro taskId hid
  obtain ⟨t, ht, htid, hten, heng⟩ := h taskId hid
  obtain ⟨t', ht', hsame⟩ := himage t ht
  refine ⟨t', ht', hsame.taskId.trans htid, ?_, ?_⟩
  · rw [hten, hsame.tenantId]
  · rw [heng, hsame.engagementId]

section Moves

variable {now : Timestamp} {db db' : Database}
variable {k : MoveKind} {t t' : EngagementTask} {e e' : Engagement} {engagements : List Engagement}
  {rows : List EngagementTask}

theorem TaskMove.trackTask_eq {row : AuditEventRow} (h : TaskMove now k t t' db db')
    (hann : Announces k t t' row.payload) :
    trackTask (some t.replayed) row = some t'.replayed := by
  have hsame := h.same
  unfold trackTask
  cases hp : row.payload with
  | taskHeartbeat =>
    rw [hp] at hann
    have hk : k = .heartbeat := hann
    subst hk
    cases h.step with
    | heartbeat _ running become =>
      simp only [EngagementTask.replayed]
      rw [hsame.taskId, hsame.taskKey, become.status, become.attemptCount, running]
  | taskTransitioned taskKey fromStatus toStatus reason attemptCount extra =>
    rw [hp] at hann
    obtain ⟨-, -, hto, hcount, -⟩ := hann
    simp only [Option.map_some, EngagementTask.replayed]
    rw [hsame.taskId, hsame.taskKey, hto, hcount]
  | _ =>
    rw [hp] at hann
    exact hann.elim

theorem TaskMove.recorded (h : TaskMove now k t t' db db') (hwf : WellFormed db)
    (hrec : Recorded db) : Recorded db' := by
  have hsame := h.same
  obtain ⟨payload, hann, hev⟩ := h.event
  obtain ⟨row, hrow, happend, hten, heng, hid, rfl⟩ := record_appends db now t'.tenantId
    (some t'.engagementId) (some t'.taskId) .task t'.taskId payload
  unfold Recorded
  rw [hev, Database.recordTask, hrow, h.engagements]
  refine Ledger.append hrec happend (.of_task hann hid) ?_ ?_ ?_ ?_
  · intro r hr
    refine (hrec.owned r hr).mono fun u hu => ?_
    obtain ⟨u', hu', hsame', -⟩ := h.image hwf hu
    exact ⟨u', hu', hsame'⟩
  · intro taskId htask
    exact ⟨t', h.new_mem, Option.some_inj.mp (hid.symm.trans htask), hten, heng⟩
  · intro u' hu'
    rw [taskHistory_append, hid]
    obtain ⟨u, hu, -, ⟨rfl, hne⟩ | ⟨rfl, rfl⟩⟩ := h.preimage hwf hu'
    · -- the new event is in the stream of another task
      have hother : some t'.taskId ≠ some u'.taskId := fun heq =>
        hne (hwf.eq_of_taskId hu h.mem ((Option.some_inj.mp heq).symm.trans hsame.taskId))
      rw [if_neg hother]
      exact hrec.tasks u' hu
    · rw [if_pos rfl, hsame.taskId, hrec.tasks u hu]
      exact h.trackTask_eq hann
  · intro e he
    rw [statusHistory_append, if_neg (by simp [hid])]
    exact hrec.engagements e he

theorem statusHistory_congr (events : List AuditEventRow) (hten : e'.tenantId = e.tenantId)
    (hid : e'.engagementId = e.engagementId) :
    statusHistory events e' = statusHistory events e := by
  unfold statusHistory
  rw [hten, hid]

theorem EngagementMove.recorded (h : EngagementMove now e e' db db') (hwf : WellFormed db)
    (hrec : Recorded db) : Recorded db' := by
  have hcongr := statusHistory_congr db.auditEvents h.tenantId h.engagementId
  unfold Recorded
  rw [h.tasks]
  rcases h.event with ⟨hstatus, hev⟩ | ⟨reason, extra, hev⟩
  · -- the status stays, and no event is written
    rw [hev]
    refine { hrec with engagements := fun f hf => ?_ }
    rcases (h.mem_engagements hwf).mp hf with rfl | ⟨hf, -⟩
    · rw [hcongr, hrec.engagements e h.mem, hstatus]
    · exact hrec.engagements f hf
  · obtain ⟨row, hrow, happend, hten, heng, hid, hpayload⟩ := record_appends db now e.tenantId
      (some e.engagementId) none .engagement e.engagementId
      (.engagementTransitioned e.status e'.status reason extra)
    rw [hev, Database.recordEngagement, hrow]
    refine Ledger.append_engagement hrec happend ?_ hid ?_
    · unfold Addressed
      rw [hpayload]
      exact hid
    · intro f hf
      rw [statusHistory_append, hten, heng, hid]
      rcases (h.mem_engagements hwf).mp hf with rfl | ⟨hf, hne⟩
      · rw [if_pos ⟨⟨h.tenantId.symm, congrArg some h.engagementId.symm⟩, rfl⟩, trackStatus,
          hpayload]
      · rw [if_neg]
        · exact hrec.engagements f hf
        · rintro ⟨⟨-, hsome⟩, -⟩
          exact hne (hwf.eq_of_engagementId hf h.mem (Option.some_inj.mp hsome).symm)

theorem Ledger.created (now : Timestamp) {tasks : List EngagementTask}
    (h : Ledger db.auditEvents tasks engagements) (hfresh : ∀ u ∈ tasks, u.taskId ≠ t.taskId)
    (hcount : t.attemptCount = 0) :
    Ledger (Orchestrator.recordTaskCreated db now t).auditEvents (tasks ++ [t]) engagements := by
  obtain ⟨row, hrow, happend, hten, heng, hid, hpayload⟩ := record_appends db now t.tenantId
    (some t.engagementId) (some t.taskId) .task t.taskId
    (.taskCreated t.taskKey t.taskType t.status t.definitionVersion t.humanGate)
  have hevents : (Orchestrator.recordTaskCreated db now t).auditEvents = db.auditEvents ++ [row] :=
    hrow
  rw [hevents]
  refine h.append happend ?_ ?_ ?_ ?_ ?_
  · unfold Addressed
    rw [hpayload]
    simp [hid]
  · intro r hr
    exact (h.owned r hr).mono fun u hu => ⟨u, List.mem_append_left _ hu, .refl u⟩
  · intro taskId htask
    exact ⟨t, List.mem_append_right _ (List.mem_singleton.mpr rfl),
      Option.some_inj.mp (hid.symm.trans htask), hten, heng⟩
  · intro u hu
    rw [taskHistory_append, hid]
    rcases List.mem_append.mp hu with hu | hu
    · rw [if_neg fun heq => hfresh u hu (Option.some_inj.mp heq).symm]
      exact h.tasks u hu
    · rw [List.mem_singleton.mp hu, if_pos rfl, trackTask, hpayload, hid]
      simp [EngagementTask.replayed, hcount]
  · intro e he
    rw [statusHistory_append, if_neg (by simp [hid])]
    exact h.engagements e he

theorem Ledger.createdEach (now : Timestamp) :
    ∀ {db : Database} {tasks : List EngagementTask},
      Ledger db.auditEvents tasks engagements → (rows.map (·.taskId)).Nodup →
      (∀ t ∈ rows, ∀ u ∈ tasks, u.taskId ≠ t.taskId) → (∀ t ∈ rows, t.attemptCount = 0) →
      Ledger (rows.foldl (fun db t => Orchestrator.recordTaskCreated db now t) db).auditEvents
        (tasks ++ rows) engagements := by
  induction rows with
  | nil =>
    intro db tasks h _ _ _
    rw [List.append_nil]
    exact h
  | cons t rows ih =>
    intro db tasks h hnodup hfresh hcount
    rw [List.map_cons, List.nodup_cons] at hnodup
    have hfirst := h.created now (hfresh t List.mem_cons_self)
      (hcount t List.mem_cons_self)
    have hrest := ih hfirst hnodup.2 ?_ fun u hu => hcount u (List.mem_cons_of_mem _ hu)
    · rw [List.append_assoc] at hrest
      exact hrest
    · intro u hu v hv
      rcases List.mem_append.mp hv with hv | hv
      · exact hfresh u (List.mem_cons_of_mem _ hu) v hv
      · rw [List.mem_singleton.mp hv]
        exact fun heq => hnodup.1 (List.mem_map.mpr ⟨u, hu, heq.symm⟩)

theorem Compiled.recorded {tenantId engagementId : String} {deps : List TaskDependency}
    (h : Compiled now tenantId engagementId rows deps db db') (hrec : Recorded db) :
    Recorded db' := by
  have hcreated := Ledger.createdEach now hrec h.ids h.fresh fun t ht =>
    (h.new t ht).attemptCount
  obtain ⟨version, metadata, hev⟩ := h.event
  obtain ⟨row, hrow, happend, -, -, hid, hpayload⟩ := record_appends
    (rows.foldl (fun db t => Orchestrator.recordTaskCreated db now t) db) now tenantId
    (some engagementId) none .engagement engagementId
    (.workflowCompiled version rows.length metadata)
  unfold Recorded
  rw [hev, Database.recordEngagement, hrow, h.tasks, h.engagements]
  refine hcreated.append_engagement happend ?_ hid ?_
  · unfold Addressed
    rw [hpayload]
    exact hid
  · intro e he
    rw [statusHistory_append, trackStatus, hpayload, hcreated.engagements e he]
    exact ite_self _

end Moves

theorem Fresh.recorded (h : Fresh db) : Recorded db := by
  unfold Recorded
  rw [h.auditEvents, h.tasks]
  refine ⟨List.Pairwise.nil, ?_, ?_, ?_, ?_, fun e he => (h.planned e he).1.symm⟩
  all_goals
    intro x hx
    exact absurd hx List.not_mem_nil

/-- **The ledger tells the state** of every run. -/
theorem run_recorded (hfresh : Fresh db) (calls : List (Timestamp × Op)) :
    Recorded (run db calls) := by
  refine run_invariant_move_always ?_ ?_ hfresh.wellFormed hfresh.recorded calls
  · intro now tenantId engagementId rows deps db db' _ hrec hc
    exact hc.recorded hrec
  · intro now op db₀ db db' hwf hrec hmove
    cases hmove with
    | task _ move => exact move.recorded hwf hrec
    | engagement move => exact move.recorded hwf hrec

end Orchestration
