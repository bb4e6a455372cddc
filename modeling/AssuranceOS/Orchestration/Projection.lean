/-
The replay rebuilds the canonical state.

`replay_events` collects the events by stream, sorts each stream and folds it
into the projection.  An event changes the entry of its own task or the status
of the engagement only, so by the rules of `Lib/EventLog.lean` the result does
not depend on the order in which the events come: every entry is what the
events of the task, in ledger order, lead to, which is its row (`Ledger`).
-/
import AssuranceOS.Orchestration.Ledger

namespace Orchestration

namespace Replay

section Events

variable {projection : ReplayProjection} {row : AuditEventRow}

theorem get?_setTask (tasks : List ReplayTask) (task : ReplayTask) (taskId : String) :
    Table.get? ReplayTask.taskId taskId (setTask tasks task) =
      if task.taskId = taskId then some task else Table.get? ReplayTask.taskId taskId tasks := by
  unfold setTask
  split
  · rename_i hany
    obtain ⟨t, ht, hid⟩ := List.any_eq_true.mp hany
    have hid : t.taskId = task.taskId := of_decide_eq_true hid
    by_cases h : task.taskId = taskId
    · rw [if_pos h, ← h]
      exact Table.get?_put_self ht hid.symm
    · rw [if_neg h]
      exact Table.get?_put_of_ne h
  · rename_i hnone
    have hnew : ∀ t ∈ tasks, t.taskId ≠ task.taskId := by
      intro t ht hid
      exact hnone (List.any_eq_true.mpr ⟨t, ht, decide_eq_true hid⟩)
    unfold Table.get?
    rw [List.find?_append]
    by_cases h : task.taskId = taskId
    · have hfirst : (tasks.find? fun t => t.taskId = taskId) = none := by
        rw [List.find?_eq_none]
        intro t ht
        rw [← h]
        simpa using hnew t ht
      simp [h, hfirst]
    · simp [h]

theorem nodup_setTask {tasks : List ReplayTask} (task : ReplayTask)
    (h : (tasks.map (·.taskId)).Nodup) : ((setTask tasks task).map (·.taskId)).Nodup := by
  unfold setTask
  split
  · have hkeys : (Table.put ReplayTask.taskId task tasks).map (·.taskId) = tasks.map (·.taskId) :=
      Table.map_put_key task tasks
    rw [hkeys]
    exact h
  · rename_i hnone
    rw [List.map_append, List.map_singleton, List.nodup_append]
    refine ⟨h, List.nodup_singleton _, fun id hid id' hid' heq => ?_⟩
    obtain ⟨t, ht, rfl⟩ := List.mem_map.mp hid
    refine hnone (List.any_eq_true.mpr ⟨t, ht, decide_eq_true ?_⟩)
    rw [heq, List.mem_singleton.mp hid']

def advance (projection : ReplayProjection) (row : AuditEventRow) : ReplayProjection :=
  (applyEvent projection row).toOption.getD projection

theorem applyEvent_eq_ok (h : Addressed row) :
    applyEvent projection row = .ok (advance projection row) := by
  -- only a creation asserts that its event names a task
  have hok : ∃ p, applyEvent projection row = .ok p := by
    unfold applyEvent
    unfold Addressed at h
    cases hp : row.payload with
    | taskCreated =>
      rw [hp] at h
      cases hid : row.taskId with
      | none => exact absurd hid h
      | some taskId => exact ⟨_, rfl⟩
    | taskTransitioned =>
      cases hid : row.taskId with
      | none => exact ⟨_, rfl⟩
      | some taskId =>
        cases hget : Table.get? ReplayTask.taskId taskId projection.tasks with
        | none => exact ⟨projection, by simp [hget]⟩
        | some task => exact ⟨_, by simp only [hget]; rfl⟩
    | _ => exact ⟨_, rfl⟩
  obtain ⟨p, hp⟩ := hok
  rw [advance, hp]
  rfl

theorem get?_advance (h : Addressed row) (taskId : String) :
    Table.get? ReplayTask.taskId taskId (advance projection row).tasks =
      if row.taskId = some taskId
      then trackTask (Table.get? ReplayTask.taskId taskId projection.tasks) row
      else Table.get? ReplayTask.taskId taskId projection.tasks := by
  unfold advance applyEvent trackTask
  unfold Addressed at h
  cases hp : row.payload with
  | taskCreated taskKey taskType status version gate =>
    rw [hp] at h
    cases hid : row.taskId with
    | none => exact absurd hid h
    | some id =>
      show Table.get? ReplayTask.taskId taskId (setTask projection.tasks _) = _
      rw [get?_setTask]
      by_cases heq : id = taskId
      · simp [heq]
      · simp [heq]
  | taskTransitioned taskKey fromStatus toStatus reason attemptCount extra =>
    cases hid : row.taskId with
    | none => simp [Except.toOption]
    | some id =>
      cases hget : Table.get? ReplayTask.taskId id projection.tasks with
      | none =>
        by_cases heq : id = taskId
        · subst heq
          simp [Except.toOption, hget]
        · simp [Except.toOption, hget, heq]
      | some task =>
        have hkey : task.taskId = id := Table.key_of_get? hget
        simp only [hget]
        show Table.get? ReplayTask.taskId taskId (setTask projection.tasks _) = _
        rw [get?_setTask]
        by_cases heq : id = taskId
        · subst heq
          simp [hkey, hget]
        · simp [hkey, heq]
  | _ => simp [Except.toOption]

theorem engagementStatus_advance (h : Addressed row) :
    (advance projection row).engagementStatus =
      if row.taskId = none then trackStatus projection.engagementStatus row
      else projection.engagementStatus := by
  unfold advance applyEvent trackStatus
  unfold Addressed at h
  cases hp : row.payload with
  | taskCreated =>
    rw [hp] at h
    cases hid : row.taskId with
    | none => exact absurd hid h
    | some id => rfl
  | taskTransitioned =>
    cases hid : row.taskId with
    | none => rfl
    | some id =>
      cases hget : Table.get? ReplayTask.taskId id projection.tasks <;>
        simp [Except.toOption, hget]
  | engagementTransitioned =>
    rw [hp] at h
    have hid : row.taskId = none := h
    rw [if_pos hid]
    rfl
  | _ => simp [Except.toOption]

theorem nodup_advance (h : (projection.tasks.map (·.taskId)).Nodup) :
    ((advance projection row).tasks.map (·.taskId)).Nodup := by
  unfold advance applyEvent
  cases row.payload with
  | taskCreated =>
    cases row.taskId with
    | none => exact h
    | some id => exact nodup_setTask _ h
  | taskTransitioned =>
    cases row.taskId with
    | none => exact h
    | some id =>
      cases hget : Table.get? ReplayTask.taskId id projection.tasks with
      | none => simpa [Except.toOption, hget] using h
      | some task =>
        simp only [hget]
        exact nodup_setTask _ h
  | _ => exact h

end Events

theorem replay_eq_foldl {streams : List (List AuditEventRow)}
    (h : ∀ stream ∈ streams, ∀ row ∈ stream, Addressed row) (projection : ReplayProjection) :
    streams.foldlM (fun projection stream => stream.foldlM applyEvent projection) projection
      = .ok (streams.flatten.foldl advance projection) := by
  have hstream : ∀ (stream : List AuditEventRow) (projection : ReplayProjection),
      (∀ row ∈ stream, Addressed row) →
      stream.foldlM applyEvent projection = .ok (stream.foldl advance projection) := by
    intro stream
    induction stream with
    | nil => exact fun _ _ => rfl
    | cons row stream ih =>
      intro projection hrows
      rw [List.foldlM_cons, applyEvent_eq_ok (hrows row List.mem_cons_self)]
      exact ih _ fun r hr => hrows r (List.mem_cons_of_mem _ hr)
  induction streams generalizing projection with
  | nil => rfl
  | cons stream streams ih =>
    rw [List.foldlM_cons, hstream stream projection (h stream List.mem_cons_self)]
    rw [List.flatten_cons, List.foldl_append]
    exact ih (fun s hs => h s (List.mem_cons_of_mem _ hs)) _

theorem nodup_foldl (events : List AuditEventRow) {projection : ReplayProjection}
    (h : (projection.tasks.map (·.taskId)).Nodup) :
    ((events.foldl advance projection).tasks.map (·.taskId)).Nodup := by
  induction events generalizing projection with
  | nil => exact h
  | cons row events ih => exact ih (nodup_advance h)

/-! ### The ledger of one engagement -/

instance : Std.Total eventOrder := ⟨fun _ _ => le_total _ _⟩

instance : IsTrans AuditEventRow eventOrder := ⟨fun _ _ _ => le_trans⟩

theorem eventOrder_of_lt {a b : AuditEventRow} (h : a.sequenceNo < b.sequenceNo) :
    eventOrder a b ∧ ¬ eventOrder b a := by
  have hlt : toLex (a.sequenceNo, a.eventId) < toLex (b.sequenceNo, b.eventId) :=
    Prod.Lex.toLex_lt_toLex.mpr (Or.inl h)
  exact ⟨hlt.le, not_le_of_gt hlt⟩

section Engagement

variable {db : Database} {e : Engagement} {order : List AuditEventRow} (hrec : Recorded db)
  (hperm : order.Perm (auditEvents db e.tenantId e.engagementId))
include hrec

variable {row : AuditEventRow}

omit hrec in
theorem mem_auditEvents {tenantId engagementId : String} :
    row ∈ auditEvents db tenantId engagementId ↔
      row ∈ db.auditEvents ∧ row.tenantId = tenantId ∧ row.engagementId = some engagementId := by
  unfold auditEvents
  rw [List.mem_filter, decide_eq_true_eq]

include hperm in
/-- The replay sees the events of every task, and those of the engagement, in
the order of the ledger. -/
theorem filter_streams (taskId : Option String) :
    (streams order).flatten.filter (fun row => row.taskId = taskId)
      = (auditEvents db e.tenantId e.engagementId).filter fun row => row.taskId = taskId := by
  -- within one tenant, the numbers of a stream increase
  have hstrict : (auditEvents db e.tenantId e.engagementId).Pairwise fun a b =>
      a.streamId = b.streamId → eventOrder a b ∧ ¬ eventOrder b a := by
    have hten : (auditEvents db e.tenantId e.engagementId).Pairwise fun a b =>
        a.streamId = b.streamId → a.sequenceNo < b.sequenceNo := by
      unfold auditEvents
      rw [List.pairwise_filter]
      refine hrec.numbered.imp fun {a b} hab ha hb => hab ?_
      rw [(of_decide_eq_true ha).1, (of_decide_eq_true hb).1]
    exact hten.imp fun hab hstream => eventOrder_of_lt (hab hstream)
  have hhome : ∀ row ∈ auditEvents db e.tenantId e.engagementId,
      row.streamId = Database.streamId e.tenantId (some e.engagementId) row.taskId := by
    intro row hrow
    obtain ⟨hmem, hten, heng⟩ := mem_auditEvents.mp hrow
    rw [hrec.homed row hmem, hten, heng]
  exact EventLog.filter_flatten_streams hperm hstrict hhome taskId

theorem filter_auditEvents (hwf : WellFormed db) (he : e ∈ db.engagements) {t : EngagementTask}
    (ht : t ∈ db.tasks) :
    (auditEvents db e.tenantId e.engagementId).filter (fun row => row.taskId = some t.taskId)
      = if t.engagementId = e.engagementId
        then db.auditEvents.filter fun row => row.taskId = some t.taskId else [] := by
  -- the events of `t` name its tenant and its engagement
  have hown : ∀ row ∈ db.auditEvents, row.taskId = some t.taskId →
      row.tenantId = t.tenantId ∧ row.engagementId = some t.engagementId := by
    intro row hrow hid
    obtain ⟨u, hu, huid, hten, heng⟩ := hrec.owned row hrow _ hid
    rw [hwf.eq_of_taskId hu ht huid] at hten heng
    exact ⟨hten, heng⟩
  unfold auditEvents
  rw [List.filter_filter]
  by_cases hE : t.engagementId = e.engagementId
  · rw [if_pos hE]
    refine List.filter_congr fun row hrow => ?_
    by_cases hid : row.taskId = some t.taskId
    · obtain ⟨hten, heng⟩ := hown row hrow hid
      simp [hid, hten, heng, hE, hwf.tenant_eq he ht hE]
    · simp [hid]
  · rw [if_neg hE, List.filter_eq_nil_iff]
    intro row hrow hc
    simp only [Bool.and_eq_true, decide_eq_true_eq] at hc
    refine hE (Option.some_inj.mp ?_)
    rw [← (hown row hrow hc.1).2]
    exact hc.2.2

include hperm in
theorem addressed_of_mem {stream : List AuditEventRow} (hstream : stream ∈ streams order)
    (hrow : row ∈ stream) : Addressed row := by
  obtain ⟨s, -, rfl⟩ := List.mem_map.mp hstream
  rw [List.mem_insertionSort, List.mem_filter] at hrow
  exact hrec.addressed row (mem_auditEvents.mp (hperm.mem_iff.mp hrow.1)).1

include hperm in
theorem replayEvents_eq :
    replayEvents order e.tenantId e.engagementId = .ok ((streams order).flatten.foldl advance
      { tenantId := e.tenantId, engagementId := e.engagementId }) :=
  replay_eq_foldl (fun _ hstream _ hrow => addressed_of_mem hrec hperm hstream hrow) _

include hperm in
theorem addressed_flatten (hrow : row ∈ (streams order).flatten) :
    Addressed row := by
  obtain ⟨stream, hstream, hrow⟩ := List.mem_flatten.mp hrow
  exact addressed_of_mem hrec hperm hstream hrow

include hperm in
theorem engagementStatus_replay (he : e ∈ db.engagements) :
    ((streams order).flatten.foldl advance
      { tenantId := e.tenantId, engagementId := e.engagementId }).engagementStatus = e.status := by
  have hhistory : ((auditEvents db e.tenantId e.engagementId).filter fun row =>
      row.taskId = none).foldl trackStatus .planned = statusHistory db.auditEvents e := by
    unfold auditEvents statusHistory
    rw [List.filter_filter]
    congr 1
    refine List.filter_congr fun row _ => ?_
    rw [Bool.and_comm]
    exact (Bool.decide_and _ _).symm
  have hread := EventLog.observe_foldl ReplayProjection.engagementStatus (streams order).flatten
    (fun row hrow _ => engagementStatus_advance (addressed_flatten hrec hperm hrow))
    { tenantId := e.tenantId, engagementId := e.engagementId }
  rw [hread, filter_streams hrec hperm]
  exact hhistory.trans (hrec.engagements e he)

include hperm in
theorem get?_replay (hwf : WellFormed db) (he : e ∈ db.engagements) (taskId : String)
    (task : ReplayTask) :
    Table.get? ReplayTask.taskId taskId ((streams order).flatten.foldl advance
      { tenantId := e.tenantId, engagementId := e.engagementId }).tasks = some task ↔
    ∃ t ∈ db.tasks, t.engagementId = e.engagementId ∧ t.taskId = taskId ∧ t.replayed = task := by
  have hread : Table.get? ReplayTask.taskId taskId ((streams order).flatten.foldl advance
      { tenantId := e.tenantId, engagementId := e.engagementId }).tasks =
      ((auditEvents db e.tenantId e.engagementId).filter fun row =>
        row.taskId = some taskId).foldl trackTask none := by
    rw [← filter_streams hrec hperm]
    exact EventLog.observe_foldl
      (fun p : ReplayProjection => Table.get? ReplayTask.taskId taskId p.tasks) _
      (fun row hrow _ => get?_advance (addressed_flatten hrec hperm hrow) taskId) _
  rw [hread]
  by_cases hex : ∃ t ∈ db.tasks, t.taskId = taskId
  · obtain ⟨t, ht, rfl⟩ := hex
    rw [filter_auditEvents hrec hwf he ht]
    constructor
    · intro h
      by_cases hE : t.engagementId = e.engagementId
      · rw [if_pos hE] at h
        refine ⟨t, ht, hE, rfl, Option.some_inj.mp ?_⟩
        rw [← hrec.tasks t ht]
        exact h
      · rw [if_neg hE] at h
        exact absurd h (by simp)
    · rintro ⟨u, hu, hE, hid, rfl⟩
      obtain rfl := hwf.eq_of_taskId hu ht hid
      rw [if_pos hE]
      exact hrec.tasks u hu
  · -- every event with a task id belongs to a task of the table
    have hnone : (auditEvents db e.tenantId e.engagementId).filter
        (fun row => row.taskId = some taskId) = [] := by
      rw [List.filter_eq_nil_iff]
      intro row hrow hid
      obtain ⟨t, ht, htid, -⟩ :=
        hrec.owned row (mem_auditEvents.mp hrow).1 taskId (of_decide_eq_true hid)
      exact hex ⟨t, ht, htid⟩
    rw [hnone]
    constructor
    · intro h
      exact absurd h (by simp)
    · rintro ⟨t, ht, -, hid, -⟩
      exact absurd ⟨t, ht, hid⟩ hex

end Engagement

section Comparison

variable {replayed : ReplayProjection} {canonical : EngagementSnapshot}

theorem statusMismatch_eq_none (hnodup : (canonical.tasks.map (·.taskId)).Nodup)
    (htasks : (replayed.tasks.map fun r => (r.taskId, r.status)).Perm
      (canonical.tasks.map fun t => (t.taskId, t.status))) (taskId : String) :
    statusMismatch replayed canonical taskId = none := by
  unfold statusMismatch
  split
  · rename_i r c hr hc
    have hmem := htasks.mem_iff.mp (List.mem_map_of_mem (Table.mem_of_get? hr))
    obtain ⟨c', hc', heq⟩ := List.mem_map.mp hmem
    obtain ⟨hid, hs⟩ := Prod.mk.inj heq
    have hcc : c' = c := by
      refine Table.eq_of_key_eq hnodup hc' (Table.mem_of_get? hc) ?_
      rw [hid, Table.key_of_get? hr, Table.key_of_get? hc]
    rw [hcc] at hs
    simp [hs]
  · rfl

theorem compareProjection_eq (hstatus : replayed.engagementStatus = canonical.status)
    (hnodup : (canonical.tasks.map (·.taskId)).Nodup)
    (htasks : (replayed.tasks.map fun r => (r.taskId, r.status)).Perm
      (canonical.tasks.map fun t => (t.taskId, t.status))) :
    compareProjection replayed canonical =
      { matched := true
        replayedEngagementStatus := canonical.status
        canonicalEngagementStatus := canonical.status
        taskStatusMismatches := []
        missingInReplay := []
        missingInCanonical := [] } := by
  have hids : ∀ id, id ∈ replayed.tasks.map (·.taskId) ↔ id ∈ canonical.tasks.map (·.taskId) := by
    intro id
    have hfst := (htasks.map Prod.fst).mem_iff (a := id)
    rw [List.map_map, List.map_map] at hfst
    exact hfst
  have hmismatches : ∀ ids : List String,
      ids.filterMap (statusMismatch replayed canonical) = [] := by
    intro ids
    rw [List.filterMap_eq_nil_iff]
    intro id _
    exact statusMismatch_eq_none hnodup htasks id
  have hreplay : (canonical.tasks.map (·.taskId)).filter
      (· ∉ replayed.tasks.map (·.taskId)) = [] := by
    rw [List.filter_eq_nil_iff]
    intro id hid hnot
    exact of_decide_eq_true hnot ((hids id).mpr hid)
  have hcanonical : (replayed.tasks.map (·.taskId)).filter
      (· ∉ canonical.tasks.map (·.taskId)) = [] := by
    rw [List.filter_eq_nil_iff]
    intro id hid hnot
    exact of_decide_eq_true hnot ((hids id).mp hid)
  unfold compareProjection
  simp only [hmismatches, hreplay, hcanonical, hstatus]
  simp [WorkflowCompiler.sorted]

end Comparison

end Replay

section Recorded

variable {db : Database} {e : Engagement} (hwf : WellFormed db) (he : e ∈ db.engagements)
include hwf

theorem nodup_listTasks (tenantId engagementId : String) :
    ((db.listTasks tenantId engagementId).map (·.taskId)).Nodup := by
  unfold Database.listTasks
  refine ((List.perm_insertionSort _ _).map _).nodup_iff.mpr ?_
  exact hwf.taskKeys.sublist (List.filter_sublist.map _)

include he

theorem snapshot_eq :
    Orchestrator.snapshot db e.tenantId e.engagementId = .ok
      { tenantId := e.tenantId, engagementId := e.engagementId, status := e.status,
        tasks := (db.listTasks e.tenantId e.engagementId).map Orchestrator.taskSnapshot } := by
  have hget : db.getEngagement e.tenantId e.engagementId = some e := by
    unfold Database.getEngagement
    rcases hfind : db.engagements.find? _ with _ | f
    · have hnone := List.find?_eq_none.mp hfind e he
      simp at hnone
    · have hprop := List.find?_some hfind
      simp only [decide_eq_true_eq] at hprop
      rw [hwf.eq_of_engagementId (List.mem_of_find?_eq_some hfind) he hprop.2]
  unfold Orchestrator.snapshot Orchestrator.requireEngagement
  rw [hget]
  rfl

variable {order : List AuditEventRow} (hrec : Recorded db)
  (hperm : order.Perm (Replay.auditEvents db e.tenantId e.engagementId))
include hrec hperm

theorem Recorded.replay :
    ∃ replayed, Replay.replayEvents order e.tenantId e.engagementId = .ok replayed ∧
      replayed.engagementStatus = e.status ∧
      replayed.tasks.Perm ((db.listTasks e.tenantId e.engagementId).map
        EngagementTask.replayed) := by
  refine ⟨_, Replay.replayEvents_eq hrec hperm, Replay.engagementStatus_replay hrec hperm he, ?_⟩
  have hnodup : (((Replay.streams order).flatten.foldl Replay.advance
      { tenantId := e.tenantId, engagementId := e.engagementId }).tasks.map (·.taskId)).Nodup :=
    Replay.nodup_foldl _ List.nodup_nil
  have hrows : ((db.listTasks e.tenantId e.engagementId).map EngagementTask.replayed).Nodup := by
    refine List.Nodup.of_map ReplayTask.taskId ?_
    rw [List.map_map]
    exact nodup_listTasks hwf e.tenantId e.engagementId
  -- neither side has duplicates, so it is enough to compare the members
  rw [List.perm_ext_iff_of_nodup (List.Nodup.of_map _ hnodup) hrows]
  intro r
  have hentry := Replay.get?_replay hrec hperm hwf he r.taskId r
  rw [Table.get?_eq_some hnodup] at hentry
  rw [List.mem_map]
  constructor
  · intro hr
    obtain ⟨t, ht, hE, -, htr⟩ := hentry.mp ⟨hr, rfl⟩
    exact ⟨t, (hwf.mem_listTasks he).mpr ⟨ht, hE⟩, htr⟩
  · rintro ⟨t, ht, rfl⟩
    obtain ⟨ht, hE⟩ := (hwf.mem_listTasks he).mp ht
    exact (hentry.mpr ⟨t, ht, hE, rfl, rfl⟩).1

omit hrec hperm in
theorem compareProjection_snapshot {replayed : ReplayProjection}
    (hstatus : replayed.engagementStatus = e.status)
    (htasks : replayed.tasks.Perm ((db.listTasks e.tenantId e.engagementId).map
      EngagementTask.replayed)) :
    ∃ canonical, Orchestrator.snapshot db e.tenantId e.engagementId = .ok canonical ∧
      Replay.compareProjection replayed canonical =
        { matched := true
          replayedEngagementStatus := e.status
          canonicalEngagementStatus := e.status
          taskStatusMismatches := []
          missingInReplay := []
          missingInCanonical := [] } := by
  refine ⟨_, snapshot_eq hwf he, Replay.compareProjection_eq hstatus ?_ ?_⟩
  · rw [List.map_map]
    exact nodup_listTasks hwf e.tenantId e.engagementId
  · have hpairs := htasks.map fun r => (r.taskId, r.status)
    rw [List.map_map] at hpairs ⊢
    exact hpairs

end Recorded

/-- **Replay rebuilds the canonical state.**  After every run, replaying the
audit events of an engagement, given in any order, yields the canonical status
of the engagement and the canonical statuses and attempt counts of its tasks,
and the comparison with the snapshot reports nothing. -/
theorem run_replay_matches {db : Database} (hfresh : Fresh db) (calls : List (Timestamp × Op))
    {e : Engagement} (he : e ∈ (run db calls).engagements) {order : List AuditEventRow}
    (hperm : order.Perm (Replay.auditEvents (run db calls) e.tenantId e.engagementId)) :
    ∃ replayed canonical,
      Replay.replayEvents order e.tenantId e.engagementId = .ok replayed ∧
      Orchestrator.snapshot (run db calls) e.tenantId e.engagementId = .ok canonical ∧
      replayed.engagementStatus = e.status ∧
      (replayed.tasks.map fun r => (r.taskId, r.status, r.attemptCount)).Perm
        (((run db calls).listTasks e.tenantId e.engagementId).map fun t =>
          (t.taskId, t.status, t.attemptCount)) ∧
      Replay.compareProjection replayed canonical =
        { matched := true
          replayedEngagementStatus := e.status
          canonicalEngagementStatus := e.status
          taskStatusMismatches := []
          missingInReplay := []
          missingInCanonical := [] } := by
  have hwf : WellFormed (run db calls) := run_wellFormed hfresh.wellFormed
  obtain ⟨replayed, hreplay, hstatus, htasks⟩ :=
    (run_recorded hfresh calls).replay hwf he hperm
  obtain ⟨canonical, hsnapshot, hcompare⟩ := compareProjection_snapshot hwf he hstatus htasks
  refine ⟨replayed, canonical, hreplay, hsnapshot, hstatus, ?_, hcompare⟩
  have htriples := htasks.map fun r => (r.taskId, r.status, r.attemptCount)
  rw [List.map_map] at htriples
  exact htriples

/-- The events of a failed engagement, read backwards. -/
theorem run_replay_matches_reversed :
    ∃ e ∈ (run sampleDatabase sampleFailed).engagements, e.status = .failed ∧
      ∃ replayed, Replay.replayEvents (Replay.auditEvents (run sampleDatabase sampleFailed)
        e.tenantId e.engagementId).reverse e.tenantId e.engagementId = .ok replayed ∧
        replayed.engagementStatus = .failed := by
  obtain ⟨e, he, hfailed⟩ : ∃ e ∈ (run sampleDatabase sampleFailed).engagements,
      e.status = .failed := by decide +kernel
  obtain ⟨replayed, -, hreplay, -, hstatus, -⟩ :=
    run_replay_matches sampleDatabase_fresh _ he (List.reverse_perm _)
  exact ⟨e, he, hfailed, replayed, hreplay, hstatus.trans hfailed⟩

end Orchestration
