/-
What no later operation takes back.

In every run the ledger is only appended to, and its streams are numbered without a gap
(`run_ledger_appended`).  The rows stay with their identity: a task that has succeeded or was
skipped or cancelled keeps its status, and an attempt that has ended does not run again
(`run_rows_continued`).
-/
import AssuranceOS.Lib.History
import AssuranceOS.Orchestration.Ledger

namespace Orchestration

open History

/-- The events after a run that has found `base`. -/
structure Appended (base events : List AuditEventRow) : Prop where
  kept : base <+: events
  consecutive : Consecutive (fun row : AuditEventRow => (row.tenantId, row.streamId))
    AuditEventRow.sequenceNo events

section Ledger

variable {base : List AuditEventRow} {db db' : Database} {now : Timestamp}

theorem Appended.record (h : Appended base db.auditEvents) (now : Timestamp) (tenantId : String)
    (engagementId taskId : Option String) (aggregateType : AggregateType) (aggregateId : String)
    (payload : Payload) :
    Appended base (db.record now tenantId engagementId taskId aggregateType aggregateId
      payload).auditEvents := by
  refine ⟨h.kept.trans (List.prefix_append _ _), h.consecutive.concat ?_⟩
  simp [Database.nextSequence, numbers]

variable {rows : List EngagementTask}

theorem Appended.createdEach : ∀ {db : Database},
    Appended base db.auditEvents →
      Appended base (rows.foldl (fun db t => Orchestrator.recordTaskCreated db now t)
        db).auditEvents := by
  induction rows with
  | nil => exact fun h => h
  | cons t rows ih => exact fun h => ih (h.record now _ _ _ _ _ _)

theorem Appended.compiled {tenantId engagementId : String} {deps : List TaskDependency}
    (h : Appended base db.auditEvents) (hc : Compiled now tenantId engagementId rows deps db db') :
    Appended base db'.auditEvents := by
  obtain ⟨version, metadata, hev⟩ := hc.event
  rw [hev]
  exact h.createdEach.record now _ _ _ _ _ _

theorem Appended.move {allows : Database → MoveKind → EngagementTask → Prop}
    (h : Appended base db.auditEvents) (hmove : Move now allows db db') :
    Appended base db'.auditEvents := by
  cases hmove with
  | task _ move =>
    obtain ⟨payload, -, hev⟩ := move.event
    rw [hev]
    exact h.record now _ _ _ _ _ _
  | engagement move =>
    rcases move.event with ⟨-, hev⟩ | ⟨reason, extra, hev⟩
    · rw [hev]
      exact h
    · rw [hev]
      exact h.record now _ _ _ _ _ _

theorem Appended.run (h : Appended base db.auditEvents) (hwf : WellFormed db)
    (calls : List (Timestamp × Op)) : Appended base (run db calls).auditEvents := by
  refine run_invariant_move_always (I := fun db => Appended base db.auditEvents) ?_ ?_ hwf h calls
  · exact fun _ h hc => h.compiled hc
  · exact fun _ h hmove => h.move hmove

end Ledger

theorem run_append (db : Database) (earlier later : List (Timestamp × Op)) :
    run db (earlier ++ later) = run (run db earlier) later :=
  List.foldl_append

/-- **The ledger is only appended to**, and the events of every stream have the numbers 1, 2 and
so on, whatever the calls are. -/
theorem run_ledger_appended {db : Database} (hfresh : Fresh db)
    (earlier later : List (Timestamp × Op)) :
    Appended (run db earlier).auditEvents (run db (earlier ++ later)).auditEvents := by
  have hstart : Appended [] db.auditEvents := by
    rw [hfresh.auditEvents]
    exact ⟨List.nil_prefix, fun _ => ⟨0, rfl⟩⟩
  have hearlier := hstart.run hfresh.wellFormed earlier
  rw [run_append]
  exact Appended.run ⟨List.prefix_refl _, hearlier.consecutive⟩ (run_wellFormed hfresh.wellFormed)
    later

theorem run_ledger_appended_failed :
    Appended (run sampleDatabase sampleStart).auditEvents
      (run sampleDatabase (sampleStart ++ sampleFailed)).auditEvents :=
  run_ledger_appended sampleDatabase_fresh sampleStart sampleFailed

/-- `t'` is a later state of the row `t`. -/
structure EngagementTask.Later (t t' : EngagementTask) : Prop where
  same : SameTask t t'
  attemptCount : t.attemptCount ≤ t'.attemptCount
  settled : t.status = .succeeded ∨ t.status = .skipped ∨ t.status = .cancelled →
    t'.status = t.status

structure TaskAttempt.Later (a a' : TaskAttempt) : Prop where
  tenantId : a'.tenantId = a.tenantId
  number : a'.number = a.number
  workerId : a'.workerId = a.workerId
  ended : a'.status = .running → a.status = .running

structure Engagement.Later (e e' : Engagement) : Prop where
  engagementId : e'.engagementId = e.engagementId
  tenantId : e'.tenantId = e.tenantId
  cancelled : e.status = .cancelled → e'.status = .cancelled

/-- The rows go on in a later state, and the dependencies stay. -/
structure Continued (db db' : Database) : Prop where
  engagements : Continues Engagement.Later db.engagements db'.engagements
  tasks : Continues EngagementTask.Later db.tasks db'.tasks
  attempts : Continues TaskAttempt.Later db.attempts db'.attempts
  dependencies : db.dependencies <+: db'.dependencies

theorem EngagementTask.Later.refl (t : EngagementTask) : t.Later t :=
  ⟨.refl t, Nat.le_refl _, fun _ => rfl⟩

theorem EngagementTask.Later.trans {t u v : EngagementTask} (h : t.Later u) (h' : u.Later v) :
    t.Later v := by
  refine ⟨h.same.trans h'.same, h.attemptCount.trans h'.attemptCount, fun hs => ?_⟩
  have hu := h.settled hs
  rw [h'.settled (by rw [hu]; exact hs), hu]

theorem TaskAttempt.Later.refl (a : TaskAttempt) : a.Later a :=
  ⟨rfl, rfl, rfl, id⟩

theorem TaskAttempt.Later.trans {a b c : TaskAttempt} (h : a.Later b) (h' : b.Later c) :
    a.Later c :=
  ⟨h'.tenantId.trans h.tenantId, h'.number.trans h.number, h'.workerId.trans h.workerId,
    fun hc => h.ended (h'.ended hc)⟩

theorem Engagement.Later.refl (e : Engagement) : e.Later e := ⟨rfl, rfl, id⟩

theorem Engagement.Later.trans {e e' e'' : Engagement} (h : e.Later e') (h' : e'.Later e'') :
    e.Later e'' :=
  ⟨h'.engagementId.trans h.engagementId, h'.tenantId.trans h.tenantId,
    fun hc => h'.cancelled (h.cancelled hc)⟩

theorem Continued.refl (db : Database) : Continued db db :=
  ⟨.refl .refl _, .refl .refl _, .refl .refl _, List.prefix_refl _⟩

theorem Continued.trans {db db' db'' : Database} (h : Continued db db') (h' : Continued db' db'') :
    Continued db db'' :=
  ⟨h.engagements.trans .trans h'.engagements, h.tasks.trans .trans h'.tasks,
    h.attempts.trans .trans h'.attempts, h.dependencies.trans h'.dependencies⟩

section Rows

variable {now : Timestamp} {db db' : Database} {t t' : EngagementTask} {k : MoveKind}

theorem TaskStep.not_cancelled (h : TaskStep now db t t' k) : t.status ≠ .cancelled := by
  intro hs
  cases h with
  | overdue active | cancel active => simp [hs, TaskStatus.isTerminal] at active
  | forceRetry stopped => simp [hs] at stopped
  | forceSkip open_ => exact open_ (Or.inr (Or.inr hs))
  | block held | lapse held | wait held | release held | complete held | submit held | retry held
  | fail held | promote held | approve held | accept held | reject held => simp [hs] at held
  | claim _ _ held | heartbeat _ held => simp [hs] at held

theorem TaskStep.later (h : TaskStep now db t t' k) : t.Later t' := by
  refine ⟨h.same, ?_, ?_⟩
  · cases h <;> rename_i become <;> simp [become.attemptCount]
  · rintro (hs | hs | hs)
    · exact absurd hs h.not_done.1
    · exact absurd hs h.not_done.2
    · exact absurd hs h.not_cancelled

theorem AttemptChange.continues {before after : List TaskAttempt}
    (h : AttemptChange k t t' before after) : Continues TaskAttempt.Later before after := by
  unfold AttemptChange at h
  split at h
  · obtain ⟨a, rfl, -⟩ := h
    exact continues_append .refl _ _
  · obtain ⟨f, rfl, hrows⟩ := h
    intro a ha
    obtain ⟨hten, hno, hworker, hrunning, -⟩ := hrows a ha
    exact ⟨f a, List.mem_map_of_mem ha, hten, hno, hworker, fun hr => (hrunning.mp hr).1⟩

theorem EngagementMove.later {e e' : Engagement} (h : EngagementMove now e e' db db') :
    e.Later e' := by
  refine ⟨h.engagementId, h.tenantId, fun hc => ?_⟩
  cases h.step with
  | start planned =>
    rw [hc] at planned
    cases planned
  | settle settle => exact absurd hc settle.live
  | cancel _ _ status => exact status
  | reopen status => exact status.trans hc

theorem Move.continued {allows : Database → MoveKind → EngagementTask → Prop}
    (hmove : Move now allows db db') (hwf : WellFormed db) : Continued db db' := by
  cases hmove with
  | task _ move =>
    refine ⟨?_, ?_, move.attempts.continues, by rw [move.dependencies]⟩
    · rw [move.engagements]
      exact .refl .refl _
    · rw [move.tasks]
      exact continues_put .refl hwf.taskKeys move.mem move.same.taskId move.step.later
  | engagement move =>
    refine ⟨?_, ?_, ?_, by rw [move.dependencies]⟩
    · rw [move.engagements]
      exact continues_put .refl hwf.engagementKeys move.mem move.engagementId move.later
    · rw [move.tasks]
      exact .refl .refl _
    · rw [move.attempts]
      exact .refl .refl _

theorem Compiled.continued {tenantId engagementId : String} {rows : List EngagementTask}
    {deps : List TaskDependency} (h : Compiled now tenantId engagementId rows deps db db') :
    Continued db db' := by
  refine ⟨?_, ?_, ?_, ?_⟩
  · rw [h.engagements]
    exact .refl .refl _
  · rw [h.tasks]
    exact continues_append .refl _ _
  · rw [h.attempts]
    exact .refl .refl _
  · rw [h.dependencies]
    exact List.prefix_append _ _

theorem step_continued (hwf : WellFormed db) (call : Timestamp × Op) :
    Continued db (step db call) := by
  rcases step_cases hwf call with ⟨tenantId, engagementId, rows, deps, hc⟩ | hpath
  · exact hc.continued
  · have hinv := Runs.path_invariant (I := fun db' => WellFormed db' ∧ Continued db db')
      (fun _ _ hmove h => ⟨hmove.wellFormed h.1, h.2.trans (hmove.continued h.1)⟩) hpath
      ⟨hwf, .refl db⟩
    exact hinv.2

end Rows

/-- **The rows go on** in every run: none is lost, what has succeeded or was skipped or cancelled
keeps its status, and what has ended does not run again. -/
theorem run_rows_continued {db : Database} (hfresh : Fresh db)
    (earlier later : List (Timestamp × Op)) :
    Continued (run db earlier) (run db (earlier ++ later)) := by
  rw [run_append]
  exact @run_continues _ _ step WellFormed Continued .refl .trans
    (fun _ call hwf => step_wellFormed hwf call) (fun _ call hwf => step_continued hwf call)
    (run db earlier) (run_wellFormed hfresh.wellFormed) later

theorem run_rows_continued_failed :
    Continued (run sampleDatabase sampleStart)
      (run sampleDatabase (sampleStart ++ sampleFailed)) :=
  run_rows_continued sampleDatabase_fresh sampleStart sampleFailed

end Orchestration
