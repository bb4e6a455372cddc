/-
When an engagement is completed.

`completed_at` and the status are written by different branches of the service,
and only `force_retry_task` ever clears `completed_at`.  They agree as long as
an engagement does not leave `failed` by a forced skip, and as long as nothing
is retried in a cancelled engagement (`StampKept`); the other calls cannot take
an engagement out of a final status, because its tasks are then at rest
(`Synced`).
-/
import AssuranceOS.Orchestration.Skips

namespace Orchestration

/-- The statuses in which `completed_at` is set. -/
def EngagementStatus.isFinal (s : EngagementStatus) : Prop :=
  s = .completed ∨ s = .failed ∨ s = .cancelled

instance (s : EngagementStatus) : Decidable s.isFinal :=
  inferInstanceAs (Decidable (_ ∨ _))

/-- `completed_at` is set exactly when the status is final. -/
def Stamped (e : Engagement) : Prop :=
  e.completedAt.isSome ↔ e.status.isFinal

theorem stamped_framed : Framed fun _ e => Stamped e := by
  intro S db db' f _ _ _ _ _ h
  exact h

/-- A reconciliation stamps its engagement correctly unless it takes the
engagement out of a final status. -/
theorem Reconciled.stamped {now : Timestamp} {e f : Engagement} {db db' : Database}
    (h : Reconciled now e db db') (hwf : WellFormed db) (htask : HasTask db e.engagementId)
    (hf : f ∈ db'.engagements) (hid : f.engagementId = e.engagementId)
    (hkept : e.status = .cancelled → Stamped e)
    (hopen : e.status ≠ .cancelled → e.completedAt = none ∨ (targetOf db' f).1.isFinal) :
    Stamped f := by
  rcases h.row hwf htask hf hid with ⟨rfl, hc⟩ | ⟨hlive, hstatus, hcompleted⟩
  · exact hkept hc
  · -- the reconciliation sets the stamp for the final targets only
    have hflag : (targetOf db' f).2.2 = true ↔ (targetOf db' f).1.isFinal := by
      have hnot : (targetOf db' f).1 ≠ .cancelled := engagementTarget_live.2
      have hiff : (targetOf db' f).2.2 = true ↔
          (targetOf db' f).1 = .completed ∨ (targetOf db' f).1 = .failed :=
        engagementTarget_completed_iff
      rw [hiff]
      simp [EngagementStatus.isFinal, hnot]
    unfold Stamped
    rw [hstatus, hcompleted, ← hflag]
    rcases hopen hlive with hnone | hfinal
    · rw [hnone]
      split_ifs with hb <;> simp [hb]
    · have hb := hflag.mpr hfinal
      simp [hb]

/-- Skipping `t` leaves its engagement in a final status: all other tasks are
done, or some task has failed or is about to, and nothing that the skip releases
is still in time. -/
def SkipSettles (now : Timestamp) (db : Database) (t : EngagementTask) : Prop :=
  (∀ u ∈ db.tasks, u.engagementId = t.engagementId → u.taskId ≠ t.taskId →
    u.status = .succeeded ∨ u.status = .skipped) ∨
  ((∃ u ∈ db.tasks, u.engagementId = t.engagementId ∧ u.taskId ≠ t.taskId ∧
      (u.status = .failed ∨ (u.status = .pending ∧ SatisfiedSkipping db t u))) ∧
    ∀ u ∈ db.tasks, u.engagementId = t.engagementId → u.taskId ≠ t.taskId →
      u.status = .pending → SatisfiedSkipping db t u → elapsed u.deadlineAt now)

section Skip

variable {now : Timestamp} {t t' : EngagementTask} {e f : Engagement} {db db₁ db' : Database}

theorem SkipSettles.target (h : SkipSettles now db t) (hwf : WellFormed db)
    (hrest : ∀ s, StatusIn db t.engagementId s → s.isActive = false)
    (hmove : TaskMove now .forceSkip t t' db db₁) (howner : e.engagementId = t.engagementId)
    (hrec : Reconciled now e db₁ db') (hf : f ∈ db'.engagements)
    (hid : f.engagementId = e.engagementId) : (targetOf db' f).1.isFinal := by
  have hwf₁ := hmove.wellFormed hwf
  have hwf' := hrec.wellFormed hwf₁
  have hskipped : t'.status = .skipped := by
    cases hmove.step with
    | forceSkip _ become => exact become.status
  rcases h with hdone | ⟨⟨u, hu, huE, hut, hcase⟩, hlate⟩
  · -- every task is done, so the engagement completes
    refine Or.inl ((targetOf_eq_completed hwf' hf).mpr ?_)
    rw [hid]
    refine hrec.done hwf₁ fun s hs => ?_
    obtain ⟨u', hu', hE, rfl⟩ := hs
    obtain ⟨u, hu, hsame, ⟨rfl, hne⟩ | ⟨rfl, rfl⟩⟩ := hmove.preimage hwf hu'
    · refine hdone u' hu (hE.trans howner) fun heq => ?_
      exact hne (hwf.eq_of_taskId hu hmove.mem heq)
    · exact Or.inr hskipped
  · -- nothing of the engagement can run on, so it fails again
    refine Or.inr (Or.inl ((targetOf_eq_failed hwf' hf).mpr ?_))
    have hstalled : Stalled now e.engagementId db₁ := by
      rw [howner]
      refine hmove.stalled_skip hwf (fun v hv hvE _ => ?_) hlate
      exact hrest v.status ⟨v, hv, hvE, rfl⟩
    obtain ⟨hquiet, hfails⟩ := hrec.stalled hwf₁ hstalled
    rw [hid]
    refine ⟨hfails ⟨u, hmove.other_mem hu hut, huE.trans howner.symm, ?_⟩, hquiet⟩
    exact hcase.imp_right fun hc => ⟨hc.1, (hmove.satisfied_skip_iff hwf).mpr hc.2⟩

end Skip

/-- No forced retry in a cancelled engagement, and no forced skip that takes an
engagement out of `failed`. -/
def StampKept (db : Database) (call : Timestamp × Op) : Prop :=
  ∀ t ∈ db.tasks, ∀ e ∈ db.engagements, e.engagementId = t.engagementId →
    (call.2.acts call.1 t .forceRetry → e.status ≠ .cancelled) ∧
    (call.2.acts call.1 t .forceSkip → e.status = .failed → SkipSettles call.1 db t)

section Effects

variable {now : Timestamp} {op : Op} {db db' : Database} (hwf : WellFormed db)
  (hsynced : ∀ e ∈ db.engagements, Synced db e) (hI : ∀ e ∈ db.engagements, Stamped e)
include hwf hI

theorem Started.stamped (h : Started now db db') : ∀ e ∈ db'.engagements, Stamped e := by
  obtain ⟨e, e', db₁, move, hplanned, htasks, hrunning, hcompleted, reconciled⟩ := h
  have hwf₁ := move.wellFormed hwf
  refine stamped_framed.forall_of_local hwf (reconciled.wellFormed hwf₁)
    (started_localTo move reconciled hwf) hI ?_
  intro f hf hid
  refine reconciled.stamped hwf₁ ?_ hf (hid.trans move.engagementId.symm) ?_
    fun _ => Or.inl ?_
  · obtain ⟨t, ht⟩ := List.exists_mem_of_ne_nil _ htasks
    obtain ⟨ht, hE⟩ := (hwf.mem_listTasks move.mem).mp ht
    exact ⟨t, by rw [move.tasks]; exact ht, hE.trans move.engagementId.symm⟩
  · rw [hrunning]
    simp
  · have he := hI e move.mem
    unfold Stamped at he
    rw [hplanned] at he
    rw [hcompleted]
    simpa [EngagementStatus.isFinal] using he

theorem Retried.stamped (hok : StampKept db (now, op)) (h : Retried now op db db') :
    ∀ e ∈ db'.engagements, Stamped e := by
  obtain ⟨t, t', e, e', db₁, db₂, acts, move, owner, reopen, status, cleared, reconciled⟩ := h
  have hwf₁ := move.wellFormed hwf
  have hwf₂ := reopen.wellFormed hwf₁
  refine stamped_framed.forall_of_local hwf (reconciled.wellFormed hwf₂)
    (retried_localTo move owner reopen reconciled hwf) hI ?_
  intro f hf hid
  refine reconciled.stamped hwf₂ ⟨t', ?_, ?_⟩ hf (hid.trans reopen.engagementId.symm) ?_
    fun _ => Or.inl cleared
  · rw [reopen.tasks]
    exact move.new_mem
  · rw [move.same.engagementId, reopen.engagementId, owner]
  · intro hc
    have he := reopen.mem
    rw [move.engagements] at he
    exact absurd (status.symm.trans hc) ((hok t move.mem e he owner).1 acts)

theorem Cancelled.stamped (h : Cancelled now db db') : ∀ e ∈ db'.engagements, Stamped e := by
  obtain ⟨e, e', db₁, path, move, status, completed, -⟩ := h
  have hwf₁ := path.path.wellFormed hwf
  refine stamped_framed.forall_of_local hwf (move.wellFormed hwf₁)
    (cancelled_localTo path move hwf) hI ?_
  intro f hf hid
  rcases (move.mem_engagements hwf₁).mp hf with rfl | ⟨hf₁, hne⟩
  · simp [Stamped, EngagementStatus.isFinal, status, completed]
  · exact absurd (hwf₁.eq_of_engagementId hf₁ move.mem hid) hne

theorem Ticked.stamped {tenantId : String} (hsynced : ∀ e ∈ db.engagements, Synced db e)
    (h : Ticked now tenantId db db') : ∀ e ∈ db'.engagements, Stamped e := by
  refine h.forall hwf hsynced stamped_framed hI ?_ fun _ hf _ => hI _ hf
  intro e db₁ db₂ f he hactive hwf₁ hrec htask hf hid
  have hlive : ¬ e.status.isFinal := by
    cases hs : e.status <;> simp_all [Database.isActive, EngagementStatus.isFinal]
  have hstamp := hI e he
  unfold Stamped at hstamp
  refine hrec.stamped hwf₁ htask hf hid (fun _ => hI e he) fun _ => Or.inl ?_
  simpa [hlive] using hstamp

include hsynced in
/-- The task acted on is active unless it is skipped by force, so its
engagement is neither completed nor failed. -/
theorem Acted.stamped (hok : StampKept db (now, op)) (h : Acted now op db db') :
    ∀ e ∈ db'.engagements, Stamped e := by
  obtain ⟨k, t, t', e, db₁, acts, hretry, move, owner, reconciled⟩ := h
  have hwf₁ := move.wellFormed hwf
  have he : e ∈ db.engagements := acted_mem move reconciled
  refine stamped_framed.forall_of_local hwf (reconciled.wellFormed hwf₁)
    (acted_localTo move owner reconciled hwf) hI ?_
  intro f hf hid
  refine reconciled.stamped hwf₁ ⟨t', move.new_mem, move.same.engagementId.trans owner.symm⟩
    hf hid (fun _ => hI e he) ?_
  intro hlive
  by_cases hfinal : e.status.isFinal
  · right
    have hin : StatusIn db e.engagementId t.status := ⟨t, move.mem, owner.symm, rfl⟩
    have htarget : (targetOf db e).1 = e.status := by
      have hplanned : e.status ≠ .planned := by
        rintro hs
        simp [hs, EngagementStatus.isFinal] at hfinal
      exact (hsynced e he hplanned hlive).1.symm
    rcases hfinal with hs | hs | hs
    · -- no call acts on a task that is done
      rw [hs, targetOf_eq_completed hwf he] at htarget
      rcases htarget _ hin with hdone | hdone
      · exact absurd hdone move.step.not_done.1
      · exact absurd hdone move.step.not_done.2
    · -- a failed engagement has no active task, so this is a forced skip
      rw [hs, targetOf_eq_failed hwf he] at htarget
      have hquiet := htarget.2
      rw [owner] at hquiet
      rcases acts_active acts hretry with rfl | hactive
      · have hsettles := (hok t move.mem e he owner).2 acts hs
        exact hsettles.target hwf hquiet move owner reconciled hf hid
      · rw [hquiet _ ⟨t, move.mem, rfl, rfl⟩] at hactive
        exact absurd hactive (by simp)
    · exact absurd hs hlive
  · left
    have hstamp := hI e he
    unfold Stamped at hstamp
    simpa [hfinal] using hstamp

include hsynced in
theorem Effect.stamped (hok : StampKept db (now, op)) (h : Effect now op db db') :
    ∀ e ∈ db'.engagements, Stamped e := by
  cases h with
  | compiled tenantId engagementId rows deps compiled =>
    rw [compiled.engagements]
    exact hI
  | started started => exact started.stamped hwf hI
  | ticked tenantId ticked => exact ticked.stamped hwf hI hsynced
  | claimed tenantId workerId leaseSeconds filter lease call positive claimed =>
    cases claimed with
    | idle eq =>
      rw [eq]
      exact hI
    | leased t t' lease best move _ _ =>
      rw [move.engagements]
      exact hI
  | extended t t' move =>
    rw [move.engagements]
    exact hI
  | acted acted => exact acted.stamped hwf hsynced hI hok
  | retried retried => exact retried.stamped hwf hI hok
  | cancelled cancelled => exact cancelled.stamped hwf hI

end Effects

/-- **Completion stamps.**  In every state reached by a run that retries nothing
in a cancelled engagement and takes no engagement out of `failed` by a skip,
`completed_at` is set exactly for the completed, failed and cancelled
engagements. -/
theorem run_completed_iff_final {db : Database} (hfresh : Fresh db)
    {calls : List (Timestamp × Op)} (hok : Runs.EachStep step StampKept db calls) :
    ∀ e ∈ (run db calls).engagements, e.completedAt.isSome ↔
      e.status = .completed ∨ e.status = .failed ∨ e.status = .cancelled := by
  have hI : (∀ e ∈ db.engagements, Synced db e) ∧ ∀ e ∈ db.engagements, Stamped e := by
    constructor
    · intro e he hplanned _
      exact absurd (hfresh.planned e he).1 hplanned
    · intro e he
      obtain ⟨hstatus, hnone⟩ := hfresh.planned e he
      simp [Stamped, EngagementStatus.isFinal, hstatus, hnone]
  refine (run_invariant_exec (I := fun db => (∀ e ∈ db.engagements, Synced db e) ∧
    ∀ e ∈ db.engagements, Stamped e) ?_ hfresh.wellFormed hI hok).2
  intro db now op db' hwf hI hcall hexec
  have heffect := exec_effect hwf hexec
  exact ⟨heffect.synced hwf hI.1, heffect.stamped hwf hI.1 hI.2 hcall⟩

def skippedFailed : List (Timestamp × Op) :=
  sampleFailed ++ [(4, .forceSkipTask "tenant" "collect" "admin" "not needed")]

/-- The engagement is blocked and keeps the `completed_at` of its failure. -/
theorem skipped_engagement_keeps_stamp :
    ¬ ∀ calls, ∀ e ∈ (run sampleDatabase calls).engagements, e.completedAt.isSome ↔
      e.status = .completed ∨ e.status = .failed ∨ e.status = .cancelled := by
  intro h
  obtain ⟨e, he, hblocked, hcompleted⟩ : ∃ e ∈ (run sampleDatabase skippedFailed).engagements,
      e.status = .blocked ∧ e.completedAt = some 3 := by decide +kernel
  have hfinal := (h skippedFailed e he).mp (by simp [hcompleted])
  rw [hblocked] at hfinal
  simp at hfinal

def skippedBlocked : List (Timestamp × Op) :=
  sampleFailed ++ [(4, .forceSkipTask "tenant" "report" "admin" "not needed")]

/-- The engagement stays failed, with its `completed_at`. -/
theorem run_completed_iff_final_skipped :
    ∃ e ∈ (run sampleDatabase skippedBlocked).engagements,
      e.status = .failed ∧ e.completedAt.isSome := by
  obtain ⟨e, he, hfailed⟩ : ∃ e ∈ (run sampleDatabase skippedBlocked).engagements,
      e.status = .failed := by decide +kernel
  refine ⟨e, he, hfailed, (run_completed_iff_final sampleDatabase_fresh ?_ e he).mpr
    (Or.inr (Or.inl hfailed))⟩
  refine ⟨fun _ _ _ _ _ => ⟨fun h => h.elim, fun h => h.elim⟩,
    fun _ _ _ _ _ => ⟨fun h => h.elim, fun h => h.elim⟩,
    fun _ _ _ _ _ => ⟨fun h => h.elim, fun h => h.elim⟩, ?_, ?_, trivial⟩
  · intro t _ e _ _
    constructor
    · rintro ⟨-, -, -, h | h⟩ <;> simp at h
    · rintro ⟨-, -, -, h | h⟩ <;> simp at h
  · intro t ht e _ _
    constructor
    · rintro ⟨-, -, -, -, h⟩
      simp at h
    · rintro ⟨-, hid, -⟩ _
      have hE : ∀ u ∈ (run sampleDatabase (skippedBlocked.take 4)).tasks,
          u.engagementId = "engagement" := by decide +kernel
      have hstatus : ∀ u ∈ (run sampleDatabase (skippedBlocked.take 4)).tasks,
          u.status ≠ .pending := by decide +kernel
      obtain ⟨u, hu, huid, hufailed⟩ : ∃ u ∈ (run sampleDatabase (skippedBlocked.take 4)).tasks,
          u.taskId = "collect" ∧ u.status = .failed := by decide +kernel
      refine Or.inr ⟨⟨u, hu, (hE u hu).trans (hE t ht).symm, ?_, Or.inl hufailed⟩, ?_⟩
      · rw [huid, hid]
        decide
      · intro v hv _ _ hpending
        exact absurd hpending (hstatus v hv)

end Orchestration
