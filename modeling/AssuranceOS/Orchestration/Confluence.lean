/-
The order of the reconciliation does not matter.

`_reconcile_engagement` writes to the rows while it passes over them.  In the state in which it ends
every row is the one that this state calls for (`Settling.tasks_eq`), and dependencies have no
cycles, so that there is only one such state (`settledRow_unique`).  `reconcile_confluent` collects
what follows: the loop ends, it moves a task once, the order of the lists has no effect, and a
second reconciliation has nothing to do.
-/
import AssuranceOS.Orchestration.Locality

namespace Orchestration

open Orchestrator

instance (db : Database) (t : EngagementTask) : Decidable (Satisfied db t) :=
  inferInstanceAs (Decidable (∀ d ∈ db.dependencies, d.taskId = t.taskId →
    ∃ p ∈ db.tasks, p.taskId = d.dependsOnTaskId ∧ p.status ∈ d.allowedStatuses))

instance (db : Database) (t : EngagementTask) : Decidable (Obstructed db t) :=
  inferInstanceAs (Decidable (∃ d ∈ db.dependencies, d.taskId = t.taskId ∧
    ∃ p ∈ db.tasks, p.taskId = d.dependsOnTaskId ∧ p.status.isFailure))

def blockedRow (now : Timestamp) (t : EngagementTask) : EngagementTask :=
  { t with
    status := .blocked
    completedAt := some now
    errorClass := some .dependencyFailed
    lastError := some "one or more prerequisite tasks did not complete successfully" }

/-- The row that a task of an engagement gets when its dependencies are as they are in `db`. -/
def settledRow (now : Timestamp) (db : Database) (t : EngagementTask) : EngagementTask :=
  if t.status ≠ .pending then t
  else if Obstructed db t then blockedRow now t
  else if Satisfied db t then (promote now t).1
  else t

def Moves (db : Database) (t : EngagementTask) : Prop :=
  Obstructed db t ∨ Satisfied db t

section Rows

variable {now : Timestamp} {db db' : Database} {t : EngagementTask}

theorem promote_fields (now : Timestamp) (t : EngagementTask) :
    (promote now t).1.taskId = t.taskId ∧ (promote now t).1.engagementId = t.engagementId ∧
      (promote now t).1.status ≠ .pending := by
  unfold promote
  split_ifs <;> exact ⟨rfl, rfl, by simp⟩

theorem settledRow_keys (now : Timestamp) (db : Database) (t : EngagementTask) :
    (settledRow now db t).taskId = t.taskId ∧
      (settledRow now db t).engagementId = t.engagementId := by
  have hpromote := promote_fields now t
  unfold settledRow
  split_ifs
  · exact ⟨rfl, rfl⟩
  · exact ⟨rfl, rfl⟩
  · exact ⟨hpromote.1, hpromote.2.1⟩
  · exact ⟨rfl, rfl⟩

theorem settledRow_status (now : Timestamp) (hmoves : Moves db t) :
    (settledRow now db t).status ≠ .pending := by
  unfold settledRow
  by_cases hpending : t.status = .pending
  · rw [if_neg (not_not.mpr hpending)]
    by_cases hobstructed : Obstructed db t
    · rw [if_pos hobstructed]
      simp [blockedRow]
    · rw [if_neg hobstructed, if_pos (hmoves.resolve_left hobstructed)]
      exact (promote_fields now t).2.2
  · rw [if_pos hpending]
    exact hpending

theorem Obstructed.not_satisfied (hwf : WellFormed db) (h : Obstructed db t) :
    ¬ Satisfied db t := by
  intro hsatisfied
  obtain ⟨d, hd, hdt, p, hp, hid, hfailure⟩ := h
  obtain ⟨q, hq, hid', hallowed⟩ := hsatisfied d hd hdt
  have hpq : p = q := hwf.eq_of_taskId hp hq (hid.trans hid'.symm)
  rw [← hpq] at hallowed
  rcases hwf.allowed d hd _ hallowed with hs | hs
  · rw [hs] at hfailure
    simp [TaskStatus.isFailure] at hfailure
  · rw [hs] at hfailure
    simp [TaskStatus.isFailure] at hfailure

variable {deps : List TaskDependency} {E : String}

theorem reconcileTask_eq (hwf : WellFormed db) (hdeps : DependenciesOf deps db E)
    (ht : t ∈ db.tasks) (hE : t.engagementId = E)
    (h : reconcileTask deps now db t.taskId = some db') :
    t.status = .pending ∧ Moves db t ∧ ∃ reason, db' =
      recordTaskTransition (db.putTask (settledRow now db t)) now (settledRow now db t) .pending
        reason .none := by
  have hfind : db.findTask t.taskId = some t := hwf.findTask_eq_some.mpr ⟨ht, rfl⟩
  have hobstructed := dependencyRows_any_iff hwf hdeps ht hE
  have hsatisfied := dependenciesSatisfied_iff hwf hdeps ht hE
  unfold reconcileTask at h
  rw [hfind] at h
  dsimp only at h
  by_cases hpending : t.status = .pending
  · rw [if_neg (not_not.mpr hpending)] at h
    refine ⟨hpending, ?_⟩
    unfold settledRow
    rw [if_neg (not_not.mpr hpending)]
    by_cases hob : Obstructed db t
    · rw [if_pos (hobstructed.mpr hob), Option.some_inj] at h
      rw [if_pos hob]
      exact ⟨Or.inl hob, _, h.symm⟩
    · rw [if_neg fun hany => hob (hobstructed.mp hany)] at h
      by_cases hsat : Satisfied db t
      · rw [if_neg (not_not.mpr (hsatisfied.mpr hsat)), Option.some_inj] at h
        rw [if_neg hob, if_pos hsat]
        exact ⟨Or.inr hsat, _, h.symm⟩
      · rw [if_pos fun hall => hsat (hsatisfied.mp hall)] at h
        exact absurd h (by simp)
  · rw [if_pos hpending] at h
    exact absurd h (by simp)

theorem reconcileTask_quiescent (hwf : WellFormed db) (hdeps : DependenciesOf deps db E)
    (hquiet : Quiescent db E) (ht : t ∈ db.tasks) (hE : t.engagementId = E) :
    reconcileTask deps now db t.taskId = none := by
  rcases hrow : reconcileTask deps now db t.taskId with _ | db'
  · rfl
  · obtain ⟨hpending, hmoves, -⟩ := reconcileTask_eq hwf hdeps ht hE hrow
    obtain ⟨hobstructed, hsatisfied⟩ := hquiet t ht hE hpending
    exact absurd hmoves (not_or.mpr ⟨hobstructed, hsatisfied⟩)

/-- A row that is not pending stays while the reconciliation works. -/
structure Extends (db db' : Database) : Prop where
  wellFormed : WellFormed db'
  dependencies : db'.dependencies = db.dependencies
  kept : ∀ p ∈ db.tasks, p.status ≠ .pending → p ∈ db'.tasks

theorem Obstructed.extends (h : Obstructed db t) (hext : Extends db db') : Obstructed db' t := by
  obtain ⟨d, hd, hdt, p, hp, hid, hfailure⟩ := h
  refine ⟨d, hext.dependencies ▸ hd, hdt, p, hext.kept p hp ?_, hid, hfailure⟩
  intro hpending
  rw [hpending] at hfailure
  simp [TaskStatus.isFailure] at hfailure

theorem Satisfied.extends (hwf : WellFormed db) (h : Satisfied db t) (hext : Extends db db') :
    Satisfied db' t := by
  intro d hd hdt
  rw [hext.dependencies] at hd
  obtain ⟨p, hp, hid, hallowed⟩ := h d hd hdt
  refine ⟨p, hext.kept p hp ?_, hid, hallowed⟩
  rcases hwf.allowed d hd _ hallowed with hs | hs
  · simp [hs]
  · simp [hs]

theorem Moves.extends (hwf : WellFormed db) (h : Moves db t) (hext : Extends db db') :
    Moves db' t :=
  h.imp (·.extends hext) (·.extends hwf hext)

theorem settledRow_extends (now : Timestamp) (hwf : WellFormed db) (hmoves : Moves db t)
    (hext : Extends db db') : settledRow now db' t = settledRow now db t := by
  unfold settledRow
  by_cases hob : Obstructed db t
  · rw [if_pos hob, if_pos (hob.extends hext)]
  · have hsat := hmoves.resolve_left hob
    have hsat' := hsat.extends hwf hext
    have hob' : ¬ Obstructed db' t := fun h => h.not_satisfied hext.wellFormed hsat'
    rw [if_neg hob, if_neg hob', if_pos hsat, if_pos hsat']

end Rows

/-- What has happened when the tasks `moved` have been moved, in this order, from `db`. -/
structure Settling (now : Timestamp) (E : String) (db : Database) (moved : List String)
    (s : Database) : Prop where
  tasks : s.tasks = db.tasks.map fun t => if t.taskId ∈ moved then settledRow now s t else t
  moves : ∀ t ∈ db.tasks, t.taskId ∈ moved →
    t.engagementId = E ∧ t.status = .pending ∧ Moves s t
  nodup : moved.Nodup
  dependencies : s.dependencies = db.dependencies
  engagements : s.engagements = db.engagements
  events : ∃ events, s.auditEvents = db.auditEvents ++ events ∧
    events.map (·.taskId) = moved.map some

section Loop

variable {now : Timestamp} {db s s' : Database} {E : String} {moved : List String}

theorem Settling.refl (now : Timestamp) (E : String) (db : Database) :
    Settling now E db [] db where
  tasks := by simp
  moves := by simp
  nodup := List.nodup_nil
  dependencies := rfl
  engagements := rfl
  events := ⟨[], by simp, rfl⟩

variable {deps : List TaskDependency} {taskIds : List String}

theorem Settling.next (hsettling : Settling now E db moved s)
    (hkeys : (db.tasks.map (·.taskId)).Nodup) (hs : LoopState deps taskIds E s)
    (h : Saturate.Change (reconcileTask deps now) taskIds s s') :
    ∃ id, Settling now E db (moved ++ [id]) s' := by
  obtain ⟨-, hs', -⟩ := change_spec hs h
  obtain ⟨id, hid, hrec⟩ := h
  obtain ⟨u, hu, hE, rfl⟩ := (hs.ids id).mp hid
  obtain ⟨hpending, hmoves, reason, heq⟩ :=
    reconcileTask_eq hs.wellFormed hs.dependencies hu hE hrec
  have htasks : s'.tasks = Table.put EngagementTask.taskId (settledRow now s u) s.tasks := by
    rw [heq]
    rfl
  -- the row is one that has been left alone so far
  have hrow := hu
  rw [hsettling.tasks] at hrow
  obtain ⟨t, ht, hut⟩ := List.mem_map.mp hrow
  have hfresh : t.taskId ∉ moved := by
    intro hmem
    rw [if_pos hmem] at hut
    have hleft := settledRow_status now (hsettling.moves t ht hmem).2.2
    rw [hut] at hleft
    exact hleft hpending
  rw [if_neg hfresh] at hut
  subst hut
  have hext : Extends s s' := by
    refine ⟨hs'.wellFormed, by rw [heq]; rfl, fun p hp hstays => ?_⟩
    rw [htasks]
    refine Table.mem_put_of_ne hp fun hkey => hstays ?_
    have hpt : p = t := hs.wellFormed.eq_of_taskId hp hu (hkey.trans (settledRow_keys now s t).1)
    rw [hpt]
    exact hpending
  refine ⟨t.taskId, ?_, ?_, ?_, ?_, ?_, ?_⟩
  · rw [htasks, hsettling.tasks, Table.put, List.map_map]
    refine List.map_congr_left fun x hx => ?_
    by_cases hmem : x.taskId ∈ moved
    · have hne : x.taskId ≠ t.taskId := fun heq => hfresh (heq ▸ hmem)
      have hsame := settledRow_extends now hs.wellFormed (hsettling.moves x hx hmem).2.2 hext
      simp [hmem, hne, hsame, (settledRow_keys now s x).1, (settledRow_keys now s t).1]
    · by_cases hxt : x.taskId = t.taskId
      · have hx : x = t := Table.eq_of_key_eq hkeys hx ht hxt
        have hsame := settledRow_extends now hs.wellFormed hmoves hext
        simp [hx, hfresh, hsame, (settledRow_keys now s t).1]
      · simp [hmem, hxt, (settledRow_keys now s t).1]
  · intro x hx hmem
    rcases List.mem_append.mp hmem with hold | hnew
    · obtain ⟨hxE, hxpending, hxmoves⟩ := hsettling.moves x hx hold
      exact ⟨hxE, hxpending, hxmoves.extends hs.wellFormed hext⟩
    · have hx : x = t := Table.eq_of_key_eq hkeys hx ht (List.mem_singleton.mp hnew)
      rw [hx]
      exact ⟨hE, hpending, hmoves.extends hs.wellFormed hext⟩
  · rw [List.nodup_append]
    refine ⟨hsettling.nodup, List.nodup_singleton _, ?_⟩
    rintro a ha b hb rfl
    rw [List.mem_singleton.mp hb] at ha
    exact hfresh ha
  · exact hext.dependencies.trans hsettling.dependencies
  · have hkept : s'.engagements = s.engagements := by
      rw [heq]
      rfl
    exact hkept.trans hsettling.engagements
  · obtain ⟨events, hevents, hids⟩ := hsettling.events
    obtain ⟨row, hrow, hid⟩ : ∃ row : AuditEventRow, s'.auditEvents = s.auditEvents ++ [row] ∧
        row.taskId = some t.taskId := by
      rw [heq]
      exact ⟨_, rfl, congrArg some (settledRow_keys now s t).1⟩
    refine ⟨events ++ [row], ?_, ?_⟩
    · rw [hrow, hevents, List.append_assoc]
    · rw [List.map_append, List.map_append, hids, List.map_singleton, hid, List.map_singleton]

theorem exists_settling (hs : LoopState deps taskIds E db)
    (h : Relation.ReflTransGen (Saturate.Change (reconcileTask deps now) taskIds) db s) :
    ∃ moved, Settling now E db moved s := by
  induction h with
  | refl => exact ⟨[], .refl now E db⟩
  | tail hpath hlast ih =>
    obtain ⟨moved, hsettling⟩ := ih
    obtain ⟨id, hnext⟩ :=
      hsettling.next hs.wellFormed.taskKeys (changes_spec hs hpath).2 hlast
    exact ⟨_, hnext⟩

theorem Settling.tasks_eq (hsettling : Settling now E db moved s) (hquiet : Quiescent s E) :
    s.tasks = db.tasks.map fun t => if t.engagementId = E then settledRow now s t else t := by
  have hrows := hsettling.tasks
  rw [hrows]
  refine List.map_congr_left fun t ht => ?_
  by_cases hmem : t.taskId ∈ moved
  · rw [if_pos hmem, if_pos (hsettling.moves t ht hmem).1]
  · rw [if_neg hmem]
    by_cases hE : t.engagementId = E
    · rw [if_pos hE]
      unfold settledRow
      by_cases hpending : t.status = .pending
      · have hstays : t ∈ s.tasks := by
          rw [hrows]
          exact List.mem_map.mpr ⟨t, ht, if_neg hmem⟩
        obtain ⟨hobstructed, hsatisfied⟩ := hquiet t hstays hE hpending
        rw [if_neg (not_not.mpr hpending), if_neg hobstructed, if_neg hsatisfied]
      · rw [if_pos hpending]
    · rw [if_neg hE]

end Loop

section Order

variable {now : Timestamp} {db s₁ s₂ : Database} {E : String}

/-- Where the rows of an engagement are as the rows themselves call for, they are determined from
the tasks without dependencies on. -/
theorem settledRow_unique (hwf : WellFormed db)
    (htasks₁ : s₁.tasks = db.tasks.map fun t =>
      if t.engagementId = E then settledRow now s₁ t else t)
    (htasks₂ : s₂.tasks = db.tasks.map fun t =>
      if t.engagementId = E then settledRow now s₂ t else t)
    (hdeps₁ : s₁.dependencies = db.dependencies) (hdeps₂ : s₂.dependencies = db.dependencies) :
    s₁.tasks = s₂.tasks := by
  obtain ⟨rank, hrank⟩ := hwf.acyclic
  -- by the rank of a task: the rows that its dependencies read are the same
  have hrows : ∀ n, ∀ t ∈ db.tasks, t.engagementId = E → rank t.taskId = n →
      settledRow now s₁ t = settledRow now s₂ t := by
    intro n
    induction n using Nat.strong_induction_on with
    | _ n ih =>
      intro t ht hE hn
      have hread : ∀ d ∈ db.dependencies, d.taskId = t.taskId → ∀ P : TaskStatus → Prop,
          (∃ p ∈ s₁.tasks, p.taskId = d.dependsOnTaskId ∧ P p.status) ↔
            ∃ p ∈ s₂.tasks, p.taskId = d.dependsOnTaskId ∧ P p.status := by
        intro d hd hdt P
        obtain ⟨u, hu, q, hq, hud, hqd, -, hqu⟩ := hwf.dependencyEnds d hd
        have hut : u = t := hwf.eq_of_taskId hu ht (hud.trans hdt)
        have hqE : q.engagementId = E := by
          rw [hqu, hut, hE]
        have hlower : rank q.taskId < n := by
          rw [hqd, ← hn, ← hdt]
          exact hrank d hd
        have hsame := ih _ hlower q hq hqE rfl
        have hfind : ∀ s : Database, s.tasks = (db.tasks.map fun t =>
            if t.engagementId = E then settledRow now s t else t) →
            ((∃ p ∈ s.tasks, p.taskId = d.dependsOnTaskId ∧ P p.status) ↔
              P (settledRow now s q).status) := by
          intro s htasks
          rw [htasks]
          constructor
          · rintro ⟨p, hp, hid, hstatus⟩
            obtain ⟨x, hx, rfl⟩ := List.mem_map.mp hp
            have hkey : (if x.engagementId = E then settledRow now s x else x).taskId =
                x.taskId := by
              split_ifs
              · exact (settledRow_keys now s x).1
              · rfl
            have hxq : x = q := hwf.eq_of_taskId hx hq (hkey.symm.trans (hid.trans hqd.symm))
            rw [hxq, if_pos hqE] at hstatus
            exact hstatus
          · intro hstatus
            exact ⟨_, List.mem_map.mpr ⟨q, hq, if_pos hqE⟩,
              (settledRow_keys now s q).1.trans hqd, hstatus⟩
        rw [hfind s₁ htasks₁, hfind s₂ htasks₂, hsame]
      have hobstructed : Obstructed s₁ t ↔ Obstructed s₂ t := by
        unfold Obstructed
        rw [hdeps₁, hdeps₂]
        refine exists_congr fun d => and_congr_right fun hd => and_congr_right fun hdt => ?_
        exact hread d hd hdt fun status => status.isFailure
      have hsatisfied : Satisfied s₁ t ↔ Satisfied s₂ t := by
        unfold Satisfied
        rw [hdeps₁, hdeps₂]
        refine forall_congr' fun d => forall_congr' fun hd => forall_congr' fun hdt => ?_
        exact hread d hd hdt fun status => status ∈ d.allowedStatuses
      unfold settledRow
      simp only [hobstructed, hsatisfied]
  rw [htasks₁, htasks₂]
  refine List.map_congr_left fun t ht => ?_
  by_cases hE : t.engagementId = E
  · rw [if_pos hE, if_pos hE, hrows _ t ht hE rfl]
  · rw [if_neg hE, if_neg hE]

end Order

/-! ### The engagement row -/

section Engagement

variable {now : Timestamp} {db : Database} {e : Engagement}
variable {tasks tasks' : List EngagementTask}

theorem target_congr (h : ∀ t, t ∈ tasks ↔ t ∈ tasks') :
    engagementTarget (tasks.map (·.status)) = engagementTarget (tasks'.map (·.status)) :=
  engagementTarget_congr (by simp [h])

theorem reconcileEngagementStatus_congr (h : ∀ t, t ∈ tasks ↔ t ∈ tasks') :
    reconcileEngagementStatus db now e tasks = reconcileEngagementStatus db now e tasks' := by
  unfold reconcileEngagementStatus
  rw [target_congr h]

def stampedEngagement (now : Timestamp) (tasks : List EngagementTask) (e : Engagement) :
    Engagement :=
  if (engagementTarget (tasks.map (·.status))).2.2 then { e with completedAt := some now } else e

/-- The row of an engagement whose tasks are `tasks`. -/
def settledEngagement (now : Timestamp) (tasks : List EngagementTask) (e : Engagement) :
    Engagement :=
  if e.status = .cancelled then e
  else
    { stampedEngagement now tasks e with
      status := (engagementTarget (tasks.map (·.status))).1 }

theorem stampedEngagement_fields (now : Timestamp) (tasks : List EngagementTask) (e : Engagement) :
    ∃ completedAt, stampedEngagement now tasks e = { e with completedAt := completedAt } := by
  unfold stampedEngagement
  split_ifs
  · exact ⟨some now, rfl⟩
  · exact ⟨e.completedAt, rfl⟩

theorem settledEngagement_id (now : Timestamp) (tasks : List EngagementTask) (e : Engagement) :
    (settledEngagement now tasks e).engagementId = e.engagementId ∧
      (settledEngagement now tasks e).tenantId = e.tenantId := by
  obtain ⟨completedAt, hstamped⟩ := stampedEngagement_fields now tasks e
  unfold settledEngagement
  rw [hstamped]
  split_ifs
  · exact ⟨rfl, rfl⟩
  · exact ⟨rfl, rfl⟩

theorem settledEngagement_status (now : Timestamp) (tasks : List EngagementTask) (e : Engagement)
    (hlive : (settledEngagement now tasks e).status ≠ .cancelled) :
    (settledEngagement now tasks e).status = (engagementTarget (tasks.map (·.status))).1 := by
  unfold settledEngagement at hlive ⊢
  by_cases hcancelled : e.status = .cancelled
  · rw [if_pos hcancelled] at hlive
    exact absurd hcancelled hlive
  · rw [if_neg hcancelled]

theorem settledEngagement_twice (now : Timestamp) (tasks : List EngagementTask) (e : Engagement) :
    settledEngagement now tasks (settledEngagement now tasks e) =
      settledEngagement now tasks e := by
  by_cases hcancelled : e.status = .cancelled
  · have hsame : settledEngagement now tasks e = e := if_pos hcancelled
    rw [hsame, hsame]
  · have hsettled : settledEngagement now tasks e = { stampedEngagement now tasks e with
        status := (engagementTarget (tasks.map (·.status))).1 } := if_neg hcancelled
    rw [hsettled]
    unfold settledEngagement stampedEngagement
    split_ifs <;> rfl

theorem settledEngagement_congr (h : ∀ t, t ∈ tasks ↔ t ∈ tasks') :
    settledEngagement now tasks e = settledEngagement now tasks' e := by
  unfold settledEngagement stampedEngagement
  rw [target_congr h]

theorem settledEngagement_stamp (now : Timestamp) (hsettled : e.status ≠ .cancelled →
      e.status = (engagementTarget (tasks.map (·.status))).1) :
    ∃ completedAt, settledEngagement now tasks e = { e with completedAt := completedAt } := by
  unfold settledEngagement
  by_cases hcancelled : e.status = .cancelled
  · exact ⟨e.completedAt, if_pos hcancelled⟩
  · obtain ⟨completedAt, hstamped⟩ := stampedEngagement_fields now tasks e
    rw [if_neg hcancelled, hstamped, ← hsettled hcancelled]
    exact ⟨completedAt, rfl⟩

theorem transitionEngagement_tables (target : EngagementStatus) (reason : EngagementReason)
    (extra : Extra) :
    (transitionEngagement db now e target reason extra).engagements =
        Table.put Engagement.engagementId { e with status := target } db.engagements ∧
      (transitionEngagement db now e target reason extra).tasks = db.tasks ∧
      (transitionEngagement db now e target reason extra).dependencies = db.dependencies := by
  unfold transitionEngagement
  split_ifs with hsame
  · subst hsame
    exact ⟨rfl, rfl, rfl⟩
  · exact ⟨rfl, rfl, rfl⟩

theorem putEngagement_self (hwf : WellFormed db) (he : e ∈ db.engagements) :
    db.putEngagement e = db := by
  unfold Database.putEngagement
  rw [Table.put_self hwf.engagementKeys he]

theorem reconcileEngagementStatus_live (hlive : e.status ≠ .cancelled) :
    reconcileEngagementStatus db now e tasks =
      transitionEngagement db now (stampedEngagement now tasks e)
        (engagementTarget (tasks.map (·.status))).1
        (engagementTarget (tasks.map (·.status))).2.1 .none :=
  if_neg hlive

theorem reconcileEngagementStatus_tables (hwf : WellFormed db) (he : e ∈ db.engagements)
    (tasks : List EngagementTask) :
    (reconcileEngagementStatus db now e tasks).engagements =
        Table.put Engagement.engagementId (settledEngagement now tasks e) db.engagements ∧
      (reconcileEngagementStatus db now e tasks).tasks = db.tasks ∧
      (reconcileEngagementStatus db now e tasks).dependencies = db.dependencies := by
  unfold settledEngagement
  by_cases hcancelled : e.status = .cancelled
  · have hsame : reconcileEngagementStatus db now e tasks = db := if_pos hcancelled
    rw [if_pos hcancelled, hsame, Table.put_self hwf.engagementKeys he]
    exact ⟨rfl, rfl, rfl⟩
  · rw [if_neg hcancelled, reconcileEngagementStatus_live hcancelled]
    exact transitionEngagement_tables _ _ _

theorem reconcileEngagementStatus_events (db : Database) (now : Timestamp) (e : Engagement)
    (tasks : List EngagementTask) :
    ∃ events, (reconcileEngagementStatus db now e tasks).auditEvents = db.auditEvents ++ events ∧
      events.filterMap (·.taskId) = [] := by
  by_cases hcancelled : e.status = .cancelled
  · have hsame : reconcileEngagementStatus db now e tasks = db := if_pos hcancelled
    rw [hsame]
    exact ⟨[], by simp, rfl⟩
  · rw [reconcileEngagementStatus_live hcancelled]
    unfold transitionEngagement
    split
    · exact ⟨[], by simp [Database.putEngagement], rfl⟩
    · exact ⟨[_], rfl, rfl⟩

theorem reconcileEngagementStatus_settled (hwf : WellFormed db) (he : e ∈ db.engagements)
    (hsettled : e.status ≠ .cancelled →
      e.status = (engagementTarget (tasks.map (·.status))).1) :
    reconcileEngagementStatus db now e tasks =
      db.putEngagement (settledEngagement now tasks e) := by
  unfold settledEngagement
  by_cases hcancelled : e.status = .cancelled
  · rw [if_pos hcancelled, putEngagement_self hwf he]
    exact if_pos hcancelled
  · obtain ⟨completedAt, hstamped⟩ := stampedEngagement_fields now tasks e
    rw [if_neg hcancelled, reconcileEngagementStatus_live hcancelled, hstamped,
      ← hsettled hcancelled]
    exact if_pos rfl

end Engagement

/-! ### Any order of the lists -/

def listedTasks (db : Database) (e : Engagement) : List String :=
  (db.listTasks e.tenantId e.engagementId).map (·.taskId)

def listedDependencies (db : Database) (e : Engagement) : List TaskDependency :=
  db.listDependencies e.tenantId e.engagementId

/-- `_reconcile_engagement` with the tasks and the dependencies that it has been given. -/
def reconcileListed (db : Database) (now : Timestamp) (e : Engagement)
    (dependencies : List TaskDependency) (taskIds : List String) : Database :=
  if taskIds.isEmpty then db
  else
    let db := reconcileLoop dependencies now taskIds (taskIds.length + 1) db
    reconcileEngagementStatus db now e (taskIds.filterMap db.findTask)

section Listed

variable {now : Timestamp} {db s : Database} {e : Engagement} {deps : List TaskDependency}
  {ids : List String} {E : String}

theorem loopState_listed (hwf : WellFormed db) (he : e ∈ db.engagements)
    (hdeps : deps.Perm (listedDependencies db e)) (hids : ids.Perm (listedTasks db e)) :
    LoopState deps ids e.engagementId db where
  wellFormed := hwf
  dependencies := by
    intro t ht hE d hd
    rw [hdeps.mem_iff]
    exact dependenciesOf_listDependencies hwf he t ht hE d hd
  ids := by
    intro id
    rw [hids.mem_iff, listedTasks, List.mem_map]
    constructor
    · rintro ⟨t, ht, rfl⟩
      obtain ⟨ht, hE⟩ := (hwf.mem_listTasks he).mp ht
      exact ⟨t, ht, hE, rfl⟩
    · rintro ⟨t, ht, hE, rfl⟩
      exact ⟨t, (hwf.mem_listTasks he).mpr ⟨ht, hE⟩, rfl⟩

theorem LoopState.mem_found (hs : LoopState deps ids E s) (t : EngagementTask) :
    t ∈ ids.filterMap s.findTask ↔ t ∈ s.tasks ∧ t.engagementId = E := by
  rw [List.mem_filterMap]
  constructor
  · rintro ⟨id, hid, hfind⟩
    obtain ⟨ht, rfl⟩ := hs.wellFormed.findTask_eq_some.mp hfind
    obtain ⟨u, hu, hE, hut⟩ := (hs.ids t.taskId).mp hid
    rw [hs.wellFormed.eq_of_taskId hu ht hut] at hE
    exact ⟨ht, hE⟩
  · rintro ⟨ht, hE⟩
    exact ⟨t.taskId, (hs.ids _).mpr ⟨t, ht, hE, rfl⟩,
      hs.wellFormed.findTask_eq_some.mpr ⟨ht, rfl⟩⟩

theorem loop_end (now : Timestamp) (hs : LoopState deps ids E db) :
    ∃ moved, Settling now E db moved (reconcileLoop deps now ids (ids.length + 1) db) ∧
      LoopState deps ids E (reconcileLoop deps now ids (ids.length + 1) db) ∧
      Quiescent (reconcileLoop deps now ids (ids.length + 1) db) E := by
  have hpath : Relation.ReflTransGen (Saturate.Change (reconcileTask deps now) ids) db
      (reconcileLoop deps now ids (ids.length + 1) db) := Saturate.loop_path _ db
  obtain ⟨moved, hsettling⟩ := exists_settling hs hpath
  exact ⟨moved, hsettling, (changes_spec hs hpath).2, (reconcileLoop_spec now hs).2⟩

theorem reconcileEngagement_eq (hwf : WellFormed db) (he : e ∈ db.engagements) :
    reconcileEngagement db now e =
      reconcileListed db now e (listedDependencies db e) (listedTasks db e) := by
  have hs := loopState_listed hwf he (.refl _) (.refl _)
  obtain ⟨moved, hsettling, hend, -⟩ := loop_end now hs
  have hlisted : ∀ t, t ∈ (reconcileLoop (listedDependencies db e) now (listedTasks db e)
      ((listedTasks db e).length + 1) db).listTasks e.tenantId e.engagementId ↔
      t ∈ (listedTasks db e).filterMap (reconcileLoop (listedDependencies db e) now
        (listedTasks db e) ((listedTasks db e).length + 1) db).findTask := by
    intro t
    rw [hend.mem_found, hend.wellFormed.mem_listTasks (by rw [hsettling.engagements]; exact he)]
  unfold reconcileListed
  rw [← reconcileEngagementStatus_congr hlisted]
  unfold reconcileEngagement listedTasks listedDependencies
  simp only [List.isEmpty_map]

theorem reconcileListed_nil (h : ids = []) : reconcileListed db now e deps ids = db := by
  subst h
  rfl

theorem reconcileListed_tables (he : e ∈ s.engagements) (hne : ids ≠ [])
    (hs : LoopState deps ids e.engagementId s)
    (hloop : reconcileLoop deps now ids (ids.length + 1) db = s) :
    (reconcileListed db now e deps ids).engagements = Table.put Engagement.engagementId
        (settledEngagement now (ids.filterMap s.findTask) e) s.engagements ∧
      (reconcileListed db now e deps ids).tasks = s.tasks ∧
      (reconcileListed db now e deps ids).dependencies = s.dependencies := by
  have hlisted : reconcileListed db now e deps ids =
      reconcileEngagementStatus s now e (ids.filterMap s.findTask) := by
    rw [← hloop]
    exact if_neg (by simpa using hne)
  rw [hlisted]
  exact reconcileEngagementStatus_tables hs.wellFormed he _

theorem reconcileListed_perm (now : Timestamp) (hwf : WellFormed db) (he : e ∈ db.engagements)
    (hdeps : deps.Perm (listedDependencies db e)) (hids : ids.Perm (listedTasks db e)) :
    (reconcileListed db now e deps ids).tasks = (reconcileEngagement db now e).tasks ∧
      (reconcileListed db now e deps ids).engagements =
        (reconcileEngagement db now e).engagements := by
  rw [reconcileEngagement_eq hwf he]
  by_cases hne : ids = []
  · have hnil : listedTasks db e = [] := List.nil_perm.mp (hne ▸ hids)
    rw [reconcileListed_nil hne, reconcileListed_nil hnil]
    exact ⟨rfl, rfl⟩
  · have hne' : listedTasks db e ≠ [] := fun hnil => hne (List.perm_nil.mp (hnil ▸ hids))
    obtain ⟨moved₁, hsettling₁, hend₁, hquiet₁⟩ :=
      loop_end now (loopState_listed hwf he hdeps hids)
    obtain ⟨moved₂, hsettling₂, hend₂, hquiet₂⟩ :=
      loop_end now (loopState_listed hwf he (.refl _) (.refl _))
    have htasks := settledRow_unique hwf (hsettling₁.tasks_eq hquiet₁)
      (hsettling₂.tasks_eq hquiet₂) hsettling₁.dependencies hsettling₂.dependencies
    have he₁ := he
    have he₂ := he
    rw [← hsettling₁.engagements] at he₁
    rw [← hsettling₂.engagements] at he₂
    have htables₁ := reconcileListed_tables he₁ hne hend₁ rfl
    have htables₂ := reconcileListed_tables he₂ hne' hend₂ rfl
    refine ⟨htables₁.2.1.trans (htasks.trans htables₂.2.1.symm), ?_⟩
    rw [htables₁.1, htables₂.1, hsettling₁.engagements, hsettling₂.engagements]
    have hfound : ∀ t, t ∈ ids.filterMap (reconcileLoop deps now ids (ids.length + 1) db).findTask ↔
        t ∈ (listedTasks db e).filterMap (reconcileLoop (listedDependencies db e) now
          (listedTasks db e) ((listedTasks db e).length + 1) db).findTask := by
      intro t
      rw [hend₁.mem_found, hend₂.mem_found, htasks]
    rw [settledEngagement_congr hfound]

theorem Quiescent.of_tables {db' : Database} (h : Quiescent db E) (htasks : db'.tasks = db.tasks)
    (hdeps : db'.dependencies = db.dependencies) : Quiescent db' E := by
  unfold Quiescent Obstructed Satisfied at *
  rw [htasks, hdeps]
  exact h

theorem reconcileEngagement_twice (hwf : WellFormed db) (he : e ∈ db.engagements)
    (now later : Timestamp) {e' : Engagement}
    (he' : e' ∈ (reconcileEngagement db now e).engagements)
    (hid : e'.engagementId = e.engagementId) :
    ∃ completedAt, (later = now → completedAt = e'.completedAt) ∧
      reconcileEngagement (reconcileEngagement db now e) later e' =
        (reconcileEngagement db now e).putEngagement { e' with completedAt := completedAt } := by
  have hwf' : WellFormed (reconcileEngagement db now e) :=
    (reconcileEngagement_spec hwf he).wellFormed hwf
  generalize hresult : reconcileEngagement db now e = result at *
  have hagain : reconcileEngagement result later e' = _ := reconcileEngagement_eq hwf' he'
  have hs' := loopState_listed hwf' he' (.refl _) (.refl _)
  by_cases hnil : listedTasks result e' = []
  · refine ⟨e'.completedAt, fun _ => rfl, ?_⟩
    rw [hagain, reconcileListed_nil hnil]
    exact (putEngagement_self hwf' he').symm
  · have hne : listedTasks db e ≠ [] := by
      intro hempty
      have hsame : result = db :=
        hresult.symm.trans ((reconcileEngagement_eq hwf he).trans (reconcileListed_nil hempty))
      subst hsame
      rw [hwf.eq_of_engagementId he' he hid] at hnil
      exact hnil hempty
    obtain ⟨moved, hsettling, hend, hquiet⟩ :=
      loop_end now (loopState_listed hwf he (.refl _) (.refl _))
    generalize hloop : reconcileLoop (listedDependencies db e) now (listedTasks db e)
      ((listedTasks db e).length + 1) db = s at *
    have he₁ : e ∈ s.engagements := by
      rw [hsettling.engagements]
      exact he
    obtain ⟨hengagements, htasks, hdeps⟩ := reconcileListed_tables he₁ hne hend hloop
    rw [← reconcileEngagement_eq hwf he, hresult] at hengagements htasks hdeps
    -- the row of the engagement is the settled one, and no task can be moved
    have hrow : e' = settledEngagement now ((listedTasks db e).filterMap s.findTask) e := by
      have hkey := (settledEngagement_id now ((listedTasks db e).filterMap s.findTask) e).1
      refine hwf'.eq_of_engagementId he' ?_ (hid.trans hkey.symm)
      rw [hengagements]
      exact Table.mem_put_self he₁ hkey
    have hquiet' : Quiescent result e'.engagementId := by
      rw [hid]
      exact hquiet.of_tables htasks hdeps
    have hstays : reconcileLoop (listedDependencies result e') later (listedTasks result e')
        ((listedTasks result e').length + 1) result = result := by
      refine Saturate.loop_of_saturated (fun id hmem => ?_) _
      obtain ⟨t, ht, hE, rfl⟩ := (hs'.ids id).mp hmem
      exact reconcileTask_quiescent hwf' hs'.dependencies hquiet' ht hE
    have hfound : ∀ t, t ∈ (listedTasks result e').filterMap result.findTask ↔
        t ∈ (listedTasks db e).filterMap s.findTask := by
      intro t
      rw [hs'.mem_found, hend.mem_found, htasks, hid]
    have hsettled : e'.status ≠ .cancelled → e'.status = (engagementTarget
        (((listedTasks result e').filterMap result.findTask).map (·.status))).1 := by
      rw [target_congr hfound, hrow]
      exact settledEngagement_status now _ e
    have hwrite : reconcileListed result later e' (listedDependencies result e')
        (listedTasks result e') = result.putEngagement (settledEngagement later
          ((listedTasks result e').filterMap result.findTask) e') := by
      unfold reconcileListed
      rw [if_neg (by simpa using hnil), hstays]
      exact reconcileEngagementStatus_settled hwf' he' hsettled
    obtain ⟨completedAt, hstamp⟩ := settledEngagement_stamp later hsettled
    refine ⟨completedAt, ?_, by rw [hagain, hwrite, hstamp]⟩
    rintro rfl
    have hsame : settledEngagement later ((listedTasks result e').filterMap result.findTask) e' =
        e' := by
      rw [settledEngagement_congr hfound, hrow]
      exact settledEngagement_twice later _ e
    rw [hsame] at hstamp
    exact (congrArg Engagement.completedAt hstamp).symm

end Listed

/-- What the reconciliation of `e` owes to nobody's order. -/
structure Confluent (db : Database) (now : Timestamp) (e : Engagement) : Prop where
  terminates : ∀ fuel, (listedTasks db e).length < fuel →
    reconcileLoop (listedDependencies db e) now (listedTasks db e) fuel db =
        reconcileLoop (listedDependencies db e) now (listedTasks db e)
          ((listedTasks db e).length + 1) db ∧
      (Saturate.pass (reconcileTask (listedDependencies db e) now) (listedTasks db e)
        (reconcileLoop (listedDependencies db e) now (listedTasks db e) fuel db)).2 = false
  movesOnce : ∃ events, (reconcileEngagement db now e).auditEvents = db.auditEvents ++ events ∧
    (events.filterMap (·.taskId)).Nodup ∧
    ∀ t ∈ db.tasks, t ∉ (reconcileEngagement db now e).tasks →
      t.status = .pending ∧ t.taskId ∈ events.filterMap (·.taskId)
  anyOrder : ∀ taskIds, taskIds.Perm (listedTasks db e) →
    ∀ dependencies, dependencies.Perm (listedDependencies db e) →
      (reconcileListed db now e dependencies taskIds).tasks = (reconcileEngagement db now e).tasks ∧
        (reconcileListed db now e dependencies taskIds).engagements =
          (reconcileEngagement db now e).engagements
  idempotent : ∀ e' ∈ (reconcileEngagement db now e).engagements,
    e'.engagementId = e.engagementId →
      reconcileEngagement (reconcileEngagement db now e) now e' = reconcileEngagement db now e ∧
      ∀ later, ∃ completedAt, reconcileEngagement (reconcileEngagement db now e) later e' =
        (reconcileEngagement db now e).putEngagement { e' with completedAt := completedAt }

section Confluence

variable {db : Database} {e : Engagement}

theorem reconcileLoop_terminates (hwf : WellFormed db) (he : e ∈ db.engagements) (now : Timestamp)
    {fuel : Nat} (hfuel : (listedTasks db e).length < fuel) :
    reconcileLoop (listedDependencies db e) now (listedTasks db e) fuel db =
        reconcileLoop (listedDependencies db e) now (listedTasks db e)
          ((listedTasks db e).length + 1) db ∧
      (Saturate.pass (reconcileTask (listedDependencies db e) now) (listedTasks db e)
        (reconcileLoop (listedDependencies db e) now (listedTasks db e) fuel db)).2 = false := by
  have hs := loopState_listed hwf he (.refl _) (.refl _)
  have hlower : ∀ s s', LoopState (listedDependencies db e) (listedTasks db e) e.engagementId s →
      Saturate.Change (reconcileTask (listedDependencies db e) now) (listedTasks db e) s s' →
      LoopState (listedDependencies db e) (listedTasks db e) e.engagementId s' ∧
        pendingCount (listedTasks db e) s' < pendingCount (listedTasks db e) s :=
    fun s s' hs hc => (change_spec hs hc).2
  have hcount : pendingCount (listedTasks db e) db ≤ (listedTasks db e).length :=
    List.countP_le_length
  have hsaturated := Saturate.loop_saturated hlower fuel db hs (by omega)
  refine ⟨Saturate.loop_fuel hlower fuel _ db hs (by omega) (by omega), ?_⟩
  unfold reconcileLoop
  rw [Saturate.pass_of_saturated hsaturated]

theorem reconcileEngagement_events (hwf : WellFormed db) (he : e ∈ db.engagements)
    (now : Timestamp) :
    ∃ events, (reconcileEngagement db now e).auditEvents = db.auditEvents ++ events ∧
      (events.filterMap (·.taskId)).Nodup ∧
      ∀ t ∈ db.tasks, t ∉ (reconcileEngagement db now e).tasks →
        t.status = .pending ∧ t.taskId ∈ events.filterMap (·.taskId) := by
  rw [reconcileEngagement_eq hwf he]
  by_cases hempty : listedTasks db e = []
  · rw [reconcileListed_nil hempty]
    exact ⟨[], by simp, List.nodup_nil, fun t ht hgone => absurd ht hgone⟩
  · obtain ⟨moved, hsettling, hend, -⟩ :=
      loop_end now (loopState_listed hwf he (.refl _) (.refl _))
    have he₁ := he
    rw [← hsettling.engagements] at he₁
    have htasks := (reconcileListed_tables he₁ hempty hend rfl).2.1
    obtain ⟨events, hevents, hids⟩ := hsettling.events
    obtain ⟨last, hlast, hnone⟩ := reconcileEngagementStatus_events
      (reconcileLoop (listedDependencies db e) now (listedTasks db e)
        ((listedTasks db e).length + 1) db) now e ((listedTasks db e).filterMap
          (reconcileLoop (listedDependencies db e) now (listedTasks db e)
            ((listedTasks db e).length + 1) db).findTask)
    have hmoved : (events ++ last).filterMap (·.taskId) = moved := by
      rw [List.filterMap_append, hnone, List.append_nil]
      have hall := congrArg (List.filterMap id) hids
      rw [List.filterMap_map, List.filterMap_map] at hall
      simpa using hall
    refine ⟨events ++ last, ?_, ?_, ?_⟩
    · unfold reconcileListed
      rw [if_neg (by simpa using hempty)]
      rw [← List.append_assoc, ← hevents]
      exact hlast
    · rw [hmoved]
      exact hsettling.nodup
    · intro t ht hgone
      rw [hmoved]
      have hmem : t.taskId ∈ moved := by
        by_contra hkept
        refine hgone ?_
        rw [htasks, hsettling.tasks]
        exact List.mem_map.mpr ⟨t, ht, if_neg hkept⟩
      exact ⟨(hsettling.moves t ht hmem).2.1, hmem⟩

/-- **Reconciliation.**  It ends, moves a task once, does not depend on the order of its lists and
leaves nothing for a second one. -/
theorem reconcile_confluent (hwf : WellFormed db) (he : e ∈ db.engagements) (now : Timestamp) :
    Confluent db now e where
  terminates fuel hfuel := reconcileLoop_terminates hwf he now hfuel
  movesOnce := reconcileEngagement_events hwf he now
  anyOrder taskIds hids dependencies hdeps := reconcileListed_perm now hwf he hdeps hids
  idempotent e' he' hid := by
    refine ⟨?_, fun later => ?_⟩
    · obtain ⟨completedAt, hsame, htwice⟩ := reconcileEngagement_twice hwf he now now he' hid
      have hwf' : WellFormed (reconcileEngagement db now e) :=
        (reconcileEngagement_spec hwf he).wellFormed hwf
      rw [htwice, hsame rfl]
      exact putEngagement_self hwf' he'
    · obtain ⟨completedAt, -, htwice⟩ := reconcileEngagement_twice hwf he now later he' hid
      exact ⟨completedAt, htwice⟩

/-- The two tasks right after their compilation, one of which is released. -/
theorem reconcile_confluent_compiled :
    ∃ e ∈ (run sampleDatabase [(0, sampleCompile sampleTasks sampleTasks_ne_nil)]).engagements,
      Confluent (run sampleDatabase [(0, sampleCompile sampleTasks sampleTasks_ne_nil)]) 1 e := by
  obtain ⟨e, he, -⟩ : ∃ e ∈ (run sampleDatabase
      [(0, sampleCompile sampleTasks sampleTasks_ne_nil)]).engagements, e.status = .planned := by
    decide +kernel
  exact ⟨e, he, reconcile_confluent (run_wellFormed sampleDatabase_fresh.wellFormed) he 1⟩

end Confluence

end Orchestration
