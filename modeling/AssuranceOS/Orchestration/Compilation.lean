/-
What the workflow compiler guarantees.

An accepted workflow has distinct keys, its dependencies are known keys, and it
has no dependency cycle: `validate_rank` gives a rank that grows from every
dependency to its dependant.  `compileWorkflow_compiled` says which rows a
compilation adds, and `Compiled.wellFormed` that the tables stay well formed.
-/
import AssuranceOS.Orchestration.Operations

namespace Orchestration

namespace WorkflowCompiler

variable {tasks : List TaskDefinition}

/-- What `validate` checks before it looks for cycles. -/
structure WellKeyed (tasks : List TaskDefinition) : Prop where
  keys : (taskKeys tasks).Nodup
  dependencies : ∀ task ∈ tasks, (dependencyKeys task).Nodup
  known : ∀ task ∈ tasks, ∀ key ∈ dependencyKeys task, key ∈ taskKeys tasks

variable {key : String}
variable {l known : List String} {task : TaskDefinition} {workflow : WorkflowDefinition}

theorem mem_sorted : key ∈ sorted l ↔ key ∈ l :=
  List.mem_insertionSort _

theorem nodup_sorted : (sorted l).Nodup ↔ l.Nodup :=
  (List.perm_insertionSort _ _).nodup_iff

theorem validateTask_ok (h : validateTask known task = .ok ()) :
    (dependencyKeys task).Nodup ∧ ∀ key ∈ dependencyKeys task, key ∈ known := by
  unfold validateTask at h
  dsimp only at h
  split at h
  · exact absurd h (by simp)
  · rename_i hnodup
    split at h
    · exact absurd h (by simp)
    · rename_i hmissing
      refine ⟨by simpa using hnodup, fun key hkey => ?_⟩
      by_contra hunknown
      have hmem : key ∈ sorted ((dependencyKeys task).dedup.filter fun key => key ∉ known) := by
        rw [mem_sorted, List.mem_filter, List.mem_dedup]
        exact ⟨hkey, by simpa using hunknown⟩
      have hnil : sorted ((dependencyKeys task).dedup.filter fun key => key ∉ known) = [] := by
        simpa using hmissing
      rw [hnil] at hmem
      exact absurd hmem List.not_mem_nil

theorem forM_validateTask_ok :
    ∀ {l : List TaskDefinition}, l.forM (validateTask known) = .ok () →
      ∀ task ∈ l, validateTask known task = .ok () := by
  intro l
  induction l with
  | nil =>
    intro _ task htask
    exact absurd htask List.not_mem_nil
  | cons head l ih =>
    intro h task htask
    change (validateTask known head >>= fun _ => l.forM (validateTask known)) = .ok () at h
    rcases hhead : validateTask known head with err | u
    · rw [hhead] at h
      exact absurd h (by simp [bind, Except.bind])
    · rw [hhead] at h
      rcases List.mem_cons.mp htask with rfl | htask
      · exact hhead
      · exact ih h task htask

theorem validate_ok (h : validate workflow = .ok ()) :
    WellKeyed workflow.tasks ∧ assertAcyclic workflow.tasks = .ok () := by
  unfold validate at h
  dsimp only at h
  split at h
  · exact absurd h (by simp [throw, throwThe, MonadExceptOf.throw, bind, Except.bind])
  · rename_i hkeys
    rcases hall : workflow.tasks.forM (validateTask (taskKeys workflow.tasks)) with err | u
    · rw [hall] at h
      exact absurd h (by simp [bind, Except.bind])
    · rw [hall] at h
      refine ⟨⟨by simpa using hkeys, fun task htask => ?_, fun task htask => ?_⟩, h⟩
      · exact (validateTask_ok (forM_validateTask_ok hall task htask)).1
      · exact (validateTask_ok (forM_validateTask_ok hall task htask)).2

theorem mem_children {c : String} :
    c ∈ children tasks key ↔ ∃ task ∈ tasks, task.key = c ∧ key ∈ dependencyKeys task := by
  simp only [children, mem_sorted, List.mem_flatMap, List.mem_map, List.mem_filter,
    decide_eq_true_eq, dependencyKeys]
  constructor
  · rintro ⟨task, htask, d, ⟨hd, hkey⟩, hc⟩
    exact ⟨task, htask, hc, d, hd, hkey⟩
  · rintro ⟨task, htask, hc, d, hd, hkey⟩
    exact ⟨task, htask, d, ⟨hd, hkey⟩, hc⟩

theorem WellKeyed.eq_of_key (h : WellKeyed tasks) {a b : TaskDefinition} (ha : a ∈ tasks)
    (hb : b ∈ tasks) (hkey : a.key = b.key) : a = b :=
  List.inj_on_of_nodup_map h.keys ha hb hkey

theorem WellKeyed.nodup_children (h : WellKeyed tasks) (key : String) :
    (children tasks key).Nodup := by
  rw [children, nodup_sorted, List.nodup_flatMap]
  constructor
  · intro task htask
    -- at most one dependency of the task names `key`
    have hsub : ((task.dependencies.filter fun d => d.taskKey = key).map (·.taskKey)).Nodup :=
      (h.dependencies task htask).sublist (List.filter_sublist.map _)
    refine List.Nodup.map_on (fun a ha b hb _ => ?_) (List.Nodup.of_map _ hsub)
    have hka : a.taskKey = key := by simpa using (List.mem_filter.mp ha).2
    have hkb : b.taskKey = key := by simpa using (List.mem_filter.mp hb).2
    exact List.inj_on_of_nodup_map hsub ha hb (hka.trans hkb.symm)
  · have hpair : tasks.Pairwise fun a b => a.key ≠ b.key := List.pairwise_map.mp h.keys
    refine hpair.imp fun hne c hca hcb => hne ?_
    simp only [List.mem_map] at hca hcb
    obtain ⟨-, -, rfl⟩ := hca
    obtain ⟨-, -, hc⟩ := hcb
    exact hc.symm

theorem filter_key_eq (h : (taskKeys tasks).Nodup) (htask : task ∈ tasks) :
    tasks.filter (fun other => other.key = task.key) = [task] := by
  induction tasks with
  | nil => exact absurd htask List.not_mem_nil
  | cons head rest ih =>
    rw [taskKeys, List.map_cons, List.nodup_cons] at h
    rcases List.mem_cons.mp htask with rfl | htask
    · have hnone : rest.filter (fun other => other.key = task.key) = [] := by
        refine List.filter_eq_nil_iff.mpr fun other hother => ?_
        intro heq
        exact h.1 (List.mem_map.mpr ⟨other, hother, by simpa using heq⟩)
      rw [List.filter_cons_of_pos (by simp), hnone]
    · have hne : head.key ≠ task.key := fun heq =>
        h.1 (List.mem_map.mpr ⟨task, htask, heq.symm⟩)
      rw [List.filter_cons_of_neg (by simpa using hne)]
      exact ih h.2 htask

theorem WellKeyed.indegree_eq (h : WellKeyed tasks) (hkey : key ∈ taskKeys tasks) :
    indegree tasks key =
      (Kahn.waiting (taskKeys tasks).toFinset (children tasks) [] key).card := by
  obtain ⟨task, htask, rfl⟩ := List.mem_map.mp hkey
  have hparents : Kahn.waiting (taskKeys tasks).toFinset (children tasks) [] task.key =
      (dependencyKeys task).toFinset := by
    ext p
    simp only [Kahn.waiting, Finset.mem_filter, List.mem_toFinset, mem_children,
      List.not_mem_nil, not_false_eq_true, and_true]
    constructor
    · rintro ⟨-, other, hother, hk, hp⟩
      rw [← h.eq_of_key hother htask hk]
      exact hp
    · intro hp
      exact ⟨h.known task htask p hp, task, htask, rfl, hp⟩
  rw [hparents, List.toFinset_card_of_nodup (h.dependencies task htask), indegree,
    filter_key_eq h.keys htask]
  simp [dependencyKeys]

theorem WellKeyed.children_spec (h : WellKeyed tasks) :
    ∀ key ∈ (taskKeys tasks).toFinset, (children tasks key).Nodup ∧
      ∀ c ∈ children tasks key, c ∈ (taskKeys tasks).toFinset := by
  intro key _
  refine ⟨h.nodup_children key, fun c hc => ?_⟩
  obtain ⟨task, htask, rfl, -⟩ := mem_children.mp hc
  exact List.mem_toFinset.mpr (List.mem_map_of_mem htask)

theorem WellKeyed.sound (h : WellKeyed tasks) :
    Kahn.Sound (taskKeys tasks).toFinset (children tasks) (indegree tasks)
      (sorted ((taskKeys tasks).filter fun key => indegree tasks key = 0)) [] where
  nodup := by
    rw [List.nil_append, nodup_sorted]
    exact h.keys.filter _
  subset := by
    intro key hkey
    rw [List.nil_append, mem_sorted] at hkey
    exact List.mem_toFinset.mpr (List.mem_filter.mp hkey).1
  degree := fun key hkey => h.indegree_eq (List.mem_toFinset.mp hkey)
  parents := by
    intro key hkey p hp hc
    rw [List.nil_append, mem_sorted, List.mem_filter, decide_eq_true_eq] at hkey
    have hcard := h.indegree_eq hkey.1
    rw [hkey.2] at hcard
    have hempty : Kahn.waiting (taskKeys tasks).toFinset (children tasks) [] key = ∅ :=
      Finset.card_eq_zero.mp (by omega)
    have hmem : p ∈ Kahn.waiting (taskKeys tasks).toFinset (children tasks) [] key :=
      Finset.mem_filter.mpr ⟨hp, hc, List.not_mem_nil⟩
    rw [hempty] at hmem
    exact absurd hmem (Finset.notMem_empty p)
  ordered := fun key hkey => absurd hkey List.not_mem_nil

theorem WellKeyed.card (h : WellKeyed tasks) : (taskKeys tasks).toFinset.card = tasks.length := by
  rw [List.toFinset_card_of_nodup h.keys, taskKeys, List.length_map]

/-- **An accepted workflow is acyclic.** -/
theorem validate_rank (h : validate workflow = .ok ()) :
    ∃ rank : String → Nat, ∀ task ∈ workflow.tasks, ∀ key ∈ dependencyKeys task,
      rank key < rank task.key := by
  obtain ⟨hkeyed, hacyclic⟩ := validate_ok h
  have hlen : (visitAll workflow.tasks).2.length = workflow.tasks.length := by
    unfold assertAcyclic at hacyclic
    dsimp only at hacyclic
    split at hacyclic
    · exact absurd hacyclic (by simp)
    · rename_i hlen
      simpa using hlen
  obtain ⟨rank, hrank⟩ := Kahn.visit_rank hkeyed.children_spec hkeyed.sound
    (hlen.trans hkeyed.card.symm)
  refine ⟨rank, fun task htask key hkey => ?_⟩
  exact hrank key (List.mem_toFinset.mpr (hkeyed.known task htask key hkey)) task.key
    (mem_children.mpr ⟨task, htask, rfl, hkey⟩)

end WorkflowCompiler

/-! ### The rows of a compilation -/

open Orchestrator

/-- A task as the compiler inserts it. -/
structure NewTask (tenantId engagementId : String) (t : EngagementTask) : Prop where
  tenantId : t.tenantId = tenantId
  engagementId : t.engagementId = engagementId
  status : t.status = .pending
  attemptCount : t.attemptCount = 0
  leaseOwner : t.leaseOwner = none
  leaseExpiresAt : t.leaseExpiresAt = none
  reviewStatus : t.reviewStatus = none

/-- The rows and events that an accepted `compile_workflow` adds. -/
structure Compiled (now : Timestamp) (tenantId engagementId : String)
    (rows : List EngagementTask) (deps : List TaskDependency) (db db' : Database) : Prop where
  engagement : ∃ e ∈ db.engagements, e.tenantId = tenantId ∧ e.engagementId = engagementId
  vacant : ∀ t ∈ db.tasks, ¬ (t.tenantId = tenantId ∧ t.engagementId = engagementId)
  engagements : db'.engagements = db.engagements
  attempts : db'.attempts = db.attempts
  tasks : db'.tasks = db.tasks ++ rows
  dependencies : db'.dependencies = db.dependencies ++ deps
  new : ∀ t ∈ rows, NewTask tenantId engagementId t
  ids : (rows.map (·.taskId)).Nodup
  fresh : ∀ t ∈ rows, ∀ u ∈ db.tasks, u.taskId ≠ t.taskId
  ends : ∀ d ∈ deps, d.tenantId = tenantId ∧ (∃ t ∈ rows, t.taskId = d.taskId) ∧
    ∃ p ∈ rows, p.taskId = d.dependsOnTaskId
  allowed : ∀ d ∈ deps, ∀ s ∈ d.allowedStatuses, s = TaskStatus.succeeded ∨ s = TaskStatus.skipped
  acyclic : ∃ rank : String → Nat, ∀ d ∈ deps, rank d.dependsOnTaskId < rank d.taskId
  event : ∃ version metadata, db'.auditEvents =
    ((rows.foldl (fun db t => recordTaskCreated db now t) db).recordEngagement now tenantId
      engagementId (.workflowCompiled version rows.length metadata)).auditEvents

section Compile

open WorkflowCompiler

variable {now : Timestamp} {db db' : Database} {tenantId engagementId : String}
  {workflow : WorkflowDefinition} {taskIds : String → String} {createdAt : String → Timestamp}
variable {d : TaskDependency} {rows : List EngagementTask}

theorem mem_dependencyRows :
    d ∈ workflow.tasks.flatMap (dependencyRows tenantId taskIds) ↔
      ∃ task ∈ workflow.tasks, ∃ dep ∈ task.dependencies,
        d = { tenantId := tenantId, taskId := taskIds task.key,
              dependsOnTaskId := taskIds dep.taskKey,
              allowedStatuses :=
                [TaskStatus.skipped, .succeeded].filter (· ∈ dep.allowedStatuses) } := by
  simp only [List.mem_flatMap, dependencyRows, List.mem_map]
  constructor
  · rintro ⟨task, htask, dep, hdep, rfl⟩
    exact ⟨task, htask, dep, hdep, rfl⟩
  · rintro ⟨task, htask, dep, hdep, rfl⟩
    exact ⟨task, htask, dep, hdep, rfl⟩

theorem dependencyRows_rank (hvalid : validate workflow = .ok ())
    (hids : ((taskKeys workflow.tasks).map taskIds).Nodup) :
    ∃ rank : String → Nat, ∀ d ∈ workflow.tasks.flatMap (dependencyRows tenantId taskIds),
      rank d.dependsOnTaskId < rank d.taskId := by
  obtain ⟨rank, hrank⟩ := validate_rank hvalid
  obtain ⟨hkeyed, -⟩ := validate_ok hvalid
  -- the identifiers are distinct, so each is the identifier of one key
  set keyOf : String → String := fun id =>
    ((taskKeys workflow.tasks).find? fun key => taskIds key = id).getD ""
  have hinv : ∀ key ∈ taskKeys workflow.tasks, keyOf (taskIds key) = key := by
    intro key hkey
    show ((taskKeys workflow.tasks).find? fun k => taskIds k = taskIds key).getD "" = key
    rcases hfind : (taskKeys workflow.tasks).find? fun k => taskIds k = taskIds key with _ | k
    · have hnone := List.find?_eq_none.mp hfind key hkey
      simp at hnone
    · rw [Option.getD_some]
      have hk : taskIds k = taskIds key := by simpa using List.find?_some hfind
      exact List.inj_on_of_nodup_map hids (List.mem_of_find?_eq_some hfind) hkey hk
  refine ⟨fun id => rank (keyOf id), fun d hd => ?_⟩
  obtain ⟨task, htask, dep, hdep, rfl⟩ := mem_dependencyRows.mp hd
  have hdepKey : dep.taskKey ∈ dependencyKeys task := List.mem_map_of_mem hdep
  show rank (keyOf (taskIds dep.taskKey)) < rank (keyOf (taskIds task.key))
  rw [hinv _ (hkeyed.known task htask _ hdepKey), hinv _ (List.mem_map_of_mem htask)]
  exact hrank task htask _ hdepKey

theorem dependencyRows_ends (hkeyed : WellKeyed workflow.tasks) (hrows : rows = workflow.tasks.map
      (taskRow tenantId engagementId workflow now taskIds createdAt))
    (hd : d ∈ workflow.tasks.flatMap (dependencyRows tenantId taskIds)) :
    d.tenantId = tenantId ∧ (∃ t ∈ rows, t.taskId = d.taskId) ∧
      ∃ p ∈ rows, p.taskId = d.dependsOnTaskId := by
  have hrow : ∀ task ∈ workflow.tasks, ∃ t ∈ rows, t.taskId = taskIds task.key := by
    intro task htask
    rw [hrows]
    exact ⟨_, List.mem_map_of_mem htask, rfl⟩
  obtain ⟨task, htask, dep, hdep, rfl⟩ := mem_dependencyRows.mp hd
  -- the prerequisite is a key of the workflow, so it has a row too
  obtain ⟨parent, hparent, hkey⟩ := List.mem_map.mp
    (hkeyed.known task htask _ (List.mem_map_of_mem hdep))
  obtain ⟨p, hp, hpid⟩ := hrow parent hparent
  exact ⟨rfl, hrow task htask, p, hp, by rw [hpid, hkey]⟩

theorem dependencyRows_allowed (hd : d ∈ workflow.tasks.flatMap (dependencyRows tenantId taskIds)) :
    ∀ s ∈ d.allowedStatuses, s = TaskStatus.succeeded ∨ s = TaskStatus.skipped := by
  intro s hs
  obtain ⟨task, -, dep, -, rfl⟩ := mem_dependencyRows.mp hd
  have hmem := (List.mem_filter.mp hs).1
  simp only [List.mem_cons, List.not_mem_nil, or_false] at hmem
  exact hmem.symm

theorem compile_ok {tasks : List EngagementTask}
    (h : compile db tenantId engagementId workflow now taskIds createdAt = .ok (db', tasks)) :
    validate workflow = .ok () ∧
      (∀ t ∈ db.tasks, ¬ (t.tenantId = tenantId ∧ t.engagementId = engagementId)) ∧
      tasks = workflow.tasks.map
        (taskRow tenantId engagementId workflow now taskIds createdAt) ∧
      insertable db tenantId tasks ∧
      db' = { db with
        tasks := db.tasks ++ tasks
        dependencies := db.dependencies ++
          workflow.tasks.flatMap (dependencyRows tenantId taskIds) } := by
  unfold compile at h
  split at h
  · exact absurd h (by simp)
  · rename_i hvalid
    split at h
    · exact absurd h (by simp)
    · rename_i hvacant
      dsimp only at h
      split at h
      · rename_i hins
        simp only [Except.ok.injEq, Prod.mk.injEq] at h
        obtain ⟨rfl, rfl⟩ := h
        refine ⟨hvalid, fun t ht hc => hvacant ?_, rfl, hins, rfl⟩
        exact List.any_eq_true.mpr ⟨t, ht, by simpa using hc⟩
      · exact absurd h (by simp)

theorem foldl_recordTaskCreated (rows : List EngagementTask) (db₁ : Database) :
    rows.foldl (fun db t => recordTaskCreated db now t) db₁ =
      { db₁ with
        auditEvents := (rows.foldl (fun db t => recordTaskCreated db now t) db₁).auditEvents
        outbox := (rows.foldl (fun db t => recordTaskCreated db now t) db₁).outbox } := by
  induction rows generalizing db₁ with
  | nil => rfl
  | cons t rows ih =>
    rw [List.foldl_cons, ih]
    rfl

theorem foldl_recordTaskCreated_congr (now : Timestamp) (rows : List EngagementTask)
    {db₁ db₂ : Database}
    (hev : db₁.auditEvents = db₂.auditEvents) (hid : db₁.uuid = db₂.uuid) :
    (rows.foldl (fun db t => recordTaskCreated db now t) db₁).auditEvents =
        (rows.foldl (fun db t => recordTaskCreated db now t) db₂).auditEvents ∧
      (rows.foldl (fun db t => recordTaskCreated db now t) db₁).uuid =
        (rows.foldl (fun db t => recordTaskCreated db now t) db₂).uuid := by
  induction rows generalizing db₁ db₂ with
  | nil => exact ⟨hev, hid⟩
  | cons t rows ih =>
    rw [List.foldl_cons, List.foldl_cons]
    exact ih (record_auditEvents hev hid _ _ _ _ _ _) hid

/-- **What `compile_workflow` does.** -/
theorem compileWorkflow_compiled {s : EngagementSnapshot}
    (h : compileWorkflow db now tenantId engagementId workflow taskIds createdAt = .ok (db', s)) :
    ∃ rows deps, Compiled now tenantId engagementId rows deps db db' := by
  obtain ⟨e, he, hten, hid, h⟩ := requireEngagement_bind_ok h
  rcases hc : compile db tenantId engagementId workflow now taskIds createdAt with err | ⟨db₁, rows⟩
  · rw [hc] at h
    exact absurd h (by simp [bind, Except.bind])
  · rw [hc] at h
    obtain ⟨hvalid, hvacant, hrows, hins, hdb⟩ := compile_ok hc
    have hdb' := withSnapshot_ok h
    obtain ⟨hkeyed, -⟩ := validate_ok hvalid
    simp only [insertable, Bool.and_eq_true, decide_eq_true_eq, List.all_eq_true] at hins
    obtain ⟨⟨⟨hids, hfresh⟩, -⟩, -⟩ := hins
    have hrowIds : rows.map (·.taskId) = (taskKeys workflow.tasks).map taskIds := by
      rw [hrows, taskKeys, List.map_map, List.map_map]
      rfl
    rw [foldl_recordTaskCreated] at hdb'
    refine ⟨rows, workflow.tasks.flatMap (dependencyRows tenantId taskIds),
      { engagement := ⟨e, he, hten, hid⟩
        vacant := hvacant
        engagements := by rw [hdb', hdb]; rfl
        attempts := by rw [hdb', hdb]; rfl
        tasks := by rw [hdb', hdb]; rfl
        dependencies := by rw [hdb', hdb]; rfl
        new := ?_
        ids := hids
        fresh := fun t ht u hu => by simpa using hfresh t ht u hu
        ends := fun d hd => dependencyRows_ends hkeyed hrows hd
        allowed := fun d hd => dependencyRows_allowed hd
        acyclic := dependencyRows_rank hvalid (hrowIds ▸ hids)
        event := ?_ }⟩
    · intro t ht
      rw [hrows] at ht
      obtain ⟨task, -, rfl⟩ := List.mem_map.mp ht
      exact ⟨rfl, rfl, rfl, rfl, rfl, rfl, rfl⟩
    · refine ⟨workflow.workflowVersion, workflow.metadata, ?_⟩
      rw [hdb', ← foldl_recordTaskCreated]
      -- the rows are inserted before the events, which do not read them
      obtain ⟨hev, huuid⟩ := foldl_recordTaskCreated_congr now rows
        (show db₁.auditEvents = db.auditEvents by rw [hdb]) (by rw [hdb])
      exact record_auditEvents hev huuid _ _ _ _ _ _

variable {deps : List TaskDependency}

theorem Compiled.mem_tasks (h : Compiled now tenantId engagementId rows deps db db')
    {t : EngagementTask} :
    t ∈ db'.tasks ↔ t ∈ db.tasks ∨ t ∈ rows := by
  rw [h.tasks, List.mem_append]

theorem Compiled.wellFormed (h : Compiled now tenantId engagementId rows deps db db')
    (hwf : WellFormed db) :
    WellFormed db' where
  engagementKeys := by
    rw [h.engagements]
    exact hwf.engagementKeys
  taskKeys := by
    rw [h.tasks, List.map_append, List.nodup_append]
    refine ⟨hwf.taskKeys, h.ids, ?_⟩
    intro a ha b hb heq
    obtain ⟨u, hu, rfl⟩ := List.mem_map.mp ha
    obtain ⟨t, ht, rfl⟩ := List.mem_map.mp hb
    exact h.fresh t ht u hu heq
  taskEngagement := by
    intro t ht
    rw [h.engagements]
    rcases h.mem_tasks.mp ht with ht | ht
    · exact hwf.taskEngagement t ht
    · obtain ⟨e, he, hten, hid⟩ := h.engagement
      have hnew := h.new t ht
      exact ⟨e, he, by rw [hid, hnew.engagementId], by rw [hten, hnew.tenantId]⟩
  dependencyEnds := by
    intro d hd
    rw [h.dependencies, List.mem_append] at hd
    rcases hd with hd | hd
    · obtain ⟨t, ht, p, hp, hends⟩ := hwf.dependencyEnds d hd
      exact ⟨t, h.mem_tasks.mpr (Or.inl ht), p, h.mem_tasks.mpr (Or.inl hp), hends⟩
    · obtain ⟨hten, ⟨t, ht, htid⟩, p, hp, hpid⟩ := h.ends d hd
      refine ⟨t, h.mem_tasks.mpr (Or.inr ht), p, h.mem_tasks.mpr (Or.inr hp), htid, hpid, ?_, ?_⟩
      · rw [(h.new t ht).tenantId, hten]
      · rw [(h.new t ht).engagementId, (h.new p hp).engagementId]
  allowed := by
    intro d hd
    rw [h.dependencies, List.mem_append] at hd
    rcases hd with hd | hd
    · exact hwf.allowed d hd
    · exact h.allowed d hd
  acyclic := by
    classical
    obtain ⟨old, hold⟩ := hwf.acyclic
    obtain ⟨new, hnew⟩ := h.acyclic
    -- old and new identifiers are disjoint, so the ranks can be put side by side
    refine ⟨fun id => if ∃ t ∈ rows, t.taskId = id then new id else old id, fun d hd => ?_⟩
    rw [h.dependencies, List.mem_append] at hd
    beta_reduce
    rcases hd with hd | hd
    · obtain ⟨t, ht, p, hp, htid, hpid, -⟩ := hwf.dependencyEnds d hd
      have hne : ∀ u ∈ db.tasks, ¬ ∃ r ∈ rows, r.taskId = u.taskId := by
        rintro u hu ⟨r, hr, heq⟩
        exact h.fresh r hr u hu heq.symm
      rw [← htid, ← hpid, if_neg (hne t ht), if_neg (hne p hp), htid, hpid]
      exact hold d hd
    · obtain ⟨-, ht, hp⟩ := h.ends d hd
      rw [if_pos ht, if_pos hp]
      exact hnew d hd
  attemptKeys := by
    rw [h.attempts]
    exact hwf.attemptKeys
  attemptTask := by
    intro a ha
    rw [h.attempts] at ha
    obtain ⟨t, ht, hat⟩ := hwf.attemptTask a ha
    exact ⟨t, h.mem_tasks.mpr (Or.inl ht), hat⟩

end Compile

end Orchestration
