/-
Which workflows the compiler accepts (`WorkflowCompiler.validate`).

* `loopEnd_ready` — the loop of `_assert_acyclic` ends, whatever the tasks are;
* `validate_iff` — a workflow is accepted exactly when its keys are distinct, its dependencies are
  known, distinct and not the task itself, and the keys have a topological order.
-/
import AssuranceOS.Lib.Checked
import AssuranceOS.Orchestration.Compilation

namespace Orchestration

namespace WorkflowCompiler

variable {tasks : List TaskDefinition}

def initialReady (tasks : List TaskDefinition) : List String :=
  sorted ((taskKeys tasks).filter fun key => indegree tasks key = 0)

/-- The in-degrees, the queue and the visited keys when the loop of `_assert_acyclic` is left. -/
def loopEnd (tasks : List TaskDefinition) : (String → Int) × List String × List String :=
  Kahn.turns (children tasks) (visitFuel tasks) (indegree tasks) (initialReady tasks) []

theorem mem_taskKeys_of_mem_children {key c : String} (h : c ∈ children tasks key) :
    c ∈ (taskKeys tasks).toFinset := by
  obtain ⟨task, htask, rfl, -⟩ := mem_children.mp h
  exact List.mem_toFinset.mpr (List.mem_map_of_mem htask)

theorem initialReady_count (tasks : List TaskDefinition) :
    (initialReady tasks).length + Kahn.unreleased (taskKeys tasks).toFinset (indegree tasks) ≤
      visitFuel tasks := by
  have hready : (initialReady tasks).length =
      (taskKeys tasks).countP fun key => indegree tasks key = 0 := by
    rw [initialReady, sorted, List.length_insertionSort, List.countP_eq_length_filter]
  have hunreleased : Kahn.unreleased (taskKeys tasks).toFinset (indegree tasks) ≤
      (taskKeys tasks).countP fun key => ¬ indegree tasks key = 0 := by
    have hfilter : (taskKeys tasks).toFinset.filter (fun key => 0 < indegree tasks key) =
        ((taskKeys tasks).filter fun key => 0 < indegree tasks key).toFinset := by
      ext key
      simp
    unfold Kahn.unreleased
    rw [hfilter]
    refine (List.toFinset_card_le _).trans ?_
    rw [← List.countP_eq_length_filter]
    refine List.countP_mono_left fun key _ hpos => ?_
    simp only [decide_eq_true_eq] at hpos ⊢
    omega
  have hall : (taskKeys tasks).countP (fun key => indegree tasks key = 0) +
      (taskKeys tasks).countP (fun key => ¬ indegree tasks key = 0) = tasks.length := by
    have hsplit := List.length_eq_countP_add_countP (l := taskKeys tasks)
      (fun key => decide (indegree tasks key = 0))
    rw [taskKeys, List.length_map] at hsplit
    simpa [taskKeys] using hsplit.symm
  unfold visitFuel
  omega

/-- **The loop ends**: its queue is empty after `visitFuel` rounds at most. -/
theorem loopEnd_ready (tasks : List TaskDefinition) : (loopEnd tasks).2.1 = [] :=
  Kahn.turns_ready (fun _ _ hc => mem_taskKeys_of_mem_children hc) (initialReady_count tasks)

/-- The order lists each task once, after its dependencies. -/
def IsTopologicalOrder (tasks : List TaskDefinition) (order : List String) : Prop :=
  order.Perm (taskKeys tasks) ∧
    ∀ task ∈ tasks, ∀ key ∈ dependencyKeys task, order.idxOf key < order.idxOf task.key

theorem validateTask_eq_ok {known : List String} {task : TaskDefinition} :
    validateTask known task = .ok () ↔
      (dependencyKeys task).Nodup ∧ (∀ key ∈ dependencyKeys task, key ∈ known) ∧
      task.key ∉ dependencyKeys task := by
  have hmissing : sorted ((dependencyKeys task).dedup.filter fun key => key ∉ known) = [] ↔
      ∀ key ∈ dependencyKeys task, key ∈ known := by
    rw [List.eq_nil_iff_forall_not_mem]
    simp only [mem_sorted, List.mem_filter, List.mem_dedup, decide_eq_true_eq, not_and, not_not]
  unfold validateTask
  dsimp only
  rw [← hmissing]
  split
  · rename_i hrepeated
    exact iff_of_false (by simp) fun h => hrepeated h.1
  · rename_i hnodup
    split
    · rename_i hunknown
      exact iff_of_false (by simp) fun h => hunknown h.2.1
    · rename_i hknown
      split
      · rename_i hself
        exact iff_of_false (by simp) fun h => h.2.2 hself
      · rename_i hself
        exact iff_of_true rfl ⟨not_not.mp hnodup, not_not.mp hknown, hself⟩

theorem validate_eq_ok {workflow : WorkflowDefinition} :
    validate workflow = .ok () ↔
      (taskKeys workflow.tasks).Nodup ∧
      (∀ task ∈ workflow.tasks, validateTask (taskKeys workflow.tasks) task = .ok ()) ∧
      assertAcyclic workflow.tasks = .ok () := by
  rw [← Checked.forM_eq_ok (u := ())]
  unfold validate
  dsimp only
  split
  · rename_i hkeys
    exact iff_of_false (by simp [throw, throwThe, MonadExceptOf.throw, bind, Except.bind])
      fun h => hkeys h.1
  · rename_i hkeys
    rw [Checked.bind_eq_ok]
    constructor
    · rintro ⟨u, hall, hacyclic⟩
      exact ⟨not_not.mp hkeys, hall, hacyclic⟩
    · rintro ⟨-, hall, hacyclic⟩
      exact ⟨(), hall, hacyclic⟩

theorem assertAcyclic_eq_ok : assertAcyclic tasks = .ok () ↔
    (visitAll tasks).2.length = tasks.length := by
  unfold assertAcyclic
  dsimp only
  split
  · rename_i hlen
    exact iff_of_false (by simp) hlen
  · rename_i hlen
    exact iff_of_true rfl (not_not.mp hlen)

theorem WellKeyed.queued :
    Kahn.Queued (taskKeys tasks).toFinset (indegree tasks) (initialReady tasks) [] := by
  intro key hkey hzero
  rw [List.nil_append, initialReady, mem_sorted, List.mem_filter]
  exact ⟨List.mem_toFinset.mp hkey, decide_eq_true hzero⟩

theorem WellKeyed.visited_iff (h : WellKeyed tasks) :
    (visitAll tasks).2.length = tasks.length ↔ ∃ order, IsTopologicalOrder tasks order := by
  constructor
  · intro hlen
    obtain ⟨order, hnodup, hall, hordered⟩ := Kahn.visit_topological h.children_spec h.sound
      (hlen.trans h.card.symm)
    refine ⟨order, ?_, fun task htask key hkey => ?_⟩
    · refine (List.perm_ext_iff_of_nodup hnodup h.keys).mpr fun key => ?_
      rw [← List.mem_toFinset, hall, List.mem_toFinset]
    · exact hordered key (List.mem_toFinset.mpr (h.known task htask key hkey)) task.key
        (mem_children.mpr ⟨task, htask, rfl, hkey⟩)
  · rintro ⟨order, -, hordered⟩
    have hrank : ∀ p ∈ (taskKeys tasks).toFinset, ∀ c ∈ children tasks p,
        order.idxOf p < order.idxOf c := by
      intro p _ c hc
      obtain ⟨task, htask, rfl, hp⟩ := mem_children.mp hc
      exact hordered task htask p hp
    rw [← h.card]
    exact Kahn.visit_complete h.children_spec h.sound WellKeyed.queued (loopEnd_ready tasks) hrank

/-- **Which workflows are accepted.**  The keys are distinct, every dependency is known and named
once, no task depends on itself, and the dependencies have a topological order; and on every list
of tasks the loop that looks for the order ends. -/
theorem validate_iff (workflow : WorkflowDefinition) :
    (validate workflow = .ok () ↔
      (taskKeys workflow.tasks).Nodup ∧
      (∀ task ∈ workflow.tasks, ∀ key ∈ dependencyKeys task, key ∈ taskKeys workflow.tasks) ∧
      (∀ task ∈ workflow.tasks, (dependencyKeys task).Nodup) ∧
      (∀ task ∈ workflow.tasks, task.key ∉ dependencyKeys task) ∧
      ∃ order, IsTopologicalOrder workflow.tasks order) ∧
    ∀ tasks, (loopEnd tasks).2.1 = [] := by
  refine ⟨?_, loopEnd_ready⟩
  rw [validate_eq_ok, assertAcyclic_eq_ok]
  constructor
  · rintro ⟨hkeys, htasks, hlen⟩
    have hchecked := fun task htask => validateTask_eq_ok.mp (htasks task htask)
    have hkeyed : WellKeyed workflow.tasks :=
      ⟨hkeys, fun task htask => (hchecked task htask).1, fun task htask => (hchecked task htask).2.1⟩
    exact ⟨hkeys, hkeyed.known, hkeyed.dependencies, fun task htask => (hchecked task htask).2.2,
      hkeyed.visited_iff.mp hlen⟩
  · rintro ⟨hkeys, hknown, hdependencies, hself, horder⟩
    have hkeyed : WellKeyed workflow.tasks := ⟨hkeys, hdependencies, hknown⟩
    refine ⟨hkeys, fun task htask => ?_, hkeyed.visited_iff.mpr horder⟩
    exact validateTask_eq_ok.mpr ⟨hdependencies task htask, hknown task htask, hself task htask⟩

end WorkflowCompiler

end Orchestration
