/-
Kahn's algorithm for topological sorting.

`visit children fuel indegree ready visited` is the usual loop: take the head of the queue `ready`,
decrement the in-degree of each of its children and enqueue those that drop to zero.  On a finite
graph whose in-degrees are the numbers of parents, the loop keeps `Sound`, hence:

* `visit_topological` — if every node was visited, the edges respect the order of the visits, and the
  graph has a rank function (`visit_rank`);
* `visit_complete` — if the graph has a rank function, every node is visited.

`turns_ready` is about every finite graph and all in-degrees: the queue runs empty.
-/
import Mathlib.Data.Finset.Card
import Mathlib.Data.Finset.Dedup
import Mathlib.Data.List.Nodup
import Mathlib.Logic.Function.Basic

namespace Kahn

variable {κ : Type*} [DecidableEq κ]

/-- One edge out of the visited node: decrement the child's in-degree, and
enqueue it when that reaches zero. -/
def release (state : (κ → Int) × List κ) (child : κ) : (κ → Int) × List κ :=
  let indegree := Function.update state.1 child (state.1 child - 1)
  if indegree child = 0 then (indegree, state.2 ++ [child]) else (indegree, state.2)

/-- The loop; the result is the final in-degrees and the visited nodes in
order. -/
def visit (children : κ → List κ) : Nat → (κ → Int) → List κ → List κ → (κ → Int) × List κ
  | 0, indegree, _, visited => (indegree, visited)
  | _ + 1, indegree, [], visited => (indegree, visited)
  | fuel + 1, indegree, key :: ready, visited =>
    let (indegree, ready) := (children key).foldl release (indegree, ready)
    visit children fuel indegree ready (visited ++ [key])

/-- All edges out of one node at once. -/
theorem foldl_release (cs : List κ) (hcs : cs.Nodup) (indegree : κ → Int) (ready : List κ) :
    cs.foldl release (indegree, ready) =
      (fun k => if k ∈ cs then indegree k - 1 else indegree k,
        ready ++ cs.filter fun c => indegree c = 1) := by
  induction cs generalizing indegree ready with
  | nil => simp
  | cons c cs ih =>
    obtain ⟨hc, hcs⟩ := List.nodup_cons.mp hcs
    have hstep : release (indegree, ready) c =
        (Function.update indegree c (indegree c - 1),
          ready ++ if indegree c = 1 then [c] else []) := by
      simp only [release, Function.update_self]
      by_cases h : indegree c = 1
      · rw [if_pos (by omega), if_pos h]
      · rw [if_neg (by omega), if_neg h, List.append_nil]
    rw [List.foldl_cons, hstep, ih hcs]
    -- the remaining children are other nodes, whose in-degree is untouched
    have hother : ∀ k ∈ cs, Function.update indegree c (indegree c - 1) k = indegree k := by
      intro k hk
      exact Function.update_of_ne (fun h => hc (by rw [← h]; exact hk)) _ _
    refine Prod.ext (funext fun k => ?_) ?_
    · by_cases hk : k ∈ cs
      · simp [hk, hother k hk]
      · by_cases hkc : k = c
        · subst hkc
          simp [hk]
        · simp [hk, hkc]
    · have hfilter : (cs.filter fun k =>
          Function.update indegree c (indegree c - 1) k = 1) = cs.filter fun k => indegree k = 1 :=
        List.filter_congr fun k hk => by rw [hother k hk]
      rw [hfilter, List.append_assoc, List.filter_cons]
      by_cases h : indegree c = 1
      · simp [h]
      · simp [h]

/-- The loop with its queue: the in-degrees, the queue and the visited nodes. -/
def turns (children : κ → List κ) :
    Nat → (κ → Int) → List κ → List κ → (κ → Int) × List κ × List κ
  | 0, indegree, ready, visited => (indegree, ready, visited)
  | _ + 1, indegree, [], visited => (indegree, [], visited)
  | fuel + 1, indegree, key :: ready, visited =>
    let (indegree, ready) := (children key).foldl release (indegree, ready)
    turns children fuel indegree ready (visited ++ [key])

theorem visit_eq (children : κ → List κ) (fuel : Nat) (indegree : κ → Int)
    (ready visited : List κ) :
    visit children fuel indegree ready visited =
      ((turns children fuel indegree ready visited).1,
        (turns children fuel indegree ready visited).2.2) := by
  induction fuel generalizing indegree ready visited with
  | zero => rfl
  | succ fuel ih =>
    cases ready with
    | nil => rfl
    | cons key ready => exact ih _ _ _

/-- How many nodes still have an in-degree above zero. -/
def unreleased (nodes : Finset κ) (indegree : κ → Int) : Nat :=
  (nodes.filter fun k => 0 < indegree k).card

/-- A node joins the queue when it stops being unreleased, and it never becomes so again. -/
theorem release_count {nodes : Finset κ} {c : κ} (hc : c ∈ nodes) (state : (κ → Int) × List κ) :
    (release state c).2.length + unreleased nodes (release state c).1 =
      state.2.length + unreleased nodes state.1 := by
  have hother : ∀ k, k ≠ c → Function.update state.1 c (state.1 c - 1) k = state.1 k :=
    fun k hk => Function.update_of_ne hk _ _
  have hself : Function.update state.1 c (state.1 c - 1) c = state.1 c - 1 :=
    Function.update_self _ _ _
  unfold release unreleased
  dsimp only
  by_cases hone : state.1 c = 1
  · have herase : nodes.filter (fun k => 0 < Function.update state.1 c (state.1 c - 1) k) =
        (nodes.filter fun k => 0 < state.1 k).erase c := by
      ext k
      rw [Finset.mem_filter, Finset.mem_erase, Finset.mem_filter]
      by_cases hk : k = c
      · rw [hk, hself]
        exact iff_of_false (by omega) fun h => h.1 rfl
      · rw [hother k hk]
        tauto
    have hmem : c ∈ nodes.filter fun k => 0 < state.1 k :=
      Finset.mem_filter.mpr ⟨hc, by omega⟩
    have hpos := Finset.card_pos.mpr ⟨c, hmem⟩
    rw [if_pos (by rw [hself]; omega), herase, Finset.card_erase_of_mem hmem, List.length_append,
      List.length_singleton]
    omega
  · have hsame : nodes.filter (fun k => 0 < Function.update state.1 c (state.1 c - 1) k) =
        nodes.filter fun k => 0 < state.1 k := by
      ext k
      rw [Finset.mem_filter, Finset.mem_filter]
      by_cases hk : k = c
      · rw [hk, hself]
        have hsign : 0 < state.1 c - 1 ↔ 0 < state.1 c := by omega
        rw [hsign]
      · rw [hother k hk]
    rw [if_neg, hsame]
    rw [hself]
    omega

theorem foldl_release_count {nodes : Finset κ} {cs : List κ} (hcs : ∀ c ∈ cs, c ∈ nodes)
    (state : (κ → Int) × List κ) :
    (cs.foldl release state).2.length + unreleased nodes (cs.foldl release state).1 =
      state.2.length + unreleased nodes state.1 := by
  induction cs generalizing state with
  | nil => rfl
  | cons c cs ih =>
    rw [List.foldl_cons, ih fun d hd => hcs d (List.mem_cons_of_mem _ hd),
      release_count (hcs c List.mem_cons_self)]

variable {fuel : Nat} {indegree : κ → Int} {ready visited : List κ} {key : κ}

/-- **The queue runs empty**, whatever the graph and the in-degrees are: every turn takes one node
off the queue, and the queue and the unreleased nodes together only shrink. -/
theorem turns_ready {nodes : Finset κ} {children : κ → List κ}
    (hchildren : ∀ k, ∀ c ∈ children k, c ∈ nodes)
    (hfuel : ready.length + unreleased nodes indegree ≤ fuel) :
    (turns children fuel indegree ready visited).2.1 = [] := by
  induction fuel generalizing indegree ready visited with
  | zero =>
    have hready : ready = [] := List.eq_nil_of_length_eq_zero (by omega)
    rw [hready]
    rfl
  | succ fuel ih =>
    cases ready with
    | nil => rfl
    | cons key ready =>
      have hcount := foldl_release_count (hchildren key) (indegree, ready)
      rw [List.length_cons] at hfuel
      exact ih (by rw [hcount]; dsimp only; omega)

variable {nodes : Finset κ} {children : κ → List κ}

/-- The parents of `k` that are not in `visited`. -/
def waiting (nodes : Finset κ) (children : κ → List κ) (visited : List κ) (k : κ) : Finset κ :=
  nodes.filter fun p => k ∈ children p ∧ p ∉ visited

/-- The loop invariant: in-degrees count the parents still to be visited, and
whatever is visited or enqueued has none. -/
structure Sound (nodes : Finset κ) (children : κ → List κ) (indegree : κ → Int)
    (ready visited : List κ) : Prop where
  nodup : (visited ++ ready).Nodup
  subset : ∀ k ∈ visited ++ ready, k ∈ nodes
  degree : ∀ k ∈ nodes, indegree k = (waiting nodes children visited k).card
  parents : ∀ k ∈ visited ++ ready, ∀ p ∈ nodes, k ∈ children p → p ∈ visited
  ordered : ∀ k ∈ visited, ∀ p ∈ nodes, k ∈ children p → visited.idxOf p < visited.idxOf k

/-- Visiting a node removes it from the parents its children wait for. -/
theorem card_waiting_append {k : κ} (hkey : key ∈ nodes) (hnew : key ∉ visited) :
    ((waiting nodes children (visited ++ [key]) k).card : Int) =
      (waiting nodes children visited k).card - if k ∈ children key then 1 else 0 := by
  have herase : waiting nodes children (visited ++ [key]) k =
      (waiting nodes children visited k).erase key := by
    ext p
    simp only [waiting, Finset.mem_filter, Finset.mem_erase, List.mem_append,
      List.mem_singleton, not_or]
    tauto
  rw [herase]
  by_cases hk : k ∈ children key
  · have hmem : key ∈ waiting nodes children visited k :=
      Finset.mem_filter.mpr ⟨hkey, hk, hnew⟩
    have hpos := Finset.card_pos.mpr ⟨key, hmem⟩
    rw [Finset.card_erase_of_mem hmem, if_pos hk]
    omega
  · have hmem : key ∉ waiting nodes children visited k := by
      simp [waiting, hk]
    rw [Finset.erase_eq_of_notMem hmem, if_neg hk]
    omega

variable (hchildren : ∀ k ∈ nodes, (children k).Nodup ∧ ∀ c ∈ children k, c ∈ nodes)
include hchildren

theorem Sound.next (h : Sound nodes children indegree (key :: ready) visited) :
    Sound nodes children ((children key).foldl release (indegree, ready)).1
      ((children key).foldl release (indegree, ready)).2 (visited ++ [key]) := by
  have hkey : key ∈ nodes := h.subset key (by simp)
  obtain ⟨hnodup, hsub⟩ := hchildren key hkey
  have hnew : key ∉ visited := by
    intro hmem
    exact List.disjoint_of_nodup_append h.nodup hmem List.mem_cons_self
  rw [foldl_release _ hnodup]
  have hdegree : ∀ k ∈ nodes, (if k ∈ children key then indegree k - 1 else indegree k) =
      ((waiting nodes children (visited ++ [key]) k).card : Int) := by
    intro k hk
    rw [card_waiting_append hkey hnew, h.degree k hk]
    split <;> omega
  -- a child of `key` was not enqueued before: it still waited for `key`
  have hfresh : ∀ c ∈ children key, c ∉ visited ++ key :: ready := by
    intro c hc hmem
    exact hnew (h.parents c hmem key hkey hc)
  refine ⟨?_, ?_, hdegree, ?_, ?_⟩
  · have happ : (visited ++ [key]) ++ (ready ++ (children key).filter fun c => indegree c = 1) =
        (visited ++ key :: ready) ++ (children key).filter fun c => indegree c = 1 := by
      simp
    rw [happ, List.nodup_append]
    refine ⟨h.nodup, hnodup.filter _, ?_⟩
    intro a ha b hb heq
    exact hfresh b (List.mem_filter.mp hb).1 (heq ▸ ha)
  · intro k hk
    simp only [List.mem_append, List.mem_singleton, List.mem_filter] at hk
    rcases hk with (hk | rfl) | hk | ⟨hk, -⟩
    · exact h.subset k (by simp [hk])
    · exact hkey
    · exact h.subset k (by simp [hk])
    · exact hsub k hk
  · intro k hk p hp hkp
    simp only [List.mem_append, List.mem_singleton, List.mem_filter, decide_eq_true_eq] at hk ⊢
    have hold : k ∈ visited ++ key :: ready → p ∈ visited ∨ p = key := fun hmem =>
      Or.inl (h.parents k hmem p hp hkp)
    rcases hk with (hk | rfl) | hk | ⟨hk, hone⟩
    · exact hold (by simp [hk])
    · exact hold (by simp)
    · exact hold (by simp [hk])
    · -- the in-degree of `k` dropped to zero, so nothing is left to wait for
      have hzero := hdegree k (hsub k hk)
      rw [if_pos hk, hone] at hzero
      have hempty : waiting nodes children (visited ++ [key]) k = ∅ :=
        Finset.card_eq_zero.mp (by omega)
      by_contra hnot
      have hmem : p ∈ waiting nodes children (visited ++ [key]) k := by
        refine Finset.mem_filter.mpr ⟨hp, hkp, ?_⟩
        simpa using hnot
      rw [hempty] at hmem
      exact absurd hmem (Finset.notMem_empty p)
  · intro k hk p hp hkp
    rcases List.mem_append.mp hk with hk | hk
    · have hpv := h.parents k (List.mem_append_left _ hk) p hp hkp
      rw [List.idxOf_append_of_mem hpv, List.idxOf_append_of_mem hk]
      exact h.ordered k hk p hp hkp
    · rw [List.mem_singleton.mp hk] at hkp ⊢
      have hpv := h.parents key (by simp) p hp hkp
      rw [List.idxOf_append_of_mem hpv, List.idxOf_append_of_notMem hnew]
      exact Nat.lt_add_right _ (List.idxOf_lt_length_of_mem hpv)

/-- The loop keeps the invariant. -/
theorem turns_sound (fuel : Nat) (h : Sound nodes children indegree ready visited) :
    Sound nodes children (turns children fuel indegree ready visited).1
      (turns children fuel indegree ready visited).2.1
      (turns children fuel indegree ready visited).2.2 := by
  induction fuel generalizing indegree ready visited with
  | zero => exact h
  | succ fuel ih =>
    cases ready with
    | nil => exact h
    | cons key ready => exact ih (h.next hchildren)

/-- **Soundness.**  If every node was visited, the edges respect the order of
the visits. -/
theorem visit_topological (h : Sound nodes children indegree ready [])
    (hlen : (visit children fuel indegree ready []).2.length = nodes.card) :
    ∃ order : List κ, order.Nodup ∧ order.toFinset = nodes ∧
      ∀ p ∈ nodes, ∀ c ∈ children p, order.idxOf p < order.idxOf c := by
  have hs := turns_sound hchildren fuel h
  rw [visit_eq] at hlen
  set visited := (turns children fuel indegree ready []).2.2
  have hnodup : visited.Nodup := (List.nodup_append.mp hs.nodup).1
  have hall : visited.toFinset = nodes := by
    refine Finset.eq_of_subset_of_card_le (fun k hk => ?_) ?_
    · exact hs.subset k (List.mem_append_left _ (List.mem_toFinset.mp hk))
    · rw [List.toFinset_card_of_nodup hnodup, hlen]
  refine ⟨visited, hnodup, hall, fun p hp c hc => ?_⟩
  have hcv : c ∈ visited := by
    rw [← List.mem_toFinset, hall]
    exact (hchildren p hp).2 c hc
  exact hs.ordered c hcv p hp hc

theorem visit_rank (h : Sound nodes children indegree ready [])
    (hlen : (visit children fuel indegree ready []).2.length = nodes.card) :
    ∃ rank : κ → Nat, ∀ p ∈ nodes, ∀ c ∈ children p, rank p < rank c := by
  obtain ⟨order, -, -, hordered⟩ := visit_topological hchildren h hlen
  exact ⟨order.idxOf, hordered⟩

/-- A node that waits for nothing is visited or enqueued. -/
def Queued (nodes : Finset κ) (indegree : κ → Int) (ready visited : List κ) : Prop :=
  ∀ k ∈ nodes, indegree k = 0 → k ∈ visited ++ ready

theorem Queued.next (hkey : key ∈ nodes) (h : Queued nodes indegree (key :: ready) visited) :
    Queued nodes ((children key).foldl release (indegree, ready)).1
      ((children key).foldl release (indegree, ready)).2 (visited ++ [key]) := by
  intro k hk hzero
  rw [foldl_release _ (hchildren key hkey).1] at hzero ⊢
  dsimp only at hzero ⊢
  by_cases hchild : k ∈ children key
  · rw [if_pos hchild] at hzero
    have hone : indegree k = 1 := by omega
    simp [hchild, hone]
  · rw [if_neg hchild] at hzero
    have hold := h k hk hzero
    simp only [List.mem_append, List.mem_cons] at hold ⊢
    tauto

theorem turns_queued (fuel : Nat) (h : Sound nodes children indegree ready visited)
    (hqueued : Queued nodes indegree ready visited) :
    Queued nodes (turns children fuel indegree ready visited).1
      (turns children fuel indegree ready visited).2.1
      (turns children fuel indegree ready visited).2.2 := by
  induction fuel generalizing indegree ready visited with
  | zero => exact hqueued
  | succ fuel ih =>
    cases ready with
    | nil => exact hqueued
    | cons key ready =>
      have hkey : key ∈ nodes := h.subset key (by simp)
      exact ih (h.next hchildren) (hqueued.next hchildren hkey)

/-- **Completeness.**  With a rank that grows along the edges every node is visited. -/
theorem visit_complete (h : Sound nodes children indegree ready [])
    (hqueued : Queued nodes indegree ready [])
    (hempty : (turns children fuel indegree ready []).2.1 = []) {rank : κ → Nat}
    (hrank : ∀ p ∈ nodes, ∀ c ∈ children p, rank p < rank c) :
    (visit children fuel indegree ready []).2.length = nodes.card := by
  have hs := turns_sound hchildren fuel h
  have hq := turns_queued hchildren fuel h hqueued
  rw [visit_eq]
  rw [hempty] at hs hq
  set visited := (turns children fuel indegree ready []).2.2
  -- by induction on the rank: the parents of a node are visited, so it waits for nothing
  have hall : ∀ n, ∀ k ∈ nodes, rank k = n → k ∈ visited := by
    intro n
    induction n using Nat.strongRecOn with
    | ind n ih =>
      intro k hk hn
      have hwaiting : waiting nodes children visited k = ∅ := by
        rw [waiting, Finset.filter_eq_empty_iff]
        rintro p hp ⟨hc, hnot⟩
        exact hnot (ih (rank p) (hn ▸ hrank p hp k hc) p hp rfl)
      have hzero : (turns children fuel indegree ready []).1 k = 0 := by
        rw [hs.degree k hk, hwaiting]
        rfl
      simpa using hq k hk hzero
  have hnodup : visited.Nodup := (List.nodup_append.mp hs.nodup).1
  have hsame : visited.toFinset = nodes := by
    refine Finset.Subset.antisymm (fun k hk => ?_) fun k hk => ?_
    · exact hs.subset k (List.mem_append_left _ (List.mem_toFinset.mp hk))
    · exact List.mem_toFinset.mpr (hall _ k hk rfl)
  rw [← hsame, List.toFinset_card_of_nodup hnodup]

end Kahn
