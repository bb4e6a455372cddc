/-
Dictionaries in insertion order.

A dictionary is the list of its entries.  `set` replaces the value of a key where the key
stands, or adds an entry at the end, and `ofPairs` is a comprehension: for a key that comes up
several times the last value counts (`lookup_ofPairs`).
-/
import Mathlib.Data.List.Induction

namespace Dict

variable {κ β : Type} [BEq κ] [LawfulBEq κ]

/-- `d[k] = v`. -/
def set (d : List (κ × β)) (k : κ) (v : β) : List (κ × β) :=
  if d.any fun e => e.1 == k then d.map fun e => if e.1 == k then (k, v) else e
  else d ++ [(k, v)]

/-- `{k: v for k, v in pairs}`. -/
def ofPairs (pairs : List (κ × β)) : List (κ × β) :=
  pairs.foldl (fun d e => set d e.1 e.2) []

variable {k : κ} {v : β}

theorem lookup_map_set {d : List (κ × β)} (h : d.any fun e => e.1 == k) :
    (d.map fun e => if e.1 == k then (k, v) else e).lookup k = some v := by
  induction d with
  | nil => simp at h
  | cons e d ih =>
    obtain ⟨i, w⟩ := e
    rw [List.map_cons]
    by_cases hek : i = k
    · simp [hek]
    · have hrest : d.any fun e => e.1 == k := by simpa [hek] using h
      have hke : (k == i) = false := by simpa using Ne.symm hek
      simp [List.lookup_cons, hek, hke, ih hrest]

theorem lookup_set_self (d : List (κ × β)) (k : κ) (v : β) : (set d k v).lookup k = some v := by
  unfold set
  split
  · rename_i h
    exact lookup_map_set h
  · rename_i h
    have hnone : d.lookup k = none := by
      rw [List.lookup_eq_none_iff]
      intro e he
      simp only [List.any_eq_true, not_exists, not_and] at h
      simpa using fun heq => h e he (by simpa using heq.symm)
    rw [List.lookup_append, hnone]
    simp

theorem lookup_set_of_ne (d : List (κ × β)) {j : κ} (v : β) (h : j ≠ k) :
    (set d k v).lookup j = d.lookup j := by
  have hjk : (j == k) = false := by simpa using h
  unfold set
  split
  · -- the entries of other keys stand where they stood
    clear * - hjk
    induction d with
    | nil => rfl
    | cons e d ih =>
      obtain ⟨i, w⟩ := e
      rw [List.map_cons]
      by_cases hek : i = k
      · simp [List.lookup_cons, hek, hjk, ih]
      · have hik : (i == k) = false := by simpa using hek
        simp only [hik, Bool.false_eq_true, if_false, List.lookup_cons, ih]
  · rw [List.lookup_append]
    simp [List.lookup_cons, hjk]

/-- **A comprehension.**  The last value of a key counts. -/
theorem lookup_ofPairs (pairs : List (κ × β)) (k : κ) :
    (ofPairs pairs).lookup k = pairs.reverse.lookup k := by
  unfold ofPairs
  induction pairs using List.reverseRecOn with
  | nil => rfl
  | append_singleton pairs e ih =>
    obtain ⟨i, w⟩ := e
    rw [List.foldl_append, List.reverse_append]
    show (set _ i w).lookup k = ((i, w) :: pairs.reverse).lookup k
    by_cases hk : k = i
    · subst hk
      rw [lookup_set_self]
      simp
    · have hke : (k == i) = false := by simpa using hk
      rw [lookup_set_of_ne _ _ hk, ih, List.lookup_cons, hke]

variable {pairs : List (κ × β)}

theorem mem_of_lookup_ofPairs (h : (ofPairs pairs).lookup k = some v) :
    (k, v) ∈ pairs := by
  rw [lookup_ofPairs, List.lookup_eq_some_iff] at h
  obtain ⟨before, after, heq, -⟩ := h
  rw [← List.mem_reverse, heq]
  exact List.mem_append_right _ List.mem_cons_self

/-- A key that comes up with one value only. -/
theorem lookup_ofPairs_of_mem (hmem : (k, v) ∈ pairs) (hone : ∀ w, (k, w) ∈ pairs → w = v) :
    (ofPairs pairs).lookup k = some v := by
  rcases hlookup : (ofPairs pairs).lookup k with _ | w
  · rw [lookup_ofPairs, List.lookup_eq_none_iff] at hlookup
    have hne := hlookup (k, v) (List.mem_reverse.mpr hmem)
    simp at hne
  · rw [hone w (mem_of_lookup_ofPairs hlookup)]

end Dict
