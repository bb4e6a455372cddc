/-
The `LIKE` of SQL, and a limit that is applied before a filter.

In a pattern `%` stands for any text and `_` for any character; characters are compared after `fold`.

`window p n l` is the part of `l` that a reader goes through until it has seen `n` items that meet
`p`, and `beyond p n l` is the rest.  `filter_take_iff` compares the two orders of limiting and
filtering.
-/
import Mathlib.Data.List.Infix
import Mathlib.Data.List.Sort

namespace Like

variable (fold : Char → Char)

/-- `text LIKE pattern`. -/
def like : List Char → List Char → Bool
  | [], text => text.isEmpty
  | c :: pattern, text =>
    if c = '%' then text.tails.any fun rest => like pattern rest
    else text.head?.any (fun d => c = '_' || fold c = fold d) && like pattern text.tail

end Like

namespace Window

variable {α : Type*} (p v w : α → Bool)

/-- The items up to the `n`-th that meets `p`. -/
def window : ℕ → List α → List α
  | 0, _ => []
  | _ + 1, [] => []
  | n + 1, a :: l => a :: window (if p a then n else n + 1) l

/-- The items after the `n`-th that meets `p`. -/
def beyond : ℕ → List α → List α
  | 0, l => l
  | _ + 1, [] => []
  | n + 1, a :: l => beyond (if p a then n else n + 1) l

variable {p v w}
variable {l : List α}

/-- The limit before the filter, with `k` hidden items among those that were taken before. -/
theorem filter_take_iff_add (hl : l.Nodup) (n k : ℕ) :
    ((l.filter p).take n).filter v = (l.filter w).take (n + k) ↔
      (∀ a ∈ window p n l, (p a = true ∧ v a = true ↔ w a = true)) ∧
        ((k = 0 ∧ ∀ a ∈ window p n l, p a = true → v a = true) ∨ ∀ a ∈ beyond p n l, w a = false) := by
  induction l generalizing n k with
  | nil => cases n <;> simp [window, beyond]
  | cons a l ih =>
    obtain ⟨ha, hl⟩ := List.nodup_cons.mp hl
    -- what is shown or wanted later is another item
    have hshown : ∀ n, a ∉ ((l.filter p).take n).filter v := fun n hmem =>
      ha (List.mem_of_mem_filter (List.mem_of_mem_take (List.mem_of_mem_filter hmem)))
    have hwanted : ∀ n, a ∉ (l.filter w).take n := fun n hmem =>
      ha (List.mem_of_mem_filter (List.mem_of_mem_take hmem))
    cases n with
    | zero =>
      rw [Nat.zero_add]
      cases k with
      | zero => simp [window]
      | succ k => simp [window, beyond, eq_comm (a := ([] : List α)), List.take_eq_nil_iff]
    | succ n =>
      rw [window, beyond]
      by_cases hp : p a = true
      · rw [List.filter_cons_of_pos hp, List.take_succ_cons, if_pos hp]
        by_cases hv : v a = true
        · rw [List.filter_cons_of_pos hv]
          by_cases hw : w a = true
          · rw [List.filter_cons_of_pos hw, Nat.succ_add, List.take_succ_cons, List.cons_inj_right,
              ih hl n k]
            simp [hp, hv, hw]
          · rw [List.filter_cons_of_neg hw]
            refine iff_of_false (fun heq => hwanted _ (heq ▸ List.mem_cons_self)) ?_
            simp [hp, hv, hw]
        · rw [List.filter_cons_of_neg hv]
          by_cases hw : w a = true
          · rw [List.filter_cons_of_pos hw, Nat.succ_add, List.take_succ_cons]
            refine iff_of_false (fun heq => hshown n (heq ▸ List.mem_cons_self)) ?_
            simp [hp, hv, hw]
          · -- a hidden item uses up the limit
            rw [List.filter_cons_of_neg hw, Nat.add_right_comm, Nat.add_assoc, ih hl n (k + 1)]
            simp [hp, hv, hw]
      · rw [List.filter_cons_of_neg hp, if_neg hp]
        by_cases hw : w a = true
        · rw [List.filter_cons_of_pos hw, Nat.succ_add, List.take_succ_cons]
          refine iff_of_false (fun heq => hshown (n + 1) (heq ▸ List.mem_cons_self)) ?_
          simp [hp, hw]
        · rw [List.filter_cons_of_neg hw, ih hl (n + 1) k]
          simp [hp, hw]

/-- **A limit before a filter** gives the first wanted items exactly when, up to the `n`-th item
that meets `p`, the items that are taken and shown are the wanted ones, and either none of those
that are taken is hidden or nothing wanted comes later. -/
theorem filter_take_iff (hl : l.Nodup) (n : ℕ) :
    ((l.filter p).take n).filter v = (l.filter w).take n ↔
      (∀ a ∈ window p n l, (p a = true ∧ v a = true ↔ w a = true)) ∧
        ((∀ a ∈ window p n l, p a = true → v a = true) ∨ ∀ a ∈ beyond p n l, w a = false) := by
  simpa using filter_take_iff_add (p := p) (v := v) (w := w) hl n 0

/-- With unique keys, filtering commutes with sorting. -/
theorem filter_insertionSort {κ : Type*} [LinearOrder κ] {key : α → κ}
    (hkey : ∀ a ∈ l, ∀ b ∈ l, key a = key b → a = b) :
    (l.insertionSort fun a b => key a ≤ key b).filter p =
      (l.filter p).insertionSort fun a b => key a ≤ key b := by
  have : Std.Total fun a b => key a ≤ key b := ⟨fun a b => le_total _ _⟩
  have : IsTrans α fun a b => key a ≤ key b := ⟨fun _ _ _ => le_trans⟩
  have hperm := ((List.perm_insertionSort (fun a b => key a ≤ key b) l).filter p).trans
    (List.perm_insertionSort (fun a b => key a ≤ key b) (l.filter p)).symm
  refine List.Perm.eq_of_pairwise (fun a b hmem hmem' hle hle' => ?_)
    ((List.pairwise_insertionSort (fun a b => key a ≤ key b) l).filter p)
    (List.pairwise_insertionSort (fun a b => key a ≤ key b) (l.filter p)) hperm
  rw [List.mem_filter, List.mem_insertionSort] at hmem
  rw [List.mem_insertionSort, List.mem_filter] at hmem'
  exact hkey a hmem.1 b hmem'.1 (le_antisymm hle hle')

/-- A map that tells the members apart tells the lists apart. -/
theorem map_inj_of_injOn {β : Type*} {f : α → β} {l' : List α}
    (hf : ∀ a ∈ l, ∀ b ∈ l', f a = f b → a = b) : l.map f = l'.map f ↔ l = l' := by
  refine ⟨fun h => ?_, congrArg _⟩
  induction l generalizing l' with
  | nil => exact (List.map_eq_nil_iff.mp h.symm).symm
  | cons a l ih =>
    cases l' with
    | nil => cases h
    | cons b l' =>
      obtain ⟨hhead, htail⟩ := List.cons.inj h
      rw [hf a List.mem_cons_self b List.mem_cons_self hhead, ih (fun c hc d hd =>
        hf c (List.mem_cons_of_mem _ hc) d (List.mem_cons_of_mem _ hd)) htail]

end Window
