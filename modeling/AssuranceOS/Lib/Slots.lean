/-
Rows that are filled from the left, where an entry can ask for a slot.

`fill` appends an entry to the row; an entry that asks for a slot behind the end has the slots
before it padded.  `place` counts along: the slot that an entry asks for, which is the one behind
the slot of the entry before it where it asks for none, and the slot that it gets.

* `getD_fill` — a slot holds the value of the entry that got it;
* `length_fill` — the row ends with the slot of the last entry;
* `asked_le_place`, `place_eq_asked` — no entry gets a slot before the one it asks for, and each gets
  that one when they ask for more and more.
-/
import Mathlib.Data.List.Basic
import Mathlib.Tactic.Common

namespace Slots

variable {α : Type}

/-- Slots up to the given one. -/
def pad (empty : α) (row : List α) (slot : ℕ) : List α :=
  row ++ List.replicate (slot - row.length) empty

def fill (empty : α) (row : List α) : List (Option ℕ × α) → List α
  | [] => row
  | (asked, a) :: entries => fill empty (pad empty row (asked.getD 0) ++ [a]) entries

/-- An entry, with the slot that it asks for and the one that it gets. -/
structure Placed (α : Type) where
  asked : ℕ
  place : ℕ
  value : α
  deriving DecidableEq

/-- `next` is the slot that an entry asks for that names none, and `free` is the first one behind
the row. -/
def place : ℕ → ℕ → List (Option ℕ × α) → List (Placed α)
  | _, _, [] => []
  | next, free, (asked, a) :: entries =>
    let slot := asked.getD next
    ⟨slot, max free slot, a⟩ :: place (slot + 1) (max free slot + 1) entries

/-- What stands at a slot. -/
def valueAt (empty : α) (placed : List (Placed α)) (slot : ℕ) : α :=
  ((placed.find? fun e => e.place = slot).map Placed.value).getD empty

/-- How many slots there are. -/
def width (placed : List (Placed α)) : ℕ :=
  (placed.getLast?.map fun e => e.place + 1).getD 0

variable {entries : List (Option ℕ × α)}

theorem free_le_place : ∀ {next free : ℕ},
    ∀ e ∈ place next free entries, free ≤ e.place := by
  induction entries with
  | nil =>
    intro next free e he
    exact absurd he List.not_mem_nil
  | cons entry entries ih =>
    obtain ⟨asked, a⟩ := entry
    intro next free e he
    rcases List.mem_cons.mp he with rfl | he
    · exact Nat.le_max_left _ _
    · have hlater := ih e he
      omega

theorem asked_le_place : ∀ {next free : ℕ},
    ∀ e ∈ place next free entries, e.asked ≤ e.place := by
  induction entries with
  | nil =>
    intro next free e he
    exact absurd he List.not_mem_nil
  | cons entry entries ih =>
    obtain ⟨asked, a⟩ := entry
    intro next free e he
    rcases List.mem_cons.mp he with rfl | he
    · exact Nat.le_max_right _ _
    · exact ih e he

theorem place_lt_width : ∀ {next free : ℕ},
    ∀ e ∈ place next free entries, e.place < width (place next free entries) := by
  induction entries with
  | nil =>
    intro next free e he
    exact absurd he List.not_mem_nil
  | cons entry entries ih =>
    obtain ⟨asked, a⟩ := entry
    intro next free e he
    rw [place] at he ⊢
    cases hrest : place (asked.getD next + 1) (max free (asked.getD next) + 1) entries with
    | nil =>
      rw [hrest, List.mem_singleton] at he
      subst he
      exact Nat.lt_succ_self _
    | cons d ds =>
      have hwidth : ∀ c : Placed α, width (c :: d :: ds) = width (d :: ds) := fun c => by
        rw [width, width, List.getLast?_cons_cons]
      rw [hrest] at he
      rw [hwidth, ← hrest]
      rcases List.mem_cons.mp he with rfl | he
      · -- the entries behind this one have later slots
        have hmem : d ∈ place (asked.getD next + 1) (max free (asked.getD next) + 1) entries := by
          rw [hrest]
          exact List.mem_cons_self
        have hbehind := free_le_place d hmem
        have hlast := ih d hmem
        dsimp only
        omega
      · exact ih e (hrest ▸ he)

theorem place_values (entries : List (Option ℕ × α)) (next free : ℕ) :
    (place next free entries).map Placed.value = entries.map Prod.snd := by
  induction entries generalizing next free with
  | nil => rfl
  | cons entry entries ih =>
    obtain ⟨asked, a⟩ := entry
    rw [place, List.map_cons, ih, List.map_cons]

/-- Entries that ask for more and more get what they ask for. -/
theorem place_eq_asked : ∀ {next free : ℕ}, free ≤ next →
    (place next free entries).Pairwise (fun d e => d.asked < e.asked) →
    (∀ e ∈ place next free entries, free ≤ e.asked) →
    ∀ e ∈ place next free entries, e.place = e.asked := by
  induction entries with
  | nil =>
    intro next free _ _ _ e he
    exact absurd he List.not_mem_nil
  | cons entry entries ih =>
    obtain ⟨asked, a⟩ := entry
    intro next free hle hincreasing hfree e he
    have hslot : free ≤ asked.getD next := hfree _ List.mem_cons_self
    rw [place, List.pairwise_cons] at hincreasing
    rcases List.mem_cons.mp he with rfl | he
    · exact Nat.max_eq_right hslot
    · have hmax : max free (asked.getD next) = asked.getD next := Nat.max_eq_right hslot
      dsimp only at hincreasing
      rw [hmax] at hincreasing he
      exact ih (Nat.le_refl _) hincreasing.2 (fun d hd => hincreasing.1 d hd) e he

variable {empty : α}

theorem length_pad (row : List α) (slot : ℕ) : (pad empty row slot).length = max row.length slot := by
  rw [pad, List.length_append, List.length_replicate]
  omega

theorem valueAt_of_lt {next free slot : ℕ} (h : slot < free) :
    valueAt empty (place next free entries) slot = empty := by
  have hnone : (place next free entries).find? (fun e => e.place = slot) = none := by
    rw [List.find?_eq_none]
    intro e he
    have hle := free_le_place e he
    simp only [decide_eq_true_eq]
    omega
  rw [valueAt, hnone]
  rfl

/-- An entry stands at its slot. -/
theorem valueAt_place : ∀ {next free : ℕ},
    ∀ e ∈ place next free entries, valueAt empty (place next free entries) e.place = e.value := by
  induction entries with
  | nil =>
    intro next free e he
    exact absurd he List.not_mem_nil
  | cons entry entries ih =>
    obtain ⟨asked, a⟩ := entry
    intro next free e he
    rw [place] at he ⊢
    rcases List.mem_cons.mp he with rfl | he
    · rw [valueAt, List.find?_cons_of_pos (by simp)]
      rfl
    · have hlater := free_le_place e he
      rw [valueAt, List.find?_cons_of_neg (by simp; omega)]
      exact ih e he

theorem getD_pad (row : List α) (slot p : ℕ) :
    (pad empty row slot)[p]?.getD empty = row[p]?.getD empty := by
  rw [pad, List.getElem?_append]
  split
  · rfl
  · rename_i hp
    rw [List.getElem?_replicate, List.getElem?_eq_none (by omega)]
    split <;> rfl

/-- The row ends behind the slot of its last entry. -/
theorem length_append_pad {row : List α} {next : ℕ} (hnext : next ≤ row.length) (asked : Option ℕ)
    (a : α) : (pad empty row (asked.getD 0) ++ [a]).length =
      max row.length (asked.getD next) + 1 := by
  rw [List.length_append, length_pad, List.length_singleton]
  cases asked with
  | none => simp only [Option.getD_none]; omega
  | some slot => rfl

/-- The slots before an entry stay, and it gets the next one. -/
theorem getD_fill_of_le {entries : List (Option ℕ × α)} : ∀ {row : List α} {next : ℕ},
    next ≤ row.length → ∀ p, (fill empty row entries)[p]?.getD empty =
      if p < row.length then row[p]?.getD empty
      else valueAt empty (place next row.length entries) p := by
  induction entries with
  | nil =>
    intro row next _ p
    rw [fill]
    split
    · rfl
    · rw [List.getElem?_eq_none (by omega)]
      rfl
  | cons entry entries ih =>
    obtain ⟨asked, a⟩ := entry
    intro row next hnext p
    have hrow := @length_append_pad _ empty _ _ hnext asked a
    set slot := asked.getD next
    have hlength : (pad empty row (asked.getD 0)).length = max row.length slot := by
      rw [List.length_append, List.length_singleton] at hrow
      omega
    have hplace : place next row.length ((asked, a) :: entries) =
        ⟨slot, max row.length slot, a⟩ :: place (slot + 1) (max row.length slot + 1) entries := rfl
    rw [fill, @ih _ (slot + 1) (by rw [hrow]; omega) p, hrow, hplace]
    rcases Nat.lt_trichotomy p (max row.length slot) with hlt | rfl | hgt
    · -- a slot of the row, or a padded one
      have hp : p < max row.length slot + 1 := by omega
      have hhere : (pad empty row (asked.getD 0) ++ [a])[p]?.getD empty = row[p]?.getD empty := by
        rw [List.getElem?_append_left (by omega), getD_pad]
      rw [if_pos hp, hhere]
      split
      · rfl
      · rename_i hrange
        rw [List.getElem?_eq_none (by omega), valueAt, List.find?_cons_of_neg (by simp; omega)]
        exact (valueAt_of_lt (by omega)).symm
    · have hp : ¬ max row.length slot < row.length := by omega
      rw [if_pos (by omega), if_neg hp, List.getElem?_append_right (by omega), hlength, Nat.sub_self,
        valueAt, List.find?_cons_of_pos (by simp)]
      rfl
    · rw [if_neg (by omega), if_neg (by omega), valueAt, valueAt,
        List.find?_cons_of_neg (by simp; omega)]

theorem getD_fill (entries : List (Option ℕ × α)) (p : ℕ) :
    (fill empty [] entries)[p]?.getD empty = valueAt empty (place 0 0 entries) p := by
  rw [@getD_fill_of_le _ _ _ _ 0 (Nat.le_refl _) p, if_neg (by simp)]
  rfl

theorem length_fill_of_le {entries : List (Option ℕ × α)} : ∀ {row : List α} {next : ℕ},
    next ≤ row.length → (fill empty row entries).length =
      ((place next row.length entries).getLast?.map fun e => e.place + 1).getD row.length := by
  induction entries with
  | nil =>
    intro row next _
    rfl
  | cons entry entries ih =>
    obtain ⟨asked, a⟩ := entry
    intro row next hnext
    have hrow := @length_append_pad _ empty _ _ hnext asked a
    set slot := asked.getD next
    have hplace : place next row.length ((asked, a) :: entries) =
        ⟨slot, max row.length slot, a⟩ :: place (slot + 1) (max row.length slot + 1) entries := rfl
    rw [fill, @ih _ (slot + 1) (by rw [hrow]; omega), hrow, hplace]
    cases hrest : place (slot + 1) (max row.length slot + 1) entries with
    | nil => rfl
    | cons e es =>
      rw [List.getLast?_cons_cons, List.getLast?_eq_getLast_of_ne_nil (List.cons_ne_nil e es)]
      rfl

theorem length_fill (entries : List (Option ℕ × α)) :
    (fill empty [] entries).length = width (place 0 0 entries) :=
  @length_fill_of_le _ _ _ [] 0 (Nat.le_refl _)

end Slots
