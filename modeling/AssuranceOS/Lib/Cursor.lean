/-
A cursor that moves over a set of values.

An evaluation at a reading `r` lists the values after the cursor, up to `r` and to the last
value in effect, and moves the cursor to `r`; the first evaluation lists them from `first`
on.  Readings may go backwards, and the cursor goes with them.

`listed_iff` says what a sequence of evaluations has listed: exactly the values from `first`
up to the largest reading and the last value in effect, if and only if no window holds a
value before `first`.  Readings are given newest first.
-/
import Mathlib.Order.Lattice

namespace Cursor

variable {α : Type*} [LinearOrder α] {first : α} {last : Option α} {cursor : Option α}
  {readings : List α} {v : α}

/-- `v` is not after the reading `r`, and still in effect. -/
def Within (last : Option α) (r v : α) : Prop := v ≤ r ∧ ∀ u ∈ last, v ≤ u

/-- `v` is after the cursor; before the first evaluation, from `first` on. -/
def After (first : α) : Option α → α → Prop
  | none, v => first ≤ v
  | some c, v => c < v

/-- The window of an evaluation at `r`. -/
def Window (first : α) (last : Option α) (cursor : Option α) (r v : α) : Prop :=
  After first cursor v ∧ Within last r v

/-- One of the evaluations has listed `v`. -/
def Listed (first : α) (last : Option α) : List α → α → Prop
  | [], _ => False
  | r :: rs, v => Window first last rs.head? r v ∨ Listed first last rs v

/-- No window holds one of the `values` before `first`. -/
def NoneEarly (values : Set α) (first : α) (last : Option α) : List α → Prop
  | [] => True
  | r :: rs =>
    (∀ v ∈ values, Window first last rs.head? r v → first ≤ v) ∧ NoneEarly values first last rs

theorem within_of_listed : ∀ {readings : List α}, Listed first last readings v →
    ∃ r ∈ readings, Within last r v := by
  intro readings
  induction readings with
  | nil =>
    intro h
    exact absurd h id
  | cons r rs ih =>
    rintro (hwindow | hlisted)
    · exact ⟨r, List.mem_cons_self, hwindow.2⟩
    · obtain ⟨r', hr', hwithin⟩ := ih hlisted
      exact ⟨r', List.mem_cons_of_mem _ hr', hwithin⟩

/-- A value from `first` on is listed as soon as a reading has reached it: either it is
after the cursor, or the cursor is a reading that has reached it before. -/
theorem listed_of_within (hfirst : first ≤ v) : ∀ {readings : List α},
    (∃ r ∈ readings, Within last r v) → Listed first last readings v := by
  intro readings
  induction readings with
  | nil =>
    rintro ⟨r, hr, -⟩
    exact absurd hr List.not_mem_nil
  | cons r rs ih =>
    rintro ⟨r', hr', hwithin⟩
    rcases List.mem_cons.mp hr' with rfl | hr'
    · cases rs with
      | nil => exact Or.inl ⟨hfirst, hwithin⟩
      | cons c rs =>
        by_cases hc : c < v
        · exact Or.inl ⟨hc, hwithin⟩
        · exact Or.inr (ih ⟨c, List.mem_cons_self, not_lt.mp hc, hwithin.2⟩)
    · exact Or.inr (ih ⟨r', hr', hwithin⟩)

variable {values : Set α}

theorem noneEarly_iff : ∀ {readings : List α},
    NoneEarly values first last readings ↔
      ∀ v ∈ values, Listed first last readings v → first ≤ v := by
  intro readings
  induction readings with
  | nil => exact ⟨fun _ _ _ h => absurd h id, fun _ => trivial⟩
  | cons r rs ih =>
    constructor
    · rintro ⟨hwindow, hrest⟩ v hv (hlast | hlisted)
      · exact hwindow v hv hlast
      · exact ih.mp hrest v hv hlisted
    · intro h
      exact ⟨fun v hv hlast => h v hv (Or.inl hlast),
        ih.mpr fun v hv hlisted => h v hv (Or.inr hlisted)⟩

/-- **What a moving cursor lists.** -/
theorem listed_iff :
    (∀ v ∈ values, Listed first last readings v ↔
      first ≤ v ∧ (∃ r ∈ readings, v ≤ r) ∧ ∀ u ∈ last, v ≤ u) ↔
      NoneEarly values first last readings := by
  rw [noneEarly_iff]
  constructor
  · intro h v hv hlisted
    exact ((h v hv).mp hlisted).1
  · intro h v hv
    constructor
    · intro hlisted
      obtain ⟨r, hr, hle, hlast⟩ := within_of_listed hlisted
      exact ⟨h v hv hlisted, ⟨r, hr, hle⟩, hlast⟩
    · rintro ⟨hfirst, ⟨r, hr, hle⟩, hlast⟩
      exact listed_of_within hfirst ⟨r, hr, hle, hlast⟩

end Cursor
