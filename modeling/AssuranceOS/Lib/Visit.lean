/-
Loops that look at every item and keep something of some.

`visit examine items` goes through the items in order: each may raise, be skipped or give one
value.  A visit succeeds exactly when every look does (`exists_visit`), and then it has one value
for each item that is not skipped and no others (`visit_forall₂`).
-/
import AssuranceOS.Lib.Checked

namespace Visit

open Checked

variable {ε α β : Type}

/-- For each item in turn; what a look gives is appended, and `none` goes on with the next item. -/
def visit (examine : α → Except ε (Option β)) : List α → Except ε (List β)
  | [] => .ok []
  | a :: as => do
    let found ← examine a
    let rest ← visit examine as
    return found.toList ++ rest

variable {examine : α → Except ε (Option β)} {items : List α} {out : List β}

theorem visit_cons_eq_ok {a : α} : visit examine (a :: items) = .ok out ↔
    ∃ found rest, examine a = .ok found ∧ visit examine items = .ok rest ∧
      out = found.toList ++ rest := by
  rw [visit, bind_eq_ok]
  constructor
  · rintro ⟨found, hfound, h⟩
    obtain ⟨rest, hrest, h⟩ := bind_eq_ok.mp h
    cases h
    exact ⟨found, rest, hfound, hrest, rfl⟩
  · rintro ⟨found, rest, hfound, hrest, rfl⟩
    exact ⟨found, hfound, bind_eq_ok.mpr ⟨rest, hrest, rfl⟩⟩

/-- Nothing but a look that raises stops a visit. -/
theorem exists_visit : (∃ out, visit examine items = .ok out) ↔
    ∀ a ∈ items, ∃ found, examine a = .ok found := by
  induction items with
  | nil => exact iff_of_true ⟨[], rfl⟩ (by simp)
  | cons a items ih =>
    rw [List.forall_mem_cons, ← ih]
    constructor
    · rintro ⟨out, h⟩
      obtain ⟨found, rest, hfound, hrest, -⟩ := visit_cons_eq_ok.mp h
      exact ⟨⟨found, hfound⟩, rest, hrest⟩
    · rintro ⟨⟨found, hfound⟩, rest, hrest⟩
      exact ⟨_, visit_cons_eq_ok.mpr ⟨found, rest, hfound, hrest, rfl⟩⟩

variable {R : α → β → Prop} {b : β}

/-- A visit has one value for each item that is kept, in their order. -/
theorem visit_forall₂ {keep : α → Bool} (h : ∀ a ∈ items, ∀ found, examine a = .ok found →
      (keep a = true → ∃ b, found = some b ∧ R a b) ∧ (keep a = false → found = none))
    (hout : visit examine items = .ok out) : List.Forall₂ R (items.filter keep) out := by
  induction items generalizing out with
  | nil =>
    cases hout
    exact .nil
  | cons a items ih =>
    obtain ⟨found, rest, hfound, hrest, rfl⟩ := visit_cons_eq_ok.mp hout
    obtain ⟨hkept, hskipped⟩ := h a List.mem_cons_self found hfound
    have htail := ih (fun b hb => h b (List.mem_cons_of_mem _ hb)) hrest
    rcases hkeep : keep a with _ | _
    · rw [List.filter_cons_of_neg (by simp [hkeep]), hskipped hkeep]
      exact htail
    · obtain ⟨b, rfl, hR⟩ := hkept hkeep
      rw [List.filter_cons_of_pos hkeep]
      exact .cons hR htail

/-- Each of those values is related to an item that is kept. -/
theorem exists_of_mem_forall₂ (h : List.Forall₂ R items out) (hb : b ∈ out) :
    ∃ a ∈ items, R a b := by
  induction h with
  | nil => exact absurd hb List.not_mem_nil
  | cons hhead _ ih =>
    rcases List.mem_cons.mp hb with rfl | hrest
    · exact ⟨_, List.mem_cons_self, hhead⟩
    · obtain ⟨a, ha, hR⟩ := ih hrest
      exact ⟨a, List.mem_cons_of_mem _ ha, hR⟩

/-- What is found comes from a look at an item. -/
theorem mem_visit (hout : visit examine items = .ok out) :
    b ∈ out ↔ ∃ a ∈ items, examine a = .ok (some b) := by
  induction items generalizing out with
  | nil =>
    cases hout
    simp
  | cons a items ih =>
    obtain ⟨found, rest, hfound, hrest, rfl⟩ := visit_cons_eq_ok.mp hout
    rw [List.mem_append, ih hrest, Option.mem_toList, List.exists_mem_cons_iff, hfound]
    simp

theorem visit_eq_nil (hout : visit examine items = .ok out) :
    out = [] ↔ ∀ a ∈ items, ∀ b, examine a ≠ .ok (some b) := by
  rw [List.eq_nil_iff_forall_not_mem]
  simp only [mem_visit hout, not_exists, not_and]
  exact ⟨fun h a ha b => h b a ha, fun h b a ha => h a ha b⟩

end Visit
