/-
Loops of the form `while changed`.

`pass f items s` offers every item once to `f`, which either leaves the state
alone (`none`) or changes it; `loop` repeats passes until one changes nothing.
When every change lowers a measure, the loop with more fuel than the measure
ends in a state that no item can change (`loop_saturated`), whatever that fuel is
(`loop_fuel`), and it gets there by single changes only (`loop_path`).
-/
import Mathlib.Logic.Relation

namespace Saturate

variable {σ α : Type*}

/-- One pass over the items, with the flag `changed`. -/
def pass (f : σ → α → Option σ) (items : List α) (s : σ) : σ × Bool :=
  items.foldl (fun state a =>
    match f state.1 a with
    | none => state
    | some s => (s, true)) (s, false)

/-- `while changed`. -/
def loop (f : σ → α → Option σ) (items : List α) : Nat → σ → σ
  | 0, s => s
  | fuel + 1, s =>
    match pass f items s with
    | (s, true) => loop f items fuel s
    | (s, false) => s

variable {f : σ → α → Option σ} {items : List α}

/-- Some item changes `s` into `s'`. -/
def Change (f : σ → α → Option σ) (items : List α) (s s' : σ) : Prop :=
  ∃ a ∈ items, f s a = some s'

/-- What the rest of a pass does, from any state and any flag. -/
private theorem fold_spec : ∀ (l : List α) (s : σ) (b : Bool), (∀ a ∈ l, a ∈ items) →
    let r := l.foldl (fun (state : σ × Bool) a =>
      match f state.1 a with
      | none => state
      | some s => (s, true)) (s, b)
    (r = (s, b) ∧ ∀ a ∈ l, f s a = none) ∨
      (r.2 = true ∧ Relation.TransGen (Change f items) s r.1) := by
  intro l
  induction l with
  | nil =>
    intro s b _
    exact Or.inl ⟨rfl, by simp⟩
  | cons a l ih =>
    intro s b hl
    have hl' : ∀ a ∈ l, a ∈ items := fun a ha => hl a (List.mem_cons_of_mem _ ha)
    rcases hfa : f s a with _ | s₁
    · simp only [List.foldl_cons, hfa, List.mem_cons, forall_eq_or_imp, true_and]
      exact ih s b hl'
    · have hchange : Change f items s s₁ := ⟨a, hl a List.mem_cons_self, hfa⟩
      simp only [List.foldl_cons, hfa]
      right
      rcases ih s₁ true hl' with ⟨hr, -⟩ | ⟨hr, hpath⟩
      · rw [hr]
        exact ⟨rfl, .single hchange⟩
      · exact ⟨hr, .head hchange hpath⟩

/-- A pass either changes nothing, or is a nonempty sequence of changes. -/
theorem pass_cases (f : σ → α → Option σ) (items : List α) (s : σ) :
    (pass f items s = (s, false) ∧ ∀ a ∈ items, f s a = none) ∨
      ((pass f items s).2 = true ∧ Relation.TransGen (Change f items) s (pass f items s).1) :=
  fold_spec items s false fun _ ha => ha

/-- The loop makes single changes only. -/
theorem loop_path : ∀ (fuel : Nat) (s : σ),
    Relation.ReflTransGen (Change f items) s (loop f items fuel s) := by
  intro fuel
  induction fuel with
  | zero =>
    intro s
    exact .refl
  | succ fuel ih =>
    intro s
    rcases pass_cases f items s with ⟨hp, -⟩ | ⟨hflag, hpath⟩
    · rw [loop, hp]
    · rw [loop]
      rcases hp : pass f items s with ⟨s₁, b⟩
      rw [hp] at hflag hpath
      subst hflag
      exact hpath.to_reflTransGen.trans (ih s₁)

variable {I : σ → Prop} {μ : σ → Nat}
variable {s : σ}

private theorem transGen_measure (h : ∀ s s', I s → Change f items s s' → I s' ∧ μ s' < μ s)
    {s' : σ} (hs : I s) (hpath : Relation.TransGen (Change f items) s s') : I s' ∧ μ s' < μ s := by
  induction hpath with
  | single hc => exact h _ _ hs hc
  | tail _ hc ih =>
    obtain ⟨hI, hlt⟩ := ih
    obtain ⟨hI', hlt'⟩ := h _ _ hI hc
    exact ⟨hI', by omega⟩

/-- **Saturation.**  With more fuel than the measure of the initial state, no
item can change the state in which the loop ends. -/
theorem loop_saturated (h : ∀ s s', I s → Change f items s s' → I s' ∧ μ s' < μ s) :
    ∀ (fuel : Nat) (s : σ), I s → μ s < fuel → ∀ a ∈ items, f (loop f items fuel s) a = none := by
  intro fuel
  induction fuel with
  | zero =>
    intro s _ hfuel
    omega
  | succ fuel ih =>
    intro s hs hfuel
    rcases pass_cases f items s with ⟨hp, hnone⟩ | ⟨hflag, hpath⟩
    · rw [loop, hp]
      exact hnone
    · rw [loop]
      rcases hp : pass f items s with ⟨s₁, b⟩
      rw [hp] at hflag hpath
      subst hflag
      obtain ⟨hI, hlt⟩ := transGen_measure h hs hpath
      have hlt₁ : μ s₁ < μ s := hlt
      exact ih s₁ hI (by omega)

/-- In a saturated state a pass changes nothing. -/
theorem pass_of_saturated (h : ∀ a ∈ items, f s a = none) :
    pass f items s = (s, false) := by
  have hfold : ∀ l : List α, (∀ a ∈ l, f s a = none) →
      l.foldl (fun (state : σ × Bool) a =>
        match f state.1 a with
        | none => state
        | some s => (s, true)) (s, false) = (s, false) := by
    intro l hl
    induction l with
    | nil => rfl
    | cons a l ih =>
      rw [List.foldl_cons, hl a List.mem_cons_self]
      exact ih fun b hb => hl b (List.mem_cons_of_mem _ hb)
  exact hfold items h

theorem loop_of_saturated (h : ∀ a ∈ items, f s a = none) (fuel : Nat) :
    loop f items fuel s = s := by
  cases fuel with
  | zero => rfl
  | succ fuel => rw [loop, pass_of_saturated h]

/-- **Termination.**  Fuel above the measure of the initial state is never used up: more of it
changes nothing. -/
theorem loop_fuel (h : ∀ s s', I s → Change f items s s' → I s' ∧ μ s' < μ s) :
    ∀ (fuel fuel' : Nat) (s : σ), I s → μ s < fuel → μ s < fuel' →
      loop f items fuel s = loop f items fuel' s := by
  intro fuel
  induction fuel with
  | zero =>
    intro fuel' s _ hfuel
    omega
  | succ fuel ih =>
    intro fuel' s hs hfuel hfuel'
    obtain ⟨fuel', rfl⟩ : ∃ n, fuel' = n + 1 := ⟨fuel' - 1, by omega⟩
    rcases pass_cases f items s with ⟨hp, -⟩ | ⟨hflag, hpath⟩
    · rw [loop, loop, hp]
    · rcases hp : pass f items s with ⟨s₁, b⟩
      rw [hp] at hflag hpath
      subst hflag
      obtain ⟨hI, hlt⟩ := transGen_measure h hs hpath
      have hlt₁ : μ s₁ < μ s := hlt
      rw [loop, loop, hp]
      exact ih fuel' s₁ hI (by omega) (by omega)

/-- Counting as a measure: a predicate that shrinks and loses an item of the
list holds of fewer items. -/
theorem countP_lt_countP {p q : α → Bool} {l : List α} (h : ∀ x ∈ l, p x → q x) {x : α}
    (hx : x ∈ l) (hq : q x) (hp : ¬ p x) : l.countP p < l.countP q := by
  obtain ⟨l₁, l₂, rfl⟩ := List.append_of_mem hx
  have h₁ : l₁.countP p ≤ l₁.countP q :=
    List.countP_mono_left fun y hy => h y (List.mem_append_left _ hy)
  have h₂ : l₂.countP p ≤ l₂.countP q :=
    List.countP_mono_left fun y hy =>
      h y (List.mem_append_right _ (List.mem_cons_of_mem _ hy))
  rw [List.countP_append, List.countP_append, List.countP_cons_of_neg hp,
    List.countP_cons_of_pos hq]
  omega

end Saturate
