/-
What a result depends on.

States of the type `σ` are compared by what an observer may see of them (`Agree`).  A result is
independent of the rest at a state (`Independent`) if every valid state that agrees with it gives
the same result.  Two agreeing states with different results show that it is not
(`not_independent`).
-/
import Mathlib.Tactic.Common

namespace Independence

variable {σ ρ : Type} {Valid : σ → Prop} {Agree : σ → σ → Prop} {result : σ → ρ} {s : σ}

/-- Every valid state that agrees with `s` gives the result of `s`. -/
def Independent (Valid : σ → Prop) (Agree : σ → σ → Prop) (result : σ → ρ) (s : σ) : Prop :=
  ∀ s', Valid s' → Agree s s' → result s' = result s

/-- Both states would have to give the result of `s`. -/
theorem not_independent {s₁ s₂ : σ} (h₁ : Valid s₁) (h₂ : Valid s₂) (hagree₁ : Agree s s₁)
    (hagree₂ : Agree s s₂) (hne : result s₁ ≠ result s₂) :
    ¬ Independent Valid Agree result s := by
  intro h
  exact hne ((h s₁ h₁ hagree₁).trans (h s₂ h₂ hagree₂).symm)

end Independence
