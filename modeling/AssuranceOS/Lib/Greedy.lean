/-
One pass that takes what it can.

`offer s a` is the state after `a` has been taken, or `none` where the state `s` has no room for it.
`run` offers every item once, in order.  It loses nothing (`run_perm`), it keeps every invariant of
`offer` (`run_invariant`), and where a refusal is final the result has no room for what has been
refused (`run_maximal`).  `pass_run` is the rule for a loop that does more with every item.
-/
import Mathlib.Algebra.BigOperators.Group.List.Basic
import Mathlib.Data.List.Perm.Basic
import Mathlib.Data.List.Forall2

namespace Greedy

variable {σ α : Type*}

/-- The last state, what has been taken and what has been refused. -/
def run (offer : σ → α → Option σ) : σ → List α → σ × List α × List α
  | s, [] => (s, [], [])
  | s, a :: as =>
    match offer s a with
    | some s' => ((run offer s' as).1, a :: (run offer s' as).2.1, (run offer s' as).2.2)
    | none => ((run offer s as).1, (run offer s as).2.1, a :: (run offer s as).2.2)

def final (offer : σ → α → Option σ) (s : σ) (as : List α) : σ := (run offer s as).1

def taken (offer : σ → α → Option σ) (s : σ) (as : List α) : List α := (run offer s as).2.1

def refused (offer : σ → α → Option σ) (s : σ) (as : List α) : List α := (run offer s as).2.2

variable {offer : σ → α → Option σ} {s s' : σ} {a : α} {as : List α}

@[simp] theorem final_nil : final offer s [] = s := rfl

@[simp] theorem taken_nil : taken offer s [] = [] := rfl

@[simp] theorem refused_nil : refused offer s [] = [] := rfl

theorem run_cons_some (as : List α) (h : offer s a = some s') :
    final offer s (a :: as) = final offer s' as ∧
    taken offer s (a :: as) = a :: taken offer s' as ∧
    refused offer s (a :: as) = refused offer s' as := by
  unfold final taken refused
  rw [run, h]
  exact ⟨rfl, rfl, rfl⟩

theorem run_cons_none (as : List α) (h : offer s a = none) :
    final offer s (a :: as) = final offer s as ∧
    taken offer s (a :: as) = taken offer s as ∧
    refused offer s (a :: as) = a :: refused offer s as := by
  unfold final taken refused
  rw [run, h]
  exact ⟨rfl, rfl, rfl⟩

/-- Every item is taken or refused. -/
theorem run_perm (offer : σ → α → Option σ) (s : σ) (as : List α) :
    (taken offer s as ++ refused offer s as).Perm as := by
  induction as generalizing s with
  | nil => exact .refl _
  | cons a as ih =>
    rcases h : offer s a with _ | s'
    · obtain ⟨-, htaken, hrefused⟩ := run_cons_none as h
      rw [htaken, hrefused]
      exact List.perm_middle.trans ((ih s).cons a)
    · obtain ⟨-, htaken, hrefused⟩ := run_cons_some as h
      rw [htaken, hrefused]
      exact (ih s').cons a

/-- What every admission keeps holds in the end. -/
theorem run_invariant {I : σ → Prop} (h : ∀ s a s', I s → offer s a = some s' → I s') (hs : I s)
    (as : List α) : I (final offer s as) := by
  induction as generalizing s with
  | nil => exact hs
  | cons a as ih =>
    rcases hoffer : offer s a with _ | s'
    · rw [(run_cons_none as hoffer).1]
      exact ih hs
    · rw [(run_cons_some as hoffer).1]
      exact ih (h s a s' hs hoffer)

/-- What an admission adds up over the items that are taken. -/
theorem run_sum {M : Type*} [AddMonoid M] {measure : σ → M} {cost : α → M}
    (h : ∀ s a s', offer s a = some s' → measure s' = measure s + cost a) (s : σ) (as : List α) :
    measure (final offer s as) = measure s + ((taken offer s as).map cost).sum := by
  induction as generalizing s with
  | nil => simp
  | cons a as ih =>
    rcases hoffer : offer s a with _ | s'
    · obtain ⟨hfinal, htaken, -⟩ := run_cons_none as hoffer
      rw [hfinal, htaken, ih]
    · obtain ⟨hfinal, htaken, -⟩ := run_cons_some as hoffer
      rw [hfinal, htaken, ih, h s a s' hoffer, List.map_cons, List.sum_cons, add_assoc]

/-- Where no admission makes room, the result has no room for what has been refused. -/
theorem run_maximal (h : ∀ s a b s', offer s a = none → offer s b = some s' → offer s' a = none)
    (s : σ) (as : List α) :
    ∀ a ∈ refused offer s as, offer (final offer s as) a = none := by
  induction as generalizing s with
  | nil => simp
  | cons b as ih =>
    rcases hoffer : offer s b with _ | s'
    · obtain ⟨hfinal, -, hrefused⟩ := run_cons_none as hoffer
      intro a ha
      rw [hrefused] at ha
      rw [hfinal]
      rcases List.mem_cons.mp ha with rfl | ha
      · exact run_invariant (I := fun s => offer s a = none)
          (fun s b s' hnone hsome => h s a b s' hnone hsome) hoffer as
      · exact ih s a ha
    · obtain ⟨hfinal, -, hrefused⟩ := run_cons_some as hoffer
      intro a ha
      rw [hrefused] at ha
      rw [hfinal]
      exact ih s' a ha

/-- A loop writes a row for every item that it takes and for every one that it refuses. -/
theorem pass_run {τ β γ : Type*} {step : τ → α → τ} {view : τ → σ × List β × List γ}
    {Takes : α → β → Prop} {Refuses : α → γ → Prop}
    (hsome : ∀ t a s', offer (view t).1 a = some s' → ∃ row, Takes a row ∧
      view (step t a) = (s', (view t).2.1 ++ [row], (view t).2.2))
    (hnone : ∀ t a, offer (view t).1 a = none → ∃ row, Refuses a row ∧
      view (step t a) = ((view t).1, (view t).2.1, (view t).2.2 ++ [row]))
    (t : τ) (as : List α) :
    ∃ rows others, List.Forall₂ Takes (taken offer (view t).1 as) rows ∧
      List.Forall₂ Refuses (refused offer (view t).1 as) others ∧
      view (as.foldl step t) = (final offer (view t).1 as, (view t).2.1 ++ rows,
        (view t).2.2 ++ others) := by
  induction as generalizing t with
  | nil => exact ⟨[], [], .nil, .nil, by simp⟩
  | cons a as ih =>
    obtain ⟨rows, others, htakes, hrefuses, hview⟩ := ih (step t a)
    rcases hoffer : offer (view t).1 a with _ | s'
    · obtain ⟨row, hrow, hstep⟩ := hnone t a hoffer
      obtain ⟨hfinal, htaken, hrefused⟩ := run_cons_none as hoffer
      rw [hstep] at htakes hrefuses hview
      rw [hfinal, htaken, hrefused]
      exact ⟨rows, row :: others, htakes, .cons hrow hrefuses, by simpa using hview⟩
    · obtain ⟨row, hrow, hstep⟩ := hsome t a s' hoffer
      obtain ⟨hfinal, htaken, hrefused⟩ := run_cons_some as hoffer
      rw [hstep] at htakes hrefuses hview
      rw [hfinal, htaken, hrefused]
      exact ⟨row :: rows, others, .cons hrow htakes, hrefuses, by simpa using hview⟩

end Greedy
