/-
Runs of a state machine, and loops as paths.

A machine is a step function `step : σ → α → σ`; a run is a left fold of it
over a list of inputs.  `EachStep ok s as` says that every step of the run
from `s` meets `ok` in the state in which it is taken, and `run_invariant`
is the induction rule for such runs.

`foldl_path` reads a for-each loop over independent items as a path of a step
relation: each item is `Ready` when the loop starts, and treating one item
leaves the others ready.
-/
import Mathlib.Logic.Relation

namespace Runs

variable {σ α : Type*}

/-- Every step of the run from `s` over `as` meets `ok`. -/
def EachStep (step : σ → α → σ) (ok : σ → α → Prop) : σ → List α → Prop
  | _, [] => True
  | s, a :: as => ok s a ∧ EachStep step ok (step s a) as

instance decidableEachStep {step : σ → α → σ} {ok : σ → α → Prop} [∀ s a, Decidable (ok s a)] :
    ∀ s as, Decidable (EachStep step ok s as)
  | _, [] => isTrue trivial
  | s, a :: as =>
    have : Decidable (EachStep step ok (step s a) as) := decidableEachStep (step s a) as
    inferInstanceAs (Decidable (_ ∧ _))

variable {step : σ → α → σ} {ok P : σ → α → Prop} {as : List α} {s : σ} {a : α} {I : σ → Prop}

/-- A condition that every input meets in every state holds along every run. -/
theorem EachStep.of_forall (h : ∀ a ∈ as, ∀ s, ok s a) : EachStep step ok s as := by
  induction as generalizing s with
  | nil => exact trivial
  | cons a as ih =>
    exact ⟨h a List.mem_cons_self s, ih fun b hb => h b (List.mem_cons_of_mem _ hb)⟩

variable {Q : σ → α → Prop}

theorem EachStep.and (hP : EachStep step P s as) (hQ : EachStep step Q s as) :
    EachStep step (fun s a => P s a ∧ Q s a) s as := by
  induction as generalizing s with
  | nil => exact trivial
  | cons a as ih => exact ⟨⟨hP.1, hQ.1⟩, ih hP.2 hQ.2⟩

theorem eachStep_append {bs : List α} :
    EachStep step ok s (as ++ bs) ↔
      EachStep step ok s as ∧ EachStep step ok (as.foldl step s) bs := by
  induction as generalizing s with
  | nil => simp [EachStep]
  | cons b as ih => simp [EachStep, ih, and_assoc]

/-- A run that ends in a step that fails `ok`. -/
theorem not_eachStep_of_last (h : ¬ ok (as.foldl step s) a) : ¬ EachStep step ok s (as ++ [a]) :=
  fun hall => h (eachStep_append.mp hall).2.1

/-- Every input meets `P` after the inputs before it. -/
def EachSplit (P : List α → α → Prop) (as : List α) : Prop :=
  ∀ before a after, as = before ++ a :: after → P before a

theorem eachSplit_nil {P : List α → α → Prop} : EachSplit P [] := by
  intro before a after heq
  simp at heq

theorem eachSplit_cons {P : List α → α → Prop} :
    EachSplit P (a :: as) ↔ P [] a ∧ EachSplit (fun before => P (a :: before)) as := by
  constructor
  · intro h
    exact ⟨h [] a as rfl, fun before b after heq => h (a :: before) b after (by rw [heq]; rfl)⟩
  · rintro ⟨hfirst, hrest⟩ before b after heq
    cases before with
    | nil =>
      obtain ⟨rfl, -⟩ := List.cons.inj heq
      exact hfirst
    | cons x before =>
      obtain ⟨rfl, htail⟩ := List.cons.inj heq
      exact hrest before b after htail

/-- A condition on the state of each step is a condition on the inputs before it. -/
theorem eachStep_iff :
    EachStep step ok s as ↔ EachSplit (fun before => ok (before.foldl step s)) as := by
  induction as generalizing s with
  | nil => exact iff_of_true trivial eachSplit_nil
  | cons a as ih => rw [EachStep, eachSplit_cons, ih]; rfl

/-- **The invariant rule.**  What holds initially and is kept by every step
that meets `ok` holds after every run whose steps all meet `ok`. -/
theorem run_invariant (hstep : ∀ s a, ok s a → I s → I (step s a)) :
    ∀ {s : σ} {as : List α}, I s → EachStep step ok s as → I (as.foldl step s) := by
  intro s as
  induction as generalizing s with
  | nil =>
    intro hs _
    exact hs
  | cons a as ih =>
    intro hs hok
    exact ih (hstep s a hok.1 hs) hok.2

/-- What an invariant gives at a step, it gives at every step of a run. -/
theorem EachStep.of_invariant (hstep : ∀ s a, ok s a → I s → I (step s a))
    (hQ : ∀ s a, ok s a → I s → Q s a) :
    ∀ {s : σ} {as : List α}, I s → EachStep step ok s as → EachStep step Q s as := by
  intro s as
  induction as generalizing s with
  | nil =>
    intro _ _
    exact trivial
  | cons a as ih =>
    intro hs hok
    exact ⟨hQ s a hok.1 hs, ih (hstep s a hok.1 hs) hok.2⟩

/-- The unconditional form of the invariant rule. -/
theorem run_invariant_always (hstep : ∀ s a, I s → I (step s a)) (hs : I s) (as : List α) :
    I (as.foldl step s) := by
  induction as generalizing s with
  | nil => exact hs
  | cons a as ih => exact ih (hstep s a hs)

/-- Some step of the run from `s` over `as` meets `P`, in the state in which it
is taken. -/
def SomeStep (step : σ → α → σ) (P : σ → α → Prop) (s : σ) (as : List α) : Prop :=
  ∃ before a after, as = before ++ a :: after ∧ P (before.foldl step s) a

theorem SomeStep.last (h : P (as.foldl step s) a) : SomeStep step P s (as ++ [a]) :=
  ⟨as, a, [], rfl, h⟩

theorem SomeStep.append (h : SomeStep step P s as) (bs : List α) :
    SomeStep step P s (as ++ bs) := by
  obtain ⟨before, a, after, rfl, hP⟩ := h
  exact ⟨before, a, after ++ bs, by simp, hP⟩

variable {R : σ → σ → Prop} {Ready : σ → α → Prop} {D : α → α → Prop} {f : σ → α → σ}

/-- An invariant of the path's relation holds at its end. -/
theorem path_invariant (hstep : ∀ s s', R s s' → I s → I s') {s' : σ}
    (h : Relation.ReflTransGen R s s') (hs : I s) : I s' := by
  induction h with
  | refl => exact hs
  | tail _ hlast ih => exact hstep _ _ hlast ih

/-- A for-each loop over pairwise independent items is a path of `R`. -/
theorem foldl_path (hstep : ∀ s a, Ready s a → Relation.ReflTransGen R s (f s a))
    (hkeep : ∀ s a b, Ready s a → Ready s b → D a b → Ready (f s a) b) :
    ∀ (l : List α) (s : σ), l.Pairwise D → (∀ a ∈ l, Ready s a) →
      Relation.ReflTransGen R s (l.foldl f s) := by
  intro l
  induction l with
  | nil =>
    intro s _ _
    exact .refl
  | cons a l ih =>
    intro s hpair hready
    obtain ⟨hD, hpair⟩ := List.pairwise_cons.mp hpair
    have ha : Ready s a := hready a List.mem_cons_self
    refine (hstep s a ha).trans (ih (f s a) hpair fun b hb => ?_)
    exact hkeep s a b ha (hready b (List.mem_cons_of_mem _ hb)) (hD b hb)

/-- Whatever treating an item establishes and the path keeps holds of every item
at the end of the loop. -/
theorem foldl_done {Done : σ → α → Prop}
    (hstep : ∀ s a, Ready s a → Relation.ReflTransGen R s (f s a))
    (hkeep : ∀ s a b, Ready s a → Ready s b → D a b → Ready (f s a) b)
    (hdone : ∀ s a, Ready s a → Done (f s a) a)
    (hstay : ∀ s s' a, R s s' → Done s a → Done s' a) :
    ∀ (l : List α) (s : σ), l.Pairwise D → (∀ a ∈ l, Ready s a) →
      ∀ a ∈ l, Done (l.foldl f s) a := by
  intro l
  induction l with
  | nil =>
    intro s _ _ a ha
    exact absurd ha List.not_mem_nil
  | cons b l ih =>
    intro s hpair hready a ha
    obtain ⟨hD, htail⟩ := List.pairwise_cons.mp hpair
    have hb : Ready s b := hready b List.mem_cons_self
    have hrest : ∀ c ∈ l, Ready (f s b) c := fun c hc =>
      hkeep s b c hb (hready c (List.mem_cons_of_mem _ hc)) (hD c hc)
    rcases List.mem_cons.mp ha with rfl | ha
    · have hpath := foldl_path hstep hkeep l (f s a) htail hrest
      exact path_invariant (fun s s' hR hs => hstay s s' a hR hs) hpath (hdone s a hb)
    · exact ih (f s b) htail hrest a ha

end Runs
