/-
Computations that write a state and may raise.

An `Attempt σ ε α` reads and writes a state `σ` and returns an `α` or raises an `ε`; what was
written before a raise stays written.  `run_bind_eq_ok` reads a sequence from the front.  `Keeps`
is the invariant rule: what every part of an action keeps, the action keeps.
-/
import AssuranceOS.Lib.Checked

variable {σ ε α β : Type}

/-- A computation over the state `σ` that raises errors `ε`. -/
def Attempt (σ ε α : Type) : Type := σ → Except ε α × σ

namespace Attempt

/-- What the computation returns or raises, with the state it leaves. -/
def run (x : Attempt σ ε α) (s : σ) : Except ε α × σ := x s

/-- Go on with the value; an error ends the computation. -/
def bind (x : Attempt σ ε α) (f : α → Attempt σ ε β) : Attempt σ ε β := fun s =>
  match x s with
  | (.ok a, s') => f a s'
  | (.error e, s') => (.error e, s')

instance : Monad (Attempt σ ε) where
  pure a := fun s => (.ok a, s)
  bind := bind

def raise (e : ε) : Attempt σ ε α := fun s => (.error e, s)

/-- A computation that does not touch the state. -/
def lift (x : Except ε α) : Attempt σ ε α := fun s => (x, s)

def get : Attempt σ ε σ := fun s => (.ok s, s)

def modify (f : σ → σ) : Attempt σ ε Unit := fun s => (.ok (), f s)

/-- For each item in turn, with an accumulator. -/
def forEach (f : β → α → Attempt σ ε β) : List α → β → Attempt σ ε β
  | [], b => pure b
  | a :: as, b => do
    let b ← f b a
    forEach f as b

/-! ### Reading a run -/

section Run

variable {s s' : σ}

variable {x : Attempt σ ε α} {f : α → Attempt σ ε β}

theorem run_bind_ok {a : α} (h : x.run s = (.ok a, s')) :
    (x >>= f).run s = (f a).run s' := by
  show (bind x f) s = f a s'
  unfold bind
  rw [show x s = (.ok a, s') from h]

theorem run_bind_error {e : ε} (h : x.run s = (.error e, s')) :
    (x >>= f).run s = (.error e, s') := by
  show (bind x f) s = (.error e, s')
  unfold bind
  rw [show x s = (.error e, s') from h]

theorem run_bind_eq_ok {b : β} :
    (x >>= f).run s = (.ok b, s') ↔
      ∃ a s₁, x.run s = (.ok a, s₁) ∧ (f a).run s₁ = (.ok b, s') := by
  rcases hx : x.run s with ⟨e | a, s₁⟩
  · rw [run_bind_error hx]
    constructor
    · intro h
      cases h
    · rintro ⟨a, s₂, h, -⟩
      cases h
  · rw [run_bind_ok hx]
    constructor
    · exact fun h => ⟨a, s₁, rfl, h⟩
    · rintro ⟨a', s₂, h, hf⟩
      cases h
      exact hf

theorem bind_congr {g : α → Attempt σ ε β} (h : ∀ a, f a = g a) :
    x >>= f = x >>= g :=
  congrArg (x >>= ·) (funext h)

theorem bind_assoc {γ : Type} (x : Attempt σ ε α) (f : α → Attempt σ ε β)
    (g : β → Attempt σ ε γ) : (x >>= f) >>= g = x >>= fun a => f a >>= g := by
  funext s
  show bind (bind x f) g s = bind x (fun a => bind (f a) g) s
  unfold bind
  rcases x s with ⟨e | a, s₁⟩
  · rfl
  · rfl

end Run

/-- Whatever the action returns or raises, `I` holds afterwards if it held before. -/
def Keeps (I : σ → Prop) (x : Attempt σ ε α) : Prop := ∀ s, I s → I (x.run s).2

section Keeps

variable {I : σ → Prop}

theorem keeps_pure (a : α) : (pure a : Attempt σ ε α).Keeps I := fun _ h => h

theorem keeps_raise (e : ε) : (raise e : Attempt σ ε α).Keeps I := fun _ h => h

theorem keeps_lift (x : Except ε α) : (lift x : Attempt σ ε α).Keeps I := fun _ h => h

theorem Keeps.bind {x : Attempt σ ε α} {f : α → Attempt σ ε β} (hx : x.Keeps I)
    (hf : ∀ a, (f a).Keeps I) : (x >>= f).Keeps I := by
  intro s h
  have hstep := hx s h
  rcases hrun : x.run s with ⟨e | a, s₁⟩
  · rw [run_bind_error hrun]
    rwa [hrun] at hstep
  · rw [run_bind_ok hrun]
    rw [hrun] at hstep
    exact hf a s₁ hstep

theorem keeps_forEach {f : β → α → Attempt σ ε β} (hf : ∀ b a, (f b a).Keeps I) :
    ∀ (as : List α) (b : β), (forEach f as b).Keeps I := by
  intro as
  induction as with
  | nil => exact fun b => keeps_pure b
  | cons a as ih => exact fun b => (hf b a).bind ih

end Keeps

/-- Every error that the action raises meets `E`. -/
def Exits (E : ε → Prop) (x : Attempt σ ε α) : Prop := ∀ s e, (x.run s).1 = .error e → E e

section Exits

variable {E : ε → Prop}

theorem exits_pure (a : α) : (pure a : Attempt σ ε α).Exits E := fun _ _ h => nomatch h

theorem Exits.bind {x : Attempt σ ε α} {f : α → Attempt σ ε β} (hx : x.Exits E)
    (hf : ∀ a, (f a).Exits E) : (x >>= f).Exits E := by
  intro s e h
  rcases hrun : x.run s with ⟨e' | a, s₁⟩
  · rw [run_bind_error hrun] at h
    have hexit := hx s e'
    rw [hrun] at hexit
    cases h
    exact hexit rfl
  · rw [run_bind_ok hrun] at h
    exact hf a s₁ e h

theorem exits_forEach {f : β → α → Attempt σ ε β} (hf : ∀ b a, (f b a).Exits E) :
    ∀ (as : List α) (b : β), (forEach f as b).Exits E := by
  intro as
  induction as with
  | nil => exact fun b => exits_pure b
  | cons a as ih => exact fun b => (hf b a).bind ih

end Exits

/-- From a state with `P`, whatever the action returns or raises, `Q` holds afterwards. -/
def Leads (P Q : σ → Prop) (x : Attempt σ ε α) : Prop := ∀ s, P s → Q (x.run s).2

section Leads

variable {P Q R : σ → Prop}
variable {x : Attempt σ ε α}

theorem Keeps.leads (h : x.Keeps P) : x.Leads P P := h

theorem Leads.mono {P' Q' : σ → Prop} (h : x.Leads P Q) (hP : ∀ s, P' s → P s)
    (hQ : ∀ s, Q s → Q' s) : x.Leads P' Q' :=
  fun s hs => hQ _ (h s (hP s hs))

/-- What an error leaves behind the first part has to meet `Q` too. -/
theorem Leads.bind {f : α → Attempt σ ε β} (hx : x.Leads P R) (hf : ∀ a, (f a).Leads R Q)
    (hQ : ∀ s, R s → Q s) : (x >>= f).Leads P Q := by
  intro s h
  have hstep := hx s h
  rcases hrun : x.run s with ⟨e | a, s₁⟩
  · rw [run_bind_error hrun]
    rw [hrun] at hstep
    exact hQ s₁ hstep
  · rw [run_bind_ok hrun]
    rw [hrun] at hstep
    exact hf a s₁ hstep

/-- A loop in which each item takes a count one further. -/
theorem leads_forEach {I : ℕ → σ → Prop} {f : β → α → Attempt σ ε β}
    (hmono : ∀ n s, I n s → I (n + 1) s)
    (hstep : ∀ b a n, (f b a).Leads (I n) (I (n + 1))) :
    ∀ (as : List α) (b : β) (n : ℕ), (forEach f as b).Leads (I n) (I (n + as.length)) := by
  intro as
  induction as with
  | nil =>
    intro b n
    exact (keeps_pure b).leads
  | cons a as ih =>
    intro b n
    have hlength : n + (a :: as).length = n + 1 + as.length := by
      rw [List.length_cons]
      omega
    rw [hlength]
    refine (hstep b a n).bind (fun b => ih b (n + 1)) fun s h => ?_
    -- the count also bounds what an item leaves behind that raises
    induction as.length with
    | zero => exact h
    | succ k ihk => exact hmono _ s ihk

end Leads

/-- From a state with `P`, the action leaves `Q` of what it returns and of the state. -/
def Yields (P : σ → Prop) (x : Attempt σ ε α) (Q : α → σ → Prop) : Prop :=
  ∀ s a s', P s → x.run s = (.ok a, s') → Q a s'

section Yields

variable {P : σ → Prop} {Q : β → σ → Prop} {R : α → σ → Prop}
variable {x : Attempt σ ε α}

theorem Keeps.yields (h : x.Keeps P) : x.Yields P fun _ => P := by
  intro s a s' hs hrun
  have hkept := h s hs
  rwa [hrun] at hkept

theorem yields_pure {a : α} (h : ∀ s, P s → R a s) : (pure a : Attempt σ ε α).Yields P R := by
  intro s a' s' hs hrun
  cases hrun
  exact h s hs

theorem Yields.bind {f : α → Attempt σ ε β} (hx : x.Yields P R) (hf : ∀ a, (f a).Yields (R a) Q) :
    (x >>= f).Yields P Q := by
  intro s b s' hs hrun
  obtain ⟨a, s₁, hfirst, hrest⟩ := run_bind_eq_ok.mp hrun
  exact hf a s₁ b s' (hx s a s₁ hs hfirst) hrest

/-- A loop keeps a condition on the accumulator and the state. -/
theorem yields_forEach {I : β → σ → Prop} {f : β → α → Attempt σ ε β}
    (hstep : ∀ b a, (f b a).Yields (I b) I) :
    ∀ (as : List α) (b : β), (forEach f as b).Yields (I b) I := by
  intro as
  induction as with
  | nil => exact fun b => yields_pure fun _ h => h
  | cons a as ih => exact fun b => (hstep b a).bind ih

end Yields

end Attempt
