/-
Computations that make notes on their way.

A `Report` is the notes that a computation has made and its result, a value or an
exception; the notes made before an exception stay.  `Quiet p x a` says that `x` returns
`a` and that every note of it satisfies `p`.  `Settles p x` says that `x` returns or ends with
an exception that `p` allows, and `Notes p x` that its notes satisfy `p`, however it ends.  The
lemmas read this from the front of a computation, as those of `Checked` do for `Except`.
-/
import AssuranceOS.Lib.Checked
import Mathlib.Tactic.Common

/-- Notes, and a result. -/
structure Report (ν ε α : Type) where
  notes : List ν
  result : Except ε α

namespace Report

variable {ν ε α β σ : Type}

instance : Monad (Report ν ε) where
  pure a := ⟨[], .ok a⟩
  bind x f :=
    match x.result with
    | .ok a => ⟨x.notes ++ (f a).notes, (f a).result⟩
    | .error e => ⟨x.notes, .error e⟩

/-- Make a note. -/
def note (n : ν) : Report ν ε Unit :=
  ⟨[n], .ok ()⟩

/-- Make a note unless `c` holds. -/
def noteUnless (c : Prop) [Decidable c] (n : ν) : Report ν ε Unit :=
  if c then pure () else note n

/-- A computation without notes. -/
def lift (x : Except ε α) : Report ν ε α :=
  ⟨[], x⟩

def raise (e : ε) : Report ν ε α :=
  lift (.error e)

/-- `try: x except e: handler e`. -/
def handle (x : Report ν ε α) (handler : ε → Report ν ε α) : Report ν ε α :=
  match x.result with
  | .ok a => ⟨x.notes, .ok a⟩
  | .error e => ⟨x.notes ++ (handler e).notes, (handler e).result⟩

/-- The computation returns `a` and makes no notes but those that `p` allows. -/
def Quiet (p : ν → Prop) (x : Report ν ε α) (a : α) : Prop :=
  (∀ n ∈ x.notes, p n) ∧ x.result = .ok a

section Quiet

variable {p : ν → Prop} {x : Report ν ε α} {f : α → Report ν ε β} {a b : α} {r : β}

@[simp] theorem quiet_pure : Quiet p (pure a : Report ν ε α) b ↔ a = b := by
  simp [Quiet, pure]

theorem quiet_bind : Quiet p (x >>= f) r ↔ ∃ a, Quiet p x a ∧ Quiet p (f a) r := by
  rcases x with ⟨notes, e | a⟩
  · simp [Quiet, bind]
  · simp only [Quiet, bind, List.mem_append, Except.ok.injEq]
    constructor
    · rintro ⟨hnotes, hr⟩
      exact ⟨a, ⟨fun n hn => hnotes n (.inl hn), rfl⟩, fun n hn => hnotes n (.inr hn), hr⟩
    · rintro ⟨_, ⟨hx, rfl⟩, hf, hr⟩
      exact ⟨fun n hn => hn.elim (hx n) (hf n), hr⟩

variable {u : Unit}
variable {n : ν}

@[simp] theorem quiet_note : Quiet p (note n : Report ν ε Unit) u ↔ p n := by
  simp [Quiet, note]

@[simp] theorem quiet_noteUnless {c : Prop} [Decidable c] :
    Quiet p (noteUnless c n : Report ν ε Unit) u ↔ c ∨ p n := by
  unfold noteUnless
  split <;> simp_all

@[simp] theorem quiet_lift {y : Except ε α} :
    Quiet p (lift y : Report ν ε α) a ↔ y = .ok a := by
  simp [Quiet, lift]

@[simp] theorem quiet_raise {e : ε} : ¬ Quiet p (raise e : Report ν ε α) a := by
  simp [raise]

/-- A quiet computation has been quiet to the end, or its handler was. -/
theorem quiet_handle {handler : ε → Report ν ε α} : Quiet p (x.handle handler) a ↔
    Quiet p x a ∨ ∃ e, x.result = .error e ∧ (∀ n ∈ x.notes, p n) ∧ Quiet p (handler e) a := by
  rcases x with ⟨notes, e | b⟩
  · simp [Quiet, handle, or_imp, forall_and, and_assoc]
  · simp [Quiet, handle]

theorem quiet_forM {xs : List β} {f : β → Report ν ε Unit} :
    Quiet p (forM xs f) u ↔ ∀ x ∈ xs, Quiet p (f x) () := by
  induction xs with
  | nil => simp
  | cons x xs ih =>
    rw [List.forM_cons, quiet_bind, List.forall_mem_cons]
    constructor
    · rintro ⟨_, hx, hxs⟩
      exact ⟨hx, ih.mp hxs⟩
    · rintro ⟨hx, hxs⟩
      exact ⟨(), hx, ih.mpr hxs⟩

/-- A quiet loop whose every step adds an entry with a new key has the entries of its items. -/
theorem quiet_collect {γ κ : Type} {R : β → γ → Prop} {k : γ → κ}
    {f : List γ → β → Report ν ε (List γ)}
    (hstep : ∀ s x t, Quiet p (f s x) t → ∃ y, R x y ∧ k y ∉ s.map k ∧ t = s ++ [y]) :
    ∀ {xs : List β} {s t : List γ}, (s.map k).Nodup → Quiet p (xs.foldlM f s) t →
      ∃ ys, t = s ++ ys ∧ List.Forall₂ R xs ys ∧ (t.map k).Nodup := by
  intro xs
  induction xs with
  | nil =>
    intro s t hnodup h
    rw [List.foldlM_nil, quiet_pure] at h
    subst h
    exact ⟨[], (List.append_nil _).symm, .nil, hnodup⟩
  | cons x xs ih =>
    intro s t hnodup h
    rw [List.foldlM_cons, quiet_bind] at h
    obtain ⟨u, hx, hxs⟩ := h
    obtain ⟨y, hy, hnew, rfl⟩ := hstep s x u hx
    have hnext : ((s ++ [y]).map k).Nodup := by
      rw [List.map_append, List.map_singleton, List.nodup_append]
      refine ⟨hnodup, by simp, fun a ha b hb => ?_⟩
      rw [List.mem_singleton.mp hb]
      exact fun heq => hnew (heq ▸ ha)
    obtain ⟨ys, rfl, hys, hall⟩ := ih hnext hxs
    exact ⟨y :: ys, by simp, .cons hy hys, hall⟩

end Quiet

/-! ### How computations end -/

/-- The computation returns, or ends with an exception that `p` allows. -/
def Settles (p : ε → Prop) (x : Report ν ε α) : Prop :=
  ∀ e, x.result = .error e → p e

/-- Every note satisfies `p`. -/
def Notes (p : ν → Prop) (x : Report ν ε α) : Prop :=
  ∀ n ∈ x.notes, p n

section Ends

variable {p : ε → Prop} {q : ν → Prop} {x : Report ν ε α} {f : α → Report ν ε β}

@[simp] theorem result_lift (y : Except ε α) : (lift y : Report ν ε α).result = y := rfl

variable {a : α} {e : ε} {handler : ε → Report ν ε α}

theorem result_bind_ok (h : x.result = .ok a) : (x >>= f).result = (f a).result := by
  rcases x with ⟨notes, e | b⟩
  · cases h
  · cases h
    rfl

theorem result_bind_error (h : x.result = .error e) : (x >>= f).result = .error e := by
  rcases x with ⟨notes, e' | b⟩
  · cases h
    rfl
  · cases h

theorem handle_result_ok (h : x.result = .ok a) :
    (x.handle handler).result = .ok a := by
  rw [handle, h]

theorem handle_result_error (h : x.result = .error e) :
    (x.handle handler).result = (handler e).result := by
  rw [handle, h]

theorem settles_of_ok (h : x.result = .ok a) : Settles p x := by
  intro e he
  rw [h] at he
  cases he

variable {y : Except ε α} {n : ν} {xs : List β} {A : β → Prop}

theorem settles_lift :
    Settles p (lift y : Report ν ε α) ↔ ∀ e, y = .error e → p e := Iff.rfl

theorem settles_bind :
    Settles p (x >>= f) ↔ Settles p x ∧ ∀ a, x.result = .ok a → Settles p (f a) := by
  rcases x with ⟨notes, e | b⟩ <;> simp [Settles, bind]

theorem settles_bind_ok (h : x.result = .ok a) :
    Settles p (x >>= f) ↔ Settles p (f a) := by
  rw [Settles, Settles, result_bind_ok h]

theorem settles_bind_error (h : x.result = .error e) : Settles p (x >>= f) ↔ p e := by
  rw [Settles, result_bind_error h]
  exact ⟨fun hp => hp e rfl, fun hp e' he => by cases he; exact hp⟩

theorem settles_handle :
    Settles p (x.handle handler) ↔ ∀ e, x.result = .error e → Settles p (handler e) := by
  rcases x with ⟨notes, e | b⟩ <;> simp [Settles, handle]

@[simp] theorem notes_pure : Notes q (pure a : Report ν ε α) := by
  simp [Notes, pure]

@[simp] theorem notes_lift : Notes q (lift y : Report ν ε α) := by
  simp [Notes, lift]

@[simp] theorem notes_raise : Notes q (raise e : Report ν ε α) := notes_lift

@[simp] theorem notes_note : Notes q (note n : Report ν ε Unit) ↔ q n := by
  simp [Notes, note]

theorem notes_noteUnless {c : Prop} [Decidable c] (h : q n) :
    Notes q (noteUnless c n : Report ν ε Unit) := by
  unfold noteUnless
  split
  · exact notes_pure
  · exact notes_note.mpr h

theorem notes_bind :
    Notes q (x >>= f) ↔ Notes q x ∧ ∀ a, x.result = .ok a → Notes q (f a) := by
  rcases x with ⟨notes, e | b⟩
  · simp [Notes, bind]
  · simp [Notes, bind, or_imp, forall_and]

theorem Notes.bind (hx : Notes q x) (hf : ∀ a, Notes q (f a)) : Notes q (x >>= f) :=
  notes_bind.mpr ⟨hx, fun a _ => hf a⟩

theorem notes_handle : Notes q (x.handle handler) ↔
    Notes q x ∧ ∀ e, x.result = .error e → Notes q (handler e) := by
  rcases x with ⟨notes, e | b⟩
  · simp [Notes, handle, or_imp, forall_and]
  · simp [Notes, handle]

theorem notes_forM {f : β → Report ν ε Unit} (h : ∀ x, Notes q (f x)) :
    Notes q (forM xs f) := by
  induction xs with
  | nil => exact notes_pure
  | cons x xs ih => exact (h x).bind fun _ => ih

theorem notes_foldlM {f : σ → β → Report ν ε σ} (h : ∀ s x, Notes q (f s x)) {s : σ} :
    Notes q (xs.foldlM f s) := by
  induction xs generalizing s with
  | nil => exact notes_pure
  | cons x xs ih => exact (h s x).bind fun _ => ih

/-- A loop ends with the exception of the first item that raises one, if each item raises the same
exception wherever it stands. -/
theorem foldlM_result {err : β → Option ε} {inv : σ → Prop} {f : σ → β → Report ν ε σ} :
    ∀ {xs : List β} {s : σ},
    (∀ s x, x ∈ xs → inv s → (∃ e, err x = some e ∧ (f s x).result = .error e) ∨
      (err x = none ∧ ∃ t, (f s x).result = .ok t ∧ inv t)) → inv s →
    (∃ e, (xs.filterMap err).head? = some e ∧ (xs.foldlM f s).result = .error e) ∨
      (xs.filterMap err = [] ∧ ∃ t, (xs.foldlM f s).result = .ok t ∧ inv t) := by
  intro xs
  induction xs with
  | nil => exact fun _ hs => Or.inr ⟨rfl, _, rfl, hs⟩
  | cons x xs ih =>
    intro s hstep hs
    rw [List.foldlM_cons]
    rcases hstep s x List.mem_cons_self hs with ⟨e, herr, he⟩ | ⟨herr, t, ht, hinv⟩
    · exact Or.inl ⟨e, by rw [List.filterMap_cons_some herr, List.head?_cons],
        result_bind_error he⟩
    · rw [List.filterMap_cons_none herr, result_bind_ok ht]
      exact ih (fun s y hy => hstep s y (List.mem_cons_of_mem x hy)) hinv

/-- A loop settles when each round does, if a round that settles returns. -/
theorem settles_foldlM {f : σ → β → Report ν ε σ} : ∀ {xs : List β} {s : σ},
    (∀ s, ∀ x ∈ xs, Settles p (f s x) ↔ A x) →
    (∀ s, ∀ x ∈ xs, Settles p (f s x) → ∃ t, (f s x).result = .ok t) →
    (Settles p (xs.foldlM f s) ↔ ∀ x ∈ xs, A x) := by
  intro xs
  induction xs with
  | nil => exact fun _ _ => iff_of_true (settles_of_ok rfl) (by simp)
  | cons x xs ih =>
    intro s hround hreturns
    have hrest : ∀ t, Settles p (xs.foldlM f t) ↔ ∀ y ∈ xs, A y := fun t =>
      ih (fun s y hy => hround s y (List.mem_cons_of_mem x hy))
        fun s y hy => hreturns s y (List.mem_cons_of_mem x hy)
    rw [List.foldlM_cons, settles_bind, hround s x List.mem_cons_self, List.forall_mem_cons]
    constructor
    · rintro ⟨hx, hxs⟩
      obtain ⟨t, ht⟩ := hreturns s x List.mem_cons_self
        ((hround s x List.mem_cons_self).mpr hx)
      exact ⟨hx, (hrest t).mp (hxs t ht)⟩
    · rintro ⟨hx, hxs⟩
      exact ⟨hx, fun t _ => (hrest t).mpr hxs⟩

theorem foldlM_returns {f : σ → β → Report ν ε σ} : ∀ {xs : List β} {s : σ},
    (∀ s, ∀ x ∈ xs, Settles p (f s x) → ∃ t, (f s x).result = .ok t) →
    Settles p (xs.foldlM f s) → ∃ t, (xs.foldlM f s).result = .ok t := by
  intro xs
  induction xs with
  | nil => exact fun _ _ => ⟨_, rfl⟩
  | cons x xs ih =>
    intro s hreturns h
    rw [List.foldlM_cons, settles_bind] at h
    obtain ⟨t, ht⟩ := hreturns s x List.mem_cons_self h.1
    rw [List.foldlM_cons, result_bind_ok ht]
    exact ih (fun s y hy => hreturns s y (List.mem_cons_of_mem x hy)) (h.2 t ht)

theorem settles_forM {f : β → Report ν ε Unit} : ∀ {xs : List β},
    (∀ x ∈ xs, Settles p (f x) ↔ A x) →
    (∀ x ∈ xs, Settles p (f x) → (f x).result = .ok ()) →
    (Settles p (forM xs f) ↔ ∀ x ∈ xs, A x) := by
  intro xs
  induction xs with
  | nil => exact fun _ _ => iff_of_true (settles_of_ok rfl) (by simp)
  | cons x xs ih =>
    intro hround hreturns
    rw [List.forM_cons, settles_bind, hround x List.mem_cons_self, List.forall_mem_cons]
    refine and_congr_right fun hx => ?_
    have ht := hreturns x List.mem_cons_self ((hround x List.mem_cons_self).mpr hx)
    rw [← ih (fun y hy => hround y (List.mem_cons_of_mem x hy))
      fun y hy => hreturns y (List.mem_cons_of_mem x hy)]
    exact ⟨fun h => h () ht, fun h _ _ => h⟩

theorem forM_returns {f : β → Report ν ε Unit} : ∀ {xs : List β},
    (∀ x ∈ xs, (f x).result = .ok ()) → (forM xs f).result = .ok () := by
  intro xs
  induction xs with
  | nil => exact fun _ => rfl
  | cons x xs ih =>
    intro h
    rw [List.forM_cons, result_bind_ok (h x List.mem_cons_self)]
    exact ih fun y hy => h y (List.mem_cons_of_mem x hy)

end Ends

end Report
