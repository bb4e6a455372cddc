/-
Peeling checked computations apart.

A computation that can refuse is a chain of binds in `Except ε`.  The lemmas
below read a successful chain from the front: `bind_eq_ok` for any first step,
`require_bind_eq_ok` for a test, `ofOption_bind_eq_ok` for a lookup.  `Refuses P` says that
a computation refuses with errors in `P` only.
-/
import Mathlib.Data.List.Forall2

namespace Checked

variable {ε α β : Type}

/-- Refuse with `err` unless `c` holds. -/
def require (c : Prop) [Decidable c] (err : ε) : Except ε Unit :=
  if c then .ok () else .error err

/-- Refuse with `err` when there is no value. -/
def ofOption (err : ε) : Option α → Except ε α
  | some a => .ok a
  | none => .error err

variable {x : Except ε α} {f : α → Except ε β} {r : β} {a : α} {err : ε}

theorem bind_eq_ok :
    (x >>= f) = .ok r ↔ ∃ a, x = .ok a ∧ f a = .ok r := by
  rcases x with err | a
  · simp [bind, Except.bind]
  · simp [bind, Except.bind]

theorem map_eq_ok {f : α → β} :
    x.map f = .ok r ↔ ∃ a, x = .ok a ∧ f a = r := by
  rcases x with err | a
  · simp [Except.map]
  · simp [Except.map]

theorem mapError_eq_ok {ε' : Type} {f : ε → ε'} :
    x.mapError f = .ok a ↔ x = .ok a := by
  rcases x with err | b
  · simp [Except.mapError]
  · simp [Except.mapError]

variable {c : Prop} {items : List α}

theorem require_eq_ok [Decidable c] {u : Unit} :
    require c err = .ok u ↔ c := by
  unfold require
  split <;> simp_all

theorem require_bind_eq_ok [Decidable c] {f : Unit → Except ε β} :
    (require c err >>= f) = .ok r ↔ c ∧ f () = .ok r := by
  rw [bind_eq_ok]
  constructor
  · rintro ⟨u, hu, hf⟩
    exact ⟨require_eq_ok.mp hu, hf⟩
  · rintro ⟨hc, hf⟩
    exact ⟨(), require_eq_ok.mpr hc, hf⟩

theorem ofOption_eq_ok {x : Option α} :
    ofOption err x = .ok a ↔ x = some a := by
  cases x <;> simp [ofOption]

theorem toOption_eq_some : x.toOption = some a ↔ x = .ok a := by
  cases x with
  | error e => exact iff_of_false (by simp [Except.toOption]) (by simp)
  | ok b => simp [Except.toOption]

theorem ofOption_bind_eq_ok {x : Option α} :
    (ofOption err x >>= f) = .ok r ↔ ∃ a, x = some a ∧ f a = .ok r := by
  simp only [bind_eq_ok, ofOption_eq_ok]

/-- Each item in turn. -/
theorem mapM_eq_ok : ∀ {items : List α} {bs : List β},
    items.mapM f = .ok bs ↔ List.Forall₂ (fun a b => f a = .ok b) items bs := by
  intro items
  induction items with
  | nil =>
    intro bs
    simp [pure, Except.pure, eq_comm]
  | cons a items ih =>
    intro bs
    rw [List.mapM_cons, bind_eq_ok, List.forall₂_cons_left_iff]
    constructor
    · rintro ⟨b, hb, hrest⟩
      obtain ⟨bs', hbs', heq⟩ := bind_eq_ok.mp hrest
      cases heq
      exact ⟨b, bs', hb, ih.mp hbs', rfl⟩
    · rintro ⟨b, bs', hb, hbs', rfl⟩
      exact ⟨b, hb, bind_eq_ok.mpr ⟨bs', ih.mpr hbs', rfl⟩⟩

theorem mapM_eq_some {f : α → Option β} : ∀ {items : List α} {bs : List β},
    items.mapM f = some bs ↔ List.Forall₂ (fun a b => f a = some b) items bs := by
  intro items
  induction items with
  | nil =>
    intro bs
    simp [eq_comm]
  | cons a items ih =>
    intro bs
    rw [List.mapM_cons, List.forall₂_cons_left_iff]
    simp only [Option.bind_eq_bind, Option.bind_eq_some_iff]
    constructor
    · rintro ⟨b, hb, bs', hbs', heq⟩
      cases heq
      exact ⟨b, bs', hb, ih.mp hbs', rfl⟩
    · rintro ⟨b, bs', hb, hbs', rfl⟩
      exact ⟨b, hb, bs', ih.mpr hbs', rfl⟩

theorem mapM_ofOption {f : α → Option β} {bs : List β} :
    items.mapM (fun item => ofOption err (f item)) = .ok bs ↔ items.mapM f = some bs := by
  rw [mapM_eq_ok, mapM_eq_some]
  simp only [ofOption_eq_ok]

theorem mapM_congr {g : α → Except ε β} (h : ∀ a ∈ items, f a = g a) :
    items.mapM f = items.mapM g := by
  induction items with
  | nil => rfl
  | cons a items ih =>
    rw [List.mapM_cons, List.mapM_cons, h a List.mem_cons_self,
      ih fun b hb => h b (List.mem_cons_of_mem _ hb)]

theorem forM_eq_ok {f : α → Except ε PUnit} : ∀ {items : List α} {u : PUnit},
    items.forM f = .ok u ↔ ∀ a ∈ items, f a = .ok () := by
  intro items
  induction items with
  | nil =>
    intro u
    simp [pure, Except.pure]
  | cons a items ih =>
    intro u
    show (f a >>= fun _ => items.forM f) = .ok u ↔ _
    rw [bind_eq_ok, List.forall_mem_cons]
    constructor
    · rintro ⟨v, hv, hrest⟩
      exact ⟨hv, ih.mp hrest⟩
    · rintro ⟨hv, hrest⟩
      exact ⟨(), hv, ih.mpr hrest⟩

/-- The computation refuses with an error in `P`, if it refuses. -/
def Refuses (P : ε → Prop) (x : Except ε α) : Prop := ∀ e, x = .error e → P e

section Refuses

variable {P : ε → Prop}

theorem Refuses.apply {e : ε} (hx : Refuses P x) (h : x = .error e) : P e :=
  hx e h

theorem refuses_ok (a : α) : Refuses P (.ok a : Except ε α) := by
  intro e h
  cases h

variable {err : ε}

theorem refuses_error (h : P err) : Refuses P (.error err : Except ε α) := by
  intro e heq
  cases heq
  exact h

theorem Refuses.bind (hx : Refuses P x) (hf : ∀ a, x = .ok a → Refuses P (f a)) :
    Refuses P (x >>= f) := by
  rcases x with err | a
  · exact refuses_error (hx err rfl)
  · exact hf a rfl

theorem refuses_require {c : Prop} [Decidable c] (h : P err) :
    Refuses P (require c err) := by
  unfold require
  split
  · exact refuses_ok ()
  · exact refuses_error h

theorem refuses_ofOption {x : Option α} (h : P err) : Refuses P (ofOption err x) := by
  cases x with
  | none => exact refuses_error h
  | some a => exact refuses_ok a

end Refuses

end Checked
