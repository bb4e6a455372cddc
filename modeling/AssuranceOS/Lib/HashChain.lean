/-
Hash chains.

Every event of a chain carries its number, the hash of the event before it and its own
hash, which is calculated from the previous hash and the event.  `Linked p n es` says that
`es` follows the hash `p` with the numbers from `n` on.

* `linked_concat` — a chain grows at its end, by an event after its head;
* `Linked.numbers` — the numbers have no gap;
* `Linked.exists_digest` — every hash in a chain is a digest of its event;
* `agree_of_head` — where hashes do not collide, the head determines the whole chain.
-/
import Mathlib.Data.List.Induction
import Mathlib.Data.List.Forall2
import Mathlib.Tactic.Common

/-- How events of the type `ε` are chained by hashes of the type `η`. -/
structure HashChain (ε η : Type) where
  number : ε → Nat
  previous : ε → Option η
  hash : ε → η
  digest : Option η → ε → η

namespace HashChain

variable {ε η : Type} (C : HashChain ε η)

/-- The events follow the hash `p`, with the numbers from `n` on. -/
def Linked : Option η → Nat → List ε → Prop
  | _, _, [] => True
  | p, n, e :: es =>
    C.number e = n ∧ C.previous e = p ∧ C.hash e = C.digest p e ∧
      Linked (some (C.hash e)) (n + 1) es

/-- The hash of the last event, or the one before the first. -/
def head (p : Option η) (es : List ε) : Option η :=
  es.foldl (fun _ e => some (C.hash e)) p

@[simp] theorem head_nil (p : Option η) : C.head p [] = p := rfl

@[simp] theorem head_cons (p : Option η) (e : ε) (es : List ε) :
    C.head p (e :: es) = C.head (some (C.hash e)) es := rfl

@[simp] theorem head_concat (p : Option η) (es : List ε) (e : ε) :
    C.head p (es ++ [e]) = some (C.hash e) := by
  simp [head]

variable {C}
variable {es : List ε}

/-- The last event of a chain. -/
theorem linked_concat {e : ε} : ∀ {p : Option η} {n : Nat},
    C.Linked p n (es ++ [e]) ↔ C.Linked p n es ∧ C.number e = n + es.length ∧
      C.previous e = C.head p es ∧ C.hash e = C.digest (C.head p es) e := by
  induction es with
  | nil =>
    intro p n
    simp [Linked]
  | cons x es ih =>
    intro p n
    have hnumber : n + 1 + es.length = n + (es.length + 1) := by omega
    simp only [List.cons_append, Linked, ih, head_cons, List.length_cons, hnumber, and_assoc]

theorem Linked.numbers : ∀ {es : List ε} {p : Option η} {n : Nat}, C.Linked p n es →
    es.map C.number = List.range' n es.length := by
  intro es
  induction es with
  | nil =>
    intro p n _
    rfl
  | cons e es ih =>
    rintro p n ⟨hnumber, -, -, hrest⟩
    rw [List.map_cons, hnumber, ih hrest, List.length_cons, List.range'_succ]

/-- The hash of an event in a chain is the digest of the event. -/
theorem Linked.exists_digest {e : ε} : ∀ {p : Option η} {n : Nat},
    C.Linked p n es → e ∈ es → ∃ q, C.hash e = C.digest q e := by
  induction es with
  | nil =>
    intro p n _ he
    cases he
  | cons x es ih =>
    rintro p n ⟨-, -, hhash, hrest⟩ he
    rcases List.mem_cons.mp he with rfl | he
    · exact ⟨p, hhash⟩
    · exact ih hrest he

/-- Chains from the start with one head are the same chain, as far as the hashes cover the
events. -/
theorem agree_of_head {same : ε → ε → Prop}
    (hinj : ∀ p q e f, C.digest p e = C.digest q f → p = q ∧ same e f) {m n : Nat} :
    ∀ {fs : List ε}, C.Linked none m es → C.Linked none n fs →
    C.head none es = C.head none fs → List.Forall₂
      (fun e f => same e f ∧ C.previous e = C.previous f ∧ C.hash e = C.hash f) es fs := by
  -- from the last event, whose previous hash is the head of the rest
  induction es using List.reverseRecOn with
  | nil =>
    intro fs _ _ hhead
    cases fs using List.reverseRecOn with
    | nil => exact .nil
    | append_singleton fs f => simp at hhead
  | append_singleton es e ih =>
    intro fs hes hfs hhead
    cases fs using List.reverseRecOn with
    | nil => simp at hhead
    | append_singleton fs f =>
      obtain ⟨hes, -, hprevious, he⟩ := linked_concat.mp hes
      obtain ⟨hfs, -, hprevious', hf⟩ := linked_concat.mp hfs
      have hhash : C.hash e = C.hash f := by simpa using hhead
      obtain ⟨hheads, hsame⟩ := hinj _ _ e f (he ▸ hf ▸ hhash)
      have hpair : C.previous e = C.previous f := by rw [hprevious, hprevious', hheads]
      exact List.rel_append (ih hes hfs hheads) (.cons ⟨hsame, hpair, hhash⟩ .nil)

end HashChain
