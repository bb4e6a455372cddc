/-
The calls that a run of a program makes.

`trace` lists the calls of a run in their order, each with the state that it finds.  What
holds at a call of the trace holds whatever ends the run afterwards, and however early it is
cut off.  `mem_trace_bind` reads the trace of a sequence from its parts.

`attempt` hands the result of a program over as a value, an error included, so that a program
goes on after an error with what it has reached until then.  `forEachUntil` and `loop` are the
loops that end with an error or with a `break`.
-/
import AssuranceOS.Lib.Program

variable {Op : Type} {Res : Op → Type} {ε α β σ : Type}

namespace Program

/-- Run to the end and hand over the result. -/
def attempt : Program Res ε α → Program Res ε (Except ε α)
  | .done result => .done (.ok result)
  | .call op next => .call op fun r => attempt (next r)

/-- For each item in turn, with an accumulator, until one ends with an error. -/
def forEachUntil (f : β → α → Program Res ε (β × Option ε)) :
    List α → β → Program Res ε (β × Option ε)
  | [], b => pure (b, none)
  | a :: as, b => do
    match ← f b a with
    | (b, some e) => return (b, some e)
    | (b, none) => forEachUntil f as b

/-- `while True`: the body goes on with a value or breaks.  Whoever runs the program bounds the
number of rounds. -/
def loop (f : β → Program Res ε (Option β)) (bound : ε) : Nat → β → Program Res ε Unit
  | 0, _ => raise bound
  | n + 1, b => do
    match ← f b with
    | some b => loop f bound n b
    | none => return ()

/-- The calls of the run from `s`, each with the state that it finds. -/
def trace (exec : (op : Op) → σ → Except ε (Res op) × σ) : Program Res ε α → σ → List (Op × σ)
  | .done _, _ => []
  | .call op next, s => (op, s) :: trace exec (next (exec op s).1) (exec op s).2

section Trace

variable {exec : (op : Op) → σ → Except ε (Res op) × σ} {s : σ}

theorem run_attempt (p : Program Res ε α) :
    p.attempt.run exec s = (.ok (p.run exec s).1, (p.run exec s).2) := by
  induction p generalizing s with
  | done result => rfl
  | call op next ih => exact ih _

theorem trace_attempt (p : Program Res ε α) : p.attempt.trace exec s = p.trace exec s := by
  induction p generalizing s with
  | done result => rfl
  | call op next ih =>
    show _ :: _ = _ :: _
    rw [ih]

@[simp] theorem trace_perform (op : Op) :
    (perform op : Program Res ε (Res op)).trace exec s = [(op, s)] := rfl

variable {p : Program Res ε α}
variable {f : α → Program Res ε β} {c : Op × σ}

/-- A call of a sequence is one of its first part, or one of the second after the first has
ended well. -/
theorem mem_trace_bind :
    c ∈ (p >>= f).trace exec s ↔
      c ∈ p.trace exec s ∨ ∃ a s', p.run exec s = (.ok a, s') ∧ c ∈ (f a).trace exec s' := by
  show c ∈ (bind p f).trace exec s ↔ _
  induction p generalizing s with
  | done result =>
    cases result with
    | ok a =>
      show c ∈ (f a).trace exec s ↔ c ∈ [] ∨ ∃ b s', (Except.ok a, s) = (.ok b, s') ∧ _
      constructor
      · exact fun h => .inr ⟨a, s, rfl, h⟩
      · rintro (h | ⟨b, s', heq, h⟩)
        · exact absurd h List.not_mem_nil
        · cases heq
          exact h
    | error e =>
      show c ∈ [] ↔ c ∈ [] ∨ ∃ b s', (Except.error e, s) = (.ok b, s') ∧ _
      constructor
      · exact .inl
      · rintro (h | ⟨b, s', heq, h⟩)
        · exact h
        · cases heq
  | call op next ih =>
    show c ∈ (op, s) :: _ ↔ c ∈ (op, s) :: _ ∨ _
    rw [List.mem_cons, List.mem_cons, ih, or_assoc]
    rfl

theorem trace_bind_of_ok {a : α} {s' : σ} (h : p.run exec s = (.ok a, s')) :
    (p >>= f).trace exec s = p.trace exec s ++ (f a).trace exec s' := by
  show (bind p f).trace exec s = _
  induction p generalizing s with
  | done result =>
    cases h
    rfl
  | call op next ih =>
    show _ :: _ = _ :: _
    rw [ih _ h]
    rfl

theorem mem_trace_attempt_bind {f : Except ε α → Program Res ε β} :
    c ∈ (p.attempt >>= f).trace exec s ↔
      c ∈ p.trace exec s ∨ c ∈ (f (p.run exec s).1).trace exec (p.run exec s).2 := by
  rw [mem_trace_bind, trace_attempt, run_attempt]
  constructor
  · rintro (h | ⟨a, s', heq, h⟩)
    · exact .inl h
    · cases heq
      exact .inr h
  · rintro (h | h)
    · exact .inl h
    · exact .inr ⟨_, _, rfl, h⟩

theorem run_attempt_bind (p : Program Res ε α) (f : Except ε α → Program Res ε β) :
    (p.attempt >>= f).run exec s = (f (p.run exec s).1).run exec (p.run exec s).2 := by
  rw [run_bind, run_attempt]

end Trace

variable {P : Op → Prop}
variable {p : Program Res ε α}

theorem Calls.of_mem_trace {exec : (op : Op) → σ → Except ε (Res op) × σ} (hp : p.Calls P) {s : σ}
    {c : Op × σ} (hc : c ∈ p.trace exec s) :
    P c.1 := by
  induction p generalizing s with
  | done result => exact absurd hc List.not_mem_nil
  | call op next ih =>
    rcases List.mem_cons.mp hc with rfl | hc
    · exact hp.1
    · exact ih _ (hp.2 _) hc

/-! ### Invariants of a run -/

/-- `I` holds whenever the run makes a call, and at its end. -/
def Keeps (exec : (op : Op) → σ → Except ε (Res op) × σ) (I : σ → Prop) (p : Program Res ε α)
    (s : σ) : Prop :=
  (∀ c ∈ p.trace exec s, I c.2) ∧ I (p.run exec s).2

/-- Where the run is when it stops before its call number `n`. -/
def stopped (exec : (op : Op) → σ → Except ε (Res op) × σ) (n : Nat) (p : Program Res ε α) (s : σ) :
    σ :=
  match (p.trace exec s)[n]? with
  | some c => c.2
  | none => (p.run exec s).2

section Keeps

variable {exec : (op : Op) → σ → Except ε (Res op) × σ} {I : σ → Prop} {s : σ}

theorem keeps_done {result : Except ε α} (hs : I s) :
    (Program.done result : Program Res ε α).Keeps exec I s :=
  ⟨fun _ hc => absurd hc List.not_mem_nil, hs⟩

theorem keeps_perform {op : Op} (hs : I s) (hop : I (exec op s).2) :
    (perform op : Program Res ε (Res op)).Keeps exec I s := by
  refine ⟨fun c hc => ?_, hop⟩
  rw [trace_perform, List.mem_singleton] at hc
  rw [hc]
  exact hs

variable {p : Program Res ε α}

theorem Keeps.final (hp : p.Keeps exec I s) {r : Except ε α} {s' : σ}
    (hrun : p.run exec s = (r, s')) : I s' := by
  have hend := hp.2
  rwa [hrun] at hend

theorem Keeps.bind {f : α → Program Res ε β} (hp : p.Keeps exec I s)
    (hf : ∀ a s', p.run exec s = (.ok a, s') → I s' → (f a).Keeps exec I s') :
    (p >>= f).Keeps exec I s := by
  constructor
  · intro c hc
    rcases mem_trace_bind.mp hc with hc | ⟨a, s', hrun, hc⟩
    · exact hp.1 c hc
    · exact (hf a s' hrun (hp.final hrun)).1 c hc
  · rcases hrun : p.run exec s with ⟨e | a, s'⟩
    · rw [run_bind_of_error hrun]
      exact hp.final hrun
    · rw [run_bind_of_ok hrun]
      exact (hf a s' hrun (hp.final hrun)).2

theorem Keeps.attempt_bind {f : Except ε α → Program Res ε β} (hp : p.Keeps exec I s)
    (hf : ∀ r s', p.run exec s = (r, s') → I s' → (f r).Keeps exec I s') :
    (p.attempt >>= f).Keeps exec I s := by
  refine Keeps.bind ⟨by rw [trace_attempt]; exact hp.1, by rw [run_attempt]; exact hp.2⟩ ?_
  intro r s' hrun hs'
  rw [run_attempt] at hrun
  cases hrun
  exact hf _ _ rfl hs'

/-- What a call keeps that is `ok` in the state that it finds, a run of such calls keeps. -/
theorem keeps_of_trace {ok : σ → Op → Prop} (hop : ∀ op s, ok s op → I s → I (exec op s).2)
    (hp : ∀ c ∈ p.trace exec s, ok c.2 c.1) (hs : I s) :
    p.Keeps exec I s := by
  induction p generalizing s with
  | done result => exact keeps_done hs
  | call op next ih =>
    have hfirst : ok s op := hp (op, s) List.mem_cons_self
    have hrest := ih (exec op s).1 (fun c hc => hp c (List.mem_cons_of_mem _ hc))
      (hop op s hfirst hs)
    refine ⟨fun c hc => ?_, hrest.2⟩
    rcases List.mem_cons.mp hc with rfl | hc
    · exact hs
    · exact hrest.1 c hc

/-- What the calls of a program keep, its run keeps. -/
theorem Calls.keeps (hop : ∀ op s, P op → I s → I (exec op s).2) (hp : p.Calls P) (hs : I s) :
    p.Keeps exec I s :=
  keeps_of_trace hop (fun _ hc => hp.of_mem_trace hc) hs

theorem Keeps.stopped (hp : p.Keeps exec I s) (n : Nat) :
    I (p.stopped exec n s) := by
  unfold Program.stopped
  split
  · rename_i c hc
    exact hp.1 c (List.mem_of_getElem? hc)
  · exact hp.2

end Keeps

section Until

variable {exec : (op : Op) → σ → Except ε (Res op) × σ}
  {f : β → α → Program Res ε (β × Option ε)}

/-- A loop that has come through has run its body on every item. -/
theorem run_forEachUntil {I : List α → β → σ → Prop}
    (hstep : ∀ done a b s b' s', I done b s → (f b a).run exec s = (.ok (b', none), s') →
      I (done ++ [a]) b' s') :
    ∀ {as done : List α} {b : β} {s : σ} {b' : β} {s' : σ}, I done b s →
      (forEachUntil f as b).run exec s = (.ok (b', none), s') → I (done ++ as) b' s' := by
  intro as
  induction as with
  | nil =>
    intro done b s b' s' hI hrun
    cases hrun
    rwa [List.append_nil]
  | cons a as ih =>
    intro done b s b' s' hI hrun
    obtain ⟨⟨b₁, e⟩, s₁, hfirst, hrest⟩ := run_bind_eq_ok.mp hrun
    cases e with
    | some e => cases hrest
    | none =>
      have hI₁ : I (done ++ [a]) b₁ s₁ := hstep done a b s b₁ s₁ hI hfirst
      have hend := ih hI₁ hrest
      rwa [List.append_assoc, List.singleton_append] at hend

/-- A call of a loop is a call of its body, on the first item or after the items before it. -/
theorem mem_trace_forEachUntil {c : Op × σ} :
    ∀ {as : List α} {b : β} {s : σ}, c ∈ (forEachUntil f as b).trace exec s →
      ∃ before a after b₁ s₁, as = before ++ a :: after ∧
        (forEachUntil f before b).run exec s = (.ok (b₁, none), s₁) ∧
        c ∈ (f b₁ a).trace exec s₁ := by
  intro as
  induction as with
  | nil =>
    intro b s hc
    exact absurd hc List.not_mem_nil
  | cons a as ih =>
    intro b s hc
    rcases mem_trace_bind.mp hc with hc | ⟨⟨b₁, e⟩, s₁, hfirst, hc⟩
    · exact ⟨[], a, as, b, s, rfl, rfl, hc⟩
    · cases e with
      | some e => exact absurd hc List.not_mem_nil
      | none =>
        obtain ⟨before, a', after, b₂, s₂, rfl, hbefore, hcall⟩ := ih hc
        refine ⟨a :: before, a', after, b₂, s₂, rfl, ?_, hcall⟩
        rw [forEachUntil, run_bind_of_ok hfirst]
        exact hbefore

theorem keeps_forEachUntil {I : σ → Prop} (hf : ∀ b a s, I s → (f b a).Keeps exec I s) :
    ∀ {as : List α} {b : β} {s : σ}, I s → (forEachUntil f as b).Keeps exec I s := by
  intro as
  induction as with
  | nil =>
    intro b s hs
    exact keeps_done hs
  | cons a as ih =>
    intro b s hs
    refine (hf b a s hs).bind fun r s' _ hs' => ?_
    obtain ⟨b', e⟩ := r
    cases e with
    | some e => exact keeps_done hs'
    | none => exact ih hs'

end Until

theorem Calls.forEachUntil {f : β → α → Program Res ε (β × Option ε)} (hf : ∀ b a, (f b a).Calls P)
    (as : List α) : ∀ b, (Program.forEachUntil f as b).Calls P := by
  induction as with
  | nil => exact fun b => trivial
  | cons a as ih =>
    intro b
    refine (hf b a).bind fun r => ?_
    obtain ⟨b', e⟩ := r
    cases e with
    | some e => exact trivial
    | none => exact ih b'

theorem Calls.loop {f : β → Program Res ε (Option β)} (hf : ∀ b, (f b).Calls P) (bound : ε)
    (n : Nat) : ∀ b, (Program.loop f bound n b).Calls P := by
  induction n with
  | zero => exact fun b => trivial
  | succ n ih =>
    intro b
    refine (hf b).bind fun r => ?_
    cases r with
    | some b => exact ih b
    | none => exact trivial

/-- No condition on the calls. -/
theorem calls_true (p : Program Res ε α) : p.Calls fun _ => True := by
  induction p with
  | done result => exact trivial
  | call op next ih => exact ⟨trivial, ih⟩

/-- The calls of an attempt. -/
theorem Calls.attempt (hp : p.Calls P) :
    p.attempt.Calls P := by
  induction p with
  | done result => exact trivial
  | call op next ih => exact ⟨hp.1, fun r => ih r (hp.2 r)⟩

/-- If the operations answer with values in `Q` only, the program calls operations in `P` only
and ends with a value in `R`, if with any. -/
def Assuming (Q : (op : Op) → Res op → Prop) (P : Op → Prop) (R : α → Prop) :
    Program Res ε α → Prop
  | .done result => ∀ a, result = .ok a → R a
  | .call op next => P op ∧ ∀ r, (∀ x, r = .ok x → Q op x) → Assuming Q P R (next r)

section Assuming

variable {Q : (op : Op) → Res op → Prop} {P : Op → Prop} {R : α → Prop} {S : β → Prop}

theorem assuming_pure {a : α} (h : R a) : (pure a : Program Res ε α).Assuming Q P R := by
  intro b heq
  cases heq
  exact h

theorem assuming_perform {op : Op} (h : P op) :
    (perform op : Program Res ε (Res op)).Assuming Q P (Q op) :=
  ⟨h, fun _ hr => hr⟩

variable {p : Program Res ε α}

theorem Assuming.bind {f : α → Program Res ε β} (hp : p.Assuming Q P R)
    (hf : ∀ a, R a → (f a).Assuming Q P S) : (p >>= f).Assuming Q P S := by
  show (Program.bind p f).Assuming Q P S
  induction p with
  | done result =>
    cases result with
    | ok a => exact hf a (hp a rfl)
    | error e =>
      intro b heq
      cases heq
  | call op next ih => exact ⟨hp.1, fun r hr => ih r (hp.2 r hr)⟩

theorem Assuming.forEach {R : β → Prop} {f : β → α → Program Res ε β} {as : List α}
    (hf : ∀ a ∈ as, ∀ b, R b → (f b a).Assuming Q P R) :
    ∀ b, R b → (Program.forEach f as b).Assuming Q P R := by
  induction as with
  | nil =>
    intro b hb
    exact assuming_pure hb
  | cons a as ih =>
    intro b hb
    exact (hf a List.mem_cons_self b hb).bind (ih fun c hc => hf c (List.mem_cons_of_mem _ hc))

/-- A loop whose body hands over values that meet `I` only. -/
theorem Assuming.loop {I : β → Prop} {f : β → Program Res ε (Option β)}
    (hf : ∀ b, I b → (f b).Assuming Q P fun r => ∀ c, r = some c → I c) (bound : ε) (n : Nat) :
    ∀ b, I b → (Program.loop f bound n b).Assuming Q P fun _ => True := by
  induction n with
  | zero =>
    intro b _ u heq
    cases heq
  | succ n ih =>
    intro b hb
    refine (hf b hb).bind fun r hr => ?_
    cases r with
    | none => exact assuming_pure trivial
    | some c => exact ih c (hr c rfl)

/-- What the program calls whatever is answered. -/
theorem Calls.assuming (hp : p.Calls P) :
    p.Assuming Q P fun _ => True := by
  induction p with
  | done result => exact fun _ _ => trivial
  | call op next ih => exact ⟨hp.1, fun r _ => ih r (hp.2 r)⟩

/-- In a run whose operations answer with values in `Q`, every call is in `P`. -/
theorem Assuming.of_mem_trace {exec : (op : Op) → σ → Except ε (Res op) × σ} {I : σ → Prop}
    (hanswer : ∀ op s x, I s → (exec op s).1 = .ok x → Q op x)
    (hkeep : ∀ op s, I s → I (exec op s).2) (hp : p.Assuming Q P R) {s : σ} (hs : I s) {c : Op × σ}
    (hc : c ∈ p.trace exec s) : P c.1 := by
  induction p generalizing s with
  | done result => exact absurd hc List.not_mem_nil
  | call op next ih =>
    rcases List.mem_cons.mp hc with rfl | hc
    · exact hp.1
    · exact ih _ (hp.2 _ fun x hx => hanswer op s x hs hx) (hkeep op s hs) hc

end Assuming

end Program
