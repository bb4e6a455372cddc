/-
Programs that call transactions, run alone or beside each other.

A `Program` is a tree of calls: each call names an operation and goes on with what the
operation answers, a result or an error.  What an operation does to the state is given
apart, by `exec`, so that the same program can be run in one piece (`run`) or one call at
a time beside others (`Crew.step`), where anything may happen between two of its calls.

The rules are three.  `run_keeps`: what every operation of a program keeps, the run of the
program keeps.  `crew_invariant`: what every operation of the tasks keeps in a state in
which it is `ok` holds along every interleaving whose calls all are `ok`.  `step_asserted`:
an assertion about the state and the rest of each worker's program holds after a turn, if
the call that is made keeps the assertions of the others and establishes its own.
-/
import AssuranceOS.Lib.Runs

variable {Op : Type} {Res : Op → Type} {ε α β σ κ : Type}

/-- A program over the operations `Op`; an operation `op` answers a `Res op`. -/
inductive Program (Res : Op → Type) (ε α : Type) where
  | done (result : Except ε α)
  | call (op : Op) (next : Except ε (Res op) → Program Res ε α)

namespace Program

/-- Go on with the value; an error ends the program. -/
def bind : Program Res ε α → (α → Program Res ε β) → Program Res ε β
  | .done (.ok a), f => f a
  | .done (.error e), _ => .done (.error e)
  | .call op next, f => .call op fun r => bind (next r) f

instance : Monad (Program Res ε) where
  pure a := .done (.ok a)
  bind := bind

/-- End with an error. -/
def raise (e : ε) : Program Res ε α := .done (.error e)

/-- Call one operation. -/
def perform (op : Op) : Program Res ε (Res op) := .call op .done

/-- `try` the program; an error goes to the handler. -/
def handle : Program Res ε α → (ε → Program Res ε α) → Program Res ε α
  | .done (.ok a), _ => .done (.ok a)
  | .done (.error e), handler => handler e
  | .call op next, handler => .call op fun r => handle (next r) handler

/-- For each item in turn, with an accumulator. -/
def forEach (f : β → α → Program Res ε β) : List α → β → Program Res ε β
  | [], b => pure b
  | a :: as, b => do
    let b ← f b a
    forEach f as b

/-! ### Running a program alone -/

/-- Run to the end; what was done before an error stays done. -/
def run (exec : (op : Op) → σ → Except ε (Res op) × σ) : Program Res ε α → σ → Except ε α × σ
  | .done result, s => (result, s)
  | .call op next, s => run exec (next (exec op s).1) (exec op s).2

section Run

variable {exec : (op : Op) → σ → Except ε (Res op) × σ} {s : σ}

@[simp] theorem run_perform (op : Op) :
    (perform op : Program Res ε (Res op)).run exec s = exec op s := rfl

/-- Running a sequence is running its parts one after the other. -/
theorem run_bind (p : Program Res ε α) (f : α → Program Res ε β) :
    (p >>= f).run exec s =
      match p.run exec s with
      | (.ok a, s) => (f a).run exec s
      | (.error e, s) => (.error e, s) := by
  show (bind p f).run exec s = _
  induction p generalizing s with
  | done result =>
    cases result with
    | ok a => rfl
    | error e => rfl
  | call op next ih => exact ih _

variable {p : Program Res ε α} {f : α → Program Res ε β} {s' : σ} {I : σ → Prop}
variable {a : α} {b : β}

theorem run_bind_of_ok (h : p.run exec s = (.ok a, s')) :
    (p >>= f).run exec s = (f a).run exec s' := by
  rw [run_bind, h]

theorem run_bind_of_error {e : ε} (h : p.run exec s = (.error e, s')) :
    (p >>= f).run exec s = (.error e, s') := by
  rw [run_bind, h]

/-- A sequence that ends well is two parts that end well. -/
theorem run_bind_eq_ok :
    (p >>= f).run exec s = (.ok b, s') ↔
      ∃ a s₁, p.run exec s = (.ok a, s₁) ∧ (f a).run exec s₁ = (.ok b, s') := by
  rw [run_bind]
  rcases p.run exec s with ⟨e | a, s₁⟩
  · simp
  · constructor
    · intro h
      exact ⟨a, s₁, rfl, h⟩
    · rintro ⟨a', s₁', heq, h⟩
      cases heq
      exact h

/-- What both parts of a sequence keep, the second from where the first has ended well. -/
theorem run_bind_keeps (hp : I (p.run exec s).2)
    (hf : ∀ a s', p.run exec s = (.ok a, s') → I s' → I ((f a).run exec s').2) :
    I ((p >>= f).run exec s).2 := by
  rcases hrun : p.run exec s with ⟨e | a, s'⟩
  · rw [run_bind_of_error hrun]
    rwa [hrun] at hp
  · rw [run_bind_of_ok hrun]
    rw [hrun] at hp
    exact hf a s' hrun hp

theorem run_handle (p : Program Res ε α) (handler : ε → Program Res ε α) :
    (p.handle handler).run exec s =
      match p.run exec s with
      | (.ok a, s) => (.ok a, s)
      | (.error e, s) => (handler e).run exec s := by
  induction p generalizing s with
  | done result =>
    cases result with
    | ok a => rfl
    | error e => rfl
  | call op next ih => exact ih _

/-- What every operation keeps, a run keeps. -/
theorem run_keeps (hop : ∀ (op : Op) (s : σ), I s → I (exec op s).2) (p : Program Res ε α)
    (hs : I s) : I (p.run exec s).2 := by
  induction p generalizing s with
  | done result => exact hs
  | call op next ih => exact ih _ (hop op s hs)

/-- A loop whose body keeps `I`, and that ends well, has run its body on every item. -/
theorem run_forEach_keeps {f : β → α → Program Res ε β} {as : List α}
    (hbody : ∀ a ∈ as, ∀ b s, I s → I ((f b a).run exec s).2) (hs : I s) :
    I ((forEach f as b).run exec s).2 := by
  induction as generalizing b s with
  | nil => exact hs
  | cons a as ih =>
    have hfirst := hbody a List.mem_cons_self b s hs
    rw [forEach, run_bind]
    split
    · rename_i b' s' heq
      rw [heq] at hfirst
      exact ih (fun c hc => hbody c (List.mem_cons_of_mem _ hc)) hfirst
    · rename_i e s' heq
      rw [heq] at hfirst
      exact hfirst

/-- A loop that ends well has run its body on every item: what the body of `a` establishes
and the other bodies keep holds at the end. -/
theorem run_forEach_visits {J : σ → Prop} {f : β → α → Program Res ε β} :
    ∀ {as : List α}, a ∈ as →
      (∀ c ∈ as, ∀ b s, I s → I ((f b c).run exec s).2) →
      (∀ c ∈ as, ∀ b s, I s → J s → J ((f b c).run exec s).2) →
      (∀ b s b' s', I s → (f b a).run exec s = (.ok b', s') → J s') →
      ∀ {b : β} {s : σ} {b' : β} {s' : σ}, I s →
        (forEach f as b).run exec s = (.ok b', s') → J s' := by
  intro as
  induction as with
  | nil =>
    intro ha
    exact absurd ha List.not_mem_nil
  | cons c as ih =>
    intro ha hkeep hstay hvisit b s b' s' hs hrun
    obtain ⟨b₁, s₁, hfirst, hrest⟩ := run_bind_eq_ok.mp hrun
    have hs₁ : I s₁ := by
      have h := hkeep c List.mem_cons_self b s hs
      rwa [hfirst] at h
    have hkeep' := fun d hd => hkeep d (List.mem_cons_of_mem _ hd)
    have hstay' := fun d hd => hstay d (List.mem_cons_of_mem _ hd)
    rcases List.mem_cons.mp ha with rfl | ha
    · have hJ : J s₁ := hvisit b s b₁ s₁ hs hfirst
      have hboth : I ((forEach f as b₁).run exec s₁).2 ∧ J ((forEach f as b₁).run exec s₁).2 :=
        run_forEach_keeps (I := fun s => I s ∧ J s)
          (fun d hd b s h => ⟨hkeep' d hd b s h.1, hstay' d hd b s h.1 h.2⟩) ⟨hs₁, hJ⟩
      rw [hrest] at hboth
      exact hboth.2
    · exact ih ha hkeep' hstay' hvisit hs₁ hrest

end Run

/-- Every operation that the program may call meets `P`. -/
def Calls (P : Op → Prop) : Program Res ε α → Prop
  | .done _ => True
  | .call op next => P op ∧ ∀ r, Calls P (next r)

/-- The call that the program is about to make meets `P`. -/
def Next (P : Op → Prop) : Program Res ε α → Prop
  | .done _ => True
  | .call op _ => P op

instance {P : Op → Prop} [DecidablePred P] : ∀ p : Program Res ε α, Decidable (p.Next P)
  | .done _ => isTrue trivial
  | .call op _ => inferInstanceAs (Decidable (P op))

section Calls

variable {P : Op → Prop}

@[simp] theorem calls_perform {op : Op} : (perform op : Program Res ε (Res op)).Calls P ↔ P op :=
  ⟨fun h => h.1, fun h => ⟨h, fun _ => trivial⟩⟩

variable {p : Program Res ε α}

theorem Calls.mono {Q : Op → Prop} (hPQ : ∀ op, P op → Q op) (hp : p.Calls P) : p.Calls Q := by
  induction p with
  | done result => exact trivial
  | call op next ih => exact ⟨hPQ op hp.1, fun r => ih r (hp.2 r)⟩

theorem Calls.bind {f : α → Program Res ε β} (hp : p.Calls P) (hf : ∀ a, (f a).Calls P) :
    (p >>= f).Calls P := by
  show (Program.bind p f).Calls P
  induction p with
  | done result =>
    cases result with
    | ok a => exact hf a
    | error e => exact trivial
  | call op next ih => exact ⟨hp.1, fun r => ih r (hp.2 r)⟩

theorem Calls.forEach {f : β → α → Program Res ε β} {as : List α}
    (hf : ∀ a ∈ as, ∀ b, (f b a).Calls P) : ∀ b, (Program.forEach f as b).Calls P := by
  induction as with
  | nil =>
    intro b
    exact trivial
  | cons a as ih =>
    intro b
    have hrest := ih fun c hc => hf c (List.mem_cons_of_mem _ hc)
    exact (hf a List.mem_cons_self b).bind hrest

/-- What the operations of a program keep, its run keeps. -/
theorem Calls.run_keeps {exec : (op : Op) → σ → Except ε (Res op) × σ} {I : σ → Prop}
    (hop : ∀ op, P op → ∀ s, I s → I (exec op s).2) (hp : p.Calls P) {s : σ} (hs : I s) :
    I (p.run exec s).2 := by
  induction p generalizing s with
  | done result => exact hs
  | call op next ih => exact ih _ (hp.2 _) (hop op hp.1 s hs)

end Calls

/-- If the operations answer errors in `P` only, the program, which calls operations in `C`,
ends with no other. -/
def Raises (C : Op → Prop) (P : ε → Prop) : Program Res ε α → Prop
  | .done result => ∀ e, result = .error e → P e
  | .call op next => C op ∧ ∀ r, (∀ e, r = .error e → P e) → Raises C P (next r)

section Raises

variable {C : Op → Prop} {P : ε → Prop}

theorem raises_pure (a : α) : (pure a : Program Res ε α).Raises C P := by
  intro e h
  cases h

theorem raises_perform {op : Op} (h : C op) : (perform op : Program Res ε (Res op)).Raises C P :=
  ⟨h, fun _ hr => hr⟩

variable {p : Program Res ε α}

theorem Raises.bind {f : α → Program Res ε β} (hp : p.Raises C P) (hf : ∀ a, (f a).Raises C P) :
    (p >>= f).Raises C P := by
  show (Program.bind p f).Raises C P
  induction p with
  | done result =>
    cases result with
    | ok a => exact hf a
    | error e =>
      intro e' heq
      cases heq
      exact hp e rfl
  | call op next ih => exact ⟨hp.1, fun r hr => ih r (hp.2 r hr)⟩

theorem Raises.handle {handler : ε → Program Res ε α} (hp : p.Raises C P)
    (hhandler : ∀ e, (handler e).Raises C P) : (p.handle handler).Raises C P := by
  induction p with
  | done result =>
    cases result with
    | ok a =>
      intro e heq
      cases heq
    | error e => exact hhandler e
  | call op next ih => exact ⟨hp.1, fun r hr => ih r (hp.2 r hr)⟩

theorem Raises.forEach {f : β → α → Program Res ε β} {as : List α}
    (hf : ∀ a ∈ as, ∀ b, (f b a).Raises C P) : ∀ b, (Program.forEach f as b).Raises C P := by
  induction as with
  | nil =>
    intro b
    exact raises_pure b
  | cons a as ih =>
    intro b
    exact (hf a List.mem_cons_self b).bind (ih fun c hc => hf c (List.mem_cons_of_mem _ hc))

theorem Raises.mono {D : Op → Prop} (hCD : ∀ op, C op → D op) (hp : p.Raises C P) :
    p.Raises D P := by
  induction p with
  | done result => exact hp
  | call op next ih => exact ⟨hCD op hp.1, fun r hr => ih r (hp.2 r hr)⟩

/-- Whatever the errors are, it is a matter of the calls. -/
theorem Raises.calls (hp : p.Raises C fun _ => True) : p.Calls C := by
  induction p with
  | done result => exact trivial
  | call op next ih => exact ⟨hp.1, fun r => ih r (hp.2 r fun _ _ => trivial)⟩

theorem Raises.run_error {exec : (op : Op) → σ → Except ε (Res op) × σ}
    (hexec : ∀ op, C op → ∀ s e, (exec op s).1 = .error e → P e) (hp : p.Raises C P) {s : σ} {e : ε}
    (h : (p.run exec s).1 = .error e) : P e := by
  induction p generalizing s with
  | done result => exact hp e h
  | call op next ih => exact ih _ (hp.2 _ (hexec op hp.1 s)) h

end Raises

/-- A loop that ends with an error has run its body on the items before one, and ends in the
body of that one: the items after it are not looked at. -/
theorem run_forEach_error {exec : (op : Op) → σ → Except ε (Res op) × σ}
    {f : β → α → Program Res ε β} :
    ∀ {as : List α} {b : β} {s : σ} {e : ε} {s' : σ},
      (forEach f as b).run exec s = (.error e, s') →
      ∃ before a after b₁ s₁, as = before ++ a :: after ∧
        (forEach f before b).run exec s = (.ok b₁, s₁) ∧ (f b₁ a).run exec s₁ = (.error e, s') := by
  intro as
  induction as with
  | nil =>
    intro b s e s' h
    cases h
  | cons a as ih =>
    intro b s e s' h
    rw [forEach, run_bind] at h
    rcases hfirst : (f b a).run exec s with ⟨e₁ | b₁, s₁⟩
    · rw [hfirst] at h
      cases h
      exact ⟨[], a, as, b, s, rfl, rfl, hfirst⟩
    · rw [hfirst] at h
      obtain ⟨before, c, after, b₂, s₂, rfl, hbefore, hc⟩ := ih h
      refine ⟨a :: before, c, after, b₂, s₂, rfl, ?_, hc⟩
      rw [forEach, run_bind, hfirst]
      exact hbefore

end Program

/-! ### Programs beside each other -/

/-- Workers that share a state; each has a program that it is in the middle of. -/
structure Crew (Res : Op → Type) (ε σ : Type) where
  state : σ
  workers : Nat → Program Res ε Unit := fun _ => pure ()

/-- A worker takes up a new task, whatever it was doing, or makes its next call. -/
inductive Turn (κ : Type) where
  | start (worker : Nat) (task : κ)
  | advance (worker : Nat)

def Turn.worker : Turn κ → Nat
  | .start worker _ => worker
  | .advance worker => worker

namespace Crew

variable (exec : (op : Op) → σ → Except ε (Res op) × σ) (program : κ → Program Res ε Unit)

def assign (crew : Crew Res ε σ) (worker : Nat) (p : Program Res ε Unit) : Crew Res ε σ :=
  { crew with workers := fun i => if i = worker then p else crew.workers i }

/-- A worker begins a task, or performs the next operation of the one it is at. -/
def step (crew : Crew Res ε σ) : Turn κ → Crew Res ε σ
  | .start worker task => crew.assign worker (program task)
  | .advance worker =>
    match crew.workers worker with
    | .done _ => crew
    | .call op next =>
      { crew.assign worker (next (exec op crew.state).1) with state := (exec op crew.state).2 }

/-- Each call that is made in the run is `ok` in the state that it finds. -/
def CallOk (ok : σ → Op → Prop) (crew : Crew Res ε σ) : Turn κ → Prop
  | .start _ _ => True
  | .advance worker => (crew.workers worker).Next (ok crew.state)

instance {ok : σ → Op → Prop} [∀ s op, Decidable (ok s op)] (crew : Crew Res ε σ) :
    ∀ turn : Turn κ, Decidable (CallOk ok crew turn)
  | .start _ _ => isTrue trivial
  | .advance worker => inferInstanceAs (Decidable ((crew.workers worker).Next (ok crew.state)))

/-- A turn leaves the state alone or makes one call. -/
theorem step_state (crew : Crew Res ε σ) (turn : Turn κ) :
    (crew.step exec program turn).state = crew.state ∨
      ∃ worker op next, turn = .advance worker ∧ crew.workers worker = .call op next ∧
        (crew.step exec program turn).state = (exec op crew.state).2 := by
  cases turn with
  | start worker task => exact Or.inl rfl
  | advance worker =>
    rcases h : crew.workers worker with r | ⟨op, next⟩
    · exact Or.inl (by simp only [step, h])
    · exact Or.inr ⟨worker, op, next, rfl, h, by simp only [step, h]⟩

variable {exec program}
variable {turns : List (Turn κ)} {I : σ → Prop}

/-- A worker that has no turn stays where it is. -/
theorem workers_foldl {worker i : Nat} (hne : i ≠ worker)
    (hturns : ∀ turn ∈ turns, turn.worker = worker) (crew : Crew Res ε σ) :
    (turns.foldl (step exec program) crew).workers i = crew.workers i := by
  induction turns generalizing crew with
  | nil => rfl
  | cons turn turns ih =>
    rw [List.foldl_cons, ih fun t ht => hturns t (List.mem_cons_of_mem _ ht)]
    have hworker : turn.worker = worker := hturns turn List.mem_cons_self
    cases turn with
    | start w task =>
      show (if i = w then program task else crew.workers i) = crew.workers i
      exact if_neg fun heq => hne (heq.trans hworker)
    | advance w =>
      rw [step]
      split
      · rfl
      · show (if i = w then _ else crew.workers i) = crew.workers i
        exact if_neg fun heq => hne (heq.trans hworker)

variable {P : Op → Prop} {crew : Crew Res ε σ}

/-- What the tasks may call, the workers may call at any time. -/
theorem step_calls (hprogram : ∀ task, (program task).Calls P) (h : ∀ i, (crew.workers i).Calls P)
    (turn : Turn κ) (i : Nat) :
    ((crew.step exec program turn).workers i).Calls P := by
  have hassign : ∀ {worker : Nat} {p : Program Res ε Unit}, p.Calls P →
      ((crew.assign worker p).workers i).Calls P := by
    intro worker p hp
    show (if i = worker then p else crew.workers i).Calls P
    split
    · exact hp
    · exact h i
  cases turn with
  | start worker task => exact hassign (hprogram task)
  | advance worker =>
    have hworker := h worker
    rw [step]
    split
    · exact h i
    · rename_i op next heq
      rw [heq] at hworker
      exact hassign (hworker.2 _)

theorem foldl_calls (hprogram : ∀ task, (program task).Calls P) (h : ∀ i, (crew.workers i).Calls P)
    (turns : List (Turn κ)) (i : Nat) :
    ((turns.foldl (step exec program) crew).workers i).Calls P := by
  induction turns generalizing crew with
  | nil => exact h i
  | cons turn turns ih => exact ih (step_calls hprogram h turn)

/-- **The rule for interleavings.**  What every call of the tasks keeps, in a state in which
it is `ok`, holds after every interleaving whose calls all are. -/
theorem crew_invariant {ok : σ → Op → Prop} (hprogram : ∀ task, (program task).Calls P)
    (hop : ∀ op s, P op → ok s op → I s → I (exec op s).2)
    (hworkers : ∀ i, (crew.workers i).Calls P) (hs : I crew.state)
    (hok : Runs.EachStep (step exec program) (CallOk ok) crew turns) :
    I (turns.foldl (step exec program) crew).state := by
  refine (Runs.run_invariant
    (I := fun crew : Crew Res ε σ => (∀ i, (crew.workers i).Calls P) ∧ I crew.state) ?_
    ⟨hworkers, hs⟩ hok).2
  rintro crew turn hturn ⟨hworkers, hI⟩
  refine ⟨step_calls hprogram hworkers turn, ?_⟩
  rcases step_state exec program crew turn with
    hsame | ⟨worker, op, next, rfl, hworker, hstate⟩
  · rw [hsame]
    exact hI
  · have hcalls := hworkers worker
    have hnext : (crew.workers worker).Next (ok crew.state) := hturn
    rw [hworker] at hcalls hnext
    rw [hstate]
    exact hop op crew.state hcalls.1 hnext hI

/-- `I` holds of the state, and `A` of the state and of the rest of each worker's program. -/
def Asserted (I : σ → Prop) (A : σ → Program Res ε Unit → Prop) (crew : Crew Res ε σ) : Prop :=
  I crew.state ∧ ∀ i, A crew.state (crew.workers i)

/-- **The rule for assertions.**  A task begins with its assertion; a call that is `ok` keeps
the invariant, establishes the assertion of what its worker goes on with, and does not
interfere with the assertions of the other workers. -/
theorem step_asserted {A : σ → Program Res ε Unit → Prop}
    {ok : Crew Res ε σ → Turn κ → Prop} (hstart : ∀ s task, I s → A s (program task))
    (hadvance : ∀ crew worker op next, ok crew (.advance worker) → Asserted I A crew →
      crew.workers worker = .call op next →
      I (exec op crew.state).2 ∧ A (exec op crew.state).2 (next (exec op crew.state).1) ∧
        ∀ i, i ≠ worker → A (exec op crew.state).2 (crew.workers i))
    {turn : Turn κ} (hok : ok crew turn) (h : Asserted I A crew) :
    Asserted I A (crew.step exec program turn) := by
  cases turn with
  | start worker task =>
    refine ⟨h.1, fun i => ?_⟩
    show A crew.state (if i = worker then program task else crew.workers i)
    split
    · exact hstart crew.state task h.1
    · exact h.2 i
  | advance worker =>
    rcases hw : crew.workers worker with r | ⟨op, next⟩
    · rw [show crew.step exec program (.advance worker) = crew by simp only [step, hw]]
      exact h
    · obtain ⟨hI, hown, hothers⟩ := hadvance crew worker op next hok h hw
      rw [show crew.step exec program (.advance worker) =
        { crew.assign worker (next (exec op crew.state).1) with
          state := (exec op crew.state).2 } by simp only [step, hw]]
      refine ⟨hI, fun i => ?_⟩
      show A (exec op crew.state).2
        (if i = worker then next (exec op crew.state).1 else crew.workers i)
      split
      · exact hown
      · rename_i hne
        exact hothers i hne

end Crew
