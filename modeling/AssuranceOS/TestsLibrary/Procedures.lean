/-
What the released test procedures of `tests-library` share: the times they read, and the result
they return.

`datetime.fromisoformat` is given as the field of a `Clock`.  A time with an offset and one without
cannot be compared, which raises; `between_eq` reads the test of a period through that.
`Faithful` is what is asked of a result: one row for each record in scope, and no conclusion
`effective` without a row or over a row that is neither effective nor excepted.
-/
import AssuranceOS.ControlTesting.Definitions
import AssuranceOS.Lib.Visit
import AssuranceOS.PyString

namespace TestsLibrary

open ControlTesting (TestConclusion)
open Checked Visit

/-- What a procedure reads of its context. -/
structure Context where
  periodStart : String
  periodEnd : String

/-- A `datetime`: with an offset the instant in UTC, else the local time, both in microseconds. -/
structure Moment where
  aware : Bool
  instant : ℤ
  deriving DecidableEq, Repr

/-- What a procedure raises. -/
inductive Raised where
  | valueError (text : String)
  | typeError
  deriving DecidableEq, Repr

/-- The first moment of the day. -/
def dayStart (day : String) : String := day ++ "T00:00:00+00:00"

/-- The last moment of the day. -/
def dayEnd (day : String) : String := day ++ "T23:59:59.999999+00:00"

/-- `datetime.fromisoformat`; the texts of the first and the last moment of a day are read with
their offset. -/
structure Clock where
  fromisoformat : String → Option Moment
  dayStart_aware : ∀ day m, fromisoformat (dayStart day) = some m → m.aware = true
  dayEnd_aware : ∀ day m, fromisoformat (dayEnd day) = some m → m.aware = true

namespace Clock

variable (clock : Clock)

/-- `datetime.fromisoformat(text)`. -/
def read (text : String) : Except Raised Moment :=
  ofOption (.valueError text) (clock.fromisoformat text)

/-- `value.replace("Z", "+00:00")`. -/
def replaceZulu (value : String) : String :=
  String.ofList (value.toList.flatMap fun c => if c = 'Z' then "+00:00".toList else [c])

/-- The time that `_moment` reads, where it can be read. -/
def moment? (value : String) : Option Moment := clock.fromisoformat (replaceZulu value)

/-- `_moment`. -/
def moment (value : String) : Except Raised Moment := clock.read (replaceZulu value)

end Clock

/-- `a <= b`. -/
def Moment.le (a b : Moment) : Except Raised Bool :=
  if a.aware = b.aware then .ok (a.instant ≤ b.instant) else .error .typeError

/-- `start <= at <= finish`. -/
def between (start at' finish : Moment) : Except Raised Bool := do
  if ← start.le at' then at'.le finish else return false

def Moment.Within (start finish m : Moment) : Prop :=
  start.instant ≤ m.instant ∧ m.instant ≤ finish.instant

instance (start finish m : Moment) : Decidable (Moment.Within start finish m) :=
  inferInstanceAs (Decidable (_ ∧ _))

section Times

variable {clock : Clock} {value : String} {start finish m : Moment}

theorem moment_eq_ok : clock.moment value = .ok m ↔ clock.moment? value = some m :=
  ofOption_eq_ok

theorem moment_eq_error (h : clock.moment? value = none) :
    clock.moment value = .error (.valueError (Clock.replaceZulu value)) := by
  unfold Clock.moment? at h
  unfold Clock.moment Clock.read
  rw [h]
  rfl

theorem moment_bind_eq_ok {β : Type} {f : Moment → Except Raised β} {b : β} :
    (clock.moment value >>= f) = .ok b ↔ ∃ m, clock.moment? value = some m ∧ f m = .ok b :=
  ofOption_bind_eq_ok

theorem replaceZulu_append (a b : String) :
    Clock.replaceZulu (a ++ b) = Clock.replaceZulu a ++ Clock.replaceZulu b := by
  unfold Clock.replaceZulu
  rw [String.toList_append, List.flatMap_append, String.ofList_append]

theorem replaceZulu_dayStart (day : String) :
    Clock.replaceZulu (dayStart day) = dayStart (Clock.replaceZulu day) :=
  replaceZulu_append day _

theorem replaceZulu_dayEnd (day : String) :
    Clock.replaceZulu (dayEnd day) = dayEnd (Clock.replaceZulu day) :=
  replaceZulu_append day _

variable {day : String}

theorem moment?_dayStart_aware (h : clock.moment? (dayStart day) = some m) :
    m.aware = true := by
  unfold Clock.moment? at h
  rw [replaceZulu_dayStart] at h
  exact clock.dayStart_aware _ m h

theorem moment?_dayEnd_aware (h : clock.moment? (dayEnd day) = some m) :
    m.aware = true := by
  unfold Clock.moment? at h
  rw [replaceZulu_dayEnd] at h
  exact clock.dayEnd_aware _ m h

theorem between_eq (hstart : start.aware = true) (hfinish : finish.aware = true) :
    between start m finish =
      if m.aware = true then .ok (decide (Moment.Within start finish m))
      else .error .typeError := by
  unfold between Moment.le Moment.Within
  rw [hstart, hfinish]
  by_cases haware : m.aware = true
  · by_cases hle : start.instant ≤ m.instant
    · simp [haware, hle, bind, Except.bind]
    · simp [haware, hle, bind, Except.bind, pure, Except.pure]
  · simp [haware, bind, Except.bind]

end Times

/-- The bounds and the time can be read, and the time is in the period. -/
def inPeriod : Option Moment → Option Moment → Option Moment → Bool
  | some start, some finish, some m => decide (Moment.Within start finish m)
  | _, _, _ => false

def ifWithin {β : Type} (start finish : Moment) (clock : Clock) (value : String) (b : β) :
    Except Raised (Option β) := do
  let at' ← clock.moment value
  if ← between start at' finish then return some b else return none

section Records

variable {α β : Type} {clock : Clock} {start finish : Moment} {value : String} {b : β}

theorem ifWithin_eq_ok (hstart : start.aware = true) (hfinish : finish.aware = true)
    {found : Option β} : ifWithin start finish clock value b = .ok found ↔
      (∃ m ∈ clock.moment? value, m.aware = true) ∧
        found = if inPeriod (some start) (some finish) (clock.moment? value) then some b
          else none := by
  unfold ifWithin
  rw [bind_eq_ok]
  simp only [moment_eq_ok, between_eq hstart hfinish]
  rcases hread : clock.moment? value with _ | m
  · simp
  · by_cases haware : m.aware = true
    · by_cases hwithin : Moment.Within start finish m
      · simp [haware, hwithin, inPeriod, bind, Except.bind, pure, Except.pure]
        exact eq_comm
      · simp [haware, hwithin, inPeriod, bind, Except.bind, pure, Except.pure]
        exact eq_comm
    · simp [haware, bind, Except.bind]

variable {start? finish? : Option Moment} {time : α → String} {give : α → β} {items : List α}
  {out : List β}

/-- The bounds can be read, and the times of the records are read with an offset. -/
structure Readable (clock : Clock) (start? finish? : Option Moment) (time : α → String)
    (items : List α) : Prop where
  start : start?.isSome
  finish : finish?.isSome
  times : ∀ item ∈ items, ∃ m ∈ clock.moment? (time item), m.aware = true

theorem exists_visit_ifWithin (hstart : ∀ m ∈ start?, m.aware = true)
    (hfinish : ∀ m ∈ finish?, m.aware = true) (give : α → β) :
    (∃ start ∈ start?, ∃ finish ∈ finish?, ∃ out,
      visit (fun item => ifWithin start finish clock (time item) (give item)) items = .ok out) ↔
      Readable clock start? finish? time items := by
  have htimes : ∀ start ∈ start?, ∀ finish ∈ finish?,
      ((∃ out, visit (fun item => ifWithin start finish clock (time item) (give item)) items =
        .ok out) ↔ ∀ item ∈ items, ∃ m ∈ clock.moment? (time item), m.aware = true) := by
    intro start hs finish hf
    rw [exists_visit]
    simp only [ifWithin_eq_ok (hstart start hs) (hfinish finish hf), exists_and_left, exists_eq,
      and_true]
  constructor
  · rintro ⟨start, hs, finish, hf, hout⟩
    exact ⟨Option.isSome_iff_exists.mpr ⟨start, hs⟩, Option.isSome_iff_exists.mpr ⟨finish, hf⟩,
      (htimes start hs finish hf).mp hout⟩
  · intro h
    obtain ⟨start, hs⟩ := Option.isSome_iff_exists.mp h.start
    obtain ⟨finish, hf⟩ := Option.isSome_iff_exists.mp h.finish
    exact ⟨start, hs, finish, hf, (htimes start hs finish hf).mpr h.times⟩

theorem visit_ifWithin (hstart : ∀ m ∈ start?, m.aware = true)
    (hfinish : ∀ m ∈ finish?, m.aware = true) (hs : start ∈ start?) (hf : finish ∈ finish?)
    (h : visit (fun item => ifWithin start finish clock (time item) (give item)) items =
      .ok out) :
    List.Forall₂ (fun item b => b = give item)
      (items.filter fun item => inPeriod start? finish? (clock.moment? (time item))) out := by
  rw [hs, hf]
  refine visit_forall₂ (fun item _ found hfound => ?_) h
  obtain ⟨-, rfl⟩ := (ifWithin_eq_ok (hstart start hs) (hfinish finish hf)).mp hfound
  constructor
  · intro hkeep
    exact ⟨_, if_pos hkeep, rfl⟩
  · intro hskip
    exact if_neg (by simp [hskip])

end Records

inductive Classification where
  | effective
  | approvedException
  | controlException
  | notDetermined
  deriving DecidableEq, Repr

/-- An entry of `exceptions`, with the attributes of the procedure. -/
structure TestException (Attributes : Type) where
  exceptionKey : String
  subjectRef : String
  classification : String
  severity : String := "high"
  status : String := "open"
  reason : String
  attributes : Attributes
  evidenceIds : List String

structure TestResult (Row Attributes : Type) where
  conclusion : TestConclusion
  rows : List Row
  exceptions : List (TestException Attributes)
  limitations : List String

/-- `[value for value in values if value]`. -/
def evidenceOf (values : List (Option String)) : List String :=
  (values.filter fun value => PyString.truthy value).reduceOption

/-- What is asked of the result of a procedure over a population: one row for each record that is
in scope, and a conclusion `effective` only over rows that are effective or excepted. -/
def Faithful {Item Row Attributes : Type} (population : List Item) (inScope : Item → Bool)
    (describes : Item → Row → Prop) (classification : Row → Classification)
    (result : Except Raised (TestResult Row Attributes)) : Prop :=
  ∃ r, result = .ok r ∧ List.Forall₂ describes (population.filter inScope) r.rows ∧
    (r.conclusion = .effective → r.rows ≠ [] ∧ ∀ row ∈ r.rows,
      classification row = .effective ∨ classification row = .approvedException)

end TestsLibrary
