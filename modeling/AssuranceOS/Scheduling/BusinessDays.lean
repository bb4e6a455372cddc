/-
Business days and delayed occurrences.

The loop of `next_business_day` has no bound of its own: it ends at a business day or where the
dates end.  `nextBusinessDay_eq_ok` says which, and `nextBusinessDay_isLeast_iff` that with room
above the date it is the first, unless every weekday is a weekend day.

A delay moves an occurrence behind the window that decides, and looks at no other window.
`delayed_iff` is when the day that it reaches lies in none of them.
-/
import AssuranceOS.Scheduling.Effects
import Mathlib.Order.Bounds.Basic

namespace Scheduling

/-! ### The next business day -/

namespace BusinessCalendar

variable {config : BusinessCalendarConfig}

/-- The business days from `value` on. -/
def businessDaysFrom (config : BusinessCalendarConfig) (value : ℤ) : Set ℤ :=
  {d | value ≤ d ∧ isBusinessDay config d = true}

variable {d value : ℤ}

theorem isBusinessDay_iff : isBusinessDay config d = true ↔
    (∀ day ∈ config.weekendDays, (day.val : ℤ) ≠ Civil.weekday d) ∧ d ∉ config.holidays := by
  simp [isBusinessDay]

theorem search_eq_ok {fuel : ℕ} : search config fuel value = .ok d ↔
    IsLeast (businessDaysFrom config value) d ∧ d < value + fuel := by
  induction fuel generalizing value with
  | zero =>
    refine iff_of_false (by simp [search]) ?_
    rintro ⟨⟨⟨hle, -⟩, -⟩, hlt⟩
    push_cast at hlt
    omega
  | succ fuel ih =>
    rw [search]
    split_ifs with hday
    · constructor
      · intro h
        cases h
        refine ⟨⟨⟨le_rfl, hday⟩, fun x hx => hx.1⟩, ?_⟩
        push_cast
        omega
      · rintro ⟨hleast, -⟩
        exact congrArg Except.ok (le_antisymm hleast.1.1 (hleast.2 ⟨le_rfl, hday⟩))
    · -- the days from here on are those from tomorrow on
      have hsame : businessDaysFrom config value = businessDaysFrom config (value + 1) := by
        ext x
        constructor
        · rintro ⟨hx, hbusiness⟩
          have hne : value ≠ x := by
            rintro rfl
            exact hday hbusiness
          exact ⟨by omega, hbusiness⟩
        · rintro ⟨hx, hbusiness⟩
          exact ⟨by omega, hbusiness⟩
      rw [ih, hsame]
      push_cast
      constructor
      · rintro ⟨hleast, hlt⟩
        exact ⟨hleast, by omega⟩
      · rintro ⟨hleast, hlt⟩
        exact ⟨hleast, by omega⟩

theorem nextBusinessDay_eq_ok : nextBusinessDay config value = .ok d ↔
    IsLeast (businessDaysFrom config value) d ∧ d ≤ maxDay := by
  rw [nextBusinessDay, search_eq_ok]
  refine and_congr_right fun hleast => ?_
  have hle : value ≤ d := hleast.1.1
  have hfuel : ((maxDay - value + 1 : ℤ).toNat : ℤ) = max (maxDay - value + 1) 0 :=
    Int.toNat_eq_max _
  omega

theorem exists_nextBusinessDay {x : ℤ} (hle : value ≤ x) (hbusiness : isBusinessDay config x = true)
    (hmax : x ≤ maxDay) :
    ∃ d, nextBusinessDay config value = .ok d := by
  have hbounded : BddBelow (businessDaysFrom config value) := ⟨value, fun y hy => hy.1⟩
  obtain ⟨d, hd, hleast⟩ := Int.exists_least_of_bdd
    (P := fun y => y ∈ businessDaysFrom config value) hbounded ⟨x, hle, hbusiness⟩
  exact ⟨d, nextBusinessDay_eq_ok.mpr ⟨⟨hd, hleast⟩, (hleast x ⟨hle, hbusiness⟩).trans hmax⟩⟩

theorem exists_step_notMem (s : Finset ℤ) (start : ℤ) :
    ∃ i : ℕ, i ≤ s.card ∧ start + 7 * i ∉ s := by
  have hinjective : Function.Injective fun i : ℕ => start + 7 * (i : ℤ) := by
    intro i j hij
    have heq : start + 7 * (i : ℤ) = start + 7 * (j : ℤ) := hij
    omega
  have hcard : s.card < ((Finset.range (s.card + 1)).image fun i : ℕ => start + 7 * (i : ℤ)).card := by
    rw [Finset.card_image_of_injective _ hinjective, Finset.card_range]
    exact Nat.lt_succ_self _
  obtain ⟨x, hx, hnot⟩ := Finset.exists_mem_notMem_of_card_lt_card hcard
  obtain ⟨i, hi, rfl⟩ := Finset.mem_image.mp hx
  exact ⟨i, Nat.lt_succ_iff.mp (Finset.mem_range.mp hi), hnot⟩

/-- A weekday that is no weekend day has a business day within a week for each holiday and one
more. -/
theorem exists_businessDay {day : Fin 7} (hday : day ∉ config.weekendDays) (value : ℤ) :
    ∃ x, value ≤ x ∧ x < value + 7 * (config.holidays.toFinset.card + 1) ∧
      isBusinessDay config x = true := by
  -- the first day of that weekday, then the same day of the following weeks
  obtain ⟨first, hle, hlt, hweekday⟩ : ∃ first, value ≤ first ∧ first < value + 7 ∧
      Civil.weekday first = day.val := by
    refine ⟨value + (day.val - Civil.weekday value) % 7, ?_, ?_, ?_⟩ <;>
    · unfold Civil.weekday
      omega
  obtain ⟨i, hi, hholiday⟩ := exists_step_notMem config.holidays.toFinset first
  refine ⟨first + 7 * i, by omega, by omega, isBusinessDay_iff.mpr ⟨?_, ?_⟩⟩
  · intro other hother heq
    have hsame : Civil.weekday (first + 7 * i) = day.val := by
      rw [← hweekday]
      unfold Civil.weekday
      omega
    have hval : other.val = day.val := by omega
    exact hday (Fin.ext hval ▸ hother)
  · intro hmem
    exact hholiday (List.mem_toFinset.mpr hmem)

/-- **The next business day.**  With a week above the date for each holiday, and one more, the loop
ends at the least business day, if and only if some weekday is no weekend day. -/
theorem nextBusinessDay_isLeast_iff (config : BusinessCalendarConfig) (value : ℤ)
    (hroom : value + 7 * (config.holidays.toFinset.card + 1) ≤ maxDay + 1) :
    (∃ d, nextBusinessDay config value = .ok d ∧
      IsLeast {x : ℤ | value ≤ x ∧ isBusinessDay config x = true} d) ↔
      ∃ day : Fin 7, day ∉ config.weekendDays := by
  constructor
  · rintro ⟨d, -, ⟨-, hbusiness⟩, -⟩
    have hnonneg : 0 ≤ Civil.weekday d := by
      unfold Civil.weekday
      omega
    have hlt : Civil.weekday d < 7 := by
      unfold Civil.weekday
      omega
    refine ⟨⟨(Civil.weekday d).toNat, by omega⟩, fun hmem => ?_⟩
    exact (isBusinessDay_iff.mp hbusiness).1 _ hmem (Int.toNat_of_nonneg hnonneg)
  · rintro ⟨day, hday⟩
    obtain ⟨x, hle, hlt, hbusiness⟩ := exists_businessDay hday value
    obtain ⟨d, hd⟩ := exists_nextBusinessDay hle hbusiness (by omega)
    exact ⟨d, hd, (nextBusinessDay_eq_ok.mp hd).1⟩

/-- 2 January 2027 is a Saturday, and the Monday after it a holiday. -/
def newYearCalendar : BusinessCalendarConfig where
  weekendDays := [5, 6]
  holidays := [739985]

theorem nextBusinessDay_isLeast_newYear :
    (∃ d, nextBusinessDay newYearCalendar 739983 = .ok d ∧
      IsLeast {x : ℤ | 739983 ≤ x ∧ isBusinessDay newYearCalendar x = true} d) ↔
      ∃ day : Fin 7, day ∉ newYearCalendar.weekendDays :=
  nextBusinessDay_isLeast_iff newYearCalendar 739983 (by decide)

def everyDayOff : BusinessCalendarConfig where
  weekendDays := [0, 1, 2, 3, 4, 5, 6]

/-- The validator accepts seven weekend days, and then the loop runs into the end of the dates. -/
theorem everyDayOff_overflows :
    ¬ ∀ (config : BusinessCalendarConfig) (value : ℤ),
      value + 7 * (config.holidays.toFinset.card + 1) ≤ maxDay + 1 →
      ∃ d, nextBusinessDay config value = .ok d ∧
        IsLeast {x : ℤ | value ≤ x ∧ isBusinessDay config x = true} d := by
  intro h
  obtain ⟨d, -, ⟨-, hbusiness⟩, -⟩ := h everyDayOff 739983 (by decide)
  have hnone : ∃ day ∈ everyDayOff.weekendDays, (day.val : ℤ) = Civil.weekday d := by
    have hlt : (d + 6) % 7 < 7 := Int.emod_lt_of_pos _ (by omega)
    have hnonneg : 0 ≤ (d + 6) % 7 := Int.emod_nonneg _ (by omega)
    refine ⟨⟨((d + 6) % 7).toNat, by omega⟩, ?_, Int.toNat_of_nonneg hnonneg⟩
    generalize (⟨((d + 6) % 7).toNat, _⟩ : Fin 7) = day
    revert day
    decide
  obtain ⟨day, hmem, heq⟩ := hnone
  exact (isBusinessDay_iff.mp hbusiness).1 day hmem heq

end BusinessCalendar

open BusinessCalendar (isBusinessDay businessDaysFrom nextBusinessDay newYearCalendar)

variable {config : BusinessCalendarConfig} {policy : BlackoutPolicy}

@[simp] theorem LocalTime.onDay_date (t : LocalTime) (day : ℤ) : (t.onDay day).date = day := by
  have hpos : (0 : ℤ) < dayLength := by decide
  have htime : t.wall % dayLength / dayLength = 0 :=
    Int.ediv_eq_zero_of_lt (Int.emod_nonneg _ hpos.ne') (Int.emod_lt_of_pos _ hpos)
  show ((day - epochDay) * dayLength + t.wall % dayLength) / dayLength + epochDay = day
  rw [add_comm (_ * _), Int.add_mul_ediv_right _ _ hpos.ne', htime, zero_add, sub_add_cancel]

def BlackoutWindow.Covers (window : BlackoutWindow) (day : ℤ) : Prop :=
  window.start ≤ day ∧ day ≤ window.stop

instance (window : BlackoutWindow) (day : ℤ) : Decidable (window.Covers day) :=
  inferInstanceAs (Decidable (_ ∧ _))

def decidingWindow (policy : BlackoutPolicy) (due : ℤ) : Option BlackoutWindow :=
  policy.find? fun window => window.Covers due

/-- What a delay is for. -/
structure Eligible (config : BusinessCalendarConfig) (policy : BlackoutPolicy) (due day : ℤ) :
    Prop where
  business : isBusinessDay config day = true
  outside : ∀ window ∈ policy, ¬ window.Covers day
  notBefore : due ≤ day

/-- Behind the window that decides, each window with a business day in it has one before it. -/
def ClearBehind (config : BusinessCalendarConfig) (policy : BlackoutPolicy) (due : ℤ) : Prop :=
  ∀ first ∈ decidingWindow policy due, ∀ window ∈ policy, ∀ day,
    first.stop < day → window.Covers day → isBusinessDay config day = true →
      ∃ earlier, first.stop < earlier ∧ earlier < window.start ∧
        isBusinessDay config earlier = true

theorem resolveBlackout_delay {dueLocal : LocalTime} {resolution : BlackoutResolution}
    (h : resolveBlackout config dueLocal policy = .ok resolution)
    (hdelay : resolution.action = .delay) :
    ∃ first, decidingWindow policy dueLocal.date = some first ∧
      IsLeast (businessDaysFrom config (first.stop + 1)) resolution.eligibleAt.date := by
  induction policy with
  | nil =>
    cases h
    cases hdelay
  | cons window windows ih =>
    rw [resolveBlackout] at h
    unfold decidingWindow
    by_cases hcovers : window.start ≤ dueLocal.date ∧ dueLocal.date ≤ window.stop
    · rw [if_pos hcovers] at h
      refine ⟨window, List.find?_cons_of_pos (decide_eq_true hcovers), ?_⟩
      cases hbehavior : window.behavior with
      | skip =>
        rw [hbehavior] at h
        cases h
        cases hdelay
      | delay =>
        rw [hbehavior] at h
        obtain ⟨nextDay, hnext, h⟩ := Checked.bind_eq_ok.mp h
        cases h
        rw [LocalTime.onDay_date]
        exact (BusinessCalendar.nextBusinessDay_eq_ok.mp hnext).1
    · rw [if_neg hcovers] at h
      have hskips : (window :: windows).find? (fun window => window.Covers dueLocal.date) =
          windows.find? fun window => window.Covers dueLocal.date :=
        List.find?_cons_of_neg fun hyes => hcovers (of_decide_eq_true hyes)
      rw [hskips]
      exact ih h

/-- The first business day behind a window is what a delay is for, if the other windows leave
room. -/
theorem eligible_iff {due day : ℤ} {first : BlackoutWindow}
    (hfirst : decidingWindow policy due = some first)
    (hday : IsLeast (businessDaysFrom config (first.stop + 1)) day) :
    Eligible config policy due day ↔ ClearBehind config policy due := by
  have hcovers : first.Covers due := by simpa using List.find?_some hfirst
  have hafter : first.stop + 1 ≤ day := hday.1.1
  constructor
  · intro h found hfound window hwindow other hother hin hbusiness
    obtain rfl : first = found := Option.some.inj (hfirst.symm.trans hfound)
    have hle : day ≤ other := hday.2 ⟨hother, hbusiness⟩
    have hnot : ¬ window.Covers day := h.outside window hwindow
    have hstart : day < window.start := by
      by_contra hge
      exact hnot ⟨not_lt.mp hge, hle.trans hin.2⟩
    exact ⟨day, hafter, hstart, h.business⟩
  · intro h
    refine ⟨hday.1.2, fun window hwindow hin => ?_, ?_⟩
    · obtain ⟨earlier, hearlier, hstart, hbusiness⟩ :=
        h first hfirst window hwindow day hafter hin hday.1.2
      have hle : day ≤ earlier := hday.2 ⟨hearlier, hbusiness⟩
      exact absurd (hle.trans_lt hstart) (not_lt.mpr hin.1)
    · exact hcovers.2.trans (le_of_lt hafter)

/-- **Delays.**  A delayed occurrence becomes eligible on a business day outside all blackout
windows, if and only if no other window lies behind the one that decides without a business day
between them. -/
theorem delayed_iff (config : BusinessCalendarConfig) (policy : BlackoutPolicy)
    (dueLocal : LocalTime) (resolution : BlackoutResolution)
    (h : resolveBlackout config dueLocal policy = .ok resolution)
    (hdelay : resolution.action = .delay) :
    Eligible config policy dueLocal.date resolution.eligibleAt.date ↔
      ClearBehind config policy dueLocal.date := by
  obtain ⟨first, hfirst, hleast⟩ := resolveBlackout_delay h hdelay
  exact eligible_iff hfirst hleast

/-! #### Windows side by side -/

def windowOf (start stop : ℤ) (order : start ≤ stop) : BlackoutWindow where
  start := start
  stop := stop
  behavior := .delay
  reason := "configured blackout window"
  order := order

theorem quarterEnd_order : (739985 : ℤ) ≤ 739989 := by decide

theorem inventory_order : (739990 : ℤ) ≤ 739996 := by decide

theorem later_order : (740010 : ℤ) ≤ 740012 := by decide

def dueAtNoon : LocalTime where
  wall := 20823 * dayLength + dayLength / 2
  fold := false

def newYearDelay : BlackoutResolution where
  eligibleAt := dueAtNoon.onDay 739992
  action := .delay
  reason := some "configured blackout window"

def apart : BlackoutPolicy :=
  [windowOf 739985 739989 quarterEnd_order, windowOf 740010 740012 later_order]

theorem delayed_iff_apart :
    Eligible newYearCalendar apart dueAtNoon.date newYearDelay.eligibleAt.date ↔
      ClearBehind newYearCalendar apart dueAtNoon.date :=
  delayed_iff newYearCalendar apart dueAtNoon newYearDelay rfl rfl

def sideBySide : BlackoutPolicy :=
  [windowOf 739985 739989 quarterEnd_order, windowOf 739990 739996 inventory_order]

/-- The delay out of the first window ends in the second. -/
theorem delayed_into_window :
    ¬ ∀ (config : BusinessCalendarConfig) (policy : BlackoutPolicy) (dueLocal : LocalTime)
      (resolution : BlackoutResolution), resolveBlackout config dueLocal policy = .ok resolution →
      resolution.action = .delay →
      Eligible config policy dueLocal.date resolution.eligibleAt.date := by
  intro h
  have hresolved : resolveBlackout newYearCalendar dueAtNoon sideBySide = .ok newYearDelay := rfl
  have heligible := h newYearCalendar sideBySide dueAtNoon newYearDelay hresolved rfl
  refine heligible.outside (windowOf 739990 739996 inventory_order) ?_ ?_
  · exact List.mem_cons_of_mem _ List.mem_cons_self
  · decide

end Scheduling
