/-
Audit periods with the limits of dates, and whether monthly audits cover every month
(`scheduling/periods.py`).

`calculate_iff`: the calculator gives a period if and only if that is the one that the rule asks for,
and it lies within the dates.

Months differ in length, so that a month can be left out or given twice by occurrences that are due on
the same day of every month.  `tiles_iff` says for which days and offsets this cannot happen.
-/
import AssuranceOS.Lib.Months
import AssuranceOS.Scheduling.BusinessDays

namespace Scheduling

open Civil Checked

/-- From the first day of a month to the last day of a month, `months` months in all. -/
def WholeMonths (months : ℕ) (period : ℤ × ℤ) : Prop :=
  ∃ first : ℤ, period.1 = firstDay first ∧ period.2 = lastDay (first + months - 1)

/-- The latest whole months, or the last days, until `stop`. -/
def AuditPeriodRule.Asks (stop : ℤ) (period : ℤ × ℤ) : AuditPeriodRule → Prop
  | .calendarMonths months _ _ => WholeMonths months period ∧ period.2 ≤ stop ∧
    ∀ other, WholeMonths months other → other.2 ≤ stop → other.2 ≤ period.2
  | .rollingDays days _ _ => period.2 = stop ∧ period.2 - period.1 + 1 = days

def lastMonth (stop : ℤ) : ℤ :=
  if stop = lastDay (monthOf stop) then monthOf stop else monthOf stop - 1

theorem lastDay_lastMonth_le (stop : ℤ) : lastDay (lastMonth stop) ≤ stop := by
  obtain ⟨hfirst, -⟩ := monthOf_spec stop
  unfold lastMonth
  split_ifs with hends
  · exact hends.ge
  · show firstDay (monthOf stop - 1 + 1) - 1 ≤ stop
    rw [sub_add_cancel]
    omega

variable {stop : ℤ} {months offset days : ℕ} {period : ℤ × ℤ}
variable {m r : ℤ} {hmonths : 1 ≤ months} {hdays : 1 ≤ days} {dueLocal : LocalTime}

theorem le_lastMonth (h : lastDay m ≤ stop) : m ≤ lastMonth stop := by
  obtain ⟨-, hlast⟩ := monthOf_spec stop
  have hle : m ≤ monthOf stop := by
    by_contra hlt
    have hlater := lastDay_lt_of_lt (not_le.mp hlt)
    omega
  unfold lastMonth
  split_ifs with hends
  · exact hle
  · -- the month of `stop` is not over
    by_contra hlt
    have heq : m = monthOf stop := by omega
    rw [heq] at h
    exact hends (le_antisymm hlast h)

theorem asks_calendarMonths :
    (AuditPeriodRule.calendarMonths months offset hmonths).Asks stop period ↔
      period = (firstDay (lastMonth stop - (months - 1 : ℕ)), lastDay (lastMonth stop)) := by
  have hcount : ∀ first : ℤ, first + months - 1 = first + (months - 1 : ℕ) := fun first => by omega
  constructor
  · rintro ⟨⟨first, hstart, hend⟩, hle, hlatest⟩
    rw [hcount] at hend
    have hupper : first + (months - 1 : ℕ) ≤ lastMonth stop := le_lastMonth (hend ▸ hle)
    have hlower : lastDay (lastMonth stop) ≤ period.2 :=
      hlatest (firstDay (lastMonth stop - (months - 1 : ℕ)), lastDay (lastMonth stop))
        ⟨_, rfl, by rw [hcount, sub_add_cancel]⟩ (lastDay_lastMonth_le stop)
    have hmonth : first + (months - 1 : ℕ) = lastMonth stop := by
      rcases lt_or_eq_of_le hupper with hlt | heq
      · have hbefore := lastDay_lt_of_lt hlt
        omega
      · exact heq
    refine Prod.ext ?_ ?_
    · rw [hstart, ← hmonth, add_sub_cancel_right]
    · rw [hend, hmonth]
  · rintro rfl
    refine ⟨⟨_, rfl, by rw [hcount, sub_add_cancel]⟩, lastDay_lastMonth_le stop, ?_⟩
    rintro other ⟨first, -, hend⟩ hle
    rw [hend]
    rcases lt_or_eq_of_le (le_lastMonth (hend ▸ hle)) with hlt | heq
    · exact (lastDay_lt_of_lt hlt).le
    · rw [heq]

theorem asks_rollingDays :
    (AuditPeriodRule.rollingDays days offset hdays).Asks stop period ↔
      period = (stop - (days - 1 : ℕ), stop) := by
  rw [Prod.ext_iff]
  show period.2 = stop ∧ period.2 - period.1 + 1 = days ↔ _
  constructor
  · rintro ⟨hend, hdays⟩
    exact ⟨by omega, hend⟩
  · rintro ⟨hstart, hend⟩
    exact ⟨hend, by omega⟩

theorem minusDays_eq_ok {d : ℤ} :
    ofOption SchedulingError.overflow (minusDays d days) = .ok r ↔ r = d - days ∧ 1 ≤ r := by
  rw [ofOption_eq_ok, minusDays]
  split_ifs with hroom
  · constructor
    · rintro ⟨⟩
      exact ⟨rfl, hroom⟩
    · rintro ⟨rfl, -⟩
      rfl
  · refine iff_of_false (by simp) ?_
    rintro ⟨rfl, h⟩
    exact hroom h

theorem minusMonths_eq_ok :
    ofOption SchedulingError.overflow (minusMonths (firstDay m) months) = .ok r ↔
      r = firstDay (m - months) ∧ 1 ≤ r := by
  rw [ofOption_eq_ok, minusMonths_firstDay]
  split_ifs with hroom
  · constructor
    · rintro ⟨⟩
      exact ⟨rfl, one_le_firstDay.mpr hroom⟩
    · rintro ⟨rfl, -⟩
      rfl
  · refine iff_of_false (by simp) ?_
    rintro ⟨rfl, h⟩
    exact hroom (one_le_firstDay.mp h)

theorem calculate_rollingDays :
    AuditPeriodCalculator.calculate dueLocal (.rollingDays days offset hdays) = .ok period ↔
      period = (dueLocal.date - offset - (days - 1 : ℕ), dueLocal.date - offset) ∧
        1 ≤ period.1 := by
  unfold AuditPeriodCalculator.calculate
  simp only [bind_eq_ok, minusDays_eq_ok]
  constructor
  · rintro ⟨stop, ⟨rfl, -⟩, start, ⟨rfl, hstart⟩, h⟩
    cases h
    exact ⟨rfl, hstart⟩
  · rintro ⟨rfl, hstart⟩
    have hstop : 1 ≤ dueLocal.date - (offset : ℤ) :=
      le_trans (show 1 ≤ _ from hstart) (sub_le_self _ (Int.natCast_nonneg _))
    exact ⟨_, ⟨rfl, hstop⟩, _, ⟨rfl, hstart⟩, rfl⟩

theorem calculate_calendarMonths :
    AuditPeriodCalculator.calculate dueLocal (.calendarMonths months offset hmonths) =
        .ok period ↔
      period = (firstDay (lastMonth (dueLocal.date - offset) - (months - 1 : ℕ)),
        lastDay (lastMonth (dueLocal.date - offset))) ∧ 1 ≤ period.1 := by
  unfold AuditPeriodCalculator.calculate
  simp only [bind_eq_ok, minusDays_eq_ok, replaceDay_one, minusMonths_eq_ok]
  generalize hstop : dueLocal.date - (offset : ℤ) = stop
  by_cases hends : stop = lastDay (monthOf stop)
  · have hlast : lastMonth stop = monthOf stop := if_pos hends
    have hday : ¬ day stop ≠ monthrange (year stop) (month stop) :=
      not_not.mpr (day_eq_monthrange.mpr hends)
    rw [hlast, ← hends]
    constructor
    · rintro ⟨_, ⟨rfl, -⟩, start, ⟨rfl, hstart⟩, h⟩
      rw [if_neg hday] at h
      cases h
      exact ⟨rfl, hstart⟩
    · rintro ⟨rfl, hstart⟩
      have hle : firstDay (monthOf stop - (months - 1 : ℕ)) ≤ lastDay (monthOf stop) :=
        firstDay_le_lastDay (by omega)
      refine ⟨stop, ⟨rfl, (hstart.trans hle).trans_eq hends.symm⟩, _, ⟨rfl, hstart⟩, ?_⟩
      rw [if_neg hday]
      rfl
  · have hlast : lastMonth stop = monthOf stop - 1 := if_neg hends
    have hday : day stop ≠ monthrange (year stop) (month stop) := fun h =>
      hends (day_eq_monthrange.mp h)
    have hprevious : firstDay (monthOf stop) - (1 : ℕ) = lastDay (monthOf stop - 1) := by
      unfold lastDay
      rw [sub_add_cancel, Nat.cast_one]
    rw [hlast]
    constructor
    · rintro ⟨_, ⟨rfl, -⟩, start, -, h⟩
      rw [if_pos hday] at h
      simp only [bind_eq_ok, minusDays_eq_ok, hprevious] at h
      obtain ⟨_, ⟨rfl, -⟩, start', h⟩ := h
      rw [monthOf_lastDay, minusMonths_eq_ok] at h
      obtain ⟨⟨rfl, hstart⟩, h⟩ := h
      cases h
      exact ⟨rfl, hstart⟩
    · rintro ⟨rfl, hstart⟩
      have hbegins : 1 ≤ firstDay (monthOf stop - 1 - (months - 1 : ℕ)) := hstart
      have hlater : firstDay (monthOf stop - 1 - (months - 1 : ℕ)) ≤
          firstDay (monthOf stop - (months - 1 : ℕ)) := firstDay_le_of_le (by omega)
      have hle : firstDay (monthOf stop - 1 - (months - 1 : ℕ)) ≤ lastDay (monthOf stop - 1) :=
        firstDay_le_lastDay (by omega)
      have hbefore : lastDay (monthOf stop - 1) ≤ stop := by
        rw [← hlast]
        exact lastDay_lastMonth_le stop
      refine ⟨stop, ⟨rfl, hbegins.trans (hle.trans hbefore)⟩, _, ⟨rfl, hbegins.trans hlater⟩, ?_⟩
      rw [if_pos hday]
      simp only [bind_eq_ok, minusDays_eq_ok, hprevious]
      refine ⟨_, ⟨rfl, hbegins.trans hle⟩, firstDay (monthOf stop - 1 - (months - 1 : ℕ)), ?_, rfl⟩
      rw [monthOf_lastDay, minusMonths_eq_ok]
      exact ⟨rfl, hbegins⟩

/-- **Audit periods.**  The calculator gives a period if and only if it is the one that the rule
asks for until the due date less the offset, and lies within the dates. -/
theorem calculate_iff (dueLocal : LocalTime) (rule : AuditPeriodRule) (period : ℤ × ℤ) :
    AuditPeriodCalculator.calculate dueLocal rule = .ok period ↔
      rule.Asks (dueLocal.date - rule.endOffsetDays) period ∧ 1 ≤ period.1 := by
  cases rule with
  | calendarMonths months offset hmonths =>
    rw [calculate_calendarMonths, asks_calendarMonths]
    rfl
  | rollingDays days offset hdays =>
    rw [calculate_rollingDays, asks_rollingDays]
    rfl

/-- Due on 15 March 2028, the month before is February with its leap day. -/
example : AuditPeriodCalculator.calculate ⟨21258 * dayLength, false⟩ (.calendarMonths 1 1 le_rfl) =
    .ok (ofFields 2028 2 1, ofFields 2028 2 29) := by
  rfl

/-- The periods of the occurrences that are due on the day `dueDay` of two months in a row are two
months in a row. -/
def Tiles (dueDay offset : ℕ) : Prop :=
  ∀ (due due' : LocalTime) (period period' : ℤ × ℤ),
    day due.date = dueDay → day due'.date = dueDay → monthOf due'.date = monthOf due.date + 1 →
    AuditPeriodCalculator.calculate due (.calendarMonths 1 offset le_rfl) = .ok period →
    AuditPeriodCalculator.calculate due' (.calendarMonths 1 offset le_rfl) = .ok period' →
    ∃ m : ℤ, period = (firstDay m, lastDay m) ∧ period' = (firstDay (m + 1), lastDay (m + 1))

/-- How far the offset reaches behind the day before the month that the due date is in. -/
def reach (dueDay offset : ℕ) : ℤ := offset - dueDay

/-- The month after the one that an occurrence due in the month `m` covers. -/
def coveredUntil (dueDay offset : ℕ) (m : ℤ) : ℤ :=
  monthOf (firstDay m - reach dueDay offset)

section

variable {dueDay offset : ℕ}

theorem lastMonth_eq (stop : ℤ) : lastMonth stop = monthOf (stop + 1) - 1 := by
  obtain ⟨hfirst, hlast⟩ := monthOf_spec stop
  unfold lastMonth
  split_ifs with hends
  · -- the day after the last of a month is the first of the next
    have hnext : stop + 1 = firstDay (monthOf stop + 1) := by
      unfold lastDay at hends
      omega
    rw [hnext, monthOf_firstDay, add_sub_cancel_right]
  · have hsame : monthOf (stop + 1) = monthOf stop := by
      apply monthOf_unique
      · omega
      · omega
    rw [hsame]

theorem calculate_month (offset : ℕ) {due : LocalTime} {period : ℤ × ℤ}
    (hday : day due.date = dueDay) :
    AuditPeriodCalculator.calculate due (.calendarMonths 1 offset le_rfl) = .ok period ↔
      period = (firstDay (coveredUntil dueDay offset (monthOf due.date) - 1),
        lastDay (coveredUntil dueDay offset (monthOf due.date) - 1)) ∧ 1 ≤ period.1 := by
  have hstop : due.date - offset + 1 = firstDay (monthOf due.date) - reach dueDay offset := by
    unfold day at hday
    unfold reach
    linarith
  rw [calculate_calendarMonths, lastMonth_eq, hstop]
  simp [coveredUntil]

variable {n : ℕ} {m : ℤ}

theorem coveredUntil_eq (hn : n < 131) (hlong : longestRun n < reach dueDay offset)
    (hshort : reach dueDay offset ≤ shortestRun (n + 1)) (m : ℤ) :
    coveredUntil dueDay offset m = m - (n + 1) := by
  have hmost := (run_bounds (m - n) (n := n) (by omega) (by omega)).2
  have hleast := (run_bounds (m - (n + 1)) (n := n + 1) (by omega) (by omega)).1
  rw [sub_add_cancel] at hmost hleast
  have hnext : m - (n + 1) + 1 = m - n := by ring
  apply monthOf_unique
  · omega
  · unfold lastDay
    rw [hnext]
    omega

theorem le_monthrange (m : ℤ) : 28 ≤ monthrange (m / 12) (m % 12 + 1) := by
  unfold monthrange
  split_ifs <;> omega

theorem coveredUntil_of_nonpos (hlow : -28 < reach dueDay offset) (hhigh : reach dueDay offset ≤ 0)
    (m : ℤ) : coveredUntil dueDay offset m = m := by
  apply monthOf_unique
  · omega
  · have hlength := le_monthrange m
    rw [lastDay_eq]
    omega

theorem coveredUntil_late (dueDay : ℕ) (hoffset : offset ≤ 3660) (hm : 12 * 1800 ≤ m) :
    13 ≤ coveredUntil dueDay offset m := by
  by_contra hlt
  obtain ⟨-, hlast⟩ := monthOf_spec (firstDay m - reach dueDay offset)
  have hbefore : lastDay (coveredUntil dueDay offset m) < lastDay 13 :=
    lastDay_lt_of_lt (not_le.mp hlt)
  have hafter := firstDay_le_of_le hm
  have hjanuary : firstDay (12 * 1800) = 657072 := rfl
  have hyearTwo : lastDay 13 = 59 := rfl
  unfold coveredUntil at hbefore
  unfold reach at hlast hbefore
  omega

theorem exists_due (hday : 1 ≤ dueDay) (hday' : dueDay ≤ 28) (m : ℤ) :
    ∃ due : LocalTime, monthOf due.date = m ∧ day due.date = dueDay := by
  have hmonth : monthOf (firstDay m + (dueDay - 1)) = m := by
    have hlength := le_monthrange m
    apply monthOf_unique
    · omega
    · rw [lastDay_eq]
      omega
  refine ⟨LocalTime.onDay ⟨0, false⟩ (firstDay m + (dueDay - 1)), ?_, ?_⟩
  · rw [LocalTime.onDay_date, hmonth]
  · unfold day
    rw [LocalTime.onDay_date, hmonth]
    ring

/-- Where the periods tile, they follow each other at the same distance from their due dates. -/
theorem Tiles.coveredUntil_succ (h : Tiles dueDay offset) (hday : 1 ≤ dueDay) (hday' : dueDay ≤ 28)
    (hoffset : offset ≤ 3660) (hm : 12 * 1800 ≤ m) :
    coveredUntil dueDay offset (m + 1) = coveredUntil dueDay offset m + 1 := by
  obtain ⟨due, hdue, hon⟩ := exists_due hday hday' m
  obtain ⟨due', hdue', hon'⟩ := exists_due hday hday' (m + 1)
  have hlate := coveredUntil_late dueDay hoffset hm
  have hlate' := coveredUntil_late dueDay hoffset (show 12 * 1800 ≤ m + 1 by omega)
  have hperiod := (calculate_month offset hon).mpr
    ⟨rfl, one_le_firstDay.mpr (by rw [hdue]; omega)⟩
  have hperiod' := (calculate_month offset hon').mpr
    ⟨rfl, one_le_firstDay.mpr (by rw [hdue']; omega)⟩
  obtain ⟨n, hfirst, hnext⟩ := h due due' _ _ hon hon' (by rw [hdue, hdue']) hperiod hperiod'
  rw [hdue, Prod.mk.injEq] at hfirst
  rw [hdue', Prod.mk.injEq] at hnext
  have hmonth := firstDay_injective hfirst.1
  have hmonth' := firstDay_injective hnext.1
  omega

theorem Tiles.coveredUntil_add (h : Tiles dueDay offset) (hday : 1 ≤ dueDay) (hday' : dueDay ≤ 28)
    (hoffset : offset ≤ 3660) (n : ℕ) :
    coveredUntil dueDay offset (12 * 1800 + n) = coveredUntil dueDay offset (12 * 1800) + n := by
  induction n with
  | zero => simp
  | succ n ih =>
    have hsucc := h.coveredUntil_succ hday hday' hoffset
      (show (12 * 1800 : ℤ) ≤ 12 * 1800 + n by omega)
    have hmonth : (12 * 1800 : ℤ) + (n + 1 : ℕ) = 12 * 1800 + n + 1 := by push_cast; ring
    rw [hmonth, hsucc, ih]
    push_cast
    ring

/-- The offset reaches back over the same number of whole months from every month. -/
def ReachesWholeMonths (dueDay offset : ℕ) : Prop :=
  (-28 < reach dueDay offset ∧ reach dueDay offset ≤ 0) ∨
    ∃ n : ℕ, longestRun n < reach dueDay offset ∧ reach dueDay offset ≤ shortestRun (n + 1)

theorem tiles_of_const {distance : ℤ}
    (hconst : ∀ m, coveredUntil dueDay offset m = m - distance) : Tiles dueDay offset := by
  intro due due' period period' hday hday' hnext hperiod hperiod'
  obtain ⟨rfl, -⟩ := (calculate_month offset hday).mp hperiod
  obtain ⟨rfl, -⟩ := (calculate_month offset hday').mp hperiod'
  refine ⟨monthOf due.date - distance - 1, ?_, ?_⟩
  · rw [hconst]
  · have hmonth : monthOf due.date + 1 - distance - 1 = monthOf due.date - distance - 1 + 1 := by
      ring
    rw [hconst, hnext, hmonth]

theorem run_short (hoffset : offset ≤ 3660) (hlong : longestRun n < reach dueDay offset) :
    n < 131 := by
  have hto := (firstDay_near (12 * 2001 + 1)).1
  have hfrom := (firstDay_near (12 * 2001 + 1 - n)).2
  unfold longestRun reach at hlong
  omega

/-- **Monthly periods.**  On the days that every month has, the periods of successive occurrences
are successive months if and only if the offset reaches back over as many whole months from every
month. -/
theorem tiles_iff (hday : 1 ≤ dueDay) (hday' : dueDay ≤ 28) (hoffset : offset ≤ 3660) :
    Tiles dueDay offset ↔ ReachesWholeMonths dueDay offset := by
  constructor
  · intro h
    -- the distance is the same in all months from 1800 on
    obtain ⟨distance, hdistance⟩ : ∃ distance, ∀ m : ℤ, 12 * 1800 ≤ m →
        coveredUntil dueDay offset m = m - distance := by
      refine ⟨12 * 1800 - coveredUntil dueDay offset (12 * 1800), fun m hm => ?_⟩
      obtain ⟨n, rfl⟩ := Int.le.dest hm
      rw [h.coveredUntil_add hday hday' hoffset]
      ring
    by_cases hback : reach dueDay offset ≤ 0
    · refine Or.inl ⟨?_, hback⟩
      by_contra hlow
      -- due on the 28th with no offset: January 1897 ends later, February 1897 ends on that day
      have hreach : reach dueDay offset = -28 := by
        unfold reach at hlow ⊢
        omega
      have hjanuary := hdistance (12 * 1897) (by omega)
      have hfebruary := hdistance (12 * 1897 + 1) (by omega)
      unfold coveredUntil at hjanuary hfebruary
      rw [hreach] at hjanuary hfebruary
      have hin : monthOf (firstDay (12 * 1897) - -28) = 12 * 1897 := rfl
      have hafter : monthOf (firstDay (12 * 1897 + 1) - -28) = 12 * 1897 + 2 := rfl
      omega
    · right
      -- the month before February 2001 by the distance has ended, from the month after February
      -- 1897 by the distance this February has not
      have hlate := hdistance (12 * 2001 + 1) (by omega)
      obtain ⟨n, rfl⟩ : ∃ n : ℕ, distance = n + 1 := by
        have hbefore : coveredUntil dueDay offset (12 * 2001 + 1) < 12 * 2001 + 1 := by
          obtain ⟨hfirst, -⟩ := monthOf_spec (firstDay (12 * 2001 + 1) - reach dueDay offset)
          by_contra hlt
          have hle := firstDay_le_of_le (not_lt.mp hlt)
          unfold coveredUntil at hle
          omega
        exact ⟨(distance - 1).toNat, by omega⟩
      have hlong : longestRun n < reach dueDay offset := by
        obtain ⟨-, hlast⟩ := monthOf_spec (firstDay (12 * 2001 + 1) - reach dueDay offset)
        have hends : (12 * 2001 + 1 : ℤ) - (n + 1) + 1 = 12 * 2001 + 1 - n := by ring
        unfold coveredUntil at hlate
        rw [hlate] at hlast
        unfold lastDay at hlast
        rw [hends] at hlast
        unfold longestRun
        omega
      refine ⟨n, hlong, ?_⟩
      have hn := run_short hoffset hlong
      have hearly := hdistance (12 * 1897 + 1 + (n + 1)) (by omega)
      obtain ⟨hfirst, -⟩ := monthOf_spec (firstDay (12 * 1897 + 1 + (n + 1)) - reach dueDay offset)
      unfold coveredUntil at hearly
      rw [hearly, add_sub_cancel_right] at hfirst
      unfold shortestRun
      omega
  · rintro (⟨hlow, hhigh⟩ | ⟨n, hlong, hshort⟩)
    · have hconst : ∀ m, coveredUntil dueDay offset m = m - 0 := fun m => by
        rw [coveredUntil_of_nonpos hlow hhigh, sub_zero]
      exact tiles_of_const hconst
    · exact tiles_of_const fun m => coveredUntil_eq (run_short hoffset hlong) hlong hshort m

/-- With the offset of one day that a rule has by default, the periods of occurrences that are due
on the first of a month are successive months. -/
theorem tiles_first : Tiles 1 1 :=
  (tiles_iff le_rfl (by omega) (by omega)).mpr (Or.inl ⟨by decide, by decide⟩)

/-- Without an offset, an occurrence that is due on 28 January 2027 covers December 2026 and the
next one covers February. -/
theorem not_tiles_last : ¬ Tiles 28 0 := by
  intro h
  obtain ⟨m, hfirst, hnext⟩ := h (LocalTime.onDay ⟨0, false⟩ (ofFields 2027 1 28))
    (LocalTime.onDay ⟨0, false⟩ (ofFields 2027 2 28)) (ofFields 2026 12 1, ofFields 2026 12 31)
    (ofFields 2027 2 1, ofFields 2027 2 28) rfl rfl rfl rfl rfl
  have hdecember : m = 12 * 2026 + 11 := firstDay_injective (Prod.mk.inj hfirst).1.symm
  have hfebruary : m + 1 = 12 * 2027 + 1 := firstDay_injective (Prod.mk.inj hnext).1.symm
  omega

end

end Scheduling
