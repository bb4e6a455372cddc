/-
Years, months and days of a date, and the arithmetic of months.

`monthrange` is the length of a month with its leap years; `lastDay_eq` says that the calendar of
`Civil` has these lengths.  `replaceDay` and `minusMonths` work on the fields of a date as the
libraries of Python do, and fail where the years end.

Up to eleven years the shortest run of months begins with February 1897, as 1900 has no leap day, and
the longest ends with January 2001 (`run_bounds`).  The years are counted from March.
-/
import Mathlib.Tactic.IntervalCases
import AssuranceOS.Lib.Civil

namespace Civil

def year (d : ℤ) : ℤ := monthOf d / 12

def month (d : ℤ) : ℤ := monthOf d % 12 + 1

def day (d : ℤ) : ℤ := d - firstDay (monthOf d) + 1

/-- `calendar.isleap`. -/
def isLeap (year : ℤ) : Bool :=
  year % 4 = 0 && (year % 100 ≠ 0 || year % 400 = 0)

/-- `calendar.monthrange(year, month)[1]`. -/
def monthrange (year month : ℤ) : ℤ :=
  if month = 2 then (if isLeap year then 29 else 28)
  else if month = 4 ∨ month = 6 ∨ month = 9 ∨ month = 11 then 30
  else 31

/-- The date with the fields, which are in their ranges. -/
def ofFields (year month day : ℤ) : ℤ :=
  firstDay (12 * year + (month - 1)) + (day - 1)

/-- `d.replace(day=day)`, for a day that the month has. -/
def replaceDay (d day : ℤ) : ℤ := ofFields (year d) (month d) day

/-- `d - relativedelta(months=months)`; the year 0 is out of range. -/
def minusMonths (d : ℤ) (months : ℕ) : Option ℤ :=
  let year' := year d - months / 12
  let month' := month d - months % 12
  let (year', month') := if month' < 1 then (year' - 1, month' + 12) else (year', month')
  if 1 ≤ year' then some (ofFields year' month' (min (monthrange year' month') (day d))) else none

/-- `d - timedelta(days=days)`, where there is such a date. -/
def minusDays (d : ℤ) (days : ℕ) : Option ℤ :=
  if 1 ≤ d - days then some (d - days) else none

/-- A month ends on the day that the leap years give it. -/
theorem lastDay_eq (m : ℤ) : lastDay m = firstDay m + (monthrange (m / 12) (m % 12 + 1) - 1) := by
  obtain ⟨y, r, hr, hlt, rfl⟩ : ∃ y r : ℤ, 0 ≤ r ∧ r < 12 ∧ m = 12 * y + r :=
    ⟨m / 12, m % 12, by omega, by omega, by omega⟩
  have hyear : (12 * y + r) / 12 = y := by omega
  have hmonth : (12 * y + r) % 12 = r := by omega
  rw [hyear, hmonth]
  unfold lastDay firstDay
  rcases eq_or_ne r 1 with rfl | hne
  · -- the only month whose length depends on its year
    simp only [monthrange, isLeap]
    split_ifs <;> simp_all <;> omega
  · interval_cases r <;> simp [monthrange] at hne ⊢ <;> omega

variable {m n : ℤ}
variable {d y a b : ℤ}

theorem monthOf_unique (hfirst : firstDay m ≤ d) (hlast : d ≤ lastDay m) :
    monthOf d = m := by
  obtain ⟨hle, hge⟩ := monthOf_spec d
  rcases lt_trichotomy (monthOf d) m with hlt | heq | hlt
  · have hnext := firstDay_le_of_le (show monthOf d + 1 ≤ m by omega)
    unfold lastDay at hge
    omega
  · exact heq
  · have hnext := firstDay_le_of_le (show m + 1 ≤ monthOf d by omega)
    unfold lastDay at hlast
    omega

@[simp] theorem monthOf_firstDay (m : ℤ) : monthOf (firstDay m) = m :=
  monthOf_unique le_rfl (firstDay_le_lastDay le_rfl)

@[simp] theorem monthOf_lastDay (m : ℤ) : monthOf (lastDay m) = m :=
  monthOf_unique (firstDay_le_lastDay le_rfl) le_rfl

theorem firstDay_lt_of_lt (h : m < n) : firstDay m < firstDay n :=
  (firstDay_lt_succ m).trans_le (firstDay_le_of_le h)

theorem lastDay_lt_of_lt (h : m < n) : lastDay m < lastDay n := by
  have hnext := firstDay_lt_of_lt (show m + 1 < n + 1 by omega)
  unfold lastDay
  omega

theorem firstDay_injective (h : firstDay m = firstDay n) : m = n := by
  rw [← monthOf_firstDay m, h, monthOf_firstDay]

/-- The dates begin with January of the year 1. -/
theorem one_le_firstDay : 1 ≤ firstDay m ↔ 12 ≤ m := by
  have hyearOne : firstDay 12 = 1 := rfl
  constructor
  · intro h
    by_contra hlt
    have hbefore := firstDay_lt_of_lt (not_le.mp hlt)
    omega
  · intro h
    have hafter := firstDay_le_of_le h
    omega

theorem one_le_monthrange (year month : ℤ) : 1 ≤ monthrange year month := by
  unfold monthrange
  split_ifs <;> omega

/-! ### Moving dates -/

theorem replaceDay_one (d : ℤ) : replaceDay d 1 = firstDay (monthOf d) := by
  unfold replaceDay ofFields year month
  have hfields : 12 * (monthOf d / 12) + (monthOf d % 12 + 1 - 1) = monthOf d := by omega
  rw [hfields]
  omega

/-- The day is the last of its month, by the length of the month. -/
theorem day_eq_monthrange :
    day d = monthrange (year d) (month d) ↔ d = lastDay (monthOf d) := by
  rw [lastDay_eq]
  unfold day year month
  omega

/-- The first day of a month goes to the first day of a month. -/
theorem minusMonths_firstDay (m : ℤ) (months : ℕ) : minusMonths (firstDay m) months =
    if 12 ≤ m - months then some (firstDay (m - months)) else none := by
  have hday : day (firstDay m) = 1 := by
    unfold day
    rw [monthOf_firstDay]
    omega
  have hshort : ∀ y k : ℤ, min (monthrange y k) 1 = 1 := fun y k =>
    min_eq_right (one_le_monthrange y k)
  unfold minusMonths ofFields
  simp only [hday, hshort]
  unfold year month
  rw [monthOf_firstDay]
  -- whether a year is borrowed or not, the fields are those of the earlier month
  by_cases hborrow : m % 12 + 1 - months % 12 < 1
  · have hmonth : 12 * (m / 12 - months / 12 - 1) + (m % 12 + 1 - months % 12 + 12 - 1) =
        m - months := by omega
    have hyear : 1 ≤ m / 12 - (months : ℤ) / 12 - 1 ↔ 12 ≤ m - months := by omega
    simp only [if_pos hborrow, hmonth, hyear, sub_self, add_zero]
  · have hmonth : 12 * (m / 12 - months / 12) + (m % 12 + 1 - months % 12 - 1) = m - months := by
      omega
    have hyear : 1 ≤ m / 12 - (months : ℤ) / 12 ↔ 12 ≤ m - months := by omega
    simp only [if_neg hborrow, hmonth, hyear, sub_self, add_zero]

/-- The days of the `n` months from February 1897. -/
def shortestRun (n : ℤ) : ℤ := firstDay (12 * 1897 + 1 + n) - firstDay (12 * 1897 + 1)

/-- The days of the `n` months until January 2001. -/
def longestRun (n : ℤ) : ℤ := firstDay (12 * 2001 + 1) - firstDay (12 * 2001 + 1 - n)

/-- The leap days in the first so many years. -/
def leapDays (y : ℤ) : ℤ := y / 4 - y / 100 + y / 400

/-- Eight years have a leap day, and no four years have two. -/
theorem leapDays_run {j : ℤ} (h0 : 0 ≤ j) (h : j ≤ 11) :
    j / 8 ≤ leapDays (y + j) - leapDays y ∧ leapDays (y + j) - leapDays y ≤ (j + 3) / 4 := by
  have hcentury : ∀ y : ℤ, y / 100 = y / 4 / 25 := fun y => by omega
  have hfour : ∀ y : ℤ, y / 400 = y / 4 / 25 / 4 := fun y => by omega
  have hlower : y / 4 + j / 4 ≤ (y + j) / 4 := by omega
  have hupper : (y + j) / 4 ≤ y / 4 + (j + 3) / 4 := by omega
  unfold leapDays
  rw [hcentury, hcentury, hfour, hfour]
  generalize (y + j) / 4 = v at *
  generalize y / 4 = u at *
  -- a year that ends a century is one of the fourth years
  have hstep : v / 25 = u / 25 ∨ v / 25 = u / 25 + 1 ∧ u + 1 ≤ v := by omega
  generalize v / 25 = b at *
  generalize u / 25 = a at *
  omega

/-- The days before a month of a year that begins with March. -/
def monthDays (k : ℤ) : ℤ := (153 * k + 2) / 5

theorem firstDay_eq {k : ℤ} (h0 : 0 ≤ k) (h : k < 12) :
    firstDay (12 * y + k + 2) = 365 * y + leapDays y + monthDays k - 305 := by
  have hy : (12 * y + k + 2 - 2) / 12 = y := by omega
  have hk : (12 * y + k + 2 - 2) % 12 = k := by omega
  unfold firstDay leapDays monthDays
  simp only [hy, hk]
  ring

theorem shortestRun_eq (ha : 0 ≤ a) (ha' : a ≤ 10) (hb : 0 ≤ b) (hb' : b < 12) :
    shortestRun (12 * a + b) =
      if b = 0 then 365 * a + a / 8 else 365 * (a + 1) + (a + 1) / 8 + monthDays (b - 1) - 337 := by
  have hfrom : firstDay (12 * 1897 + 1) = 365 * 1896 + leapDays 1896 + 337 - 305 := rfl
  unfold shortestRun
  rw [hfrom]
  by_cases hzero : b = 0
  · have hto := firstDay_eq (y := 1896 + a) (k := 11) (by omega) (by omega)
    have hmonth : 12 * 1897 + 1 + (12 * a + b) = 12 * (1896 + a) + 11 + 2 := by omega
    have hleap : leapDays (1896 + a) = leapDays 1896 + a / 8 := by
      unfold leapDays
      omega
    have hlast : monthDays 11 = 337 := rfl
    rw [if_pos hzero, hmonth, hto, hleap, hlast]
    ring
  · have hto := firstDay_eq (y := 1896 + (a + 1)) (k := b - 1) (by omega) (by omega)
    have hmonth : 12 * 1897 + 1 + (12 * a + b) = 12 * (1896 + (a + 1)) + (b - 1) + 2 := by omega
    have hleap : leapDays (1896 + (a + 1)) = leapDays 1896 + (a + 1) / 8 := by
      unfold leapDays
      omega
    rw [if_neg hzero, hmonth, hto, hleap]
    ring

theorem longestRun_eq (ha : 0 ≤ a) (ha' : a ≤ 10) (hb : 0 ≤ b) (hb' : b < 12) :
    longestRun (12 * a + b) = 365 * a + (a + 3) / 4 + 337 - monthDays (11 - b) := by
  have hto : firstDay (12 * 2001 + 1) = 365 * 2000 + leapDays 2000 + 337 - 305 := rfl
  have hfrom := firstDay_eq (y := 2000 - a) (k := 11 - b) (by omega) (by omega)
  have hmonth : 12 * 2001 + 1 - (12 * a + b) = 12 * (2000 - a) + (11 - b) + 2 := by omega
  have hleap : leapDays (2000 - a) = leapDays 2000 - (a + 3) / 4 := by
    unfold leapDays
    omega
  unfold longestRun
  rw [hto, hmonth, hfrom, hleap]
  ring

/-- No run of at most eleven years is shorter than the shortest or longer than the longest. -/
theorem run_bounds (m : ℤ) (h0 : 0 ≤ n) (h : n < 132) :
    shortestRun n ≤ firstDay (m + n) - firstDay m ∧
      firstDay (m + n) - firstDay m ≤ longestRun n := by
  obtain ⟨a, b, hb, hb', rfl⟩ : ∃ a b : ℤ, 0 ≤ b ∧ b < 12 ∧ n = 12 * a + b :=
    ⟨n / 12, n % 12, by omega, by omega, by omega⟩
  obtain ⟨y, k, hk, hk', rfl⟩ : ∃ y k : ℤ, 0 ≤ k ∧ k < 12 ∧ m = 12 * y + k + 2 :=
    ⟨(m - 2) / 12, (m - 2) % 12, by omega, by omega, by omega⟩
  rw [shortestRun_eq (by omega) (by omega) hb hb', longestRun_eq (by omega) (by omega) hb hb',
    firstDay_eq hk hk']
  by_cases hcarry : k + b < 12
  · -- the run ends in a later month of a year counted from March
    have hmonth : 12 * y + k + 2 + (12 * a + b) = 12 * (y + a) + (k + b) + 2 := by ring
    obtain ⟨hleast, hmost⟩ := leapDays_run (y := y) (j := a) (by omega) (by omega)
    rw [hmonth, firstDay_eq (by omega) hcarry]
    unfold monthDays
    split_ifs with hzero
    · omega
    · omega
  · have hmonth : 12 * y + k + 2 + (12 * a + b) = 12 * (y + (a + 1)) + (k + b - 12) + 2 := by ring
    obtain ⟨hleast, hmost⟩ := leapDays_run (y := y) (j := a + 1) (by omega) (by omega)
    rw [hmonth, firstDay_eq (by omega) (by omega)]
    unfold monthDays
    split_ifs with hzero
    · omega
    · omega

end Civil
