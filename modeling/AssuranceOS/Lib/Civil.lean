/-
Days and months of the proleptic Gregorian calendar.

A day is its ordinal, counted from 1 January of the year 1, and a month is the number
of months since January of the year 0.  `firstDay` is the first day of a month and
`monthOf` the month of a day; `monthOf_spec` says that they agree, so that a day of the
calendar needs no more than its number.
-/
import Mathlib.Data.Int.Notation
import Mathlib.Tactic.Ring

namespace Civil

/-- The ordinal of the first day of a month.  The years are counted from March, which
puts the leap day at their end. -/
def firstDay (m : ℤ) : ℤ :=
  let y := (m - 2) / 12
  let k := (m - 2) % 12
  365 * y + y / 4 - y / 100 + y / 400 + (153 * k + 2) / 5 - 305

def lastDay (m : ℤ) : ℤ := firstDay (m + 1) - 1

/-- The month of a day: an estimate from the mean length of a month, and a correction. -/
def monthOf (d : ℤ) : ℤ :=
  let m := 4800 * d / 146097 + 12
  if d < firstDay m then m - 1
  else if firstDay (m + 1) ≤ d then m + 1
  else m

/-- Monday is 0. -/
def weekday (d : ℤ) : ℤ := (d + 6) % 7

theorem firstDay_lt_succ (m : ℤ) : firstDay m < firstDay (m + 1) := by
  unfold firstDay
  dsimp only
  omega

variable {m n : ℤ}

theorem firstDay_le_of_le (h : m ≤ n) : firstDay m ≤ firstDay n := by
  obtain ⟨k, rfl⟩ := Int.le.dest h
  induction k with
  | zero => simp
  | succ k ih =>
    have hlast := firstDay_lt_succ (m + k)
    have hsum : m + ((k + 1 : ℕ) : ℤ) = m + k + 1 := by push_cast; ring
    rw [hsum]
    exact le_trans (ih (by omega)) hlast.le

/-- No month begins more than five days away from where the mean length puts it. -/
theorem firstDay_near (m : ℤ) :
    146097 * (m - 12) - 24000 ≤ 4800 * firstDay m ∧
      4800 * firstDay m ≤ 146097 * (m - 12) + 24000 := by
  unfold firstDay
  dsimp only
  omega

theorem monthOf_spec (d : ℤ) : firstDay (monthOf d) ≤ d ∧ d ≤ lastDay (monthOf d) := by
  have hbefore := firstDay_near (4800 * d / 146097 + 12 - 1)
  have hafter := firstDay_near (4800 * d / 146097 + 12 + 1 + 1)
  unfold lastDay monthOf
  dsimp only
  split_ifs with hlt hle
  · rw [sub_add_cancel]
    omega
  · omega
  · omega

theorem firstDay_le_lastDay (h : m ≤ n) : firstDay m ≤ lastDay n := by
  have hmono := firstDay_le_of_le h
  have hlast := firstDay_lt_succ n
  unfold lastDay
  omega

/-- `n` in decimal with at least `width` digits. -/
def padded (width n : ℕ) : List Char :=
  let digits := Nat.toDigits 10 n
  List.replicate (width - digits.length) '0' ++ digits

/-- The day as `yyyy-mm-dd`, its parts joined by `separator`. -/
def dateText (separator : List Char) (d : ℤ) : List Char :=
  let m := monthOf d
  padded 4 (m / 12).toNat ++ separator ++ padded 2 (m % 12 + 1).toNat ++ separator ++
    padded 2 (d - firstDay m + 1).toNat

end Civil
