/-
Workbooks as values (`spreadsheet.py`).

A sheet is a header row and dictionary rows.  What Python's `re`, `int`, `float` and `repr` do with
a text or a float is a parameter (`Python`).

References of cells: `_column_index` and `_column_letters` of `spreadsheet.py`.

The columns are counted in bijective base 26, `A` to `Z`, then `AA`; `_column_letters` writes the
numeral of the index and `_column_index` reads the letters of a reference.

* `columnLetters_columnIndex` — the two are inverse to each other.
-/
import AssuranceOS.Lib.JsonAccess
import AssuranceOS.Lib.Numerals

namespace Spreadsheet

open JsonText (FloatValue)

/-- The value of a cell. -/
inductive CellValue where
  | none
  | text (s : String)
  | bool (b : Bool)
  | int (n : ℤ)
  | float (x : FloatValue)
  deriving DecidableEq

/-- `value is not None and value != ""`. -/
def CellValue.isFilled : CellValue → Bool
  | .none => false
  | .text s => s ≠ ""
  | .bool _ | .int _ | .float _ => true

structure Sheet where
  name : String
  columns : List String
  rows : List (List (String × CellValue))
  deriving DecidableEq

structure Workbook where
  sheets : List Sheet
  deriving DecidableEq

/-- What the reader and the writer raise. -/
inductive WorkbookError where
  | missingPart (part : String)
  | partTooLarge (part : String)
  | malformedXml (part : String)
  | tooManyEntries
  | tooLarge
  | duplicateEntries
  | unreadableReference (reference : String)
  | formulaCell
  | sharedStringOutOfRange (position : ℤ)
  | unreadableNumber (text : String)
  | noResolvablePart (name : String)
  | outsideWorksheets (name : String)
  /-- `ValueError` of `int` and of the text of an integer -/
  | valueError
  | indexError
  /-- what `zipfile` raises of an entry -/
  | badEntry (part : String)
  deriving DecidableEq, Repr

/-- What the module uses of Python. -/
structure Python where
  /-- `\d` -/
  isDecimal : Char → Bool
  int : String → Option ℤ
  float : String → Option FloatValue
  repr : FloatValue → String
  decimal_digit : ∀ c : Char, c.isDigit = true → isDecimal c = true

/-- The float of an integer: 53 significant bits, and infinite from `2 ^ 1024` on. -/
def binary64 (n : ℤ) : FloatValue :=
  let m := SignificantBits.roundBits 53 n.natAbs
  let signed : ℤ := if n < 0 then -m else m
  if m < 2 ^ 1024 then .finite signed else .infinite (n < 0)

def plainPython : Python where
  isDecimal := Char.isDigit
  int s := if JsonText.isInteger s.toList then some (JsonText.intOf s.toList) else none
  float s := if JsonText.isInteger s.toList then some (binary64 (JsonText.intOf s.toList)) else none
  repr _ := ""
  decimal_digit _ h := h

/-- `[A-Z]` -/
def isCapital (c : Char) : Bool := 65 ≤ c.toNat && c.toNat ≤ 90

/-- `ord(char) - ord("A")`. -/
def letterRank (c : Char) : ℕ := c.toNat - 65

/-- `chr(ord("A") + remainder)`. -/
def letterOf (remainder : ℕ) : Char := Char.ofNat (65 + remainder)

/-- The letters of a match of `_CELL_REFERENCE`; its `$` also matches before a line feed at the
end. -/
def Python.referenceLetters (py : Python) (reference : String) : Option (List Char) :=
  let letters := reference.toList.takeWhile isCapital
  let rest := reference.toList.dropWhile isCapital
  let number := if rest.getLast? = some '\n' then rest.dropLast else rest
  if letters ≠ [] ∧ number ≠ [] ∧ number.all py.isDecimal = true then some letters else none

/-- The fold of `_column_index` over the letters. -/
def indexOf (letters : List Char) : ℕ := Bijective.read 26 letterRank letters - 1

/-- `_column_index`. -/
def Python.columnIndex (py : Python) (reference : String) : Except WorkbookError ℕ :=
  match py.referenceLetters reference with
  | some letters => .ok (indexOf letters)
  | none => .error (.unreadableReference reference)

/-- `_column_letters`; the position decreases in every round, so the position is enough fuel. -/
def columnLetters (index : ℕ) : List Char :=
  Bijective.spell 26 letterOf (index + 1) (index + 1) []

def rowText (row : ℕ) : List Char := Nat.toDigits 10 row

/-- A cell reference such as `B12`. -/
def referenceOf (letters : List Char) (row : ℕ) : String := String.ofList (letters ++ rowText row)

theorem toNat_letterOf : ∀ r < 26, (letterOf r).toNat = 65 + r := by
  decide

theorem letterRank_letterOf : ∀ r < 26, letterRank (letterOf r) = r := by
  intro r hr
  rw [letterRank, toNat_letterOf r hr]
  omega

theorem isCapital_letterOf {r : ℕ} (h : r < 26) : isCapital (letterOf r) = true := by
  rw [isCapital, toNat_letterOf r h]
  simp only [Bool.and_eq_true, decide_eq_true_eq]
  omega

variable {c : Char} {letters : List Char}

theorem letterRank_of_isCapital (h : isCapital c = true) :
    letterRank c < 26 ∧ letterOf (letterRank c) = c := by
  simp only [isCapital, Bool.and_eq_true, decide_eq_true_eq] at h
  refine ⟨by rw [letterRank]; omega, ?_⟩
  have hsum : 65 + (c.toNat - 65) = c.toNat := by omega
  rw [letterOf, letterRank, hsum, Char.ofNat_toNat]

theorem isCapital_of_mem_spell {fuel n : ℕ} {rest : List Char}
    (hrest : ∀ c ∈ rest, isCapital c = true) :
    ∀ c ∈ Bijective.spell 26 letterOf fuel n rest, isCapital c = true := by
  induction fuel generalizing n rest with
  | zero => exact hrest
  | succ fuel ih =>
    unfold Bijective.spell
    split
    · exact hrest
    · refine ih fun c hc => ?_
      rcases List.mem_cons.mp hc with rfl | hc
      · exact isCapital_letterOf (Nat.mod_lt _ (by omega))
      · exact hrest c hc

theorem not_isCapital_of_isDigit (h : c.isDigit = true) : isCapital c = false := by
  obtain ⟨-, hle⟩ := Char.isDigit_iff_toNat.mp h
  have hnine : '9'.toNat = 57 := rfl
  simp only [isCapital, Bool.and_eq_false_iff, decide_eq_false_iff_not]
  omega

theorem rowText_digit (row : ℕ) : ∀ c ∈ rowText row, c.isDigit = true := fun _ hc =>
  JsonText.digit_of_mem_toDigits hc

theorem rowText_ne_nil (row : ℕ) : rowText row ≠ [] := Nat.toDigits_ne_nil

theorem Python.referenceLetters_referenceOf (py : Python) (hne : letters ≠ [])
    (hletters : ∀ c ∈ letters, isCapital c = true) (row : ℕ) :
    py.referenceLetters (referenceOf letters row) = some letters := by
  have hdigits := rowText_digit row
  have hcapital : ∀ c ∈ rowText row, isCapital c = false := fun c hc =>
    not_isCapital_of_isDigit (hdigits c hc)
  have htake : (letters ++ rowText row).takeWhile isCapital = letters := by
    have hnone : (rowText row).takeWhile isCapital = [] := by
      cases hrow : rowText row with
      | nil => rfl
      | cons c cs =>
        rw [List.takeWhile_cons, hcapital c (by rw [hrow]; exact List.mem_cons_self)]
        rfl
    rw [List.takeWhile_append_of_pos hletters, hnone, List.append_nil]
  have hdrop : (letters ++ rowText row).dropWhile isCapital = rowText row := by
    rw [List.dropWhile_append_of_pos hletters]
    cases hrow : rowText row with
    | nil => rfl
    | cons c cs =>
      rw [List.dropWhile_cons, hcapital c (by rw [hrow]; exact List.mem_cons_self)]
      rfl
  have hlast : (rowText row).getLast? ≠ some '\n' := by
    intro hlast
    exact absurd (hdigits _ (List.mem_of_getLast? hlast)) (by decide)
  have hall : (rowText row).all py.isDecimal = true :=
    List.all_eq_true.mpr fun c hc => py.decimal_digit c (hdigits c hc)
  unfold Python.referenceLetters referenceOf
  rw [String.toList_ofList, htake, hdrop]
  dsimp only
  rw [if_neg hlast, if_pos ⟨hne, rowText_ne_nil row, hall⟩]

theorem columnLetters_ne_nil (index : ℕ) : columnLetters index ≠ [] := by
  intro h
  have hread := Bijective.read_spell (k := 26) (by omega) letterRank_letterOf (le_refl (index + 1))
  unfold columnLetters at h
  rw [h] at hread
  exact absurd hread (by simp [Bijective.read])

theorem indexOf_columnLetters (index : ℕ) : indexOf (columnLetters index) = index := by
  unfold indexOf columnLetters
  rw [Bijective.read_spell (by omega) letterRank_letterOf (le_refl (index + 1))]
  omega

theorem columnLetters_indexOf (hne : letters ≠ []) (hletters : ∀ c ∈ letters, isCapital c = true) :
    columnLetters (indexOf letters) = letters := by
  have hpos : 0 < Bijective.read 26 letterRank letters := Bijective.read_pos hne
  have hsucc : indexOf letters + 1 = Bijective.read 26 letterRank letters := by
    rw [indexOf]
    omega
  unfold columnLetters
  rw [hsucc, Bijective.spell_read (fun c hc => letterRank_of_isCapital (hletters c hc)) (le_refl _),
    List.append_nil]

theorem Python.columnIndex_columnLetters (py : Python) (index row : ℕ) :
    py.columnIndex (referenceOf (columnLetters index) row) = .ok index := by
  have hletters := py.referenceLetters_referenceOf (columnLetters_ne_nil index)
    (isCapital_of_mem_spell (by simp)) row
  unfold Python.columnIndex
  rw [hletters]
  exact congrArg _ (indexOf_columnLetters index)

/-- **Letters and indices** are inverse to each other: an index is read back from its letters, with
any row number, and letters are spelled again from their index. -/
theorem columnLetters_columnIndex (py : Python) :
    (∀ index row : ℕ, py.columnIndex (referenceOf (columnLetters index) row) = .ok index) ∧
    ∀ letters : List Char, letters ≠ [] → (∀ c ∈ letters, isCapital c = true) → ∀ row : ℕ,
      (py.columnIndex (referenceOf letters row)).map columnLetters = .ok letters := by
  refine ⟨py.columnIndex_columnLetters, fun letters hne hletters row => ?_⟩
  unfold Python.columnIndex
  rw [py.referenceLetters_referenceOf hne hletters row]
  exact congrArg _ (columnLetters_indexOf hne hletters)

theorem columnLetters_columnIndex_carry :
    (plainPython.columnIndex (referenceOf ['Z', 'Z'] 7)).map columnLetters = .ok ['Z', 'Z'] ∧
    plainPython.columnIndex (referenceOf (columnLetters 702) 7) = .ok 702 :=
  ⟨(columnLetters_columnIndex plainPython).2 ['Z', 'Z'] (by decide) (by simp; decide) 7,
    (columnLetters_columnIndex plainPython).1 702 7⟩

end Spreadsheet
