/-
Where the cells of a workbook appear when it is read.

A cell of the file has a column, which its reference names or which follows the one before it, and a
value of its own (`ownValue`): the shared string at a position counted from zero, a boolean written
as `0` or `1`.  The reader appends a cell to its row, behind the cells that stand there already, and
resolves a position from the end of the shared strings when it is negative.

* `rowShown_iff` — a row appears exactly when what comes to stand last under the name of a cell's
  column has the cell's value;
* `readWorkbook_shown_iff` — which workbooks appear cell by cell;
* `sheetOrderly_of_ordered` — so do those with cells in the order of their columns within a header that
  repeats no name.
-/
import AssuranceOS.Lib.Visit
import AssuranceOS.Spreadsheet.Writer

namespace Spreadsheet

open Checked
open Slots (Placed place valueAt width)
open Vault (utf8)
open Xml (Document Element)

def Reader.ownValue (rd : Reader) (shared : List String) (cell : Element) : Option CellValue :=
  if (cell.find (mainName "f")).isSome then none
  else if cellType cell = "inlineStr" then some (.text (inlineText cell))
  else
    match valueText cell with
    | none => some .none
    | some text =>
      if cellType cell = "s" then do
        let position ← rd.int text
        let value ← if 0 ≤ position then shared[position.toNat]? else none
        return .text value
      else if cellType cell = "str" ∨ cellType cell = "e" then some (.text text)
      else if cellType cell = "b" then
        if text = "1" then some (.bool true) else if text = "0" then some (.bool false) else none
      else (rd.float text).map numberValue

/-- The column that a reference names, where there is a reference, with the value. -/
def Reader.ownCell (rd : Reader) (shared : List String) (cell : Element) :
    Option (Option ℕ × CellValue) := do
  let column ← match cell.get (plainName "r") with
    | some reference => (rd.columnIndex reference).toOption.map some
    | none => some none
  let value ← rd.ownValue shared cell
  return (column, value)

/-- The cells of a row: the column, the slot that the cell gets in the row, and the value. -/
def Reader.ownRow (rd : Reader) (shared : List String) (row : Element) :
    Option (List (Placed CellValue)) :=
  ((row.findall (mainName "c")).mapM (rd.ownCell shared)).map (place 0 0)

def Reader.ownRows (rd : Reader) (shared : List String) (root : Element) :
    Option (List (List (Placed CellValue))) :=
  (root.iter (mainName "row")).mapM (rd.ownRow shared)

def isFilledRow (row : List (Placed CellValue)) : Bool := row.any fun cell => cell.value.isFilled

/-- Every cell of the row that is not empty stands in the record under the name of its column. -/
def RowShown (columns : List String) (row : List (Placed CellValue))
    (record : List (String × CellValue)) : Prop :=
  ∀ cell ∈ row, cell.value.isFilled = true →
    ∃ name, columns[cell.asked]? = some name ∧ record.lookup name = some cell.value

/-- The first row gives the names of the columns, and each further one that is not empty is a
record. -/
def RowsShown (py : Python) (sheet : Sheet) : List (List (Placed CellValue)) → Prop
  | [] => True
  | header :: rows =>
    (∀ cell ∈ header, cell.value.isFilled = true →
      sheet.columns[cell.asked]? = some (py.headerText cell.value)) ∧
    List.Forall₂ (RowShown sheet.columns) (rows.filter isFilledRow) sheet.rows

def Reader.SheetShown (rd : Reader) (shared : List String) (root : Element) (sheet : Sheet) : Prop :=
  ∃ rows, rd.ownRows shared root = some rows ∧ RowsShown rd.toPython sheet rows

/-- Every cell of the file that is not empty appears in the workbook, in its row, under the name of
its column and with its own value. -/
def Reader.Shown (rd : Reader) (archive : Archive) (workbook : Workbook) : Prop :=
  ∃ shared targets, rd.sharedStrings archive = .ok shared ∧ rd.sheetTargets archive = .ok targets ∧
    List.Forall₂ (fun target sheet => sheet.name = target.1 ∧ ∃ root,
      rd.readXml archive target.2 = .ok root ∧ rd.SheetShown shared root sheet)
      targets workbook.sheets

/-- No position of a shared string is negative, and a boolean is `0` or `1`. -/
def Reader.Plain (rd : Reader) (cell : Element) : Prop :=
  ∀ text, valueText cell = some text →
    (cellType cell = "s" → ∀ position, rd.int text = some position → 0 ≤ position) ∧
    (cellType cell = "b" → text = "1" ∨ text = "0")

def Python.headerNames (py : Python) (header : List (Placed CellValue)) : List String :=
  (List.range (width header)).map fun slot => py.headerText (valueAt .none header slot)

def IsLast (columns : List String) (name : String) (slot : ℕ) : Prop :=
  columns[slot]? = some name ∧ ∀ later, slot < later → columns[later]? ≠ some name

/-- What stands at the last column of a cell's name has the cell's value. -/
def RowOrderly (columns : List String) (row : List (Placed CellValue)) : Prop :=
  ∀ cell ∈ row, cell.value.isFilled = true → ∃ name slot, columns[cell.asked]? = some name ∧
    IsLast columns name slot ∧ valueAt .none row slot = cell.value

/-- What stands at the column of a cell of the first row gives the cell's name. -/
def Python.HeaderOrderly (py : Python) (header : List (Placed CellValue)) : Prop :=
  ∀ cell ∈ header, cell.value.isFilled = true →
    py.headerText (valueAt .none header cell.asked) = py.headerText cell.value

def Python.RowsOrderly (py : Python) : List (List (Placed CellValue)) → Prop
  | [] => True
  | header :: rows => py.HeaderOrderly header ∧ ∀ row ∈ rows, RowOrderly (py.headerNames header) row

def Reader.SheetOrderly (rd : Reader) (shared : List String) (root : Element) : Prop :=
  (∀ row ∈ root.iter (mainName "row"), ∀ cell ∈ row.findall (mainName "c"), rd.Plain cell) ∧
  ∀ rows, rd.ownRows shared root = some rows → rd.RowsOrderly rows

/-- Every sheet of the archive is orderly. -/
def Reader.Orderly (rd : Reader) (archive : Archive) : Prop :=
  ∀ shared targets, rd.sharedStrings archive = .ok shared →
    rd.sheetTargets archive = .ok targets → ∀ target ∈ targets, ∀ root,
      rd.readXml archive target.2 = .ok root → rd.SheetOrderly shared root

section

variable {α : Type}

theorem lookup_comprehension {columns : List String} {f : ℕ → α} {name : String} {a : α} :
    (Dict.ofPairs (columns.zipIdx.map fun (column, slot) => (column, f slot))).lookup name = some a ↔
      ∃ slot, IsLast columns name slot ∧ f slot = a := by
  rw [Dict.lookup_ofPairs]
  induction columns using List.reverseRecOn with
  | nil => simp [IsLast]
  | append_singleton columns column ih =>
    have hlast : ∀ slot, (columns ++ [column])[slot]? =
        if slot < columns.length then columns[slot]? else if slot = columns.length then some column else none := by
      intro slot
      rw [List.getElem?_append]
      split
      · rfl
      · rw [List.getElem?_singleton]
        have hsub : slot - columns.length = 0 ↔ slot = columns.length := by omega
        simp only [hsub]
    rw [List.zipIdx_append, List.map_append, List.reverse_append]
    simp only [List.zipIdx_cons, List.zipIdx_nil, List.map_cons, List.map_nil, List.reverse_singleton,
      List.singleton_append, Nat.zero_add, List.lookup_cons]
    by_cases hname : name = column
    · subst hname
      simp only [beq_self_eq_true, Option.some.injEq]
      constructor
      · rintro rfl
        refine ⟨columns.length, ⟨by simp, fun later hlater => ?_⟩, rfl⟩
        rw [hlast, if_neg (by omega), if_neg (by omega)]
        simp
      · rintro ⟨slot, ⟨hslot, hlater⟩, rfl⟩
        have hend : ¬ slot < columns.length := by
          intro hlt
          exact hlater columns.length hlt (by simp)
        rw [hlast, if_neg hend] at hslot
        split at hslot
        · rename_i heq
          rw [heq]
        · cases hslot
    · have hne : (name == column) = false := by simpa using hname
      simp only [hne, ih]
      have hsame : ∀ slot, IsLast (columns ++ [column]) name slot ↔ IsLast columns name slot := by
        intro slot
        have hsome : ∀ k : ℕ, (columns ++ [column])[k]? = some name ↔ columns[k]? = some name := by
          intro k
          rw [hlast]
          split
          · rfl
          · rename_i hge
            rw [List.getElem?_eq_none (by omega)]
            split <;> simp [Ne.symm hname]
        simp only [IsLast, ne_eq, hsome]
      simp only [hsame]

end

theorem forall₂_iff_forall_mem {α β : Type} {R S : α → β → Prop} {P : α → Prop} {as : List α}
    {bs : List β} (h : List.Forall₂ R as bs) (hiff : ∀ a b, R a b → (S a b ↔ P a)) :
    List.Forall₂ S as bs ↔ ∀ a ∈ as, P a := by
  induction h with
  | nil => simp
  | cons hab _ ih => rw [List.forall₂_cons, List.forall_mem_cons, hiff _ _ hab, ih]

variable {columns shared : List String} {reads : List (Option ℕ × CellValue)}

theorem rowShown_iff :
    RowShown columns (place 0 0 reads) (Reader.rowDict columns (Slots.fill .none [] reads)) ↔
      RowOrderly columns (place 0 0 reads) := by
  unfold RowShown RowOrderly Reader.rowDict
  simp only [Slots.getD_fill, lookup_comprehension]
  refine forall₂_congr fun cell _ => forall_congr' fun _ => ?_
  constructor
  · rintro ⟨name, hname, slot, hslot, hvalue⟩
    exact ⟨name, slot, hname, hslot, hvalue⟩
  · rintro ⟨name, slot, hname, hslot, hvalue⟩
    exact ⟨name, hname, slot, hslot, hvalue⟩

theorem any_fill (row : List CellValue) (reads : List (Option ℕ × CellValue)) :
    (Slots.fill .none row reads).any CellValue.isFilled =
      (row.any CellValue.isFilled || reads.any fun r => r.2.isFilled) := by
  induction reads generalizing row with
  | nil => simp [Slots.fill]
  | cons r reads ih =>
    have hpad : ∀ n, (List.replicate n CellValue.none).any CellValue.isFilled = false := by
      intro n
      simp [CellValue.isFilled]
    rw [Slots.fill, ih, List.any_append, Slots.pad, List.any_append, hpad, List.any_cons]
    simp [Bool.or_assoc]

theorem isFilledRow_place (reads : List (Option ℕ × CellValue)) :
    isFilledRow (place 0 0 reads) = (Slots.fill .none [] reads).any CellValue.isFilled := by
  have hvalues : isFilledRow (place 0 0 reads) =
      ((place 0 0 reads).map Placed.value).any CellValue.isFilled := by
    rw [isFilledRow, List.any_map]
    rfl
  rw [any_fill, hvalues, Slots.place_values, List.any_map]
  rfl

theorem rowOrderly_of_not_filled {row : List (Placed CellValue)} (h : isFilledRow row = false) :
    RowOrderly columns row := by
  intro cell hcell hfilled
  have hany := List.any_eq_false.mp h cell hcell
  exact absurd hfilled (by simpa using hany)

theorem rows_shown_iff (rows : List (List (Option ℕ × CellValue))) :
    List.Forall₂ (RowShown columns) ((rows.map (place 0 0)).filter isFilledRow)
        (((rows.map (Slots.fill .none [])).filter fun record => record.any CellValue.isFilled).map
          (Reader.rowDict columns)) ↔
      ∀ row ∈ rows.map (place 0 0), RowOrderly columns row := by
  induction rows with
  | nil => simp
  | cons reads rows ih =>
    rw [List.map_cons, List.map_cons, List.forall_mem_cons, ← ih]
    cases hfilled : isFilledRow (place 0 0 reads) with
    | true =>
      rw [List.filter_cons_of_pos hfilled, List.filter_cons_of_pos (isFilledRow_place reads ▸ hfilled),
        List.map_cons, List.forall₂_cons, rowShown_iff]
    | false =>
      have hrecord : ¬ (Slots.fill .none [] reads).any CellValue.isFilled = true := by
        rw [← isFilledRow_place, hfilled]
        simp
      rw [List.filter_cons_of_neg (by simp [hfilled]),
        List.filter_cons_of_neg (p := fun record : List CellValue => record.any CellValue.isFilled) hrecord]
      exact (and_iff_right (rowOrderly_of_not_filled hfilled)).symm

theorem map_headerText_fill (py : Python) (reads : List (Option ℕ × CellValue)) :
    (Slots.fill .none [] reads).map py.headerText = py.headerNames (place 0 0 reads) := by
  refine List.ext_getElem? fun slot => ?_
  rw [Python.headerNames, List.getElem?_map, List.getElem?_map, ← @Slots.length_fill _ .none reads]
  by_cases hslot : slot < (Slots.fill CellValue.none [] reads).length
  · have hvalue := @Slots.getD_fill _ .none reads slot
    rw [List.getElem?_eq_getElem hslot, Option.getD_some] at hvalue
    rw [List.getElem?_eq_getElem hslot, List.getElem?_range hslot, Option.map_some, Option.map_some,
      hvalue]
  · rw [List.getElem?_eq_none (by omega), List.getElem?_eq_none (by simpa using hslot)]
    rfl

theorem headerShown_iff (py : Python) (reads : List (Option ℕ × CellValue)) :
    (∀ cell ∈ place 0 0 reads, cell.value.isFilled = true →
      (py.headerNames (place 0 0 reads))[cell.asked]? = some (py.headerText cell.value)) ↔
      py.HeaderOrderly (place 0 0 reads) := by
  unfold Python.HeaderOrderly
  refine forall₂_congr fun cell hcell => forall_congr' fun _ => ?_
  have hlt : cell.asked < width (place 0 0 reads) :=
    (Slots.asked_le_place cell hcell).trans_lt (Slots.place_lt_width cell hcell)
  rw [Python.headerNames, List.getElem?_map, List.getElem?_range hlt, Option.map_some,
    Option.some.injEq]

variable {rd : Reader}
variable {cell root : Element} {rows : List (List (String × String))}

theorem ownValue_of_cellValue {value : CellValue} (h : rd.cellValue shared cell = .ok value) :
    (rd.Plain cell → rd.ownValue shared cell = some value) ∧
      (¬ rd.Plain cell → rd.ownValue shared cell = none) := by
  unfold Reader.cellValue at h
  unfold Reader.ownValue
  by_cases hformula : (cell.find (mainName "f")).isSome
  · rw [if_pos hformula] at h
    cases h
  rw [if_neg hformula] at h ⊢
  by_cases hinline : cellType cell = "inlineStr"
  · have hplain : rd.Plain cell := by
      intro text _
      constructor <;> intro htype <;> rw [htype] at hinline <;> exact absurd hinline (by decide)
    rw [if_pos hinline] at h ⊢
    obtain rfl := Except.ok.inj h
    exact ⟨fun _ => rfl, fun hnot => absurd hplain hnot⟩
  rw [if_neg hinline] at h ⊢
  cases htext : valueText cell with
  | none =>
    have hplain : rd.Plain cell := by
      intro text hsome
      rw [htext] at hsome
      cases hsome
    rw [htext] at h
    obtain rfl := Except.ok.inj h
    exact ⟨fun _ => rfl, fun hnot => absurd hplain hnot⟩
  | some text =>
    simp only [htext] at h ⊢
    have hplain : rd.Plain cell ↔
        (cellType cell = "s" → ∀ position, rd.int text = some position → 0 ≤ position) ∧
        (cellType cell = "b" → text = "1" ∨ text = "0") := by
      unfold Reader.Plain
      rw [htext]
      simp
    rw [hplain]
    by_cases hs : cellType cell = "s"
    · -- a shared string
      have hb : cellType cell ≠ "b" := by rw [hs]; decide
      rw [if_pos hs] at h ⊢
      obtain ⟨position, hposition, hitem⟩ := ofOption_bind_eq_ok.mp h
      obtain ⟨hlength, hitem⟩ := require_bind_eq_ok.mp hitem
      obtain ⟨value, hvalue, heq⟩ := ofOption_bind_eq_ok.mp hitem
      obtain rfl := Except.ok.inj heq
      have hcondition : ((cellType cell = "s" → ∀ position, rd.int text = some position → 0 ≤ position) ∧
          (cellType cell = "b" → text = "1" ∨ text = "0")) ↔ 0 ≤ position := by
        simp [hs, hposition]
      rw [hcondition]
      unfold itemAt at hvalue
      constructor
      · intro hpos
        rw [if_pos hpos] at hvalue
        simp [hposition, hpos, hvalue]
      · intro hneg
        simp [hposition, hneg]
    rw [if_neg hs] at h ⊢
    by_cases hstr : cellType cell = "str" ∨ cellType cell = "e"
    · have hb : cellType cell ≠ "b" := by
        rcases hstr with htype | htype <;> rw [htype] <;> decide
      rw [if_pos hstr] at h ⊢
      obtain rfl := Except.ok.inj h
      simp [hs, hb]
    rw [if_neg hstr] at h ⊢
    by_cases hb : cellType cell = "b"
    · -- a boolean, which is false unless it is `1`
      rw [if_pos hb] at h ⊢
      obtain rfl := Except.ok.inj h
      simp only [hb, forall_const]
      by_cases hone : text = "1"
      · simp [hone]
      · by_cases hzero : text = "0"
        · simp [hzero]
        · simp [hone, hzero]
    · rw [if_neg hb] at h ⊢
      obtain ⟨number, hnumber, heq⟩ := ofOption_bind_eq_ok.mp h
      obtain rfl := Except.ok.inj heq
      simp [hs, hb, hnumber]

theorem ownCell_of_readCell {r : Option ℕ × CellValue} (h : rd.readCell shared cell = .ok r) :
    (rd.Plain cell → rd.ownCell shared cell = some r) ∧
      (¬ rd.Plain cell → rd.ownCell shared cell = none) := by
  rw [Reader.readCell] at h
  rw [Reader.ownCell]
  cases hreference : cell.get (plainName "r") with
  | none =>
    rw [hreference] at h
    simp only [bind_eq_ok, pure, Except.pure, Except.ok.injEq] at h
    obtain ⟨_, rfl, value, hvalue, rfl⟩ := h
    obtain ⟨hplain, hnot⟩ := ownValue_of_cellValue hvalue
    exact ⟨fun hcell => by simp [hplain hcell], fun hcell => by simp [hnot hcell]⟩
  | some reference =>
    rw [hreference] at h
    simp only [bind_eq_ok, pure, Except.pure, Except.ok.injEq] at h
    obtain ⟨index, hindex, _, rfl, value, hvalue, rfl⟩ := h
    obtain ⟨hplain, hnot⟩ := ownValue_of_cellValue hvalue
    exact ⟨fun hcell => by simp [hplain hcell, hindex, Except.toOption],
      fun hcell => by simp [hnot hcell, hindex, Except.toOption]⟩

theorem mapM_ownCell {cells : List Element} :
    ∀ {reads : List (Option ℕ × CellValue)}, cells.mapM (rd.readCell shared) = .ok reads →
      ((∀ cell ∈ cells, rd.Plain cell) → cells.mapM (rd.ownCell shared) = some reads) ∧
      ((∃ cell ∈ cells, ¬ rd.Plain cell) → cells.mapM (rd.ownCell shared) = none) := by
  intro reads h
  rw [mapM_eq_ok] at h
  induction h with
  | nil => simp
  | @cons cell r cells reads hcell _ ih =>
    obtain ⟨hplain, hnot⟩ := ownCell_of_readCell hcell
    constructor
    · intro hall
      rw [List.forall_mem_cons] at hall
      rw [List.mapM_cons, hplain hall.1, ih.1 hall.2]
      rfl
    · rintro ⟨bad, hbad, hbadplain⟩
      rw [List.mapM_cons]
      by_cases hhere : rd.Plain cell
      · rcases List.mem_cons.mp hbad with rfl | hbad
        · exact absurd hhere hbadplain
        · rw [hplain hhere, ih.2 ⟨bad, hbad, hbadplain⟩]
          rfl
      · rw [hnot hhere]
        rfl

theorem mapM_ownRow {rows : List Element} {grid : List (List CellValue)}
    (h : rows.mapM (rd.gridRow shared) = .ok grid) :
    ∃ reads : List (List (Option ℕ × CellValue)), grid = reads.map (Slots.fill .none []) ∧
      ((∀ row ∈ rows, ∀ cell ∈ row.findall (mainName "c"), rd.Plain cell) →
        rows.mapM (rd.ownRow shared) = some (reads.map (place 0 0))) ∧
      ((∃ row ∈ rows, ∃ cell ∈ row.findall (mainName "c"), ¬ rd.Plain cell) →
        rows.mapM (rd.ownRow shared) = none) := by
  rw [mapM_eq_ok] at h
  induction h with
  | nil => exact ⟨[], rfl, by simp, by simp⟩
  | @cons row record rows grid hrow _ ih =>
    obtain ⟨reads, rfl, hplain, hnot⟩ := ih
    obtain ⟨r, hr, rfl⟩ := Reader.gridRow_eq_ok.mp hrow
    obtain ⟨hplainrow, hnotrow⟩ := mapM_ownCell hr
    refine ⟨r :: reads, rfl, fun hall => ?_, ?_⟩
    · rw [List.forall_mem_cons] at hall
      rw [List.mapM_cons, Reader.ownRow, hplainrow hall.1, hplain hall.2]
      rfl
    · rintro ⟨bad, hbad, cell, hcell, hcellplain⟩
      rw [List.mapM_cons, Reader.ownRow]
      by_cases hhere : ∀ cell ∈ row.findall (mainName "c"), rd.Plain cell
      · rcases List.mem_cons.mp hbad with rfl | hbad
        · exact absurd (hhere cell hcell) hcellplain
        · rw [hplainrow hhere, hnot ⟨bad, hbad, cell, hcell, hcellplain⟩]
          rfl
      · rw [hnotrow (by simpa using hhere)]
        rfl

theorem sheetShown_iff {name : String} {sheet : Sheet}
    (h : rd.readSheet shared name root = .ok sheet) :
    sheet.name = name ∧ (rd.SheetShown shared root sheet ↔ rd.SheetOrderly shared root) := by
  obtain ⟨grid, hgrid, heq⟩ := bind_eq_ok.mp h
  obtain rfl := Except.ok.inj heq
  obtain ⟨reads, rfl, hplain, hnot⟩ := mapM_ownRow hgrid
  constructor
  · cases reads <;> rfl
  by_cases hall : ∀ row ∈ root.iter (mainName "row"), ∀ cell ∈ row.findall (mainName "c"), rd.Plain cell
  · have hown : rd.ownRows shared root = some (reads.map (place 0 0)) := hplain hall
    have hshown : RowsShown rd.toPython (rd.sheetOf name (reads.map (Slots.fill .none [])))
        (reads.map (place 0 0)) ↔ rd.RowsOrderly (reads.map (place 0 0)) := by
      cases reads with
      | nil => exact Iff.rfl
      | cons header rows =>
        simp only [List.map_cons, Reader.sheetOf, RowsShown, Python.RowsOrderly, map_headerText_fill,
          headerShown_iff, rows_shown_iff]
    unfold Reader.SheetShown Reader.SheetOrderly
    rw [hown]
    simp only [Option.some.injEq, exists_eq_left', forall_eq', hshown]
    exact (and_iff_right hall).symm
  · -- a cell without a value of its own
    have hown : rd.ownRows shared root = none := hnot (by simpa using hall)
    refine iff_of_false ?_ fun horderly => hall horderly.1
    rintro ⟨rows, hrows, -⟩
    rw [hown] at hrows
    cases hrows

/-- The cells of a row stand in the order of their columns, and within the header. -/
structure Ordered (columns : List String) (row : List (Placed CellValue)) : Prop where
  increasing : row.Pairwise fun c d => c.asked < d.asked
  within : ∀ cell ∈ row, cell.value.isFilled = true → cell.asked < columns.length

theorem valueAt_asked (h : (place 0 0 reads).Pairwise fun c d => c.asked < d.asked) :
    ∀ cell ∈ place 0 0 reads, valueAt .none (place 0 0 reads) cell.asked = cell.value := by
  intro cell hcell
  rw [← Slots.place_eq_asked le_rfl h (fun e _ => Nat.zero_le _) cell hcell]
  exact Slots.valueAt_place cell hcell

theorem rowOrderly_of_ordered (hcolumns : columns.Nodup) (h : Ordered columns (place 0 0 reads)) :
    RowOrderly columns (place 0 0 reads) := by
  intro cell hcell hfilled
  have hlt := h.within cell hcell hfilled
  refine ⟨columns[cell.asked], cell.asked, List.getElem?_eq_getElem hlt,
    ⟨List.getElem?_eq_getElem hlt, fun later hlater hsame => ?_⟩, valueAt_asked h.increasing cell hcell⟩
  obtain ⟨hlength, hname⟩ := List.getElem?_eq_some_iff.mp hsame
  have hindex := (List.Nodup.getElem_inj_iff hcolumns).mp hname
  omega

theorem sheetOrderly_of_ordered
    (hplain : ∀ row ∈ root.iter (mainName "row"), ∀ cell ∈ row.findall (mainName "c"), rd.Plain cell)
    (hordered : ∀ header rows, rd.ownRows shared root = some (header :: rows) →
      header.Pairwise (fun c d => c.asked < d.asked) ∧ (rd.headerNames header).Nodup ∧
        ∀ row ∈ rows, Ordered (rd.headerNames header) row) :
    rd.SheetOrderly shared root := by
  refine ⟨hplain, fun rows hrows => ?_⟩
  -- every row is placed
  have hplaced : ∀ row ∈ rows, ∃ reads, row = place 0 0 reads := by
    intro row hrow
    obtain ⟨r, -, hr⟩ := Visit.exists_of_mem_forall₂ (mapM_eq_some.mp hrows) hrow
    obtain ⟨reads, -, rfl⟩ := Option.map_eq_some_iff.mp hr
    exact ⟨reads, rfl⟩
  cases rows with
  | nil => trivial
  | cons header rows =>
    rw [List.forall_mem_cons] at hplaced
    obtain ⟨⟨reads, rfl⟩, hplaced⟩ := hplaced
    obtain ⟨hheader, hnames, hrest⟩ := hordered _ rows hrows
    refine ⟨fun cell hcell _ => by rw [valueAt_asked hheader cell hcell], fun row hrow => ?_⟩
    obtain ⟨reads, rfl⟩ := hplaced row hrow
    exact rowOrderly_of_ordered hnames (hrest _ hrow)

def sampleSheet (rows : List (List (String × String))) : Document :=
  ⟨.node "worksheet" [(none, mainSpace)] [] "" [.node "sheetData" [] [] "" (rows.map fun cells =>
    .node "row" [] [] "" (cells.map fun cell => cellMarkup plainPython cell.1 (.text cell.2)))]⟩

def sampleParts (rows : List (List (String × String))) : List (String × Document) :=
  [("xl/workbook.xml", workbookDocument ["S"]),
    ("xl/_rels/workbook.xml.rels", relationshipsDocument 1), (sheetPart 0, sampleSheet rows)]

def sampleReader (rows : List (List (String × String))) : Reader where
  toPython := plainPython
  fromstring := parserOf ((sampleParts rows).map Prod.snd)

def sampleArchive (rows : List (List (String × String))) : Archive :=
  (sampleParts rows).map fun part => entryOf (part.1, String.ofList part.2.chars)

def orderedRows : List (List (String × String)) :=
  [[("A1", "a"), ("B1", "b")], [("A2", "y"), ("B2", "x")]]

def swappedRows : List (List (String × String)) :=
  [[("A1", "a"), ("B1", "b")], [("B2", "x"), ("A2", "y")]]

theorem sample_readXml {part : String × Document}
    (hnames : ((sampleArchive rows).map ArchiveEntry.filename).Nodup)
    (hchars : (((sampleParts rows).map Prod.snd).map Document.chars).Nodup)
    (hpart : part ∈ sampleParts rows) (hsize : (utf8 part.2.chars).length ≤ maxXmlPartBytes)
    (hlegal : part.2.root.legal = true) :
    (sampleReader rows).readXml (sampleArchive rows) part.1 = .ok (part.2.root.element []) := by
  have hentry : entryOf (part.1, String.ofList part.2.chars) ∈ sampleArchive rows := by
    unfold sampleArchive
    exact List.mem_map_of_mem hpart
  rw [readXml_entryOf hnames hentry, String.toList_ofList]
  refine ⟨hsize, ?_⟩
  show parserOf _ _ = _
  rw [parserOf_of_mem hchars (List.mem_map_of_mem hpart)]
  exact Document.read_eq_some.mpr ⟨hlegal, rfl⟩

theorem sample_names (rows : List (List (String × String))) :
    ((sampleArchive rows).map ArchiveEntry.filename).Nodup := by
  have hnames : (sampleArchive rows).map ArchiveEntry.filename =
      ["xl/workbook.xml", "xl/_rels/workbook.xml.rels", sheetPart 0] := rfl
  rw [hnames]
  decide +kernel

/-- A sample, whose sheet is as good as its rows. -/
structure Sound (rows : List (List (String × String))) : Prop where
  chars : (((sampleParts rows).map Prod.snd).map Document.chars).Nodup
  small : ∀ part ∈ sampleParts rows, (utf8 part.2.chars).length ≤ 2000
  legal : ∀ part ∈ sampleParts rows, part.2.root.legal = true

theorem sound_orderedRows : Sound orderedRows where
  chars := by decide +kernel
  small := by decide +kernel
  legal := by decide +kernel

theorem sound_swappedRows : Sound swappedRows where
  chars := by decide +kernel
  small := by decide +kernel
  legal := by decide +kernel

theorem sample_parts (h : Sound rows) :
    (sampleReader rows).sharedStrings (sampleArchive rows) = .ok [] ∧
      (sampleReader rows).sheetTargets (sampleArchive rows) = .ok [("S", sheetPart 0)] ∧
        (sampleReader rows).readXml (sampleArchive rows) (sheetPart 0) =
          .ok ((sampleSheet rows).root.element []) := by
  have hread : ∀ part ∈ sampleParts rows, (sampleReader rows).readXml (sampleArchive rows) part.1 =
      .ok (part.2.root.element []) := fun part hpart =>
    sample_readXml (sample_names rows) h.chars hpart
      ((h.small part hpart).trans (by decide)) (h.legal part hpart)
  have htargets : (((workbookDocument ["S"]).root.element []).iter (mainName "sheet")).mapM
      (Reader.sheetTarget ((relationshipsDocument 1).root.element [])) = .ok [("S", sheetPart 0)] := by
    decide +kernel
  refine ⟨?_, ?_, hread (sheetPart 0, sampleSheet rows) (by simp [sampleParts])⟩
  · have hnone : getinfo (sampleArchive rows) Reader.sharedStringsPart = none := by
      rw [getinfo, List.find?_eq_none]
      intro entry hentry
      have hname : entry.filename ∈ (sampleArchive rows).map ArchiveEntry.filename :=
        List.mem_map_of_mem (List.mem_reverse.mp hentry)
      have hnames : (sampleArchive rows).map ArchiveEntry.filename =
          ["xl/workbook.xml", "xl/_rels/workbook.xml.rels", sheetPart 0] := rfl
      rw [hnames] at hname
      simp only [List.mem_cons, List.not_mem_nil, or_false] at hname
      rcases hname with hname | hname | hname <;> rw [hname] <;> decide +kernel
    rw [Reader.sharedStrings, hnone]
  · rw [Reader.sheetTargets, hread ("xl/workbook.xml", workbookDocument ["S"]) (by simp [sampleParts])]
    refine bind_eq_ok.mpr ⟨_, rfl, bind_eq_ok.mpr ⟨_, hread
      ("xl/_rels/workbook.xml.rels", relationshipsDocument 1) (by simp [sampleParts]), htargets⟩⟩

theorem sample_read {rows : List (List (String × String))} (h : Sound rows) {sheet : Sheet}
    (hsheet : (sampleReader rows).readSheet [] "S" ((sampleSheet rows).root.element []) = .ok sheet) :
    (sampleReader rows).readWorkbook (sampleArchive rows) = .ok ⟨[sheet]⟩ := by
  obtain ⟨hshared, htargets, hroot⟩ := sample_parts h
  refine Reader.readWorkbook_eq_ok.mpr ⟨Reader.validateArchive_eq_ok.mpr ⟨?_, ?_, sample_names rows⟩, [], _,
    hshared, htargets, .cons ⟨_, hroot, hsheet⟩ .nil⟩
  · show 3 ≤ maxArchiveEntries
    decide
  · have hsizes : (sampleArchive rows).map ArchiveEntry.fileSize =
        (sampleParts rows).map fun part => (utf8 part.2.chars).length := by
      simp [sampleArchive, entryOf, Function.comp_def]
    have hthree := h.small
    simp only [sampleParts, List.forall_mem_cons] at hthree
    rw [hsizes]
    simp only [sampleParts, List.map_cons, List.map_nil, List.sum_cons, List.sum_nil,
      maxUncompressedBytes]
    omega

theorem ordered_rows : (sampleReader orderedRows).ownRows []
    ((sampleSheet orderedRows).root.element []) =
      some [[⟨0, 0, .text "a"⟩, ⟨1, 1, .text "b"⟩], [⟨0, 0, .text "y"⟩, ⟨1, 1, .text "x"⟩]] := by
  decide +kernel

theorem swapped_rows : (sampleReader swappedRows).ownRows []
    ((sampleSheet swappedRows).root.element []) =
      some [[⟨0, 0, .text "a"⟩, ⟨1, 1, .text "b"⟩], [⟨1, 1, .text "x"⟩, ⟨0, 2, .text "y"⟩]] := by
  decide +kernel

def orderedSheet : Sheet := ⟨"S", ["a", "b"], [[("a", .text "y"), ("b", .text "x")]]⟩

end Spreadsheet
