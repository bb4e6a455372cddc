/-
Reading a workbook (`read_workbook` of `spreadsheet.py`).

An archive is the list of its entries, each with the size that it declares; an entry whose content
`zipfile` cannot read has none.  The XML parser is a function of the reader.

* `readWorkbook_eq_ok` — what is read of a workbook is what is read of each of its sheets;
* `gridRow_eq_ok` — a row is filled from the left with what is read of its cells.
-/
import AssuranceOS.Lib.Checked
import AssuranceOS.Lib.Dict
import AssuranceOS.Lib.Slots
import AssuranceOS.Lib.Xml
import AssuranceOS.Spreadsheet.Columns
import AssuranceOS.Vault.Definitions

namespace Spreadsheet

open Checked
open Vault (Bytes)
open Xml (Element Name)

/-- An entry of the archive, with its uncompressed size. -/
structure ArchiveEntry where
  filename : String
  fileSize : ℕ
  content : Option Bytes

/-- The entries in the order of the directory. -/
abbrev Archive := List ArchiveEntry

/-- Python, with the XML parser. -/
structure Reader extends Python where
  /-- `ElementTree.fromstring`; `none` where it raises -/
  fromstring : Bytes → Option Element

def maxArchiveEntries : ℕ := 250

def maxUncompressedBytes : ℕ := 50 * 1024 * 1024

def maxXmlPartBytes : ℕ := 10 * 1024 * 1024

/-- `_validate_archive`. -/
def validateArchive (archive : Archive) : Except WorkbookError Unit := do
  require (archive.length ≤ maxArchiveEntries) .tooManyEntries
  require ((archive.map ArchiveEntry.fileSize).sum ≤ maxUncompressedBytes) .tooLarge
  require (archive.map ArchiveEntry.filename).Nodup .duplicateEntries

/-- `archive.getinfo(part)`. -/
def getinfo (archive : Archive) (part : String) : Option ArchiveEntry :=
  archive.reverse.find? fun entry => entry.filename = part

/-- `_NS`. -/
def mainSpace : String := "http://schemas.openxmlformats.org/spreadsheetml/2006/main"

/-- `_R_NS`. -/
def relationshipSpace : String :=
  "http://schemas.openxmlformats.org/officeDocument/2006/relationships"

def mainName (name : String) : Name := ⟨some mainSpace, name⟩

def plainName (name : String) : Name := ⟨none, name⟩

/-- `xs[position]`; a negative position counts from the end. -/
def itemAt {α : Type} (xs : List α) (position : ℤ) : Option α :=
  if 0 ≤ position then xs[position.toNat]?
  else if 0 ≤ position + xs.length then xs[(position + xs.length).toNat]? else none

/-- `cell.get("t", "n")`. -/
def cellType (cell : Element) : String := (cell.get (plainName "t")).getD "n"

def inlineText (cell : Element) : String :=
  match cell.find (mainName "is") with
  | some node => node.joinedText (mainName "t")
  | none => ""

def valueText (cell : Element) : Option String :=
  (cell.find (mainName "v")).bind Element.text

/-- `int(number) if number.is_integer() else number`. -/
def numberValue : JsonText.FloatValue → CellValue
  | .finite q => if q.den = 1 then .int q.num else .float (.finite q)
  | x => .float x

/-- `str(value) if value is not None else ""`. -/
def Python.headerText (py : Python) : CellValue → String
  | .none => ""
  | .text s => s
  | .bool b => if b then "True" else "False"
  | .int n => String.ofList (JsonText.intText n)
  | .float x => py.repr x

namespace Reader

variable (rd : Reader)

/-- `_read_xml`. -/
def readXml (archive : Archive) (part : String) : Except WorkbookError Element := do
  let info ← ofOption (.missingPart part) (getinfo archive part)
  require (info.fileSize ≤ maxXmlPartBytes) (.partTooLarge part)
  let raw ← ofOption (.badEntry part) info.content
  ofOption (.malformedXml part) (rd.fromstring raw)

def sharedStringsPart : String := "xl/sharedStrings.xml"

/-- `_shared_strings`. -/
def sharedStrings (archive : Archive) : Except WorkbookError (List String) :=
  match getinfo archive sharedStringsPart with
  | none => .ok []
  | some info => do
    let raw ← ofOption (.badEntry sharedStringsPart) info.content
    let root ← ofOption (.malformedXml sharedStringsPart) (rd.fromstring raw)
    return (root.findall (mainName "si")).map fun item => item.joinedText (mainName "t")

/-- `_cell_value`. -/
def cellValue (shared : List String) (cell : Element) : Except WorkbookError CellValue :=
  if (cell.find (mainName "f")).isSome then .error .formulaCell
  else if cellType cell = "inlineStr" then .ok (.text (inlineText cell))
  else
    match valueText cell with
    | none => .ok .none
    | some text =>
      if cellType cell = "s" then do
        let position ← ofOption .valueError (rd.int text)
        require (position < shared.length) (.sharedStringOutOfRange position)
        let value ← ofOption .indexError (itemAt shared position)
        return .text value
      else if cellType cell = "str" ∨ cellType cell = "e" then .ok (.text text)
      else if cellType cell = "b" then .ok (.bool (text = "1"))
      else do
        let number ← ofOption (.unreadableNumber text) (rd.float text)
        return numberValue number

/-- `by_id.get(id, "")`. -/
def targetOf (relationships : Element) (id : Option String) : String :=
  ((Dict.ofPairs (relationships.children.map fun node =>
    (node.get (plainName "Id"), (node.get (plainName "Target")).getD ""))).lookup id).getD ""

def withoutLeadingSlashes (text : String) : String :=
  String.ofList (text.toList.dropWhile fun c => c = '/')

def partPath (target : String) : String :=
  withoutLeadingSlashes
    (if target.toList.head? = some '/' then target else "xl/" ++ withoutLeadingSlashes target)

/-- The target of a sheet in `_sheet_targets`. -/
def sheetTarget (relationships node : Element) : Except WorkbookError (String × String) := do
  let name := (node.get (plainName "name")).getD ""
  let target := targetOf relationships (node.get ⟨some relationshipSpace, "id"⟩)
  require (target ≠ "") (.noResolvablePart name)
  let path := partPath target
  require (PyString.startswith path ["xl/worksheets/"] = true ∧
    ['.', '.'] ∉ path.toList.splitOn '/') (.outsideWorksheets name)
  return (name, path)

/-- `_sheet_targets`. -/
def sheetTargets (archive : Archive) : Except WorkbookError (List (String × String)) := do
  let workbook ← rd.readXml archive "xl/workbook.xml"
  let relationships ← rd.readXml archive "xl/_rels/workbook.xml.rels"
  (workbook.iter (mainName "sheet")).mapM (sheetTarget relationships)

/-- The cells of a row that are read so far, with the next one. -/
def addCell (shared : List String) (cells : List CellValue) (cell : Element) :
    Except WorkbookError (List CellValue) := do
  let cells ← match cell.get (plainName "r") with
    | some reference => do
      let index ← rd.columnIndex reference
      pure (Slots.pad .none cells index)
    | none => pure cells
  let value ← rd.cellValue shared cell
  return cells ++ [value]

def gridRow (shared : List String) (row : Element) : Except WorkbookError (List CellValue) :=
  (row.findall (mainName "c")).foldlM (rd.addCell shared) []

def rowDict (header : List String) (record : List CellValue) : List (String × CellValue) :=
  Dict.ofPairs (header.zipIdx.map fun (column, position) =>
    (column, record[position]?.getD .none))

def sheetOf (name : String) : List (List CellValue) → Sheet
  | [] => ⟨name, [], []⟩
  | first :: records =>
    let header := first.map rd.headerText
    ⟨name, header,
      (records.filter fun record => record.any CellValue.isFilled).map (rowDict header)⟩

def readSheet (shared : List String) (name : String) (root : Element) :
    Except WorkbookError Sheet := do
  let grid ← (root.iter (mainName "row")).mapM (rd.gridRow shared)
  return rd.sheetOf name grid

/-- `read_workbook`. -/
def readWorkbook (archive : Archive) : Except WorkbookError Workbook := do
  validateArchive archive
  let shared ← rd.sharedStrings archive
  let targets ← rd.sheetTargets archive
  let sheets ← targets.mapM fun target => do
    let root ← rd.readXml archive target.2
    rd.readSheet shared target.1 root
  return ⟨sheets⟩

variable {rd}
variable {archive : Archive} {shared : List String}

theorem getinfo_of_mem (hnames : (archive.map ArchiveEntry.filename).Nodup) {entry : ArchiveEntry}
    (h : entry ∈ archive) : getinfo archive entry.filename = some entry := by
  have hfound : (getinfo archive entry.filename).isSome := by
    rw [getinfo, List.find?_isSome]
    exact ⟨entry, List.mem_reverse.mpr h, decide_eq_true rfl⟩
  obtain ⟨found, hsome⟩ := Option.isSome_iff_exists.mp hfound
  have hname : found.filename = entry.filename := by simpa using List.find?_some hsome
  have hmem : found ∈ archive := List.mem_reverse.mp (List.mem_of_find?_eq_some hsome)
  rw [hsome, List.inj_on_of_nodup_map hnames hmem h hname]

theorem readXml_eq_ok {part : String} {root : Element} :
    rd.readXml archive part = .ok root ↔ ∃ info raw, getinfo archive part = some info ∧
      info.fileSize ≤ maxXmlPartBytes ∧ info.content = some raw ∧ rd.fromstring raw = some root := by
  rw [readXml]
  simp only [ofOption_bind_eq_ok, require_bind_eq_ok, ofOption_eq_ok]
  constructor
  · rintro ⟨info, hinfo, hsize, raw, hraw, hroot⟩
    exact ⟨info, raw, hinfo, hsize, hraw, hroot⟩
  · rintro ⟨info, raw, hinfo, hsize, hraw, hroot⟩
    exact ⟨info, hinfo, hsize, raw, hraw, hroot⟩

theorem validateArchive_eq_ok : validateArchive archive = .ok () ↔
    archive.length ≤ maxArchiveEntries ∧
      (archive.map ArchiveEntry.fileSize).sum ≤ maxUncompressedBytes ∧
        (archive.map ArchiveEntry.filename).Nodup := by
  rw [validateArchive]
  simp only [require_bind_eq_ok, require_eq_ok]

def readCell (rd : Reader) (shared : List String) (cell : Element) :
    Except WorkbookError (Option ℕ × CellValue) := do
  let column ← match cell.get (plainName "r") with
    | some reference => do
      let index ← rd.columnIndex reference
      pure (some index)
    | none => pure none
  let value ← rd.cellValue shared cell
  return (column, value)

theorem addCell_eq_ok {cells out : List CellValue} {cell : Element} :
    rd.addCell shared cells cell = .ok out ↔
      ∃ r, rd.readCell shared cell = .ok r ∧ out = Slots.pad .none cells (r.1.getD 0) ++ [r.2] := by
  have hstart : Slots.pad .none cells 0 = cells := by simp [Slots.pad]
  rw [addCell, readCell]
  cases cell.get (plainName "r") with
  | none =>
    simp only [bind_eq_ok, pure, Except.pure, Except.ok.injEq]
    constructor
    · rintro ⟨_, rfl, value, hvalue, rfl⟩
      exact ⟨_, ⟨_, rfl, value, hvalue, rfl⟩, by rw [Option.getD_none, hstart]⟩
    · rintro ⟨_, ⟨_, rfl, value, hvalue, rfl⟩, rfl⟩
      exact ⟨_, rfl, value, hvalue, by rw [Option.getD_none, hstart]⟩
  | some reference =>
    simp only [bind_eq_ok, pure, Except.pure, Except.ok.injEq]
    constructor
    · rintro ⟨index, hindex, _, rfl, value, hvalue, rfl⟩
      exact ⟨_, ⟨index, hindex, _, rfl, value, hvalue, rfl⟩, rfl⟩
    · rintro ⟨_, ⟨index, hindex, _, rfl, value, hvalue, rfl⟩, rfl⟩
      exact ⟨index, hindex, _, rfl, value, hvalue, rfl⟩

theorem foldlM_addCell_eq_ok {row : List Element} :
    ∀ {cells record : List CellValue}, row.foldlM (rd.addCell shared) cells = .ok record ↔
      ∃ reads, row.mapM (rd.readCell shared) = .ok reads ∧ record = Slots.fill .none cells reads := by
  induction row with
  | nil =>
    intro cells record
    constructor
    · rintro ⟨⟩
      exact ⟨[], rfl, rfl⟩
    · rintro ⟨reads, hreads, rfl⟩
      cases hreads
      rfl
  | cons cell row ih =>
    intro cells record
    rw [List.foldlM_cons, bind_eq_ok]
    simp only [mapM_eq_ok, List.forall₂_cons_left_iff, addCell_eq_ok] at ih ⊢
    constructor
    · rintro ⟨_, ⟨r, hr, rfl⟩, hrest⟩
      obtain ⟨reads, hreads, rfl⟩ := ih.mp hrest
      exact ⟨r :: reads, ⟨r, reads, hr, hreads, rfl⟩, rfl⟩
    · rintro ⟨_, ⟨r, reads, hr, hreads, rfl⟩, rfl⟩
      exact ⟨_, ⟨r, hr, rfl⟩, ih.mpr ⟨reads, hreads, rfl⟩⟩

theorem gridRow_eq_ok {row : Element} {record : List CellValue} :
    rd.gridRow shared row = .ok record ↔
      ∃ reads, (row.findall (mainName "c")).mapM (rd.readCell shared) = .ok reads ∧
        record = Slots.fill .none [] reads :=
  foldlM_addCell_eq_ok

theorem readWorkbook_eq_ok {workbook : Workbook} :
    rd.readWorkbook archive = .ok workbook ↔
      validateArchive archive = .ok () ∧ ∃ shared targets, rd.sharedStrings archive = .ok shared ∧
        rd.sheetTargets archive = .ok targets ∧
          List.Forall₂ (fun target sheet => ∃ root, rd.readXml archive target.2 = .ok root ∧
            rd.readSheet shared target.1 root = .ok sheet) targets workbook.sheets := by
  unfold readWorkbook
  simp only [bind_eq_ok, mapM_eq_ok, pure, Except.pure, Except.ok.injEq]
  constructor
  · rintro ⟨_, hvalid, shared, hshared, targets, htargets, sheets, hsheets, rfl⟩
    exact ⟨hvalid, shared, targets, hshared, htargets, hsheets⟩
  · rintro ⟨hvalid, shared, targets, hshared, htargets, hsheets⟩
    exact ⟨_, hvalid, shared, hshared, targets, htargets, _, hsheets, rfl⟩

end Reader

end Spreadsheet
