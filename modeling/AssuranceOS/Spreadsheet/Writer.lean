/-
Writing a workbook (`write_workbook` of `spreadsheet.py`).

The parts that the reader parses are the texts of XML documents, with the strings of the sheets as
attribute values and texts.
-/
import AssuranceOS.Spreadsheet.Reader

namespace Spreadsheet

open Vault (utf8)
open Xml (Markup QName Document)

def countText (n : ℕ) : String := String.ofList (rowText n)

def packageRelationshipSpace : String :=
  "http://schemas.openxmlformats.org/package/2006/relationships"

def worksheetType : String :=
  "http://schemas.openxmlformats.org/officeDocument/2006/relationships/worksheet"

/-- `xl/worksheets/sheet1.xml` and so on. -/
def sheetPart (position : ℕ) : String :=
  "xl/worksheets/sheet" ++ countText (position + 1) ++ ".xml"

/-- `archive.writestr`, as `zipfile` lists the entry. -/
def entryOf (part : String × String) : ArchiveEntry :=
  let content := utf8 part.2.toList
  ⟨part.1, content.length, some content⟩

def plainAttr (name value : String) : QName × String := (⟨none, name⟩, value)

def cellMarkup (py : Python) (reference : String) (value : CellValue) : Markup :=
  let r := plainAttr "r" reference
  match value with
  | .none => .empty "c" [r]
  | .text s =>
    if s = "" then .empty "c" [r]
    else .node "c" [] [r, plainAttr "t" "inlineStr"] "" [.node "is" [] [] "" [.node "t" [] [] s []]]
  | .bool b => .node "c" [] [r, plainAttr "t" "b"] "" [.node "v" [] [] (if b then "1" else "0") []]
  | .int n => .node "c" [] [r] "" [.node "v" [] [] (String.ofList (JsonText.intText n)) []]
  | .float x => .node "c" [] [r] "" [.node "v" [] [] (py.repr x) []]

def sheetMarkup (name : String) (position : ℕ) : Markup :=
  .empty "sheet" [plainAttr "name" name, plainAttr "sheetId" (countText (position + 1)),
    (⟨some "r", "id"⟩, "rId" ++ countText (position + 1))]

def workbookDocument (names : List String) : Document :=
  ⟨.node "workbook" [(none, mainSpace), (some "r", relationshipSpace)] [] ""
    [.node "sheets" [] [] "" (names.zipIdx.map fun (name, position) => sheetMarkup name position)]⟩

def relationshipMarkup (position : ℕ) : Markup :=
  .empty "Relationship" [plainAttr "Id" ("rId" ++ countText (position + 1)),
    plainAttr "Type" worksheetType,
    plainAttr "Target" ("worksheets/sheet" ++ countText (position + 1) ++ ".xml")]

def relationshipsDocument (sheets : ℕ) : Document :=
  ⟨.node "Relationships" [(none, packageRelationshipSpace)] [] ""
    ((List.range sheets).map relationshipMarkup)⟩

theorem readXml_entryOf {rd : Reader} {archive : Archive} {part text : String} {root : Xml.Element}
    (hnames : (archive.map ArchiveEntry.filename).Nodup) (h : entryOf (part, text) ∈ archive) :
    rd.readXml archive part = .ok root ↔ (utf8 text.toList).length ≤ maxXmlPartBytes ∧
      rd.fromstring (utf8 text.toList) = some root := by
  have hinfo : getinfo archive part = some (entryOf (part, text)) := Reader.getinfo_of_mem hnames h
  rw [Reader.readXml_eq_ok, hinfo]
  constructor
  · rintro ⟨info, raw, hinfo, hsize, hraw, hroot⟩
    obtain rfl := Option.some.inj hinfo
    obtain rfl := Option.some.inj hraw
    exact ⟨hsize, hroot⟩
  · rintro ⟨hsize, hroot⟩
    exact ⟨_, _, rfl, hsize, rfl, hroot⟩

def parserOf (documents : List Document) (bytes : Vault.Bytes) : Option Xml.Element :=
  (documents.find? fun d => utf8 d.chars = bytes).bind Document.read

theorem parserOf_of_mem {documents : List Document} (h : (documents.map Document.chars).Nodup)
    {d : Document} (hd : d ∈ documents) : parserOf documents (utf8 d.chars) = d.read := by
  have hfound : (documents.find? fun e => utf8 e.chars = utf8 d.chars).isSome := by
    rw [List.find?_isSome]
    exact ⟨d, hd, decide_eq_true rfl⟩
  obtain ⟨found, hsome⟩ := Option.isSome_iff_exists.mp hfound
  have hbytes : utf8 found.chars = utf8 d.chars := by simpa using List.find?_some hsome
  have hsame := List.inj_on_of_nodup_map h (List.mem_of_find?_eq_some hsome) hd
    (Vault.utf8_injective hbytes)
  rw [parserOf, hsome, hsame]
  rfl

end Spreadsheet
