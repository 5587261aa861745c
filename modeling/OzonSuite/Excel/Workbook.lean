/-
# Workbooks

What openpyxl shows of a workbook, and the few things that the Excel core does to one.  A value of a
cell is a text, a number, a truth value or a point in time, or it is an object: openpyxl hands out
the array and data-table formulas as objects of their own, made anew whenever a file is loaded.

Rows and columns count from one.
-/
import OzonSuite.Lib.Effects
import OzonSuite.Lib.PythonText

namespace OzonSuite.Excel

open Lib

/-! ## Errors -/

/-- What is lost when the workbook is saved. -/
structure Risk where
  sheet : String
  kind : String
  detail : String
  severity : String
deriving DecidableEq

/-- The exceptions of the package, and any other that comes out of a library. -/
inductive Failure
  | configError (message : String)
  | mappingError (message : String)
  | preflightError (message : String) (risks : List Risk)
  | raised (exception : String)
deriving DecidableEq

/-! ## Values -/

/-- The types that openpyxl has for what is formatted as a date or a time. -/
inductive TimeKind
  | datetime | date | time | timedelta
deriving DecidableEq

/-- A point in time, or a span of it. -/
structure Moment where
  kind : TimeKind
  microseconds : ℤ
deriving DecidableEq

/-- A formula that is an object.  Objects are compared by identity, so that one equals itself only,
and never one of another load, whatever they hold. -/
inductive FormulaObject
  /-- `ArrayFormula(ref, text)`. -/
  | array (ref text : String)
  /-- `DataTableFormula(**attributes)`. -/
  | dataTable (attributes : List (String × String))
deriving DecidableEq

/-- The value of a cell. -/
inductive CellValue
  | text (s : String)
  | formula (s : String)
  | error (s : String)
  | int (n : ℤ)
  | float (x : ℚ)
  | bool (b : Bool)
  | moment (t : Moment)
  | object (o : FormulaObject)
deriving DecidableEq

/-- The types of data that a workbook tells apart. -/
inductive DataType
  | text | formula | error | number | bool | date
deriving DecidableEq

/-- What a value holds for Python: texts have their characters, whatever they stand for, and truth
values are among the numbers.  Equal values hold the same, and values that hold the same are equal
unless they are objects. -/
inductive PyKey
  | chars (s : String)
  | number (x : ℚ)
  | moment (t : Moment)
  | object (o : FormulaObject)
deriving DecidableEq

namespace CellValue

/-- `cell.data_type`.  Objects are formulas. -/
def dataType : CellValue → DataType
  | text _ => .text
  | formula _ => .formula
  | error _ => .error
  | int _ => .number
  | float _ => .number
  | bool _ => .bool
  | moment _ => .date
  | object _ => .formula

/-- What the value holds. -/
def key : CellValue → PyKey
  | text s => .chars s
  | formula s => .chars s
  | error s => .chars s
  | int n => .number n
  | float x => .number x
  | bool b => .number (if b then 1 else 0)
  | moment t => .moment t
  | object o => .object o

/-- The value is an object that is compared by identity. -/
def isObject : CellValue → Bool
  | object _ => true
  | _ => false

/-- `isinstance(value, str)`, with the text. -/
def str? : CellValue → Option String
  | text s => some s
  | formula s => some s
  | error s => some s
  | _ => none

/-- `isinstance(value, (int, float))`. -/
def isNumeric : CellValue → Bool
  | int _ => true
  | float _ => true
  | bool _ => true
  | _ => false

/-- The codes that openpyxl takes for errors. -/
def errorCodes : List String :=
  ["#NULL!", "#DIV/0!", "#VALUE!", "#REF!", "#NAME?", "#NUM!", "#N/A"]

/-- What a cell makes of a text that is assigned to it. -/
def ofString (s : String) : CellValue :=
  if 1 < s.toList.length ∧ s.toList.head? = some '=' then formula s
  else if s ∈ errorCodes then error s
  else text s

@[simp] lemma str?_ofString (s : String) : (ofString s).str? = some s := by
  unfold ofString
  split_ifs <;> rfl

end CellValue

/-- The characters that cannot be in a workbook. -/
def isIllegalCharacter (c : Char) : Bool :=
  let n := c.toNat
  n ≤ 8 || n == 11 || n == 12 || (14 ≤ n && n ≤ 31)

/-- The longest text that a cell can hold. -/
def maxStringLength : ℕ := 32767

/-- What of a text gets into a cell.  A text that is too long is cut. -/
def checkString (s : String) : Except Failure String :=
  let kept := s.toList.take maxStringLength
  if kept.any isIllegalCharacter then .error (.raised "IllegalCharacterError")
  else .ok (String.ofList kept)

/-! ## Cells -/

/-- What of a hyperlink is compared. -/
structure Hyperlink where
  target : Option String
  location : Option String
deriving DecidableEq

/-- A cell.  One that a merged range covers has no value and no hyperlink; one without a style has
the general number format. -/
structure Cell where
  value : Option CellValue
  numberFormat : String
  hyperlink : Option Hyperlink
  hasStyle : Bool
  merged : Bool
  unstyled : hasStyle = false → numberFormat = "General"
  covered : merged = true → value = none ∧ hyperlink = none
deriving DecidableEq

namespace Cell

/-- A cell that is not there. -/
def blank : Cell where
  value := none
  numberFormat := "General"
  hyperlink := none
  hasStyle := false
  merged := false
  unstyled _ := rfl
  covered _ := ⟨rfl, rfl⟩

/-- A cell without a style that holds a value. -/
def ofValue (v : CellValue) : Cell where
  value := some v
  numberFormat := "General"
  hyperlink := none
  hasStyle := false
  merged := false
  unstyled _ := rfl
  covered h := nomatch h

/-- A new value in place of the old one, as it is. -/
def withValue (cell : Cell) (v : Option CellValue) (h : cell.merged = false) : Cell where
  value := v
  numberFormat := cell.numberFormat
  hyperlink := cell.hyperlink
  hasStyle := cell.hasStyle
  merged := cell.merged
  unstyled := cell.unstyled
  covered hm := absurd hm (by simp [h])

/-- `cell.value = s`, which a covered cell refuses. -/
def setValue (cell : Cell) (s : String) : Except Failure Cell :=
  if h : cell.merged = false then do
    let kept ← checkString s
    return cell.withValue (some (.ofString kept)) h
  else .error (.raised "AttributeError")

/-- `cell.value = None`. -/
def clearValue (cell : Cell) : Except Failure Cell :=
  if h : cell.merged = false then .ok (cell.withValue none h)
  else .error (.raised "AttributeError")

/-- A new hyperlink in place of the old one, as it is. -/
def withHyperlink (cell : Cell) (link : Option Hyperlink) (h : cell.merged = false) : Cell where
  value := cell.value
  numberFormat := cell.numberFormat
  hyperlink := link
  hasStyle := cell.hasStyle
  merged := cell.merged
  unstyled := cell.unstyled
  covered hm := absurd hm (by simp [h])

/-- `cell.hyperlink = None`.  A covered cell has none. -/
def clearHyperlink (cell : Cell) : Cell :=
  if h : cell.merged = false then cell.withHyperlink none h else cell

/-- `cell.hyperlink = url`, on a cell that is not covered.  A cell without a value gets the target
as its value. -/
def setHyperlink (cell : Cell) (url : String) : Except Failure Cell :=
  if h : cell.merged = false then
    let linked := cell.withHyperlink (some ⟨some url, none⟩) h
    if cell.value = none ∧ url ≠ "" then linked.setValue url else .ok linked
  else .error (.raised "AttributeError")

/-- A cell that a comparison looks at. -/
def used (cell : Cell) : Bool :=
  cell.value.isSome || cell.hyperlink.isSome ||
    (cell.hasStyle && cell.numberFormat ≠ "General") || cell.hasStyle

end Cell

/-! ## Worksheets -/

/-- Whether a sheet is shown. -/
inductive SheetState
  | visible | hidden | veryHidden
deriving DecidableEq

/-- What a worksheet has besides its cells.  Merged ranges and validations are given by the texts of
their ranges, the sizes of columns and rows by their keys, and embedded images by the cell, counted
from zero, that they are anchored to. -/
structure SheetFrame where
  title : String
  state : SheetState
  mergedRanges : List String
  columnWidths : List (String × Option ℚ)
  rowHeights : List (ℕ × Option ℚ)
  validations : List String
  images : List (Option (ℕ × ℕ))
  charts : ℕ
  pivots : ℕ

/-- A worksheet.  Its cells lie within its dimensions, and there is at least one row and one
column. -/
structure Worksheet extends SheetFrame where
  cells : ℕ → ℕ → Cell
  maxRow : ℕ
  maxColumn : ℕ
  row_pos : 0 < maxRow
  column_pos : 0 < maxColumn
  blank_outside : ∀ r c, ¬ (0 < r ∧ r ≤ maxRow ∧ 0 < c ∧ c ≤ maxColumn) → cells r c = Cell.blank

namespace Worksheet

variable (ws : Worksheet)

/-- The worksheet with a cell put in place.  There is no row and no column before the first. -/
def put (r c : ℕ) (cell : Cell) : Worksheet :=
  if h : 0 < r ∧ 0 < c then
    { ws with
      cells := fun r' c' => if r' = r ∧ c' = c then cell else ws.cells r' c'
      maxRow := max ws.maxRow r
      maxColumn := max ws.maxColumn c
      row_pos := lt_max_of_lt_left ws.row_pos
      column_pos := lt_max_of_lt_left ws.column_pos
      blank_outside := by
        intro r' c' hout
        rw [if_neg (by omega)]
        exact ws.blank_outside r' c' (by omega) }
  else ws

/-- `ws.delete_rows(idx, amount)`.  Only the cells move: ranges, sizes and images stay. -/
def deleteRows (idx amount : ℕ) : Worksheet :=
  { ws with
    cells := fun r c =>
      if r < idx then ws.cells r c else if 0 < r then ws.cells (r + amount) c else Cell.blank
    maxRow := max 1 (if idx ≤ ws.maxRow then ws.maxRow - min amount (ws.maxRow + 1 - idx)
      else ws.maxRow)
    row_pos := by omega
    blank_outside := by
      intro r c hout
      split_ifs with hlt hpos
      · refine ws.blank_outside r c fun hin => hout ⟨hin.1, ?_, hin.2.2⟩
        split_ifs <;> omega
      · refine ws.blank_outside _ c fun hin => hout ⟨hpos, ?_, hin.2.2⟩
        split_ifs <;> omega
      · rfl }

/-- A worksheet without any cell. -/
def empty (title : String) : Worksheet where
  title := title
  state := .visible
  cells _ _ := Cell.blank
  maxRow := 1
  maxColumn := 1
  mergedRanges := []
  columnWidths := []
  rowHeights := []
  validations := []
  images := []
  charts := 0
  pivots := 0
  row_pos := Nat.one_pos
  column_pos := Nat.one_pos
  blank_outside _ _ _ := rfl

variable {ws} {r c r' c' : ℕ} {cell : Cell}

@[simp] lemma put_frame : (ws.put r c cell).toSheetFrame = ws.toSheetFrame := by
  unfold put
  split_ifs <;> rfl

@[simp] lemma deleteRows_frame {idx amount : ℕ} :
    (ws.deleteRows idx amount).toSheetFrame = ws.toSheetFrame := rfl

lemma put_cells_of_ne (h : ¬ (r' = r ∧ c' = c)) :
    (ws.put r c cell).cells r' c' = ws.cells r' c' := by
  unfold put
  split_ifs
  · exact if_neg h
  · rfl

lemma put_cells_self (hr : 0 < r) (hc : 0 < c) : (ws.put r c cell).cells r c = cell := by
  unfold put
  rw [dif_pos ⟨hr, hc⟩]
  exact if_pos ⟨rfl, rfl⟩

end Worksheet

/-! ## Workbooks -/

/-- A workbook.  Its sheets are worksheets and chart sheets, of which only the titles count, and no
two of them have the same title. -/
structure Workbook where
  worksheets : List Worksheet
  chartsheets : List String
  definedNames : List (String × String)
  titles_nodup : (worksheets.map (·.title) ++ chartsheets).Nodup

namespace Workbook

variable (wb : Workbook)

/-- `wb.sheetnames`.  How the two kinds of sheets lie among each other is never looked at. -/
def sheetnames : List String := wb.worksheets.map (·.title) ++ wb.chartsheets

/-- `wb[title]`, if it is a worksheet. -/
def sheet? (title : String) : Option Worksheet := wb.worksheets.find? (·.title = title)

/-- What comes of taking `wb[title]` for a worksheet when it is none: a chart sheet has neither rows
nor dimensions. -/
def noWorksheet (title : String) : Failure :=
  .raised (if title ∈ wb.chartsheets then "AttributeError" else "KeyError")

/-- The worksheet of a title. -/
def worksheet (title : String) : Except Failure Worksheet :=
  okOr (wb.sheet? title) (wb.noWorksheet title)

lemma worksheets_nodup : (wb.worksheets.map (·.title)).Nodup :=
  wb.titles_nodup.of_append_left

/-- The workbook with a worksheet in the place of the one with its title. -/
def put (ws : Worksheet) : Workbook where
  worksheets := wb.worksheets.map fun old => if old.title = ws.title then ws else old
  chartsheets := wb.chartsheets
  definedNames := wb.definedNames
  titles_nodup := by
    have htitles : ∀ old ∈ wb.worksheets,
        (if old.title = ws.title then ws else old).title = old.title := by
      intro old _
      split_ifs with h
      · exact h.symm
      · rfl
    rw [List.map_map]
    exact (List.map_congr_left htitles).symm ▸ wb.titles_nodup

variable {wb} {ws : Worksheet}

lemma sheet?_eq_some {title : String} :
    wb.sheet? title = some ws ↔ ws ∈ wb.worksheets ∧ ws.title = title := by
  constructor
  · intro h
    exact ⟨List.mem_of_find?_eq_some h, by simpa using List.find?_some h⟩
  · rintro ⟨hmem, rfl⟩
    have hsome : (wb.sheet? ws.title).isSome := List.find?_isSome.mpr ⟨ws, hmem, by simp⟩
    obtain ⟨found, hfound⟩ := Option.isSome_iff_exists.mp hsome
    have htitle : found.title = ws.title := by simpa using List.find?_some hfound
    rw [hfound, List.inj_on_of_nodup_map wb.worksheets_nodup (List.mem_of_find?_eq_some hfound) hmem
      htitle]

/-- A sheet is a worksheet or a chart sheet, and never both. -/
lemma sheet?_of_not_chartsheet {title : String} (h : title ∈ wb.sheetnames) :
    (∃ ws, wb.sheet? title = some ws) ↔ title ∉ wb.chartsheets := by
  constructor
  · rintro ⟨ws, hws⟩ hchart
    obtain ⟨hmem, rfl⟩ := sheet?_eq_some.mp hws
    exact wb.titles_nodup.disjoint (List.mem_map_of_mem hmem) hchart
  · intro hchart
    rcases List.mem_append.mp h with hsheet | hsheet
    · obtain ⟨ws, hmem, htitle⟩ := List.mem_map.mp hsheet
      exact ⟨ws, sheet?_eq_some.mpr ⟨hmem, htitle⟩⟩
    · exact absurd hsheet hchart

@[simp] lemma worksheet_eq_ok {title : String} :
    wb.worksheet title = .ok ws ↔ wb.sheet? title = some ws := Except.okOr_eq_ok

end Workbook

/-! ## The library and the language -/

/-- What Python computes on texts and values that is not spelled out here. -/
structure Python where
  repr : String → String
  floatStr : ℚ → String
  momentStr : Moment → String
  /-- The place of an object in memory, in hexadecimal digits. -/
  objectAddress : FormulaObject → String
  normalizeNfkc : String → String
  casefold : String → String
  isDecimal : Char → Bool
  /-- `re.search`, or nothing when the pattern is not one. -/
  search : String → String → Option Bool

/-- The name of the class of an object. -/
def FormulaObject.className : FormulaObject → String
  | .array _ _ => "ArrayFormula"
  | .dataTable _ => "DataTableFormula"

/-- `str(value)`. -/
def Python.str (py : Python) : CellValue → String
  | .text s => s
  | .formula s => s
  | .error s => s
  | .int n => toString n
  | .float x => py.floatStr x
  | .bool b => if b then "True" else "False"
  | .moment t => py.momentStr t
  | .object o =>
    "<openpyxl.worksheet.formula." ++ o.className ++ " object at 0x" ++ py.objectAddress o ++ ">"

/-- A Python for texts on which there is nothing to normalise. -/
def plainPython : Python where
  repr s := "'" ++ s ++ "'"
  floatStr x := toString x.num
  momentStr t := toString t.microseconds
  objectAddress _ := "7f0000000000"
  normalizeNfkc s := s
  casefold s := String.ofList (s.toList.map Char.toLower)
  isDecimal := Char.isDigit
  search _ _ := none

/-- `load_workbook` and `Workbook.save`, on the contents of a file. -/
structure Openpyxl (File : Type) where
  load : File → Except Failure Workbook
  save : Workbook → Except Failure File

/-- Loading after saving gives the same workbook. -/
def Openpyxl.RoundTrips {File : Type} (xl : Openpyxl File) : Prop :=
  ∀ wb file, xl.save wb = .ok file → xl.load file = .ok wb

end OzonSuite.Excel
