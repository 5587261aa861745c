/-
# Writing a sheet

The rows of data of a sheet are gone through once, and only the cells of the resolved columns are
written.  A cell that a merged range covers is skipped, and so is one with an embedded image.

Cells that openpyxl creates when it is asked for one that is not there hold nothing and are not
saved, so they are left out.
-/
import OzonSuite.Excel.Images
import OzonSuite.Excel.Mapper

namespace OzonSuite.Excel

open Lib

/-- What becomes of the texts and the images of a product.  A transform may fail. -/
structure Transform where
  transformTitle : Option String → Except Failure (Option String)
  transformListing : Option String → Except Failure (Option String)
  transformImages : List String → Except Failure (List String)

/-- What has been processed and changed. -/
structure ProcessResult where
  rowsSeen : ℕ := 0
  changedByRole : ColumnRole → ℕ := fun _ => 0
  changedCells : List CellRef := []
  preflightWarnings : List Risk := []
  mappingSummary : List String := []
  skippedEmbedded : List CellRef := []
  skippedMerged : List CellRef := []

/-- Count a change. -/
def ProcessResult.noteChange (result : ProcessResult) (role : ColumnRole) (ref : CellRef) :
    ProcessResult :=
  { result with
    changedCells := result.changedCells ++ [ref]
    changedByRole := Function.update result.changedByRole role (result.changedByRole role + 1) }

section Write

variable (py : Python) (config : MappingConfig) (transform : Transform)

/-- The field that the images of a role are read with. -/
def fieldForRole (role : ColumnRole) : Option FieldSpec :=
  match role with
  | .imageMain => config.imagesMain.head?
  | .imageAdditional => config.imagesAdditional.head?
  | _ => none

/-- A sheet while it is written, with what has been done so far. -/
abbrev Writing := Worksheet × ProcessResult

/-- `cell.value = new`. -/
def assignValue (cell : Cell) (new : Option String) : Except Failure Cell :=
  match new with
  | some s => cell.setValue s
  | none => cell.clearValue

/-- Rewrite the text of a cell. -/
def applyText (row col : ℕ) (fn : Option String → Except Failure (Option String))
    (role : ColumnRole) (w : Writing) : Except Failure Writing := do
  let (ws, result) := w
  let cell := ws.cells row col
  if cell.merged then
    let ref ← CellRef.of ws.title row col
    return (ws, { result with skippedMerged := result.skippedMerged ++ [ref] })
  else
    let new ← fn (cell.value.map py.str)
    if new.map PyKey.chars = cell.value.map CellValue.key then return (ws, result)
    else
      let written ← assignValue cell new
      let ref ← CellRef.of ws.title row col
      return (ws.put row col written, result.noteChange role ref)

/-- Rewrite the images of a cell. -/
def applyImage (row : ℕ) (mc : MappedColumn) (role : ColumnRole) (w : Writing) :
    Except Failure Writing := do
  let (ws, result) := w
  let cell := ws.cells row mc.colIndex
  if cell.merged then
    let ref ← CellRef.of ws.title row mc.colIndex
    return (ws, { result with skippedMerged := result.skippedMerged ++ [ref] })
  else
    let ic ← parse py ⟨ws.title, row, mc.colIndex, cell⟩ (fieldForRole config role)
      (some ws.toSheetFrame)
    if ic.form = .embeddedImage then
      return (ws, { result with skippedEmbedded := result.skippedEmbedded ++ [ic.ref] })
    else
      let newUrls ← transform.transformImages ic.urls
      let (written, changed) ← serialize cell ic newUrls none mc.imageFormHint
      if changed then return (ws.put row mc.colIndex written, result.noteChange role ic.ref)
      else return (ws, result)

/-- One row of data. -/
def processRow (mapped : MappedColumns) (w : Writing) (row : ℕ) : Except Failure Writing := do
  let w := (w.1, { w.2 with rowsSeen := w.2.rowsSeen + 1 })
  let w ← mapped.title.toList.foldlM (fun w mc =>
    applyText py row mc.colIndex transform.transformTitle .title w) w
  let w ← mapped.listing.toList.foldlM (fun w mc =>
    applyText py row mc.colIndex transform.transformListing .listing w) w
  let w ← mapped.imagesMain.foldlM (fun w mc =>
    applyImage py config transform row mc .imageMain w) w
  mapped.imagesAdditional.foldlM (fun w mc =>
    applyImage py config transform row mc .imageAdditional w) w

/-- `str` of a list of numbers. -/
def numbersText (l : List ℕ) : String := "[" ++ ", ".intercalate (l.map toString) ++ "]"

/-- How the report says what a column has been found by. -/
def MatchedBy.text : MatchedBy → String
  | .keyword => "keyword"
  | .letter => "letter"
  | .index => "index"

/-- `_summarize_mapping`. -/
def summarizeMapping (mapped : MappedColumns) : String :=
  let hb := mapped.headerBlock
  let single (name : String) (mc : Option MappedColumn) (note : MappedColumn → String) :=
    mc.toList.map fun mc => name ++ "=" ++ mc.columnLetter ++ "(" ++ note mc ++ ")"
  let several (name : String) (columns : List MappedColumn) :=
    if columns = [] then []
    else [name ++ "=" ++ ",".intercalate (columns.map MappedColumn.columnLetter)]
  " | ".intercalate <|
    ["sheet=" ++ py.repr mapped.sheet,
      "header_rows=" ++ numbersText hb.headerRows ++ " match_row=" ++ toString hb.matchRow ++
        " data_start=" ++ toString hb.dataStartRow] ++
    single "title" mapped.title (fun mc => mc.matchedBy.text) ++
    single "listing" mapped.listing (fun mc => mc.matchedBy.text) ++
    several "images_main" mapped.imagesMain ++
    several "images_additional" mapped.imagesAdditional ++
    single "key" mapped.keyColumn (fun _ => "frozen") ++
    ["targets=" ++ numbersText (mapped.targetColIndices.sort (· ≤ ·))]

/-- One sheet, with its header and its columns. -/
def processSheet (w : Writing) : Except Failure Writing := do
  let headerBlock ← detectHeader py w.1 config
  let mapped ← resolveColumns py w.1 config headerBlock
  let summary := summarizeMapping py mapped
  let w := (w.1, { w.2 with mappingSummary := w.2.mappingSummary ++ [summary] })
  (List.range' headerBlock.dataStartRow (w.1.maxRow + 1 - headerBlock.dataStartRow)).foldlM
    (processRow py config transform mapped) w

end Write

end OzonSuite.Excel
