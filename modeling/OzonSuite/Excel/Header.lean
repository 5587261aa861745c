/-
# The header of a sheet

The first rows of a sheet are scanned for the row with the most keywords.  The header goes on as
long as the scanned rows look like one, and the data begin at the first row below it with a value
in the column that tells the rows apart.
-/
import OzonSuite.Excel.Config

namespace OzonSuite.Excel

open Lib

/-- The header of a sheet: its rows, the row whose texts name the columns, and the first row of
data, which is below the header. -/
structure HeaderBlock where
  headerRows : List ℕ
  matchRow : ℕ
  dataStartRow : ℕ
  data_pos : 0 < dataStartRow
  below : ∀ r ∈ headerRows, r < dataStartRow
deriving DecidableEq

/-- A cell of a scanned row that holds something. -/
structure RowCell where
  col : ℕ
  norm : String
  raw : CellValue

section Scan

variable (py : Python) (ws : Worksheet) (config : MappingConfig)

/-- The cells of a row that have a value, as keywords are compared with them. -/
def normalizedRow (rowIdx : ℕ) : List RowCell :=
  (List.range' 1 ws.maxColumn).filterMap fun col =>
    (ws.cells rowIdx col).value.map fun v => ⟨col, normalizeText py config.matching (some v), v⟩

/-- How many of the keywords, of whatever field, a row has. -/
def countKeywordHits (rowCells : List RowCell) : ℕ :=
  let normStrings := (rowCells.map RowCell.norm).filter (· ≠ "")
  (config.allFieldSpecs.map fun spec =>
    (spec.keywords.filter fun kw =>
      normStrings.any fun s => kwIn py kw.norm s spec.mode).length).sum

/-- The cell has a text that is not blank. -/
def isStringCell (cell : RowCell) : Bool :=
  match cell.raw.str? with
  | some s => strip s ≠ ""
  | none => false

/-- How many cells have such a text. -/
def stringCellCount (rowCells : List RowCell) : ℕ := (rowCells.filter isStringCell).length

/-- `^\s*-?\d[\d\s.,]*\s*$`. -/
def isPriceLike (s : String) : Bool :=
  let digits (l : List Char) : Bool :=
    match l with
    | [] => false
    | d :: rest =>
      py.isDecimal d && rest.all fun c => py.isDecimal c || isPySpace c || c = '.' || c = ','
  match s.toList.dropWhile isPySpace with
  | '-' :: rest => digits rest
  | l => digits l

/-- The cell has a text that looks like a price. -/
def isPriceCell (cell : RowCell) : Bool :=
  match cell.raw.str? with
  | some s => isPriceLike py s
  | none => false

/-- A row that may be a row of the header: enough texts, and nothing like a number or a price. -/
def isHeaderLike (cells : List RowCell) : Bool :=
  !cells.isEmpty && max 1 (cells.length / 2) ≤ stringCellCount cells &&
    !cells.any (fun cell => cell.raw.isNumeric) && !cells.any (isPriceCell py)

/-- What a scanned row has to show for itself. -/
structure RowScore where
  hits : ℕ
  strings : ℕ
  row : ℕ

/-- More keywords, then more texts, then the row that comes first. -/
def RowScore.beats (a b : RowScore) : Bool :=
  b.hits < a.hits || (a.hits = b.hits && (b.strings < a.strings ||
    (a.strings = b.strings && a.row < b.row)))

/-- The row with the best score, the first of equals. -/
def bestScore (scored : List RowScore) : Option RowScore :=
  scored.foldl (fun best s =>
    match best with
    | some b => if s.beats b then some s else some b
    | none => some s) none

/-- The last row in which the header is looked for. -/
def lastScan : ℕ := min (max 1 config.header.scanRows) ws.maxRow

/-- The row of the header, given or found. -/
def findMatchRow : Except Failure ℕ :=
  match config.header.matchRow with
  | some row =>
    if row < 1 then .error (.mappingError s!"header.match_row {row} invalid") else .ok row
  | none => do
    let scored := (List.range' 1 (lastScan ws config)).map fun r =>
      let cells := normalizedRow py ws config r
      (⟨countKeywordHits py config cells, stringCellCount cells, r⟩ : RowScore)
    let best ← okOr (bestScore scored) (Failure.raised "IndexError")
    if best.hits = 0 then
      .error (.mappingError (s!"header not found on sheet {py.repr ws.title}: " ++
        s!"no configured keyword matched any of rows 1..{lastScan ws config}. " ++
        "Pin header.match_row / header.data_start in the config."))
    else .ok best.row

/-- The last row of the header: the matched row, or a scanned row below it that looks like one. -/
def findEndHeader (matchRow : ℕ) : ℕ :=
  (List.range' 1 (lastScan ws config)).foldl (fun endHeader r =>
    if isHeaderLike py (normalizedRow py ws config r) && endHeader < r then r else endHeader)
    matchRow

/-- The value is a number, or has a text that is not blank. -/
def looksLikeDataValue (raw : Option CellValue) : Bool :=
  match raw with
  | none => false
  | some v => v.isNumeric || strip (py.str v) ≠ ""

/-- The column of one field in a row of the header, by its pin or by its first keyword. -/
def probeColumn (headerCells : List RowCell) (spec : FieldSpec) : Except Failure (Option ℕ) :=
  match spec.index, spec.letter with
  | some index, _ => .ok (some index)
  | none, some letter => (columnIndexFromString letter).map some
  | none, none => .ok (spec.keywords.findSome? fun kw =>
      (headerCells.find? fun cell => kwIn py kw.norm cell.norm spec.mode).map RowCell.col)

/-- The column whose value tells that a row is one of data: the key's, or else the title's. -/
def resolveProbeCol (row : ℕ) : Except Failure (Option ℕ) :=
  let headerCells := normalizedRow py ws config row
  let rec go : List FieldSpec → Except Failure (Option ℕ)
    | [] => .ok none
    | spec :: rest => do
      match ← probeColumn py headerCells spec with
      | some col => return some col
      | none => go rest
  go (config.keyColumn.toList ++ config.title.toList)

/-- The first row below the header that has a value in the probed column. -/
def autoDataStart (endHeader : ℕ) : Except Failure ℕ := do
  let startFloor := endHeader + 1
  let probeCol ← resolveProbeCol py ws config endHeader
  let isData (r : ℕ) : Bool :=
    match probeCol with
    | some col => looksLikeDataValue py (ws.cells r col).value
    | none => (List.range' 1 ws.maxColumn).any fun col =>
        looksLikeDataValue py (ws.cells r col).value
  return ((List.range' startFloor (ws.maxRow + 1 - startFloor)).find? isData).getD startFloor

/-- The first row of data, given or found. -/
def findDataStart (endHeader : ℕ) : Except Failure ℕ :=
  match config.header.dataStart with
  | some row => .ok row
  | none => autoDataStart py ws config endHeader

/-- The rows of the header and where the data start. -/
def detectHeader : Except Failure HeaderBlock := do
  let matchRow ← findMatchRow py ws config
  let endHeader := findEndHeader py ws config matchRow
  let dataStart ← findDataStart py ws config endHeader
  if h : dataStart ≤ endHeader then
    .error (.configError (s!"data_start_row {dataStart} must be > last header row {endHeader} " ++
      s!"on sheet {py.repr ws.title}"))
  else
    return {
      headerRows := List.range' 1 endHeader
      matchRow := matchRow
      dataStartRow := dataStart
      data_pos := by omega
      below := by
        intro r hr
        rw [List.mem_range'_1] at hr
        omega
    }

end Scan

end OzonSuite.Excel
