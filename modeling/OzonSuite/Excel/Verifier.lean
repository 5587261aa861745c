/-
# Comparing two workbooks

The verifier finds out by itself which cells may change, compares the other cells of the sheets that
two workbooks share, and compares what the sheets and the workbooks have besides cells.  This file
says exactly when it finds nothing.  The values of cells are compared as Python compares them, so
that a truth value and a number can pass for one another, and an array formula never for itself.  A
chart sheet has no cells to go through, and there is no report on it.
-/
import OzonSuite.Excel.Mapper
import OzonSuite.Lib.Folds

namespace OzonSuite.Excel

open Lib

/-! ## The report -/

/-- What is shown of a difference. -/
inductive Shown
  | value (v : Option CellValue)
  | numberFormat (s : String)
  | hyperlink (link : Option Hyperlink)
  | note (s : String)
  | ranges (l : List String)
  | widths (l : List (String × ℚ))
  | heights (l : List (ℕ × ℚ))
  | names (l : List (String × String))
deriving DecidableEq

/-- A difference that has been found. -/
structure CellDiff where
  sheet : String
  coordinate : String
  field : String
  old : Shown
  new : Shown
  role : String
deriving DecidableEq

/-- What the verifier reports. -/
structure VerifyReport where
  ok : Bool := true
  expectedChanges : List CellDiff := []
  unexpectedChanges : List CellDiff := []
  frozenCellsCompared : ℕ := 0
  sheetsCompared : ℕ := 0
  notes : List String := []
deriving DecidableEq

namespace VerifyReport

/-- Something has changed that may not. -/
def refuse (report : VerifyReport) (diffs : List CellDiff) : VerifyReport :=
  { report with ok := false, unexpectedChanges := report.unexpectedChanges ++ diffs }

/-- A difference of a sheet, or of the workbook, besides the cells. -/
def structural (report : VerifyReport) (sheet field : String) (same : Bool) (old new : Shown) :
    VerifyReport :=
  if same then report else report.refuse [⟨sheet, "-", field, old, new, "structural"⟩]

end VerifyReport

/-! ## Which cells may change -/

/-- The columns of a sheet that may change, each with its role, and the rows below the header. -/
structure Allowed where
  roleByCol : List (ℕ × String)
  dataStart : Option ℕ
  headerRows : List ℕ
deriving DecidableEq

namespace Allowed

/-- Nothing may change. -/
def nothing : Allowed := ⟨[], none, []⟩

/-- The target columns.  Of two roles of a column the later one counts. -/
def ofMapped (block : HeaderBlock) (mapped : MappedColumns) : Allowed where
  roleByCol :=
    (mapped.imagesMain ++ mapped.imagesAdditional).map (fun mc => (mc.colIndex, "image")) ++
      mapped.listing.toList.map (fun mc => (mc.colIndex, "listing")) ++
      mapped.title.toList.map (fun mc => (mc.colIndex, "title"))
  dataStart := some block.dataStartRow
  headerRows := block.headerRows

/-- The columns that may be changed. -/
def targetCols (allowed : Allowed) : List ℕ := allowed.roleByCol.map Prod.fst

/-- The cell may be changed. -/
def isTargetCell (allowed : Allowed) (col row : ℕ) : Bool :=
  col ∈ allowed.targetCols &&
    match allowed.dataStart with
    | none => false
    | some dataStart => dataStart ≤ row && row ∉ allowed.headerRows

end Allowed

section Allowing

variable (py : Python) (config : MappingConfig)

/-- What may change on one sheet. -/
def allowedOn (ws : Worksheet) : Except Failure Allowed :=
  if config.processes ws then do
    let block ← detectHeader py ws config
    let mapped ← resolveColumns py ws config block
    return .ofMapped block mapped
  else .ok .nothing

/-- What may be changed on each sheet. -/
def buildAllowed (wb : Workbook) : Except Failure (List (String × Allowed)) :=
  wb.worksheets.mapM fun ws => do
    let allowed ← allowedOn py config ws
    return (ws.title, allowed)

end Allowing

/-! ## Comparing cells -/

/-- The values hold the same. -/
def SameHeld (v w : Option CellValue) : Prop := v.map CellValue.key = w.map CellValue.key

/-- The cell has an object for its value. -/
def holdsObject (v : Option CellValue) : Bool := v.any CellValue.isObject

/-- Python takes the values, of two loads, for equal: they hold the same and are not two objects. -/
def SameForPython (v w : Option CellValue) : Prop := SameHeld v w ∧ holdsObject v = false

instance (v w : Option CellValue) : Decidable (SameForPython v w) :=
  inferInstanceAs (Decidable (v.map CellValue.key = w.map CellValue.key ∧ holdsObject v = false))

/-- The fields in which two cells differ. -/
def diffFields (a b : Cell) : List (String × Shown × Shown) :=
  (if ¬ SameForPython a.value b.value then
    [("value", .value a.value, .value b.value)] else []) ++
  (if a.numberFormat ≠ b.numberFormat then
    [("number_format", .numberFormat a.numberFormat, .numberFormat b.numberFormat)] else []) ++
  (if a.hyperlink ≠ b.hyperlink then
    [("hyperlink", .hyperlink a.hyperlink, .hyperlink b.hyperlink)] else [])

/-- The places of two sheets at which one of them has a cell worth comparing, row by row. -/
def usedCellCoords (a b : Worksheet) : List (ℕ × ℕ) :=
  ((List.range' 1 (max a.maxRow b.maxRow)).flatMap fun row =>
    (List.range' 1 (max a.maxColumn b.maxColumn)).map fun col => (row, col)).filter fun place =>
      (a.cells place.1 place.2).used || (b.cells place.1 place.2).used

/-- Compare one cell of two sheets. -/
def compareCell (allowed : Allowed) (a b : Worksheet) (report : VerifyReport) (place : ℕ × ℕ) :
    VerifyReport :=
  let (row, col) := place
  let diffs (role : String) := (diffFields (a.cells row col) (b.cells row col)).map fun d =>
    (⟨a.title, coordinate row col, d.1, d.2.1, d.2.2, role⟩ : CellDiff)
  if diffFields (a.cells row col) (b.cells row col) = [] then
    if allowed.isTargetCell col row then report
    else { report with frozenCellsCompared := report.frozenCellsCompared + 1 }
  else if allowed.isTargetCell col row then
    { report with
      expectedChanges := report.expectedChanges ++
        diffs ((allowed.roleByCol.lookup col).getD "title") }
  else
    let refused := report.refuse (diffs (if row ∈ allowed.headerRows then "header" else "frozen"))
    { refused with frozenCellsCompared := refused.frozenCellsCompared + 1 }

/-! ## Comparing the rest -/

/-- Two dictionaries are equal if they have the same entries. -/
def sameDict {κ ν : Type} [BEq κ] [DecidableEq ν] (a b : List (κ × ν)) : Bool :=
  (a ++ b).all fun entry => a.lookup entry.1 = b.lookup entry.1

/-- The sizes that are set. -/
def setSizes {κ : Type} (sizes : List (κ × Option ℚ)) : List (κ × ℚ) :=
  sizes.filterMap fun entry => entry.2.map (entry.1, ·)

/-- A set of texts in order. -/
def sortedTexts (l : List String) : List String := l.dedup.mergeSort (fun s t => decide (s ≤ t))

/-- The texts are the same, but for their order. -/
def sameTexts (a b : List String) : Bool := a.all (· ∈ b) && b.all (· ∈ a)

/-- Compare what a sheet has besides its cells. -/
def checkStructural (a b : Worksheet) (report : VerifyReport) : VerifyReport :=
  let report := report.structural a.title "merged_cells" (sameTexts a.mergedRanges b.mergedRanges)
    (.ranges (sortedTexts a.mergedRanges)) (.ranges (sortedTexts b.mergedRanges))
  let report := report.structural a.title "column_widths"
    (sameDict (setSizes a.columnWidths) (setSizes b.columnWidths))
    (.widths (setSizes a.columnWidths)) (.widths (setSizes b.columnWidths))
  let report := report.structural a.title "row_heights"
    (sameDict (setSizes a.rowHeights) (setSizes b.rowHeights))
    (.heights (setSizes a.rowHeights)) (.heights (setSizes b.rowHeights))
  report.structural a.title "data_validations" (sameTexts a.validations b.validations)
    (.ranges (sortedTexts a.validations)) (.ranges (sortedTexts b.validations))

/-- Compare the defined names. -/
def checkDefinedNames (a b : Workbook) (report : VerifyReport) : VerifyReport :=
  report.structural "<workbook>" "defined_names" (sameDict a.definedNames b.definedNames)
    (.names a.definedNames) (.names b.definedNames)

/-- The sheets that only one of the workbooks has. -/
def checkSheetnames (a b : Workbook) (report : VerifyReport) : VerifyReport :=
  let missing := sortedTexts (a.sheetnames.filter (· ∉ b.sheetnames))
  let added := sortedTexts (b.sheetnames.filter (· ∉ a.sheetnames))
  if sameTexts a.sheetnames b.sheetnames then report
  else report.refuse
    (missing.map
        (fun title => ⟨title, "-", "sheet", .note "present", .note "removed", "structural"⟩) ++
      added.map
        fun title => ⟨title, "-", "sheet", .note "absent", .note "added", "structural"⟩)

/-- The sheets of one title.  Of a chart sheet there are no rows to go through. -/
def compareSheet (allowed : List (String × Allowed)) (a b : Workbook) (report : VerifyReport)
    (title : String) : Except Failure VerifyReport := do
  let wsA ← a.worksheet title
  let wsB ← b.worksheet title
  let sheetAllowed := (allowed.lookup title).getD .nothing
  return checkStructural wsA wsB
    ((usedCellCoords wsA wsB).foldl (compareCell sheetAllowed wsA wsB) report)

/-- The names of the sheets that both workbooks have, sorted. -/
def commonSheets (a b : Workbook) : List String :=
  sortedTexts (a.sheetnames.filter (· ∈ b.sheetnames))

/-- Compare two workbooks. -/
def compareWorkbooks (allowed : List (String × Allowed)) (a b : Workbook) :
    Except Failure VerifyReport := do
  let report ← (commonSheets a b).foldlM (compareSheet allowed a b) (checkSheetnames a b {})
  return { checkDefinedNames a b report with sheetsCompared := (commonSheets a b).length }

/-- The report on a mapping that cannot be resolved. -/
def unresolvedReport (message : String) : VerifyReport :=
  { VerifyReport.refuse {} [⟨"<config>", "-", "mapping", .note "resolvable", .note message,
      "structural"⟩] with
    notes := ["Mapping could not be resolved unambiguously; cannot prove the " ++
      "frozen set. Treated as FAIL (fail-closed)."] }

/-- `verify`, on workbooks that have been loaded. -/
def verify (py : Python) (config : MappingConfig) (a b : Workbook) : Except Failure VerifyReport :=
  match buildAllowed py config a with
  | .error (.mappingError message) => .ok (unresolvedReport message)
  | .error failure => .error failure
  | .ok allowed => compareWorkbooks allowed a b

/-! ## What is compared -/

/-- The cell may change: it is in a target column of a sheet that is processed, in a row of data. -/
def IsTarget (py : Python) (config : MappingConfig) (ws : Worksheet) (row col : ℕ) : Prop :=
  config.processes ws = true ∧ ∃ block mapped, detectHeader py ws config = .ok block ∧
    resolveColumns py ws config block = .ok mapped ∧ block.dataStartRow ≤ row ∧
    col ∈ mapped.allTargets.map MappedColumn.colIndex

/-- The values hold the same and are of one type. -/
def SameTyped (v w : Option CellValue) : Prop :=
  SameHeld v w ∧ v.map CellValue.dataType = w.map CellValue.dataType

/-- Two cells agree, with their values compared in some way. -/
structure CellsAgree (same : Option CellValue → Option CellValue → Prop) (a b : Cell) : Prop where
  value : same a.value b.value
  numberFormat : a.numberFormat = b.numberFormat
  hyperlink : a.hyperlink = b.hyperlink

/-- Two sheets agree in what they have besides cells. -/
structure FramesAgree (a b : SheetFrame) : Prop where
  mergedRanges : ∀ r, r ∈ a.mergedRanges ↔ r ∈ b.mergedRanges
  columnWidths : ∀ k, (setSizes a.columnWidths).lookup k = (setSizes b.columnWidths).lookup k
  rowHeights : ∀ k, (setSizes a.rowHeights).lookup k = (setSizes b.rowHeights).lookup k
  validations : ∀ r, r ∈ a.validations ↔ r ∈ b.validations

/-- Two workbooks agree everywhere but in the cells that may change. -/
structure Intact (same : Option CellValue → Option CellValue → Prop) (py : Python)
    (config : MappingConfig) (a b : Workbook) : Prop where
  sheetnames : ∀ title, title ∈ a.sheetnames ↔ title ∈ b.sheetnames
  frozen : ∀ wsA ∈ a.worksheets, ∀ wsB ∈ b.worksheets, wsA.title = wsB.title → ∀ row col,
    ¬ IsTarget py config wsA row col → CellsAgree same (wsA.cells row col) (wsB.cells row col)
  frames : ∀ wsA ∈ a.worksheets, ∀ wsB ∈ b.worksheets, wsA.title = wsB.title →
    FramesAgree wsA.toSheetFrame wsB.toSheetFrame
  definedNames : ∀ name, a.definedNames.lookup name = b.definedNames.lookup name

/-- No sheet that the workbooks share is a chart sheet in one of them. -/
def ChartsApart (a b : Workbook) : Prop :=
  ∀ title ∈ a.sheetnames, title ∈ b.sheetnames → title ∉ a.chartsheets ∧ title ∉ b.chartsheets

/-- No cell that may not change holds an object. -/
def ObjectFree (py : Python) (config : MappingConfig) (a : Workbook) : Prop :=
  ∀ ws ∈ a.worksheets, ∀ row col, ¬ IsTarget py config ws row col →
    holdsObject (ws.cells row col).value = false

/-! ## One comparison after the other -/

section Comparisons

variable {report : VerifyReport} {a b : Worksheet} {allowed : Allowed}

lemma ok_structural {sheet field : String} {same : Bool} {old new : Shown} :
    (report.structural sheet field same old new).ok = true ↔
      report.ok = true ∧ same = true := by
  unfold VerifyReport.structural
  cases same <;> simp [VerifyReport.refuse]

lemma diffFields_eq_nil {a b : Cell} : diffFields a b = [] ↔ CellsAgree SameForPython a b := by
  constructor
  · intro h
    simp only [diffFields, List.append_eq_nil_iff, ite_eq_right_iff, List.cons_ne_self,
      imp_false, ne_eq, not_not] at h
    exact ⟨h.1.1, h.1.2, h.2⟩
  · rintro ⟨hvalue, hformat, hlink⟩
    simp [diffFields, hvalue, hformat, hlink]

lemma ok_compareCell (place : ℕ × ℕ) : (compareCell allowed a b report place).ok = true ↔
    report.ok = true ∧ (allowed.isTargetCell place.2 place.1 = true ∨
      CellsAgree SameForPython (a.cells place.1 place.2) (b.cells place.1 place.2)) := by
  rw [← diffFields_eq_nil]
  unfold compareCell
  by_cases htarget : allowed.isTargetCell place.2 place.1 = true
  · by_cases hsame : diffFields (a.cells place.1 place.2) (b.cells place.1 place.2) = []
    · simp [htarget, hsame]
    · simp [htarget, hsame]
  · by_cases hsame : diffFields (a.cells place.1 place.2) (b.cells place.1 place.2) = []
    · simp [htarget, hsame]
    · simp [htarget, hsame, VerifyReport.refuse]

/-- Cells that are not worth comparing are alike. -/
lemma agree_of_unused {a b : Cell} (ha : a.used = false) (hb : b.used = false) :
    CellsAgree SameForPython a b := by
  simp only [Cell.used, Bool.or_eq_false_iff] at ha hb
  obtain ⟨⟨⟨hvalueA, hlinkA⟩, -⟩, hstyleA⟩ := ha
  obtain ⟨⟨⟨hvalueB, hlinkB⟩, -⟩, hstyleB⟩ := hb
  rw [Option.isSome_eq_false_iff, Option.isNone_iff_eq_none] at hvalueA hlinkA hvalueB hlinkB
  exact ⟨⟨by rw [SameHeld, hvalueA, hvalueB], by rw [hvalueA]; rfl⟩,
    (a.unstyled hstyleA).trans (b.unstyled hstyleB).symm, hlinkA.trans hlinkB.symm⟩

lemma used_of_blank {ws : Worksheet} {row col : ℕ}
    (h : ¬ (0 < row ∧ row ≤ ws.maxRow ∧ 0 < col ∧ col ≤ ws.maxColumn)) :
    (ws.cells row col).used = false := by
  rw [ws.blank_outside row col h]
  rfl

/-- At the places that are left out the cells are alike. -/
lemma agree_of_not_mem {row col : ℕ} (h : (row, col) ∉ usedCellCoords a b) :
    CellsAgree SameForPython (a.cells row col) (b.cells row col) := by
  simp only [usedCellCoords, List.mem_filter, List.mem_flatMap, List.mem_map, List.mem_range'_1,
    not_and, Bool.or_eq_true, not_or, Bool.not_eq_true] at h
  by_cases hin : 0 < row ∧ row ≤ max a.maxRow b.maxRow ∧ 0 < col ∧ col ≤ max a.maxColumn b.maxColumn
  · have hplaces := h ⟨row, ⟨by omega, by omega⟩, col, ⟨by omega, by omega⟩, rfl⟩
    exact agree_of_unused hplaces.1 hplaces.2
  · exact agree_of_unused (used_of_blank (by omega)) (used_of_blank (by omega))

/-- **Cells.**  The comparison of the cells of two sheets finds nothing exactly if all of them agree
that may not change. -/
theorem ok_compareCells :
    ((usedCellCoords a b).foldl (compareCell allowed a b) report).ok = true ↔
      report.ok = true ∧ ∀ row col, allowed.isTargetCell col row = false →
        CellsAgree SameForPython (a.cells row col) (b.cells row col) := by
  rw [foldl_flag_iff (fun r place => ok_compareCell place)]
  refine and_congr_right fun _ => ⟨fun h row col hfrozen => ?_, fun h place _ => ?_⟩
  · by_cases hmem : (row, col) ∈ usedCellCoords a b
    · rcases h _ hmem with htarget | hagree
      · rw [hfrozen] at htarget
        exact absurd htarget Bool.false_ne_true
      · exact hagree
    · exact agree_of_not_mem hmem
  · cases htarget : allowed.isTargetCell place.2 place.1 with
    | true => exact .inl rfl
    | false => exact .inr (h _ _ htarget)

lemma sameTexts_iff {l m : List String} : sameTexts l m = true ↔ ∀ s, s ∈ l ↔ s ∈ m := by
  simp only [sameTexts, Bool.and_eq_true, List.all_eq_true, decide_eq_true_eq]
  exact ⟨fun h s => ⟨h.1 s, h.2 s⟩, fun h => ⟨fun s => (h s).mp, fun s => (h s).mpr⟩⟩

lemma sameDict_iff {κ ν : Type} [DecidableEq κ] [DecidableEq ν] {l m : List (κ × ν)} :
    sameDict l m = true ↔ ∀ k, l.lookup k = m.lookup k := by
  simp only [sameDict, List.all_eq_true, decide_eq_true_eq, List.mem_append]
  constructor
  · intro h k
    by_cases hk : ∃ v, (k, v) ∈ l ∨ (k, v) ∈ m
    · obtain ⟨v, hv⟩ := hk
      exact h (k, v) hv
    · have hnone : ∀ d : List (κ × ν), (∀ v, (k, v) ∉ d) → d.lookup k = none := by
        intro d hd
        rw [List.lookup_eq_none_iff]
        rintro ⟨k', v⟩ hmem
        refine bne_iff_ne.mpr ?_
        rintro rfl
        exact hd v hmem
      rw [hnone l fun v hv => hk ⟨v, .inl hv⟩, hnone m fun v hv => hk ⟨v, .inr hv⟩]
  · exact fun h entry _ => h entry.1

lemma ok_checkStructural : (checkStructural a b report).ok = true ↔
    report.ok = true ∧ FramesAgree a.toSheetFrame b.toSheetFrame := by
  simp only [checkStructural, ok_structural, sameTexts_iff, sameDict_iff, and_assoc]
  refine and_congr_right fun _ => ⟨fun h => ⟨h.1, h.2.1, h.2.2.1, h.2.2.2⟩, fun h => ?_⟩
  exact ⟨h.mergedRanges, h.columnWidths, h.rowHeights, h.validations⟩

end Comparisons

/-! ## The whole comparison -/

section Whole

variable {py : Python} {config : MappingConfig} {a b : Workbook} {report : VerifyReport}
  {allowed : List (String × Allowed)}

lemma ok_checkSheetnames : (checkSheetnames a b report).ok = true ↔
    report.ok = true ∧ ∀ title, title ∈ a.sheetnames ↔ title ∈ b.sheetnames := by
  rw [← sameTexts_iff, checkSheetnames]
  split_ifs with hsame
  · simp [hsame]
  · simp [hsame, VerifyReport.refuse]

lemma ok_compareSheet {title : String} {report' : VerifyReport}
    (h : compareSheet allowed a b report title = .ok report') : report'.ok = true ↔
    report.ok = true ∧ ∀ wsA wsB, a.sheet? title = some wsA → b.sheet? title = some wsB →
      (∀ row col, ((allowed.lookup title).getD .nothing).isTargetCell col row = false →
        CellsAgree SameForPython (wsA.cells row col) (wsB.cells row col)) ∧
      FramesAgree wsA.toSheetFrame wsB.toSheetFrame := by
  obtain ⟨wsA, hA, h⟩ := Except.bind_eq_ok.mp h
  obtain ⟨wsB, hB, h⟩ := Except.bind_eq_ok.mp h
  obtain rfl := Except.ok.inj h
  rw [Workbook.worksheet_eq_ok] at hA hB
  rw [ok_checkStructural, ok_compareCells, and_assoc]
  refine and_congr_right fun _ => ⟨fun h wsA' wsB' hA' hB' => ?_, fun h => h wsA wsB hA hB⟩
  obtain rfl := Option.some.inj (hA.symm.trans hA')
  obtain rfl := Option.some.inj (hB.symm.trans hB')
  exact h

lemma mem_commonSheets {title : String} :
    title ∈ commonSheets a b ↔ title ∈ a.sheetnames ∧ title ∈ b.sheetnames := by
  simp [commonSheets, sortedTexts]

/-- Two sheets of one title are compared exactly if they are worksheets. -/
lemma compareSheet_isOk {title : String} (h : title ∈ commonSheets a b) :
    (∃ report', compareSheet allowed a b report title = .ok report') ↔
      title ∉ a.chartsheets ∧ title ∉ b.chartsheets := by
  obtain ⟨hA, hB⟩ := mem_commonSheets.mp h
  rw [← Workbook.sheet?_of_not_chartsheet hA, ← Workbook.sheet?_of_not_chartsheet hB]
  constructor
  · rintro ⟨report', h⟩
    obtain ⟨wsA, hA, h⟩ := Except.bind_eq_ok.mp h
    obtain ⟨wsB, hB, -⟩ := Except.bind_eq_ok.mp h
    exact ⟨⟨wsA, Workbook.worksheet_eq_ok.mp hA⟩, ⟨wsB, Workbook.worksheet_eq_ok.mp hB⟩⟩
  · rintro ⟨⟨wsA, hA⟩, ⟨wsB, hB⟩⟩
    exact ⟨_, Except.bind_eq_ok.mpr ⟨wsA, Workbook.worksheet_eq_ok.mpr hA,
      Except.bind_eq_ok.mpr ⟨wsB, Workbook.worksheet_eq_ok.mpr hB, rfl⟩⟩⟩

lemma mem_targetCols {block : HeaderBlock} {mapped : MappedColumns} {col : ℕ} :
    col ∈ (Allowed.ofMapped block mapped).targetCols ↔
      col ∈ mapped.allTargets.map MappedColumn.colIndex := by
  simp only [Allowed.targetCols, Allowed.ofMapped, MappedColumns.allTargets, List.map_append,
    List.map_map, List.mem_append, Function.comp_def]
  tauto

/-- What is allowed on a sheet is what the resolved columns of the sheet allow. -/
lemma isTargetCell_iff {ws : Worksheet} {on : Allowed} (h : allowedOn py config ws = .ok on)
    (row col : ℕ) : on.isTargetCell col row = true ↔ IsTarget py config ws row col := by
  unfold allowedOn at h
  split_ifs at h with hprocesses
  · obtain ⟨block, hblock, h⟩ := Except.bind_eq_ok.mp h
    obtain ⟨mapped, hmapped, h⟩ := Except.bind_eq_ok.mp h
    obtain rfl := Except.ok.inj h
    have htarget : (Allowed.ofMapped block mapped).isTargetCell col row =
        (decide (col ∈ (Allowed.ofMapped block mapped).targetCols) &&
          (decide (block.dataStartRow ≤ row) && decide (row ∉ block.headerRows))) := rfl
    simp only [htarget, Bool.and_eq_true, decide_eq_true_eq, mem_targetCols]
    constructor
    · rintro ⟨hcol, hrow, -⟩
      exact ⟨hprocesses, block, mapped, hblock, hmapped, hrow, hcol⟩
    · rintro ⟨-, block', mapped', hblock', hmapped', hrow, hcol⟩
      rw [hblock] at hblock'
      obtain rfl := Except.ok.inj hblock'
      rw [hmapped] at hmapped'
      obtain rfl := Except.ok.inj hmapped'
      refine ⟨hcol, hrow, fun hheader => ?_⟩
      -- the data begin below the header
      have hbelow := block.below row hheader
      omega
  · obtain rfl := Except.ok.inj h
    refine iff_of_false (by simp [Allowed.isTargetCell, Allowed.nothing, Allowed.targetCols]) ?_
    exact fun htarget => hprocesses htarget.1

lemma lookup_mapM {l : List Worksheet} {allowed : List (String × Allowed)}
    (hnodup : (l.map fun ws : Worksheet => ws.title).Nodup)
    (h : (l.mapM fun ws => do
      let allowed ← allowedOn py config ws
      return (ws.title, allowed) : Except Failure _) = .ok allowed) {ws : Worksheet}
    (hws : ws ∈ l) :
    ∃ on, allowed.lookup ws.title = some on ∧ allowedOn py config ws = .ok on := by
  induction l generalizing allowed with
  | nil => exact absurd hws List.not_mem_nil
  | cons first rest ih =>
    rw [List.mapM_cons] at h
    obtain ⟨entry, hentry, h⟩ := Except.bind_eq_ok.mp h
    obtain ⟨on, hon, hpair⟩ := Except.bind_eq_ok.mp hentry
    obtain rfl := Except.ok.inj hpair
    obtain ⟨entries, hentries, h⟩ := Except.bind_eq_ok.mp h
    obtain rfl := Except.ok.inj h
    rw [List.map_cons, List.nodup_cons] at hnodup
    rcases List.mem_cons.mp hws with rfl | hws
    · exact ⟨on, List.lookup_cons_self, hon⟩
    · have hne : (ws.title == first.title) = false := by
        refine beq_eq_false_iff_ne.mpr fun heq => hnodup.1 ?_
        rw [← heq]
        exact List.mem_map_of_mem hws
      obtain ⟨on', hlookup, hon'⟩ := ih hnodup.2 hentries hws
      refine ⟨on', ?_, hon'⟩
      rw [List.lookup_cons, hne]
      exact hlookup

lemma compareWorkbooks_eq_ok : compareWorkbooks allowed a b = .ok report ↔ ∃ compared,
    (commonSheets a b).foldlM (compareSheet allowed a b) (checkSheetnames a b {}) = .ok compared ∧
    { checkDefinedNames a b compared with
      sheetsCompared := (commonSheets a b).length } = report := by
  rw [compareWorkbooks, Except.bind_eq_ok]
  simp only [pure, Except.pure, Except.ok.injEq]

/-- **Reports.**  There is a report exactly if no sheet that the workbooks share is a chart sheet.
-/
theorem compareWorkbooks_isOk :
    (∃ report, compareWorkbooks allowed a b = .ok report) ↔ ChartsApart a b := by
  have hall : ChartsApart a b ↔ ∀ title ∈ commonSheets a b,
      title ∉ a.chartsheets ∧ title ∉ b.chartsheets := by
    simp only [mem_commonSheets, and_imp, ChartsApart]
  have hfold : (∃ compared, (commonSheets a b).foldlM (compareSheet allowed a b)
      (checkSheetnames a b {}) = .ok compared) ↔ ∀ title ∈ commonSheets a b,
        title ∉ a.chartsheets ∧ title ∉ b.chartsheets :=
    foldlM_isOk_iff fun _ _ htitle => compareSheet_isOk htitle
  rw [hall, ← hfold]
  constructor
  · rintro ⟨report, h⟩
    obtain ⟨compared, h, -⟩ := compareWorkbooks_eq_ok.mp h
    exact ⟨compared, h⟩
  · rintro ⟨compared, h⟩
    exact ⟨_, compareWorkbooks_eq_ok.mpr ⟨compared, h, rfl⟩⟩

/-- **The verifier.**  Once the columns are resolved, it finds nothing exactly if the workbooks
agree everywhere but in the cells that may change, with values compared as Python does. -/
theorem ok_compareWorkbooks (h : buildAllowed py config a = .ok allowed)
    (hreport : compareWorkbooks allowed a b = .ok report) :
    report.ok = true ↔ Intact SameForPython py config a b := by
  obtain ⟨compared, hcompared, rfl⟩ := compareWorkbooks_eq_ok.mp hreport
  have hsheets : compared.ok = true ↔ _ :=
    foldlM_flag_iff (fun _ _ _ _ hsheet => ok_compareSheet hsheet) hcompared
  have hnames : ∀ {c : Workbook} {ws : Worksheet}, ws ∈ c.worksheets → ws.title ∈ c.sheetnames :=
    fun hws => List.mem_append_left _ (List.mem_map_of_mem hws)
  change (checkDefinedNames a b compared).ok = true ↔ _
  rw [checkDefinedNames, ok_structural, hsheets, ok_checkSheetnames, sameDict_iff]
  constructor
  · rintro ⟨⟨⟨-, hsame⟩, hall⟩, hdefined⟩
    refine ⟨hsame, fun wsA hA wsB hB htitle row col hfrozen => ?_,
      fun wsA hA wsB hB htitle => ?_, hdefined⟩
    · have hcommon := mem_commonSheets.mpr ⟨hnames hA, (hsame _).mp (hnames hA)⟩
      obtain ⟨on, hlookup, hon⟩ := lookup_mapM a.worksheets_nodup h hA
      refine (hall _ hcommon wsA wsB (Workbook.sheet?_eq_some.mpr ⟨hA, rfl⟩)
        (Workbook.sheet?_eq_some.mpr ⟨hB, htitle.symm⟩)).1 row col ?_
      rw [hlookup, Option.getD_some, ← Bool.not_eq_true, isTargetCell_iff hon]
      exact hfrozen
    · have hcommon := mem_commonSheets.mpr ⟨hnames hA, (hsame _).mp (hnames hA)⟩
      exact (hall _ hcommon wsA wsB (Workbook.sheet?_eq_some.mpr ⟨hA, rfl⟩)
        (Workbook.sheet?_eq_some.mpr ⟨hB, htitle.symm⟩)).2
  · intro hintact
    refine ⟨⟨⟨rfl, hintact.sheetnames⟩, fun title _ wsA wsB hA hB => ?_⟩, hintact.definedNames⟩
    obtain ⟨hmemA, rfl⟩ := Workbook.sheet?_eq_some.mp hA
    obtain ⟨hmemB, htitle⟩ := Workbook.sheet?_eq_some.mp hB
    refine ⟨fun row col hfrozen => ?_, hintact.frames wsA hmemA wsB hmemB htitle.symm⟩
    obtain ⟨on, hlookup, hon⟩ := lookup_mapM a.worksheets_nodup h hmemA
    refine hintact.frozen wsA hmemA wsB hmemB htitle.symm row col ?_
    rw [hlookup, Option.getD_some, ← Bool.not_eq_true, isTargetCell_iff hon] at hfrozen
    exact hfrozen

lemma verify_of_resolves (h : buildAllowed py config a = .ok allowed) :
    verify py config a b = compareWorkbooks allowed a b := by
  rw [verify, h]

end Whole

/-! ## Types -/

section Types

variable {py : Python} {config : MappingConfig} {a b : Workbook}

/-- Values of frozen cells that hold the same are of one type. -/
def TypesTold (py : Python) (config : MappingConfig) (a b : Workbook) : Prop :=
  ∀ wsA ∈ a.worksheets, ∀ wsB ∈ b.worksheets, wsA.title = wsB.title → ∀ row col,
    ¬ IsTarget py config wsA row col →
    SameHeld (wsA.cells row col).value (wsB.cells row col).value →
    (wsA.cells row col).value.map CellValue.dataType =
      (wsB.cells row col).value.map CellValue.dataType

lemma Intact.mono {same same' : Option CellValue → Option CellValue → Prop}
    (h : Intact same py config a b) (hsame : ∀ v w, same v w → same' v w) :
    Intact same' py config a b where
  sheetnames := h.sheetnames
  frozen wsA hA wsB hB htitle row col hfrozen :=
    have hagree := h.frozen wsA hA wsB hB htitle row col hfrozen
    ⟨hsame _ _ hagree.value, hagree.numberFormat, hagree.hyperlink⟩
  frames := h.frames
  definedNames := h.definedNames

lemma Intact.tell_types (h : Intact SameHeld py config a b) :
    Intact SameTyped py config a b ↔ TypesTold py config a b := by
  constructor
  · intro htyped wsA hA wsB hB htitle row col hfrozen _
    exact (htyped.frozen wsA hA wsB hB htitle row col hfrozen).value.2
  · intro htold
    refine ⟨h.sheetnames, fun wsA hA wsB hB htitle row col hfrozen => ?_, h.frames, h.definedNames⟩
    have hagree := h.frozen wsA hA wsB hB htitle row col hfrozen
    exact ⟨⟨hagree.value, htold wsA hA wsB hB htitle row col hfrozen hagree.value⟩,
      hagree.numberFormat, hagree.hyperlink⟩

/-- Each worksheet has one to be compared with. -/
lemma ChartsApart.counterpart (hcharts : ChartsApart a b)
    (hnames : ∀ title, title ∈ a.sheetnames ↔ title ∈ b.sheetnames) {ws : Worksheet}
    (hws : ws ∈ a.worksheets) : ∃ ws' ∈ b.worksheets, ws.title = ws'.title := by
  have hA : ws.title ∈ a.sheetnames := List.mem_append_left _ (List.mem_map_of_mem hws)
  have hB := (hnames _).mp hA
  obtain ⟨ws', hws'⟩ := (Workbook.sheet?_of_not_chartsheet hB).mpr (hcharts _ hA hB).2
  obtain ⟨hmem, htitle⟩ := Workbook.sheet?_eq_some.mp hws'
  exact ⟨ws', hmem, htitle.symm⟩

/-- What agrees is taken for equal exactly if there are no objects in it. -/
lemma Intact.tell_objects (h : Intact SameHeld py config a b) (hcharts : ChartsApart a b) :
    Intact SameForPython py config a b ↔ ObjectFree py config a := by
  constructor
  · intro hequal ws hws row col hfrozen
    obtain ⟨ws', hws', htitle⟩ := hcharts.counterpart h.sheetnames hws
    exact (hequal.frozen ws hws ws' hws' htitle row col hfrozen).value.2
  · intro hfree
    refine ⟨h.sheetnames, fun wsA hA wsB hB htitle row col hfrozen => ?_, h.frames, h.definedNames⟩
    have hagree := h.frozen wsA hA wsB hB htitle row col hfrozen
    exact ⟨⟨hagree.value, hfree wsA hA row col hfrozen⟩, hagree.numberFormat, hagree.hyperlink⟩

/-- **Types.**  There is a report and its verdict is that on values that hold the same and are of
one type, exactly if no shared sheet is a chart sheet and, unless something else differs that may
not, there are frozen values that hold the same in different types just when there are frozen
objects. -/
theorem verdict_tells_types_iff {allowed : List (String × Allowed)}
    (hresolves : buildAllowed py config a = .ok allowed) :
    (∃ report, verify py config a b = .ok report ∧
      (report.ok = true ↔ Intact SameTyped py config a b)) ↔
    ChartsApart a b ∧
      (Intact SameHeld py config a b → (TypesTold py config a b ↔ ObjectFree py config a)) := by
  rw [verify_of_resolves hresolves]
  have hverdict : ∀ report, compareWorkbooks allowed a b = .ok report → ChartsApart a b →
      ((report.ok = true ↔ Intact SameTyped py config a b) ↔ (Intact SameHeld py config a b →
        (TypesTold py config a b ↔ ObjectFree py config a))) := by
    intro report hreport hcharts
    rw [ok_compareWorkbooks hresolves hreport]
    by_cases hsame : Intact SameHeld py config a b
    · rw [hsame.tell_objects hcharts, hsame.tell_types]
      simp only [hsame, true_imp_iff, iff_comm]
    · have hequal : ¬ Intact SameForPython py config a b :=
        fun h => hsame (h.mono fun _ _ hvalue => hvalue.1)
      have htyped : ¬ Intact SameTyped py config a b :=
        fun h => hsame (h.mono fun _ _ hvalue => hvalue.1)
      simp only [hequal, htyped, hsame, false_imp_iff]
  constructor
  · rintro ⟨report, hreport, hiff⟩
    have hcharts := compareWorkbooks_isOk.mp ⟨report, hreport⟩
    exact ⟨hcharts, (hverdict report hreport hcharts).mp hiff⟩
  · rintro ⟨hcharts, htold⟩
    obtain ⟨report, hreport⟩ := compareWorkbooks_isOk.mpr hcharts
    exact ⟨report, hreport, (hverdict report hreport hcharts).mpr htold⟩

end Types

/-! ### A truth value and a number -/

/-- A sheet that the configuration below does not name, with one value. -/
def notesSheet (v : CellValue) : Worksheet := (Worksheet.empty "Notes").put 1 1 (.ofValue v)

/-- A workbook whose one frozen cell has the given value. -/
def notesWorkbook (v : CellValue) : Workbook where
  worksheets := [notesSheet v]
  chartsheets := []
  definedNames := []
  titles_nodup := List.nodup_singleton _

/-- A mapping that finds no columns. -/
def productsConfig : MappingConfig where
  sheets := [⟨"Products", []⟩]

lemma buildAllowed_notes (v : CellValue) :
    buildAllowed plainPython productsConfig (notesWorkbook v) = .ok [("Notes", .nothing)] := by
  simp [buildAllowed, notesWorkbook, allowedOn, MappingConfig.processes,
    MappingConfig.matchesProcessedSheet, productsConfig, notesSheet, Worksheet.empty]

theorem verdict_tells_types_notes : ∃ v w : CellValue,
    (∃ report, verify plainPython productsConfig (notesWorkbook v) (notesWorkbook w) = .ok report ∧
      (report.ok = true ↔
        Intact SameTyped plainPython productsConfig (notesWorkbook v) (notesWorkbook w))) ↔
    ChartsApart (notesWorkbook v) (notesWorkbook w) ∧
      (Intact SameHeld plainPython productsConfig (notesWorkbook v) (notesWorkbook w) →
        (TypesTold plainPython productsConfig (notesWorkbook v) (notesWorkbook w) ↔
          ObjectFree plainPython productsConfig (notesWorkbook v))) :=
  ⟨.int 1, .int 1, verdict_tells_types_iff (buildAllowed_notes _)⟩

lemma cells_notesSheet (v : CellValue) (row col : ℕ) : (notesSheet v).cells row col =
    if row = 1 ∧ col = 1 then .ofValue v else Cell.blank := by
  split_ifs with h
  · obtain ⟨rfl, rfl⟩ := h
    exact Worksheet.put_cells_self Nat.one_pos Nat.one_pos
  · exact Worksheet.put_cells_of_ne h

/-- A one that becomes a truth value, on a sheet where nothing may change, is passed. -/
theorem one_passes_for_true :
    (∃ report, verify plainPython productsConfig (notesWorkbook (.int 1))
      (notesWorkbook (.bool true)) = .ok report ∧ report.ok = true) ∧
    ¬ Intact SameTyped plainPython productsConfig (notesWorkbook (.int 1))
      (notesWorkbook (.bool true)) := by
  constructor
  -- for Python a one and a true are equal
  · have hcharts : ChartsApart (notesWorkbook (.int 1)) (notesWorkbook (.bool true)) :=
      fun _ _ _ => ⟨List.not_mem_nil, List.not_mem_nil⟩
    obtain ⟨report, hreport⟩ := compareWorkbooks_isOk.mpr hcharts
    refine ⟨report, (verify_of_resolves (buildAllowed_notes _)).trans hreport, ?_⟩
    rw [ok_compareWorkbooks (buildAllowed_notes _) hreport]
    refine ⟨fun _ => Iff.rfl, ?_, ?_, fun _ => rfl⟩
    · intro wsA hA wsB hB _ row col _
      obtain rfl := List.mem_singleton.mp hA
      obtain rfl := List.mem_singleton.mp hB
      rw [cells_notesSheet, cells_notesSheet]
      split_ifs
      · exact ⟨by simp [SameForPython, SameHeld, holdsObject, Cell.ofValue, CellValue.key,
          CellValue.isObject], rfl, rfl⟩
      · exact ⟨⟨rfl, rfl⟩, rfl, rfl⟩
    · intro wsA hA wsB hB _
      obtain rfl := List.mem_singleton.mp hA
      obtain rfl := List.mem_singleton.mp hB
      simp only [notesSheet, Worksheet.put_frame]
      exact ⟨fun _ => Iff.rfl, fun _ => rfl, fun _ => rfl, fun _ => Iff.rfl⟩
  · intro hintact
    -- the sheet is not processed, so that its cell may not change
    have hfrozen : ¬ IsTarget plainPython productsConfig (notesSheet (.int 1)) 1 1 := by
      rintro ⟨hprocesses, -⟩
      simp [MappingConfig.processes, MappingConfig.matchesProcessedSheet, productsConfig,
        notesSheet, Worksheet.empty] at hprocesses
    have hvalue := (hintact.frozen (notesSheet (.int 1)) (List.mem_singleton.mpr rfl)
      (notesSheet (.bool true)) (List.mem_singleton.mpr rfl)
      (by simp [notesSheet, Worksheet.empty]) 1 1 hfrozen).value.2
    simp [cells_notesSheet, Cell.ofValue, CellValue.dataType] at hvalue

end OzonSuite.Excel
