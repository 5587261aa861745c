/-
# Reading the products of a sheet

The rows of a sheet are read for two purposes: as products, to look at them, and as the rows whose
images and titles are pushed to the shop.  Both read the same columns, but each finds the field to
read a column with in a way of its own.
-/
import OzonSuite.Excel.Writer

namespace OzonSuite.Excel

open Lib

/-! ## Products -/

/-- A product that has been read from a row. -/
structure ProductRow where
  sheet : String
  row : ℕ
  sku : Option String
  title : Option String
  listing : Option String
  imagesMain : List ImageCell
  imagesAdditional : List ImageCell
  rawTargets : List (ℕ × Option CellValue)
deriving DecidableEq

section Products

variable (py : Python) (ws : Worksheet) (config : MappingConfig) (mapped : MappedColumns)

/-- The field that the images of a role are extracted with. -/
def extractFieldFor (role : String) : Option FieldSpec :=
  if role = "image_main" then config.imagesMain.head?
  else if role = "image_additional" then config.imagesAdditional.head?
  else none

/-- The text in a column. -/
def columnText (row : ℕ) (mc : Option MappedColumn) : Option String :=
  mc.bind fun mc => (ws.cells row mc.colIndex).value.map py.str

/-- The images in the columns of one role. -/
def extractImages (row : ℕ) (columns : List MappedColumn) (role : String) :
    Except Failure (List ImageCell) :=
  columns.mapM fun mc => parse py ⟨ws.title, row, mc.colIndex, ws.cells row mc.colIndex⟩
    (extractFieldFor config role) (some ws.toSheetFrame)

/-- The product in a row. -/
def extractRow (row : ℕ) : Except Failure ProductRow := do
  let main ← extractImages py ws config row mapped.imagesMain "image_main"
  let additional ← extractImages py ws config row mapped.imagesAdditional "image_additional"
  return {
    sheet := ws.title
    row := row
    sku := columnText py ws row mapped.keyColumn
    title := columnText py ws row mapped.title
    listing := columnText py ws row mapped.listing
    imagesMain := main
    imagesAdditional := additional
    rawTargets := mapped.allTargets.map fun mc => (mc.colIndex, (ws.cells row mc.colIndex).value) }

/-- The products of a sheet, from the first row of data on. -/
def extractRows : Except Failure (List ProductRow) :=
  (List.range' mapped.headerBlock.dataStartRow
    (ws.maxRow + 1 - mapped.headerBlock.dataStartRow)).mapM (extractRow py ws config mapped)

end Products

/-! ## Rows to push -/

/-- A row that is pushed, with the cells that its images are from. -/
structure PushRow where
  row : ℕ
  offerId : String
  imageUrls : List String
  title : Option String
  imageCoords : List String
deriving DecidableEq

section Push

variable (py : Python) (ws : Worksheet) (config : MappingConfig) (mapped : MappedColumns)

/-- The image columns, the main ones first. -/
def imageColumns : List ℕ := (mapped.imagesMain ++ mapped.imagesAdditional).map (·.colIndex)

/-- The field to read an image column with: the first columns that were resolved are taken to belong
to the first fields. -/
def pushFieldFor (colIndex : ℕ) : Option FieldSpec :=
  (((mapped.imagesMain.zip config.imagesMain).find? fun p => p.1.colIndex = colIndex).or
    ((mapped.imagesAdditional.zip config.imagesAdditional).find? fun p =>
      p.1.colIndex = colIndex)).map Prod.snd

/-- The addresses in one cell of a row, with the cell. -/
def pushImages (row col : ℕ) : Except Failure (List (String × String)) := do
  let ic ← parse py ⟨ws.title, row, col, ws.cells row col⟩ (pushFieldFor config mapped col)
    (some ws.toSheetFrame)
  return ((ic.urls.map strip).filter (· ≠ "")).map fun url => (url, coordinate row col)

/-- One row; a row without an offer is skipped. -/
def readRow (offerCol row : ℕ) : Except Failure (Option PushRow) :=
  match ((ws.cells row offerCol).value.map fun v => strip (py.str v)).filter (· ≠ "") with
  | none => .ok none
  | some offerId => do
    let images ← (imageColumns mapped).mapM (pushImages py ws config mapped row)
    return some {
      row := row
      offerId := offerId
      imageUrls := images.flatten.map Prod.fst
      title := columnText py ws row mapped.title
      imageCoords := images.flatten.map Prod.snd }

/-- The rows of data that have an offer, in the column that is given. -/
def readRows (offerCol : ℕ) : Except Failure (List PushRow) := do
  let rows ← (List.range' mapped.headerBlock.dataStartRow
    (ws.maxRow + 1 - mapped.headerBlock.dataStartRow)).mapM (readRow py ws config mapped offerCol)
  return rows.reduceOption

end Push

/-! ## The field of a column -/

/-- A cell is cut up with the delimiters of the field that found its column. -/
def ReadAlike (used : Option FieldSpec) (own : FieldSpec) : Prop :=
  readDelims used = readDelims (some own)

instance (used : Option FieldSpec) (own : FieldSpec) : Decidable (ReadAlike used own) :=
  inferInstanceAs (Decidable (_ = _))

section Found

variable (py : Python) (cells : List HeaderCell)

/-- The column that a field finds. -/
def foundColumn (spec : FieldSpec) : Option ℕ :=
  (resolveOne py cells spec).toOption.bind fun hits => hits.head?.map Hit.col

/-- The fields that find a column, each with its column. -/
def foundFields (specs : List FieldSpec) : List (FieldSpec × ℕ) :=
  specs.filterMap fun spec => (foundColumn py cells spec).map fun col => (spec, col)

/-- The columns that are found. -/
def foundColumns (specs : List FieldSpec) : List ℕ := specs.filterMap (foundColumn py cells)

/-- The field whose place among all fields is that of the column among those that are found. -/
def placedField (specs : List FieldSpec) (col : ℕ) : Option FieldSpec :=
  specs[(foundColumns py cells specs).idxOf col]?

end Found

/-- The writer, the extractor and the push all read the column as the field that found it says. -/
structure ReadsOwn (config : MappingConfig) (mapped : MappedColumns) (role : ColumnRole)
    (roleName : String) (own : FieldSpec) (col : ℕ) : Prop where
  writer : ReadAlike (fieldForRole config role) own
  extractor : ReadAlike (extractFieldFor config roleName) own
  push : ReadAlike (pushFieldFor config mapped col) own

/-- Every image field that finds a column has the delimiters of the first field of its list, and of
the field whose place is that of the column.  A column that a main field finds has its place among
those. -/
def AlignedFields (py : Python) (cells : List HeaderCell) (config : MappingConfig) : Prop :=
  (∀ p ∈ foundFields py cells config.imagesMain,
    ReadAlike config.imagesMain.head? p.1 ∧
      ReadAlike (placedField py cells config.imagesMain p.2) p.1) ∧
  ∀ p ∈ foundFields py cells config.imagesAdditional,
    ReadAlike config.imagesAdditional.head? p.1 ∧
      ReadAlike (if p.2 ∈ foundColumns py cells config.imagesMain
        then placedField py cells config.imagesMain p.2
        else placedField py cells config.imagesAdditional p.2) p.1

section Lemmas

variable {py : Python} {ws : Worksheet} {config : MappingConfig} {cells : List HeaderCell}
  {mapped : MappedColumns}

lemma foundColumn_of_resolvesTo {spec : FieldSpec} {column : Option MappedColumn}
    (h : ResolvesTo py cells spec column) :
    foundColumn py cells spec = column.map MappedColumn.colIndex := by
  unfold foundColumn
  cases hhits : resolveOne py cells spec with
  | error e =>
    -- nothing is found with letters that are not those of a column
    have hnone : ∀ col, ¬ Selects py cells spec col := by
      intro col hsel
      unfold resolveOne at hhits
      unfold Selects at hsel
      split at hhits
      · cases hhits
      · next hindex hletter =>
        simp only [hindex, hletter] at hsel
        rw [hsel] at hhits
        cases hhits
      · cases hhits
    cases column with
    | none => rfl
    | some c => exact absurd ((h c.colIndex).mpr rfl) (hnone _)
  | ok hits =>
    have hsel := resolveOne_ok hhits
    cases hits with
    | nil =>
      cases column with
      | none => rfl
      | some c =>
        obtain ⟨hit, hhit, -⟩ := (hsel c.colIndex).mpr ((h c.colIndex).mpr rfl)
        cases hhit
    | cons hit hits =>
      have hcol := (h hit.col).mp ((hsel hit.col).mp ⟨hit, List.mem_cons_self, rfl⟩)
      exact hcol.symm

/-- The columns of a list of image fields are those that are found. -/
lemma foundColumns_of_resolved {specs : List FieldSpec} {results : List (Option MappedColumn)}
    (h : List.Forall₂ (ResolvesTo py cells) specs results) :
    results.reduceOption.map MappedColumn.colIndex = foundColumns py cells specs := by
  induction h with
  | nil => rfl
  | @cons spec result specs results hspec _ ih =>
    have hfound := foundColumn_of_resolvesTo hspec
    cases result with
    | none =>
      rw [List.reduceOption_cons_of_none, foundColumns, List.filterMap_cons_none hfound]
      exact ih
    | some c =>
      rw [List.reduceOption_cons_of_some, foundColumns, List.filterMap_cons_some hfound,
        List.map_cons, ih]
      rfl

/-- The field that stands beside a column. -/
lemma find?_zip (columns : List MappedColumn) (specs : List FieldSpec)
    (hlen : columns.length ≤ specs.length) (col : ℕ) :
    ((columns.zip specs).find? fun p => p.1.colIndex = col).map Prod.snd =
      if col ∈ columns.map MappedColumn.colIndex
        then specs[(columns.map MappedColumn.colIndex).idxOf col]? else none := by
  induction columns generalizing specs with
  | nil => simp
  | cons c columns ih =>
    cases specs with
    | nil => simp at hlen
    | cons spec specs =>
      by_cases hc : c.colIndex = col
      · simp [hc]
      · have hrest := ih specs (by simpa using hlen)
        simp only [List.zip_cons_cons, List.find?_cons, hc, decide_false, hrest, List.map_cons,
          List.mem_cons, Ne.symm hc, false_or, List.idxOf_cons_ne _ hc, List.getElem?_cons_succ]

lemma pushFieldFor_eq (h : Mapped py ws config mapped) (col : ℕ) :
    let cells := headerCells py ws config mapped.headerBlock.matchRow
    pushFieldFor config mapped col =
      (if col ∈ foundColumns py cells config.imagesMain
        then placedField py cells config.imagesMain col else none).or
      (if col ∈ foundColumns py cells config.imagesAdditional
        then placedField py cells config.imagesAdditional col else none) := by
  obtain ⟨rmain, hmains, hmain⟩ := h.main
  obtain ⟨radditional, hadditionals, hadditional⟩ := h.additional
  have hcolumns := foundColumns_of_resolved hmains
  have hcolumns' := foundColumns_of_resolved hadditionals
  have hlen : mapped.imagesMain.length ≤ config.imagesMain.length := by
    rw [hmain, hmains.length_eq]
    exact List.reduceOption_length_le _
  have hlen' : mapped.imagesAdditional.length ≤ config.imagesAdditional.length := by
    rw [hadditional, hadditionals.length_eq]
    exact List.reduceOption_length_le _
  rw [← hmain] at hcolumns
  rw [← hadditional] at hcolumns'
  simp only [pushFieldFor, Option.map_or, find?_zip _ _ hlen, find?_zip _ _ hlen', hcolumns,
    hcolumns', placedField]

lemma mem_foundFields {specs : List FieldSpec} {p : FieldSpec × ℕ} :
    p ∈ foundFields py cells specs ↔ p.1 ∈ specs ∧ foundColumn py cells p.1 = some p.2 := by
  obtain ⟨spec, col⟩ := p
  simp only [foundFields, List.mem_filterMap, Option.map_eq_some_iff, Prod.mk.injEq]
  constructor
  · rintro ⟨spec', hmem, col', hfound, rfl, rfl⟩
    exact ⟨hmem, hfound⟩
  · rintro ⟨hmem, hfound⟩
    exact ⟨spec, hmem, col, hfound, rfl, rfl⟩

lemma mem_foundColumns {specs : List FieldSpec} {p : FieldSpec × ℕ}
    (h : p ∈ foundFields py cells specs) : p.2 ∈ foundColumns py cells specs := by
  obtain ⟨hmem, hfound⟩ := mem_foundFields.mp h
  exact List.mem_filterMap.mpr ⟨p.1, hmem, hfound⟩

lemma placedField_isSome {specs : List FieldSpec} {col : ℕ}
    (h : col ∈ foundColumns py cells specs) : (placedField py cells specs col).isSome := by
  have hlt : (foundColumns py cells specs).idxOf col < specs.length :=
    (List.idxOf_lt_length_of_mem h).trans_le (List.length_filterMap_le _ _)
  rw [placedField, List.getElem?_eq_getElem hlt]
  rfl

end Lemmas

/-- **The field that found a column reads it.**  The image columns are those that the image fields
find.  The writer, the extractor and the push cut the cells of each up with the delimiters of the
field that found it if and only if every such field has the delimiters of the first field of its
list, and of the field whose place in the list is that of the column among those that are found. -/
theorem image_fields_iff (py : Python) (ws : Worksheet) (config : MappingConfig)
    (headerBlock : HeaderBlock) (mapped : MappedColumns)
    (h : resolveColumns py ws config headerBlock = .ok mapped) :
    let cells := headerCells py ws config headerBlock.matchRow
    mapped.imagesMain.map MappedColumn.colIndex =
        (foundFields py cells config.imagesMain).map Prod.snd ∧
      mapped.imagesAdditional.map MappedColumn.colIndex =
        (foundFields py cells config.imagesAdditional).map Prod.snd ∧
      (((∀ p ∈ foundFields py cells config.imagesMain,
          ReadsOwn config mapped .imageMain "image_main" p.1 p.2) ∧
        ∀ p ∈ foundFields py cells config.imagesAdditional,
          ReadsOwn config mapped .imageAdditional "image_additional" p.1 p.2) ↔
        AlignedFields py cells config) := by
  obtain ⟨rfl, hmapped⟩ := resolveColumns_ok h
  have hpush := pushFieldFor_eq hmapped
  obtain ⟨rmain, hmains, hmain⟩ := hmapped.main
  obtain ⟨radditional, hadditionals, hadditional⟩ := hmapped.additional
  have hsnd : ∀ specs : List FieldSpec, (foundFields py
      (headerCells py ws config mapped.headerBlock.matchRow) specs).map Prod.snd =
        foundColumns py (headerCells py ws config mapped.headerBlock.matchRow) specs := by
    intro specs
    simp only [foundFields, foundColumns, List.map_filterMap, Option.map_map]
    exact List.filterMap_congr fun spec _ => Option.map_id'
  refine ⟨?_, ?_, and_congr (forall₂_congr fun p hp => ?_) (forall₂_congr fun p hp => ?_)⟩
  · rw [hmain, hsnd, foundColumns_of_resolved hmains]
  · rw [hadditional, hsnd, foundColumns_of_resolved hadditionals]
  · -- a main column has its place among the main columns
    have hcol := mem_foundColumns hp
    obtain ⟨field, hfield⟩ := Option.isSome_iff_exists.mp (placedField_isSome hcol)
    have hused : pushFieldFor config mapped p.2 = placedField py
        (headerCells py ws config mapped.headerBlock.matchRow) config.imagesMain p.2 := by
      rw [hpush, if_pos hcol, hfield, Option.some_or]
    constructor
    · rintro ⟨hwriter, -, hpushed⟩
      exact ⟨hwriter, hused ▸ hpushed⟩
    · rintro ⟨hfirst, hplaced⟩
      exact ⟨hfirst, hfirst, hused ▸ hplaced⟩
  · have hcol := mem_foundColumns hp
    have hused : pushFieldFor config mapped p.2 =
        if p.2 ∈ foundColumns py (headerCells py ws config mapped.headerBlock.matchRow)
            config.imagesMain
          then placedField py (headerCells py ws config mapped.headerBlock.matchRow)
            config.imagesMain p.2
          else placedField py (headerCells py ws config mapped.headerBlock.matchRow)
            config.imagesAdditional p.2 := by
      rw [hpush, if_pos hcol]
      split_ifs with hshared
      · obtain ⟨field, hfield⟩ := Option.isSome_iff_exists.mp (placedField_isSome hshared)
        rw [hfield, Option.some_or]
      · rw [Option.none_or]
    constructor
    · rintro ⟨hwriter, -, hpushed⟩
      exact ⟨hwriter, hused ▸ hpushed⟩
    · rintro ⟨hfirst, hplaced⟩
      exact ⟨hfirst, hfirst, hused ▸ hplaced⟩

/-- Two main images: the first is not in the sheet, and the second is read with semicolons. -/
def optionalImageConfig : MappingConfig where
  imagesMain := [{ keywords := [⟨"main", "main"⟩] },
    { index := some 1, readDelimiters := [";"] }]

/-- The only image column there is. -/
def optionalImageColumns : MappedColumns where
  sheet := "S"
  headerBlock := firstRowHeader
  title := none
  listing := none
  imagesMain := [⟨.imageMain, "S", 1, "A", .index, none, none⟩]
  imagesAdditional := []
  targetColIndices := {1}
  keyColumn := none

theorem image_fields_iff_optional :
    (((∀ p ∈ foundFields plainPython (headerCells plainPython (Worksheet.empty "S")
          optionalImageConfig 1) optionalImageConfig.imagesMain,
        ReadsOwn optionalImageConfig optionalImageColumns .imageMain "image_main" p.1 p.2) ∧
      ∀ p ∈ foundFields plainPython (headerCells plainPython (Worksheet.empty "S")
          optionalImageConfig 1) optionalImageConfig.imagesAdditional,
        ReadsOwn optionalImageConfig optionalImageColumns .imageAdditional "image_additional"
          p.1 p.2) ↔
      AlignedFields plainPython (headerCells plainPython (Worksheet.empty "S")
        optionalImageConfig 1) optionalImageConfig) :=
  (image_fields_iff plainPython (Worksheet.empty "S") optionalImageConfig firstRowHeader
    optionalImageColumns (by decide)).2.2

/-- The column of the second field is read with the delimiters of the first. -/
theorem image_field_of_another :
    ∃ p ∈ foundFields plainPython (headerCells plainPython (Worksheet.empty "S")
        optionalImageConfig firstRowHeader.matchRow) optionalImageConfig.imagesMain,
      resolveColumns plainPython (Worksheet.empty "S") optionalImageConfig firstRowHeader =
        .ok optionalImageColumns ∧
      ¬ ReadsOwn optionalImageConfig optionalImageColumns .imageMain "image_main" p.1 p.2 := by
  refine ⟨({ index := some 1, readDelimiters := [";"] }, 1), by decide, by decide, fun h => ?_⟩
  have hwriter := h.writer
  revert hwriter
  decide

end OzonSuite.Excel
