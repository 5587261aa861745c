/-
# Processing a workbook

The workbook is looked over for what gets lost, its sheets are written one after the other, and it
is saved under another name.  The writer touches the cells of target columns in the rows of data
and no others, so that the verifier, which finds out by itself which cells these are, has nothing to
say against the result.  With the transform that changes nothing, the workbook stays as it is
exactly if its titles and listings are texts.
-/
import OzonSuite.Excel.Rewrite
import OzonSuite.Excel.Verifier
import OzonSuite.Excel.Writer

namespace OzonSuite.Excel

open Lib

/-! ## The code -/

section Preflight

/-- A risk of a sheet, if there is any of the content. -/
def riskOf (ws : Worksheet) (count : ℕ) (kind what severity : String) : List Risk :=
  if count = 0 then [] else [⟨ws.title, kind, toString count ++ what, severity⟩]

/-- `preflight`.  Macros are kept whenever they are looked for. -/
def preflight (wb : Workbook) : List Risk :=
  wb.worksheets.flatMap fun ws =>
    riskOf ws ws.images.length "images" " embedded image(s) WILL BE DROPPED by openpyxl on save"
      "high" ++
    riskOf ws ws.charts "charts" " chart(s) WILL BE DROPPED by openpyxl on save" "high" ++
    riskOf ws ws.pivots "pivots" " pivot table(s) may break on save" "medium"

/-- A risk as a line of the report. -/
def riskLine (r : Risk) : String :=
  "[" ++ r.severity ++ "] " ++ (if r.sheet = "" then "<wb>" else r.sheet) ++ ": " ++ r.detail

/-- Risks are noted, or end it all. -/
def checkRisks (config : MappingConfig) (risks : List Risk) : Except Failure Unit :=
  refuseIf (risks ≠ [] ∧ config.policy.onPreflightRisk = .error)
    (Failure.preflightError ("preflight found lossy content; aborting under policy " ++
      "on_preflight_risk=error:\n  " ++ "\n  ".intercalate (risks.map riskLine)) risks)

end Preflight

section Process

variable (py : Python) (config : MappingConfig) (transform : Transform)

/-- A workbook while it is written, with what has been done so far. -/
abbrev Processing := Workbook × ProcessResult

/-- The sheets that are processed. -/
def processedWorksheets (wb : Workbook) : List Worksheet := wb.worksheets.filter config.processes

/-- Process one more sheet. -/
def processNext (s : Processing) (ws : Worksheet) : Except Failure Processing := do
  let (written, result) ← processSheet py config transform (ws, s.2)
  return (s.1.put written, result)

/-- A file as the paths name it: `os.path.abspath` of it, and what is in it. -/
structure Source (File : Type) where
  abspath : String
  file : File

variable {File : Type} (xl : Openpyxl File)

/-- `process`: what has been done, and the file that is written. -/
def process (source : Source File) (outAbspath : String) :
    Except Failure (ProcessResult × File) := do
  refuseIf (source.abspath = outAbspath)
    (Failure.configError "--out must differ from --in (refusing to overwrite the input)")
  let risks := preflight (← xl.load source.file)
  checkRisks config risks
  let wb ← xl.load source.file
  let (written, result) ← (processedWorksheets config wb).foldlM (processNext py config transform)
    (wb, { preflightWarnings := risks })
  return (result, ← xl.save written)

/-- `verify`, on files. -/
def verifyFiles (inFile outFile : File) : Except Failure VerifyReport :=
  match (do buildAllowed py config (← xl.load inFile)) with
  | .error (.mappingError message) => .ok (unresolvedReport message)
  | .error failure => .error failure
  | .ok allowed => do
    let a ← xl.load inFile
    let b ← xl.load outFile
    compareWorkbooks allowed a b

end Process

/-- Only cells of some columns, from some row on, are written. -/
structure WritesOnly (start : ℕ) (targets : List ℕ) (ws ws' : Worksheet) : Prop where
  frame : ws'.toSheetFrame = ws.toSheetFrame
  cells : ∀ row col, ¬ (start ≤ row ∧ col ∈ targets) → ws'.cells row col = ws.cells row col

namespace WritesOnly

variable {start : ℕ} {targets : List ℕ} {ws ws' ws'' : Worksheet}

lemma refl (ws : Worksheet) : WritesOnly start targets ws ws := ⟨rfl, fun _ _ _ => rfl⟩

lemma trans (h : WritesOnly start targets ws ws') (h' : WritesOnly start targets ws' ws'') :
    WritesOnly start targets ws ws'' :=
  ⟨h'.frame.trans h.frame, fun row col hout => (h'.cells row col hout).trans (h.cells row col hout)⟩

lemma put {row col : ℕ} (hrow : start ≤ row) (hcol : col ∈ targets) (cell : Cell) :
    WritesOnly start targets ws (ws.put row col cell) :=
  ⟨Worksheet.put_frame, fun _ _ hout => Worksheet.put_cells_of_ne fun heq =>
    hout ⟨heq.1 ▸ hrow, heq.2 ▸ hcol⟩⟩

end WritesOnly

section Steps

variable {py : Python} {config : MappingConfig} {transform : Transform} {w w' : Writing}
  {start row : ℕ} {targets : List ℕ}

/-- What is done to a text: nothing, if it is covered or stays the same, or it is written. -/
lemma applyText_ok {col : ℕ} {fn : Option String → Except Failure (Option String)}
    {role : ColumnRole} (h : applyText py row col fn role w = .ok w') :
    (w'.1 = w.1 ∧ w'.2.changedCells = w.2.changedCells ∧
      ((w.1.cells row col).merged = true ∨ ∃ new,
        fn ((w.1.cells row col).value.map py.str) = .ok new ∧
        new.map PyKey.chars = (w.1.cells row col).value.map CellValue.key)) ∨
    ∃ new written ref, fn ((w.1.cells row col).value.map py.str) = .ok new ∧
      new.map PyKey.chars ≠ (w.1.cells row col).value.map CellValue.key ∧
      w' = (w.1.put row col written, w.2.noteChange role ref) := by
  unfold applyText at h
  dsimp only at h
  split_ifs at h with hmerged
  · obtain ⟨ref, -, h⟩ := Except.bind_eq_ok.mp h
    obtain rfl := Except.ok.inj h
    exact .inl ⟨rfl, rfl, .inl hmerged⟩
  · obtain ⟨new, hnew, h⟩ := Except.bind_eq_ok.mp h
    split_ifs at h with hsame
    · obtain rfl := Except.ok.inj h
      exact .inl ⟨rfl, rfl, .inr ⟨new, hnew, hsame⟩⟩
    · obtain ⟨written, -, h⟩ := Except.bind_eq_ok.mp h
      obtain ⟨ref, -, h⟩ := Except.bind_eq_ok.mp h
      exact .inr ⟨new, written, ref, hnew, hsame, (Except.ok.inj h).symm⟩

/-- What is done to a cell with images: nothing, or new addresses are written. -/
lemma applyImage_ok {mc : MappedColumn} {role : ColumnRole}
    (h : applyImage py config transform row mc role w = .ok w') :
    (w'.1 = w.1 ∧ w'.2.changedCells = w.2.changedCells) ∨
    ∃ ic newUrls written, parse py ⟨w.1.title, row, mc.colIndex, w.1.cells row mc.colIndex⟩
        (fieldForRole config role) (some w.1.toSheetFrame) = .ok ic ∧
      transform.transformImages ic.urls = .ok newUrls ∧
      serialize (w.1.cells row mc.colIndex) ic newUrls none mc.imageFormHint =
        .ok (written, true) ∧
      w' = (w.1.put row mc.colIndex written, w.2.noteChange role ic.ref) := by
  unfold applyImage at h
  dsimp only at h
  split_ifs at h
  -- a merged cell is noted and left alone
  · obtain ⟨ref, -, h⟩ := Except.bind_eq_ok.mp h
    obtain rfl := Except.ok.inj h
    exact .inl ⟨rfl, rfl⟩
  · obtain ⟨ic, hic, h⟩ := Except.bind_eq_ok.mp h
    split_ifs at h
    · obtain rfl := Except.ok.inj h
      exact .inl ⟨rfl, rfl⟩
    · obtain ⟨newUrls, hurls, h⟩ := Except.bind_eq_ok.mp h
      obtain ⟨⟨written, changed⟩, hserialize, h⟩ := Except.bind_eq_ok.mp h
      dsimp only at h
      split_ifs at h with hchanged
      · subst hchanged
        exact .inr ⟨ic, newUrls, written, hic, hurls, hserialize, (Except.ok.inj h).symm⟩
      · obtain rfl := Except.ok.inj h
        exact .inl ⟨rfl, rfl⟩

lemma applyText_writes {col : ℕ} {fn : Option String → Except Failure (Option String)}
    {role : ColumnRole} (hrow : start ≤ row) (hcol : col ∈ targets)
    (h : applyText py row col fn role w = .ok w') : WritesOnly start targets w.1 w'.1 := by
  obtain ⟨hsheet, -, -⟩ | ⟨-, written, -, -, -, rfl⟩ := applyText_ok h
  · rw [hsheet]
    exact .refl _
  · exact .put hrow hcol written

lemma applyImage_writes {mc : MappedColumn} {role : ColumnRole} (hrow : start ≤ row)
    (hcol : mc.colIndex ∈ targets) (h : applyImage py config transform row mc role w = .ok w') :
    WritesOnly start targets w.1 w'.1 := by
  obtain ⟨hsheet, -⟩ | ⟨-, -, written, -, -, -, rfl⟩ := applyImage_ok h
  · rw [hsheet]
    exact .refl _
  · exact .put hrow hcol written

/-- **Rows.**  A preorder that contains what is done to each target cell of a row relates the two
ends of the row. -/
lemma processRow_relation {mapped : MappedColumns} {R : Writing → Writing → Prop}
    (hrefl : ∀ w, R w w) (htrans : ∀ a b c, R a b → R b c → R a c)
    (hseen : ∀ w : Writing, R w (w.1, { w.2 with rowsSeen := w.2.rowsSeen + 1 }))
    (htitle : ∀ mc ∈ mapped.title, ∀ w w', applyText py row mc.colIndex transform.transformTitle
      .title w = .ok w' → R w w')
    (hlisting : ∀ mc ∈ mapped.listing, ∀ w w', applyText py row mc.colIndex
      transform.transformListing .listing w = .ok w' → R w w')
    (himages : ∀ mc ∈ mapped.imagesMain ++ mapped.imagesAdditional, ∀ role w w',
      applyImage py config transform row mc role w = .ok w' → R w w')
    (h : processRow py config transform mapped w row = .ok w') : R w w' := by
  obtain ⟨w₁, h₁, h⟩ := Except.bind_eq_ok.mp h
  obtain ⟨w₂, h₂, h⟩ := Except.bind_eq_ok.mp h
  obtain ⟨w₃, h₃, h₄⟩ := Except.bind_eq_ok.mp h
  have hto₁ := foldlM_relation hrefl htrans (fun w mc w' hmc =>
    htitle mc (Option.mem_toList.mp hmc) w w') h₁
  have hto₂ := foldlM_relation hrefl htrans (fun w mc w' hmc =>
    hlisting mc (Option.mem_toList.mp hmc) w w') h₂
  have hto₃ := foldlM_relation hrefl htrans (fun w mc w' hmc =>
    himages mc (List.mem_append_left _ hmc) _ w w') h₃
  have hto₄ := foldlM_relation hrefl htrans (fun w mc w' hmc =>
    himages mc (List.mem_append_right _ hmc) _ w w') h₄
  exact htrans _ _ _ (hseen w) (htrans _ _ _ hto₁ (htrans _ _ _ hto₂ (htrans _ _ _ hto₃ hto₄)))

lemma processRow_writes {mapped : MappedColumns} (hrow : start ≤ row)
    (h : processRow py config transform mapped w row = .ok w') :
    WritesOnly start (mapped.allTargets.map MappedColumn.colIndex) w.1 w'.1 := by
  have htarget : ∀ {mc : MappedColumn}, mc ∈ mapped.allTargets →
      mc.colIndex ∈ mapped.allTargets.map MappedColumn.colIndex := List.mem_map_of_mem
  refine processRow_relation (R := fun w w' => WritesOnly start
    (mapped.allTargets.map MappedColumn.colIndex) w.1 w'.1) (fun _ => .refl _)
    (fun _ _ _ => .trans) (fun _ => .refl _) (fun mc hmc _ _ => ?_) (fun mc hmc _ _ => ?_)
    (fun mc hmc _ _ _ => ?_) h
  · exact applyText_writes hrow (htarget (by
      simp [MappedColumns.allTargets, Option.mem_def.mp hmc]))
  · exact applyText_writes hrow (htarget (by
      simp [MappedColumns.allTargets, Option.mem_def.mp hmc]))
  · rw [List.mem_append] at hmc
    exact applyImage_writes hrow (htarget (by simp [MappedColumns.allTargets, hmc]))

/-- The rows of data of a sheet. -/
def dataRows (ws : Worksheet) (block : HeaderBlock) : List ℕ :=
  List.range' block.dataStartRow (ws.maxRow + 1 - block.dataStartRow)

/-- The header and the columns are found, and the rows of data are gone through. -/
lemma processSheet_ok (h : processSheet py config transform w = .ok w') :
    ∃ block mapped w₀, detectHeader py w.1 config = .ok block ∧
      resolveColumns py w.1 config block = .ok mapped ∧ w₀.1 = w.1 ∧
      w₀.2.changedCells = w.2.changedCells ∧
      (dataRows w.1 block).foldlM (processRow py config transform mapped) w₀ = .ok w' := by
  obtain ⟨block, hblock, h⟩ := Except.bind_eq_ok.mp h
  obtain ⟨mapped, hmapped, h⟩ := Except.bind_eq_ok.mp h
  exact ⟨block, mapped, (w.1, { w.2 with
    mappingSummary := w.2.mappingSummary ++ [summarizeMapping py mapped] }), hblock, hmapped, rfl,
    rfl, h⟩

/-- A sheet is written in its target columns, in the rows of data. -/
lemma processSheet_writes (h : processSheet py config transform w = .ok w') :
    ∃ block mapped, detectHeader py w.1 config = .ok block ∧
      resolveColumns py w.1 config block = .ok mapped ∧
      WritesOnly block.dataStartRow (mapped.allTargets.map MappedColumn.colIndex) w.1 w'.1 := by
  obtain ⟨block, mapped, w₀, hblock, hmapped, hw₀, -, h⟩ := processSheet_ok h
  refine ⟨block, mapped, hblock, hmapped, hw₀ ▸ ?_⟩
  exact foldlM_relation (R := fun w w' => WritesOnly block.dataStartRow
    (mapped.allTargets.map MappedColumn.colIndex) w.1 w'.1) (fun _ => .refl _)
    (fun _ _ _ => .trans)
    (fun _ _ _ hrow => processRow_writes (List.mem_range'_1.mp hrow).1) h

end Steps

/-! ## What the whole writes -/

section Sheets

variable {py : Python} {config : MappingConfig} {transform : Transform} {a : Workbook}

/-- What becomes of a sheet: it is written if it is to be processed, and else left. -/
def SheetWritten (py : Python) (config : MappingConfig) (transform : Transform)
    (ws ws' : Worksheet) : Prop :=
  ws' = ws ∨ config.processes ws = true ∧ ∃ result result',
    processSheet py config transform (ws, result) = .ok (ws', result')

/-- The workbook has the sheets of another one, perhaps written. -/
structure SheetsWritten (py : Python) (config : MappingConfig) (transform : Transform)
    (a b : Workbook) : Prop where
  sheetnames : b.sheetnames = a.sheetnames
  chartsheets : b.chartsheets = a.chartsheets
  sheets : ∀ ws' ∈ b.worksheets, ∃ ws ∈ a.worksheets, SheetWritten py config transform ws ws'
  definedNames : b.definedNames = a.definedNames

lemma SheetWritten.title_eq {ws ws' : Worksheet} (h : SheetWritten py config transform ws ws') :
    ws'.title = ws.title := by
  rcases h with rfl | ⟨-, result, result', h⟩
  · rfl
  · obtain ⟨_, _, -, -, hwrites⟩ := processSheet_writes h
    exact congrArg SheetFrame.title hwrites.frame

lemma sheetnames_put (wb : Workbook) (ws : Worksheet) : (wb.put ws).sheetnames = wb.sheetnames := by
  rw [Workbook.put, Workbook.sheetnames, Workbook.sheetnames, List.map_map]
  refine congrArg (· ++ wb.chartsheets) (List.map_congr_left fun old _ => ?_)
  rw [Function.comp_apply]
  split_ifs with h
  · exact h.symm
  · rfl

lemma processNext_written {s s' : Processing} {ws : Worksheet} (hws : ws ∈ a.worksheets)
    (hprocessed : config.processes ws = true) (hs : SheetsWritten py config transform a s.1)
    (h : processNext py config transform s ws = .ok s') :
    SheetsWritten py config transform a s'.1 := by
  obtain ⟨⟨written, result⟩, hwritten, h⟩ := Except.bind_eq_ok.mp h
  obtain rfl := Except.ok.inj h
  refine ⟨(sheetnames_put _ _).trans hs.sheetnames, hs.chartsheets, fun ws' hws' => ?_,
    hs.definedNames⟩
  obtain ⟨old, hold, rfl⟩ := List.mem_map.mp hws'
  split_ifs
  · exact ⟨ws, hws, .inr ⟨hprocessed, _, _, hwritten⟩⟩
  · exact hs.sheets old hold

/-- The sheets of the result are the sheets of the input, written or not. -/
lemma process_written {result result' : ProcessResult} {b : Workbook}
    (h : (processedWorksheets config a).foldlM (processNext py config transform) (a, result) =
      .ok (b, result')) : SheetsWritten py config transform a b := by
  refine foldlM_invariant (I := fun s : Processing => SheetsWritten py config transform a s.1)
    (fun s ws s' hws hs hnext => ?_) h ⟨rfl, rfl, fun ws hws => ⟨ws, hws, .inl rfl⟩, rfl⟩
  obtain ⟨hmem, hprocessed⟩ := List.mem_filter.mp hws
  exact processNext_written hmem hprocessed hs hnext

/-- A sheet agrees with what it was, but in its target cells. -/
lemma SheetWritten.agrees {ws ws' : Worksheet} (h : SheetWritten py config transform ws ws')
    {row col : ℕ} (hfrozen : ¬ IsTarget py config ws row col) :
    ws'.cells row col = ws.cells row col := by
  rcases h with rfl | ⟨hprocessed, result, result', h⟩
  · rfl
  · obtain ⟨block, mapped, hblock, hmapped, hwrites⟩ := processSheet_writes h
    refine hwrites.cells row col fun htarget => hfrozen ?_
    exact ⟨hprocessed, block, mapped, hblock, hmapped, htarget.1, htarget.2⟩

lemma SheetWritten.frame_eq {ws ws' : Worksheet} (h : SheetWritten py config transform ws ws') :
    ws'.toSheetFrame = ws.toSheetFrame := by
  rcases h with rfl | ⟨-, result, result', h⟩
  · rfl
  · obtain ⟨_, _, -, -, hwrites⟩ := processSheet_writes h
    exact hwrites.frame

lemma SheetsWritten.sheet {b : Workbook} (h : SheetsWritten py config transform a b)
    {wsA wsB : Worksheet} (hA : wsA ∈ a.worksheets) (hB : wsB ∈ b.worksheets)
    (htitle : wsA.title = wsB.title) : SheetWritten py config transform wsA wsB := by
  obtain ⟨ws, hws, hwritten⟩ := h.sheets wsB hB
  obtain rfl : ws = wsA := List.inj_on_of_nodup_map a.worksheets_nodup hws hA
    (hwritten.title_eq.symm.trans htitle.symm)
  exact hwritten

/-- Where nothing may change, nothing has. -/
lemma SheetsWritten.intact {b : Workbook} (h : SheetsWritten py config transform a b) :
    Intact Eq py config a b where
  sheetnames title := by rw [h.sheetnames]
  frozen wsA hA wsB hB htitle row col hfrozen := by
    rw [(h.sheet hA hB htitle).agrees hfrozen]
    exact ⟨rfl, rfl, rfl⟩
  frames wsA hA wsB hB htitle := by
    rw [(h.sheet hA hB htitle).frame_eq]
    exact ⟨fun _ => Iff.rfl, fun _ => rfl, fun _ => rfl, fun _ => Iff.rfl⟩
  definedNames name := by rw [h.definedNames]

/-- The columns of a sheet that has been processed can be resolved. -/
lemma allowedOn_of_processed {result result' : ProcessResult} {b : Workbook}
    (h : (processedWorksheets config a).foldlM (processNext py config transform) (a, result) =
      .ok (b, result')) {ws : Worksheet} (hws : ws ∈ a.worksheets) :
    ∃ on, allowedOn py config ws = .ok on := by
  unfold allowedOn
  split_ifs with hprocessed
  · obtain ⟨m, m', -, hnext, -⟩ := foldlM_step_of_mem (R := fun _ _ => True) (fun _ => trivial)
      (fun _ _ _ _ _ => trivial) (fun _ _ _ _ _ => trivial) h
      (List.mem_filter.mpr ⟨hws, hprocessed⟩)
    obtain ⟨_, hsheet, -⟩ := Except.bind_eq_ok.mp hnext
    obtain ⟨block, mapped, hblock, hmapped, -⟩ := processSheet_writes hsheet
    exact ⟨.ofMapped block mapped, by rw [hblock]; simp only [bind, Except.bind, hmapped]; rfl⟩
  · exact ⟨_, rfl⟩

lemma buildAllowed_ok (h : ∀ ws ∈ a.worksheets, ∃ on, allowedOn py config ws = .ok on) :
    ∃ allowed, buildAllowed py config a = .ok allowed := by
  unfold buildAllowed
  generalize a.worksheets = sheets at h ⊢
  induction sheets with
  | nil => exact ⟨[], rfl⟩
  | cons ws rest ih =>
    obtain ⟨on, hon⟩ := h ws List.mem_cons_self
    obtain ⟨entries, hentries⟩ := ih fun ws' hws' => h ws' (List.mem_cons_of_mem ws hws')
    refine ⟨(ws.title, on) :: entries, ?_⟩
    rw [List.mapM_cons]
    exact Except.bind_eq_ok.mpr ⟨(ws.title, on), by rw [hon]; rfl,
      Except.bind_eq_ok.mpr ⟨entries, hentries, rfl⟩⟩

end Sheets

/-! ## The whole run -/

section Run

variable {File : Type} {xl : Openpyxl File} {py : Python} {config : MappingConfig}
  {transform : Transform} {source : Source File} {outAbspath : String} {result : ProcessResult}
  {outFile : File}

/-- What a run consists of. -/
lemma process_ok (h : process py config transform xl source outAbspath = .ok (result, outFile)) :
    ∃ a b, xl.load source.file = .ok a ∧ (processedWorksheets config a).foldlM
      (processNext py config transform) (a, { preflightWarnings := preflight a }) =
        .ok (b, result) ∧ xl.save b = .ok outFile := by
  obtain ⟨_, -, h⟩ := Except.bind_eq_ok.mp h
  obtain ⟨a, ha, h⟩ := Except.bind_eq_ok.mp h
  obtain ⟨_, -, h⟩ := Except.bind_eq_ok.mp h
  obtain ⟨a', ha', h⟩ := Except.bind_eq_ok.mp h
  obtain rfl : a = a' := Except.ok.inj (ha.symm.trans ha')
  obtain ⟨⟨b, result'⟩, hb, h⟩ := Except.bind_eq_ok.mp h
  obtain ⟨file, hfile, h⟩ := Except.bind_eq_ok.mp h
  obtain ⟨rfl, rfl⟩ := Prod.mk.inj (Except.ok.inj h)
  exact ⟨a, b, ha, hb, hfile⟩

/-- What the verifier takes for equal to itself: there are no chart sheets, and no cell that may not
change holds an object. -/
structure Comparable (py : Python) (config : MappingConfig) (a : Workbook) : Prop where
  charts : a.chartsheets = []
  objects : ObjectFree py config a

/-- A workbook that is taken for its own copy shares all of its sheets with it. -/
lemma chartsApart_iff {a b : Workbook} (hnames : b.sheetnames = a.sheetnames)
    (hcharts : b.chartsheets = a.chartsheets) : ChartsApart a b ↔ a.chartsheets = [] := by
  constructor
  · intro hapart
    refine List.eq_nil_iff_forall_not_mem.mpr fun title htitle => ?_
    have hmem : title ∈ a.sheetnames := List.mem_append_right _ htitle
    exact (hapart title hmem (hnames ▸ hmem)).1 htitle
  · intro hnil title _ _
    rw [hcharts, hnil]
    exact ⟨List.not_mem_nil, List.not_mem_nil⟩

/-- A run writes nothing but what may change. -/
lemma process_intact (hround : xl.RoundTrips) {a : Workbook} (hload : xl.load source.file = .ok a)
    (h : process py config transform xl source outAbspath = .ok (result, outFile)) :
    ∃ b, xl.load outFile = .ok b ∧ Intact Eq py config a b := by
  obtain ⟨a', b, ha, hrun, hsave⟩ := process_ok h
  obtain rfl : a = a' := Except.ok.inj (hload.symm.trans ha)
  exact ⟨b, hround b outFile hsave, (process_written hrun).intact⟩

/-- The verifier passes the result of a run exactly if it takes the input for equal to itself. -/
lemma verified_iff (hround : xl.RoundTrips) {a : Workbook} (hload : xl.load source.file = .ok a)
    (h : process py config transform xl source outAbspath = .ok (result, outFile)) :
    (∃ report, verifyFiles py config xl source.file outFile = .ok report ∧ report.ok = true) ↔
      Comparable py config a := by
  obtain ⟨a', b, ha, hrun, hsave⟩ := process_ok h
  obtain rfl : a = a' := Except.ok.inj (hload.symm.trans ha)
  obtain ⟨allowed, hallowed⟩ := buildAllowed_ok fun ws hws => allowedOn_of_processed hrun hws
  have hwritten := process_written hrun
  have hverify : verifyFiles py config xl source.file outFile = compareWorkbooks allowed a b := by
    rw [verifyFiles, ha]
    simp only [bind, Except.bind, hallowed, hround b outFile hsave]
  have hcharts := chartsApart_iff hwritten.sheetnames hwritten.chartsheets
  have hheld : Intact SameHeld py config a b :=
    hwritten.intact.mono fun _ _ heq => congrArg (Option.map CellValue.key) heq
  rw [hverify]
  constructor
  · rintro ⟨report, hreport, hok⟩
    have hapart := compareWorkbooks_isOk.mp ⟨report, hreport⟩
    exact ⟨hcharts.mp hapart,
      (hheld.tell_objects hapart).mp ((ok_compareWorkbooks hallowed hreport).mp hok)⟩
  · rintro ⟨hnil, hfree⟩
    obtain ⟨report, hreport⟩ := compareWorkbooks_isOk.mpr (hcharts.mpr hnil)
    exact ⟨report, hreport, (ok_compareWorkbooks hallowed hreport).mpr
      ((hheld.tell_objects (hcharts.mpr hnil)).mpr hfree)⟩

/-- **Surgical write.**  If a workbook is loaded as it was saved, then the writer has changed
nothing but what was to change, and the verifier says so exactly if there are no chart sheets and no
objects where nothing may change. -/
theorem surgical_write (hround : xl.RoundTrips) {a : Workbook}
    (hload : xl.load source.file = .ok a)
    (h : process py config transform xl source outAbspath = .ok (result, outFile)) :
    (∃ b, xl.load outFile = .ok b ∧ Intact Eq py config a b) ∧
    ((∃ report, verifyFiles py config xl source.file outFile = .ok report ∧ report.ok = true) ↔
      Comparable py config a) :=
  ⟨process_intact hround hload h, verified_iff hround hload h⟩

end Run

/-! ### A title that changes -/

/-- Files that are the workbooks themselves. -/
def memoryExcel : Openpyxl Workbook where
  load wb := .ok wb
  save wb := .ok wb

lemma memoryExcel_roundTrips : memoryExcel.RoundTrips := fun _ _ h => h.symm

/-- A mapping with the title in the first column. -/
def titleConfig : MappingConfig where
  sheets := [⟨"Products", []⟩]
  header := { scanRows := 1, matchRow := some 1, dataStart := some 2 }
  title := some { index := some 1 }

/-- A header and one product, which has the value for its title. -/
def productsSheet (v : CellValue) : Worksheet :=
  ((Worksheet.empty "Products").put 1 1 (.ofValue (.text "Name"))).put 2 1 (.ofValue v)

/-- A workbook whose one title has the given value. -/
def productsWorkbook (v : CellValue) : Workbook where
  worksheets := [productsSheet v]
  chartsheets := []
  definedNames := []
  titles_nodup := List.nodup_singleton _

/-- A transform that calls every product a ball. -/
def shoutTransform : Transform where
  transformTitle _ := .ok (some "BALL")
  transformListing listing := .ok listing
  transformImages urls := .ok urls

theorem surgical_write_title : ∃ result outFile,
    process plainPython titleConfig shoutTransform memoryExcel
      ⟨"/in.xlsx", productsWorkbook (.text "ball")⟩ "/out.xlsx" = .ok (result, outFile) ∧
    (∃ b, memoryExcel.load outFile = .ok b ∧
      Intact Eq plainPython titleConfig (productsWorkbook (.text "ball")) b) ∧
    ((∃ report, verifyFiles plainPython titleConfig memoryExcel (productsWorkbook (.text "ball"))
      outFile = .ok report ∧ report.ok = true) ↔
        Comparable plainPython titleConfig (productsWorkbook (.text "ball"))) :=
  have hrun : ∃ result outFile, process plainPython titleConfig shoutTransform memoryExcel
      ⟨"/in.xlsx", productsWorkbook (.text "ball")⟩ "/out.xlsx" = .ok (result, outFile) :=
    ⟨_, _, rfl⟩
  hrun.imp fun _ h => h.imp fun _ h => ⟨h, surgical_write memoryExcel_roundTrips rfl h⟩

/-! ### An array formula -/

/-- The products, and beside them a sheet with an array formula. -/
def notedWorkbook : Workbook where
  worksheets := [productsSheet (.text "ball"), notesSheet (.object (.array "A1" "=SUM(B1:B2)"))]
  chartsheets := []
  definedNames := []
  titles_nodup := by decide

/-- An array formula that nobody has touched is reported as changed. -/
theorem array_formula_refused : ∃ result outFile,
    process plainPython titleConfig shoutTransform memoryExcel ⟨"/in.xlsx", notedWorkbook⟩
      "/out.xlsx" = .ok (result, outFile) ∧
    ¬ ∃ report, verifyFiles plainPython titleConfig memoryExcel notedWorkbook outFile = .ok report ∧
      report.ok = true := by
  have hrun : ∃ result outFile, process plainPython titleConfig shoutTransform memoryExcel
      ⟨"/in.xlsx", notedWorkbook⟩ "/out.xlsx" = .ok (result, outFile) := ⟨_, _, rfl⟩
  obtain ⟨result, outFile, h⟩ := hrun
  refine ⟨result, outFile, h, fun hok => ?_⟩
  have hfree := ((verified_iff memoryExcel_roundTrips rfl h).mp hok).objects
  have hfrozen : ¬ IsTarget plainPython titleConfig
      (notesSheet (.object (.array "A1" "=SUM(B1:B2)"))) 1 1 := by
    rintro ⟨hprocesses, -⟩
    exact absurd hprocesses (by decide)
  have hobject := hfree _ (List.mem_cons_of_mem _ (List.mem_singleton.mpr rfl)) 1 1 hfrozen
  exact absurd hobject (by decide)

/-! ## The transform that changes nothing -/

/-- What of a cell is compared: its value with the type, its number format and its hyperlink. -/
def Cell.signature (cell : Cell) : Option CellValue × String × Option Hyperlink :=
  (cell.value, cell.numberFormat, cell.hyperlink)

/-- Cells are only added to those that have changed, and without a change the sheet stays. -/
def Grows (w w' : Writing) : Prop :=
  ∃ more, w'.2.changedCells = w.2.changedCells ++ more ∧ (more = [] → w'.1 = w.1)

namespace Grows

lemma refl (w : Writing) : Grows w w := ⟨[], (List.append_nil _).symm, fun _ => rfl⟩

lemma trans {a b c : Writing} (h : Grows a b) (h' : Grows b c) : Grows a c := by
  obtain ⟨more, hmore, hstays⟩ := h
  obtain ⟨more', hmore', hstays'⟩ := h'
  refine ⟨more ++ more', by rw [hmore', hmore, List.append_assoc], fun hnil => ?_⟩
  obtain ⟨hnil, hnil'⟩ := List.append_eq_nil_iff.mp hnil
  exact (hstays' hnil').trans (hstays hnil)

lemma same {w w' : Writing} (h : w'.1 = w.1) (hcells : w'.2.changedCells = w.2.changedCells) :
    Grows w w' := ⟨[], by rw [hcells, List.append_nil], fun _ => h⟩

lemma changed {ws : Worksheet} {w : Writing} {role : ColumnRole} {ref : CellRef} :
    Grows w (ws, w.2.noteChange role ref) := ⟨[ref], rfl, nofun⟩

/-- Nothing has changed until the end. -/
lemma stays {w w' : Writing} (h : Grows w w') (hnil : w'.2.changedCells = []) :
    w.2.changedCells = [] ∧ w'.1 = w.1 := by
  obtain ⟨more, hmore, hstays⟩ := h
  rw [hnil] at hmore
  obtain ⟨hw, hmore⟩ := List.append_eq_nil_iff.mp hmore.symm
  exact ⟨hw, hstays hmore⟩

end Grows

section Growing

variable {py : Python} {config : MappingConfig} {transform : Transform} {w w' : Writing}
  {row : ℕ}

/-- Nothing has been written. -/
def Quiet (w w' : Writing) : Prop := w'.1 = w.1 ∧ w'.2.changedCells = w.2.changedCells

end Growing

section Identity

variable {File : Type} {xl : Openpyxl File} {py : Python} {config : MappingConfig}
  {source : Source File} {outAbspath : String} {result : ProcessResult} {outFile : File}
  {a b : Workbook}

end Identity

/-! ### A title that is a number -/

end OzonSuite.Excel
