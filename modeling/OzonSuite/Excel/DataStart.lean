/-
# Where the data begin

The start of the data is looked for in the column of the key, or else of the title.  Which column
that is, is read from the last row of the header here, and from the matched row when the columns
are resolved.
-/
import OzonSuite.Excel.Mapper

namespace OzonSuite.Excel

open Lib

section Start

variable (py : Python) (ws : Worksheet) (config : MappingConfig)

/-- The first row below the header with a value in the column, or else the row below it. -/
def firstDataRow (last col : ℕ) : ℕ :=
  ((List.range' (last + 1) (ws.maxRow + 1 - (last + 1))).find? fun r =>
    looksLikeDataValue py (ws.cells r col).value).getD (last + 1)

/-- The first row below the header with a value in any column, or else the row below it. -/
def firstFilledRow (last : ℕ) : ℕ :=
  ((List.range' (last + 1) (ws.maxRow + 1 - (last + 1))).find? fun r =>
    (List.range' 1 ws.maxColumn).any fun col =>
      looksLikeDataValue py (ws.cells r col).value).getD (last + 1)

/-- The column of the key, or else of the title. -/
def MappedColumns.dataColumn (mapped : MappedColumns) : Option ℕ :=
  (mapped.keyColumn.or mapped.title).map MappedColumn.colIndex

/-- Taking the column from the last row of the header, instead of the matched row, leads to the same
first row of data. -/
def SameStart (matchRow last : ℕ) : Prop :=
  ∀ col, resolveProbeCol py ws config matchRow = .ok (some col) →
    ∀ probe, resolveProbeCol py ws config last = .ok probe →
      (match probe with
        | some other => firstDataRow py ws last other
        | none => firstFilledRow py ws last) = firstDataRow py ws last col

end Start

section Probe

variable {py : Python} {ws : Worksheet} {config : MappingConfig} {spec : FieldSpec}
  {hits : List Hit} {last row : ℕ}

lemma autoDataStart_ok {start : ℕ} (h : autoDataStart py ws config last = .ok start) :
    ∃ probe, resolveProbeCol py ws config last = .ok probe ∧
      start = match probe with
        | some other => firstDataRow py ws last other
        | none => firstFilledRow py ws last := by
  simp only [autoDataStart, Except.bind_eq_ok] at h
  obtain ⟨probe, hprobe, heq⟩ := h
  obtain rfl := Except.ok.inj heq
  refine ⟨probe, hprobe, ?_⟩
  cases probe <;> rfl

lemma le_findEndHeader (matchRow : ℕ) : matchRow ≤ findEndHeader py ws config matchRow := by
  have hgo : ∀ (rows : List ℕ) (from' : ℕ), from' ≤ rows.foldl (fun endHeader r =>
      if isHeaderLike py (normalizedRow py ws config r) && endHeader < r then r else endHeader)
      from' := by
    intro rows
    induction rows with
    | nil => exact fun _ => le_rfl
    | cons r rows ih =>
      intro from'
      rw [List.foldl_cons]
      refine le_trans ?_ (ih _)
      split_ifs with h
      · simp only [Bool.and_eq_true, decide_eq_true_eq] at h
        exact h.2.le
      · exact le_rfl
  exact hgo _ _

lemma bestScore_mem {scored : List RowScore} {best : RowScore} (h : bestScore scored = some best) :
    best ∈ scored := by
  have hgo : ∀ (keep : Option RowScore → RowScore → Option RowScore),
      (∀ before s r, keep before s = some r → r = s ∨ before = some r) →
      ∀ (l : List RowScore) (before : Option RowScore), l.foldl keep before = some best →
        best ∈ l ∨ before = some best := by
    intro keep hkeep l
    induction l with
    | nil => exact fun _ h => .inr h
    | cons s l ih =>
      intro before hfold
      rw [List.foldl_cons] at hfold
      rcases ih _ hfold with hmem | hnow
      · exact .inl (List.mem_cons_of_mem _ hmem)
      · rcases hkeep before s best hnow with rfl | hbefore
        · exact .inl List.mem_cons_self
        · exact .inr hbefore
  -- what is kept of two scores is one of them
  refine (hgo _ (fun before s r hr => ?_) scored none h).resolve_right
    (Option.some_ne_none best).symm
  cases before with
  | none => exact .inl (Option.some.inj hr).symm
  | some b =>
    dsimp only at hr
    split_ifs at hr
    · exact .inl (Option.some.inj hr).symm
    · exact .inr hr

lemma findMatchRow_pos {matchRow : ℕ} (h : findMatchRow py ws config = .ok matchRow) :
    1 ≤ matchRow := by
  unfold findMatchRow at h
  split at h
  · split_ifs at h with hlt
    obtain rfl := Except.ok.inj h
    omega
  · simp only [Except.bind_eq_ok, Except.okOr_eq_ok] at h
    obtain ⟨best, hbest, hrow⟩ := h
    split_ifs at hrow
    obtain rfl := Except.ok.inj hrow
    obtain ⟨r, hr, rfl⟩ := List.mem_map.mp (bestScore_mem hbest)
    exact (List.mem_range'_1.mp hr).1

/-- What is known of a header whose data start was not pinned. -/
structure AutoHeader (py : Python) (ws : Worksheet) (config : MappingConfig) (block : HeaderBlock)
    (last : ℕ) : Prop where
  rows : block.headerRows = List.range' 1 last
  match_pos : 1 ≤ block.matchRow
  match_le : block.matchRow ≤ last
  below : last < block.dataStartRow
  start : autoDataStart py ws config last = .ok block.dataStartRow

lemma detectHeader_ok {block : HeaderBlock} (hauto : config.header.dataStart = none)
    (h : detectHeader py ws config = .ok block) : ∃ last, AutoHeader py ws config block last := by
  simp only [detectHeader, Except.bind_eq_ok] at h
  obtain ⟨matchRow, hmatch, start, hstart, hblock⟩ := h
  split_ifs at hblock with hguard
  obtain rfl := Except.ok.inj hblock
  refine ⟨_, rfl, findMatchRow_pos hmatch, le_findEndHeader _, by simpa using hguard, ?_⟩
  rwa [findDataStart, hauto] at hstart

/-! ## The two ways to find a column -/

lemma head?_hits (kw : Keyword) (cells : List HeaderCell) (hits : List Hit) :
    ((cells.foldl (fun hits cell =>
      if hits.any (·.col = cell.col) then hits
      else if kwIn py kw.norm cell.text spec.mode then hits ++ [⟨cell.col, .keyword, some kw.raw⟩]
      else hits) hits).head?.map Hit.col) =
        (hits.head?.map Hit.col).or
          ((cells.find? fun cell => kwIn py kw.norm cell.text spec.mode).map HeaderCell.col) := by
  induction cells generalizing hits with
  | nil => simp
  | cons cell cells ih =>
    rw [List.foldl_cons, ih]
    by_cases hkw : kwIn py kw.norm cell.text spec.mode = true
    · cases hits with
      | nil => simp [hkw]
      | cons hit hits =>
        simp only [hkw, if_true]
        split_ifs <;> simp
    · simp [hkw]

/-- The first column that the keywords find is that of the first keyword that is in the header. -/
lemma head?_keywordHits (cells : List HeaderCell) :
    (keywordHits py cells spec).head?.map Hit.col = spec.keywords.findSome? fun kw =>
      (cells.find? fun cell => kwIn py kw.norm cell.text spec.mode).map HeaderCell.col := by
  have hgo : ∀ (kws : List Keyword) (hits : List Hit),
      ((kws.foldl (fun hits kw => cells.foldl (fun hits cell =>
        if hits.any (·.col = cell.col) then hits
        else if kwIn py kw.norm cell.text spec.mode then hits ++ [⟨cell.col, .keyword, some kw.raw⟩]
        else hits) hits) hits).head?.map Hit.col) =
          (hits.head?.map Hit.col).or (kws.findSome? fun kw =>
            (cells.find? fun cell => kwIn py kw.norm cell.text spec.mode).map HeaderCell.col) := by
    intro kws
    induction kws with
    | nil => simp
    | cons kw kws ih =>
      intro hits
      rw [List.foldl_cons, ih, head?_hits, List.findSome?_cons, Option.or_assoc]
      cases (cells.find? fun cell => kwIn py kw.norm cell.text spec.mode).map HeaderCell.col <;> rfl
  simpa [keywordHits] using hgo spec.keywords []

lemma headerCells_eq (row : ℕ) :
    headerCells py ws config row =
      (normalizedRow py ws config row).map fun cell => ⟨cell.col, cell.norm⟩ := by
  simp only [headerCells, normalizedRow, List.map_filterMap]
  refine List.filterMap_congr fun col _ => ?_
  cases (ws.cells row col).value <;> rfl

/-- In one row of the header the probe finds the first column that is resolved. -/
lemma probeColumn_of_resolveOne (h : resolveOne py (headerCells py ws config row) spec = .ok hits) :
    probeColumn py (normalizedRow py ws config row) spec = .ok (hits.head?.map Hit.col) := by
  cases hindex : spec.index with
  | some index =>
    simp only [resolveOne, hindex] at h
    obtain rfl := Except.ok.inj h
    simp only [probeColumn, hindex]
    rfl
  | none =>
    cases hletter : spec.letter with
    | some letter =>
      simp only [resolveOne, hindex, hletter] at h
      obtain ⟨col, hcol, heq⟩ := Except.bind_eq_ok.mp h
      obtain rfl := Except.ok.inj heq
      simp only [probeColumn, hindex, hletter, hcol]
      rfl
    | none =>
      simp only [resolveOne, hindex, hletter] at h
      obtain rfl := Except.ok.inj h
      simp only [probeColumn, hindex, hletter]
      rw [head?_keywordHits, headerCells_eq]
      simp only [List.find?_map, Option.map_map]
      rfl

lemma resolveKey_ok {key : Option MappedColumn}
    (h : resolveKey py ws config (headerCells py ws config row) = .ok key) :
    ∀ spec ∈ config.keyColumn, probeColumn py (normalizedRow py ws config row) spec =
      .ok (key.map MappedColumn.colIndex) := by
  intro spec hspec
  simp only [resolveKey, Option.mem_def.mp hspec, Except.bind_eq_ok] at h
  obtain ⟨hits, hhits, hkey⟩ := h
  rw [probeColumn_of_resolveOne hhits]
  cases hits with
  | nil =>
    obtain rfl := Except.ok.inj hkey
    rfl
  | cons hit hits =>
    simp only [Except.bind_eq_ok] at hkey
    obtain ⟨c, hc, heq⟩ := hkey
    obtain rfl := Except.ok.inj heq
    simp [colIndex_toMapped hc]

lemma resolveText_probe {title : Option MappedColumn} {pins pins' : PinLetters} {role : ColumnRole}
    {name : String} {field : Option FieldSpec}
    (h : resolveText py ws (headerCells py ws config row) pins field role name =
      .ok (title, pins')) :
    ∀ spec ∈ field, probeColumn py (normalizedRow py ws config row) spec =
      .ok (title.map MappedColumn.colIndex) := by
  intro spec hspec
  obtain rfl : field = some spec := hspec
  simp only [resolveText, single, Except.bind_eq_ok] at h
  obtain ⟨_, -, hits, hhits, found, ⟨hit, hhit, hmapped⟩, heq⟩ := h
  obtain ⟨rfl, -⟩ := Prod.mk.inj (Except.ok.inj heq)
  rw [probeColumn_of_resolveOne hhits, atMostOne_ok hhit]
  cases hit with
  | none =>
    obtain rfl := Except.ok.inj hmapped
    rfl
  | some hit =>
    simp only [Except.bind_eq_ok] at hmapped
    obtain ⟨c, hc, heq⟩ := hmapped
    obtain rfl := Except.ok.inj heq
    simp [colIndex_toMapped hc]

/-- **The same column in the matched row.**  What the probe would find in the matched row is the
column that is resolved. -/
lemma resolveProbeCol_matchRow {mapped : MappedColumns} (h : Mapped py ws config mapped) :
    resolveProbeCol py ws config mapped.headerBlock.matchRow = .ok mapped.dataColumn := by
  obtain ⟨pins, htitle⟩ := h.title
  have hkey := resolveKey_ok h.key
  have hprobe := resolveText_probe htitle
  have hnokey : config.keyColumn = none → mapped.keyColumn = none := fun hnone => by
    have hresolved := h.key
    rw [resolveKey, hnone] at hresolved
    exact (Except.ok.inj hresolved).symm
  have hnotitle : config.title = none → mapped.title = none := fun hnone => by
    rw [hnone] at htitle
    exact (Prod.mk.inj (Except.ok.inj htitle)).1.symm
  -- without a key column the probe falls back to the title
  have hgo : resolveProbeCol.go py
      (normalizedRow py ws config mapped.headerBlock.matchRow) config.title.toList =
        .ok (mapped.title.map MappedColumn.colIndex) := by
    cases ht : config.title with
    | none => simp [resolveProbeCol.go, hnotitle ht]
    | some spec =>
      rw [Option.toList_some, resolveProbeCol.go, hprobe spec ht]
      cases mapped.title <;> rfl
  unfold resolveProbeCol MappedColumns.dataColumn
  cases hk : config.keyColumn with
  | none => simpa [hnokey hk] using hgo
  | some spec =>
    simp only [Option.toList_some, List.singleton_append, resolveProbeCol.go, hkey spec hk]
    cases hm : mapped.keyColumn with
    | none => exact hgo
    | some k => rfl

end Probe

/-- **Where the data begin.**  With an automatic start, the matched row is in the header and the
data begin below it.  They begin at the first row with a value in the column of the key, or else of
the title, as the columns are resolved, if and only if it makes no difference to that row whether
the column is taken from the matched row or from the last row of the header. -/
theorem data_start_iff (py : Python) (ws : Worksheet) (config : MappingConfig) (block : HeaderBlock)
    (mapped : MappedColumns) (hauto : config.header.dataStart = none)
    (hblock : detectHeader py ws config = .ok block)
    (hmapped : resolveColumns py ws config block = .ok mapped) :
    ∃ last, block.headerRows = List.range' 1 last ∧ 1 ≤ block.matchRow ∧ block.matchRow ≤ last ∧
      last < block.dataStartRow ∧
      ((∀ col ∈ mapped.dataColumn, block.dataStartRow = firstDataRow py ws last col) ↔
        SameStart py ws config block.matchRow last) := by
  obtain ⟨last, hlast⟩ := detectHeader_ok hauto hblock
  refine ⟨last, hlast.rows, hlast.match_pos, hlast.match_le, hlast.below, ?_⟩
  obtain ⟨rfl, hcolumns⟩ := resolveColumns_ok hmapped
  have hcol := resolveProbeCol_matchRow hcolumns
  obtain ⟨probe, hprobe, hstart⟩ := autoDataStart_ok hlast.start
  constructor
  · intro hfirst col hmatch other hother
    obtain rfl : probe = other := Except.ok.inj (hprobe.symm.trans hother)
    rw [← hstart]
    exact hfirst col (Except.ok.inj (hcol.symm.trans hmatch))
  · intro hsame col hmem
    rw [hstart]
    exact hsame col (hcol.trans (congrArg Except.ok hmem)) probe hprobe

/-- A column of keys, found by its header. -/
def keyedConfig : MappingConfig where
  header := { scanRows := 2 }
  title := some { keywords := [⟨"name", "name"⟩] }
  keyColumn := some { keywords := [⟨"sku", "sku"⟩] }

/-- A cell with a text. -/
def textCell (s : String) : Cell := Cell.ofValue (.text s)

/-- One row of header. -/
def plainSheet : Worksheet :=
  (((Worksheet.empty "S").put 1 1 (textCell "sku")).put 1 2 (textCell "name")).put 2 1
    (textCell "7")

/-- The header has a second row with hints, and the first row of data has no key. -/
def hintedSheet : Worksheet :=
  (((((Worksheet.empty "S").put 1 1 (textCell "sku")).put 1 2 (textCell "name")).put
    2 2 (textCell "sku")).put 3 2 (textCell "b")).put 4 1 (textCell "a")

/-- The columns of both sheets. -/
def keyedColumns (block : HeaderBlock) : MappedColumns where
  sheet := "S"
  headerBlock := block
  title := some ⟨.title, "S", 2, "B", .keyword, some "name", none⟩
  listing := none
  imagesMain := []
  imagesAdditional := []
  targetColIndices := {2}
  keyColumn := some ⟨.frozen, "S", 1, "A", .keyword, some "sku", none⟩

theorem data_start_iff_plain :
    ∃ last, firstRowHeader.headerRows = List.range' 1 last ∧ 1 ≤ firstRowHeader.matchRow ∧
      firstRowHeader.matchRow ≤ last ∧ last < firstRowHeader.dataStartRow ∧
      ((∀ col ∈ (keyedColumns firstRowHeader).dataColumn,
          firstRowHeader.dataStartRow = firstDataRow plainPython plainSheet last col) ↔
        SameStart plainPython plainSheet keyedConfig firstRowHeader.matchRow last) :=
  data_start_iff plainPython plainSheet keyedConfig firstRowHeader (keyedColumns firstRowHeader) rfl
    (by decide) (by decide)

/-- The header of the sheet with hints. -/
def hintedHeader : HeaderBlock where
  headerRows := [1, 2]
  matchRow := 1
  dataStartRow := 3
  data_pos := by decide
  below := by decide

/-- The hint is taken for the key, so the data begin at a row without one. -/
theorem data_start_at_hint :
    detectHeader plainPython hintedSheet keyedConfig = .ok hintedHeader ∧
      resolveColumns plainPython hintedSheet keyedConfig hintedHeader =
        .ok (keyedColumns hintedHeader) ∧
      (keyedColumns hintedHeader).dataColumn = some 1 ∧
      hintedHeader.dataStartRow ≠ firstDataRow plainPython hintedSheet 2 1 := by
  decide

end OzonSuite.Excel
