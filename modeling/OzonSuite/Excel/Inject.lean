/-
# Filling a template

The rows that have been reviewed are put into the first rows of data of a template, each piece into
the column that is mapped to it, and the sample rows that are left are deleted.  The additional
images go round the columns for them: the first column takes what the others leave.
-/
import OzonSuite.Excel.Extract
import OzonSuite.Excel.Process

namespace OzonSuite.Excel

open Lib

/-! ## Placing -/

/-- What the local node hands over for one row. -/
structure InjectRow where
  title : String
  listing : String
  primaryImage : Option String
  additionalImages : List String

/-- `_first_url`, of one address. -/
def firstUrl (v : Option String) : Option String := v.filter (· ≠ "")

/-- The additional images that are not the primary one. -/
def InjectRow.others (row : InjectRow) : List String :=
  row.additionalImages.filter fun u => u ≠ "" ∧ some u ≠ firstUrl row.primaryImage

/-- Which column takes which images.  The columns but the first take one image each, as long as
there are any, and the first takes all that is left, or one if nothing is. -/
def distribute (addCols : List ℕ) (others : List String) : List (ℕ × String) :=
  match addCols with
  | [] => []
  | first :: rest =>
    if others = [] then []
    else
      let nSingles := min rest.length others.length
      let singles := others.drop (others.length - nSingles)
      let multi := others.take (others.length - nSingles)
      if multi ≠ [] then (first, "\n".intercalate multi) :: rest.zip singles
      else (first, singles.headD "") :: rest.tail.zip singles.tail

/-- A text in the column of a field, if there is one. -/
def placeIn (mc : Option MappedColumn) (text : String) : List (ℕ × String) :=
  ((mc.map MappedColumn.colIndex).filter (· ≠ 0)).toList.map fun col => (col, text)

/-- What is written for one row, in the order in which it is. -/
def placements (mapped : MappedColumns) (row : InjectRow) : List (ℕ × String) :=
  placeIn mapped.title row.title ++ placeIn mapped.listing row.listing ++
    (firstUrl row.primaryImage).toList.flatMap (placeIn mapped.imagesMain.head?) ++
    distribute (mapped.imagesAdditional.map MappedColumn.colIndex) row.others

/-- `ws.cell(row=row, column=column, value=value)`. -/
def placeText (row : ℕ) (ws : Worksheet) (placed : ℕ × String) : Except Failure Worksheet :=
  if row = 0 ∨ placed.1 = 0 then .error (.raised "ValueError")
  else do
    let cell ← (ws.cells row placed.1).setValue placed.2
    return ws.put row placed.1 cell

/-- Put one product into its row. -/
def injectRow (mapped : MappedColumns) (ws : Worksheet) (row : InjectRow × ℕ) :
    Except Failure Worksheet :=
  (placements mapped row.1).foldlM
    (placeText (mapped.headerBlock.dataStartRow + row.2)) ws

/-- The sample rows below are deleted, if there are rows at all. -/
def dropLeftover (last : ℕ) (rows : List InjectRow) (ws : Worksheet) : Worksheet :=
  if rows ≠ [] ∧ last < ws.maxRow then ws.deleteRows (last + 1) (ws.maxRow - last) else ws

/-- Put the products into a sheet and take away what is left below. -/
def injectSheet (mapped : MappedColumns) (rows : List InjectRow) (ws : Worksheet) :
    Except Failure Worksheet := do
  let ws ← rows.zipIdx.foldlM (injectRow mapped) ws
  return dropLeftover (mapped.headerBlock.dataStartRow + rows.length - 1) rows ws

section Files

variable {File : Type} (py : Python) (xl : Openpyxl File)

end Files

/-! ## What is written into a row -/

/-- The last text that is written into a column. -/
def lastPlaced (placed : List (ℕ × String)) (col : ℕ) : Option String :=
  ((placed.reverse.find? fun p => p.1 = col)).map Prod.snd

/-- The cell that was there, with the text in it where there is one. -/
def HoldsPlaced (text : Option String) (cell cell' : Cell) : Prop :=
  match text with
  | none => cell' = cell
  | some text => cell.setValue text = .ok cell'

/-- What has become of one row. -/
structure RowPlaced (row : ℕ) (placed : List (ℕ × String)) (ws ws' : Worksheet) : Prop where
  frame : ws'.toSheetFrame = ws.toSheetFrame
  others : ∀ r, r ≠ row → ∀ c, ws'.cells r c = ws.cells r c
  cells : ∀ c, HoldsPlaced (lastPlaced placed c) (ws.cells row c) (ws'.cells row c)
  rows : ws'.maxRow = if placed = [] then ws.maxRow else max ws.maxRow row

section Placing

variable {ws ws' : Worksheet} {row : ℕ} {placed : List (ℕ × String)} {p : ℕ × String}

/-- A text in place of another is in place of what was there before. -/
lemma setValue_setValue {cell cell₁ cell₂ : Cell} {text text' : String}
    (h : cell.setValue text = .ok cell₁) (h' : cell₁.setValue text' = .ok cell₂) :
    cell.setValue text' = .ok cell₂ := by
  unfold Cell.setValue at h
  split at h
  · next hmerged =>
    obtain ⟨kept, -, hok⟩ := Except.bind_eq_ok.mp h
    obtain rfl := Except.ok.inj hok
    have hmerged' : (cell.withValue (some (.ofString kept)) hmerged).merged = false := hmerged
    unfold Cell.setValue at h' ⊢
    rw [dif_pos hmerged'] at h'
    rw [dif_pos hmerged]
    exact h'
  · cases h

lemma HoldsPlaced.set {text : Option String} {cell cell₁ cell₂ : Cell} {text' : String}
    (h : HoldsPlaced text cell cell₁) (h' : cell₁.setValue text' = .ok cell₂) :
    cell.setValue text' = .ok cell₂ := by
  cases text with
  | none =>
    obtain rfl : cell₁ = cell := h
    exact h'
  | some text => exact setValue_setValue h h'

lemma lastPlaced_append (col : ℕ) : lastPlaced (placed ++ [p]) col =
    if p.1 = col then some p.2 else lastPlaced placed col := by
  unfold lastPlaced
  rw [List.reverse_append, List.reverse_singleton, List.singleton_append, List.find?_cons]
  split_ifs with h
  · simp [h]
  · simp [h]

lemma placeText_ok (h : placeText row ws p = .ok ws') :
    0 < row ∧ 0 < p.1 ∧ ∃ cell, (ws.cells row p.1).setValue p.2 = .ok cell ∧
      ws' = ws.put row p.1 cell := by
  unfold placeText at h
  split_ifs at h with hpos
  obtain ⟨cell, hcell, hok⟩ := Except.bind_eq_ok.mp h
  exact ⟨by omega, by omega, cell, hcell, (Except.ok.inj hok).symm⟩

lemma put_maxRow (hrow : 0 < row) (hcol : 0 < p.1) (cell : Cell) :
    (ws.put row p.1 cell).maxRow = max ws.maxRow row := by
  unfold Worksheet.put
  rw [dif_pos ⟨hrow, hcol⟩]

/-- **A row is written where its columns are.** -/
lemma rowPlaced (h : placed.foldlM (placeText row) ws = .ok ws') :
    RowPlaced row placed ws ws' := by
  induction placed using List.reverseRecOn generalizing ws' with
  | nil =>
    obtain rfl : ws = ws' := Except.ok.inj h
    exact ⟨rfl, fun _ _ _ => rfl, fun _ => rfl, rfl⟩
  | append_singleton placed p ih =>
    rw [List.foldlM_append] at h
    obtain ⟨ws₁, hbefore, hlast⟩ := Except.bind_eq_ok.mp h
    obtain ⟨ws₂, hplace, hok⟩ := Except.bind_eq_ok.mp hlast
    obtain rfl : ws₂ = ws' := Except.ok.inj hok
    obtain ⟨hframe, hothers, hcells, hrows⟩ := ih hbefore
    obtain ⟨hrow, hcol, cell, hset, rfl⟩ := placeText_ok hplace
    -- the last text placed in a column is the one that stays
    refine ⟨Worksheet.put_frame.trans hframe, fun r hr c => ?_, fun c => ?_, ?_⟩
    · rw [Worksheet.put_cells_of_ne (fun hsame => hr hsame.1), hothers r hr]
    · rw [lastPlaced_append]
      split_ifs with hc
      · subst hc
        rw [Worksheet.put_cells_self hrow hcol]
        exact (hcells p.1).set hset
      · rw [Worksheet.put_cells_of_ne (fun hsame => hc hsame.2.symm)]
        exact hcells c
    · have hne : placed ++ [p] ≠ [] := List.append_ne_nil_of_right_ne_nil _ (List.cons_ne_nil p [])
      rw [put_maxRow hrow hcol, hrows, if_neg hne]
      split_ifs
      · rfl
      · omega

end Placing

/-! ## What becomes of the sheet -/

/-- What a template has become when it has been filled with rows. -/
structure Filled (mapped : MappedColumns) (rows : List InjectRow) (ws ws' : Worksheet) : Prop where
  frame : ws'.toSheetFrame = ws.toSheetFrame
  above : ∀ r < mapped.headerBlock.dataStartRow, ∀ c, ws'.cells r c = ws.cells r c
  row : ∀ i row, rows[i]? = some row → ∀ c,
    HoldsPlaced (lastPlaced (placements mapped row) c)
      (ws.cells (mapped.headerBlock.dataStartRow + i) c)
      (ws'.cells (mapped.headerBlock.dataStartRow + i) c)
  below : rows ≠ [] → ∀ r c, mapped.headerBlock.dataStartRow + rows.length ≤ r →
    ws'.cells r c = Cell.blank
  end_ : rows ≠ [] → ws'.maxRow < mapped.headerBlock.dataStartRow + rows.length
  none_ : rows = [] → ws' = ws

section Filling

variable {mapped : MappedColumns} {rows : List InjectRow} {ws ws' : Worksheet}

/-- The rows that have been placed, before the sample rows are deleted. -/
structure Placing (mapped : MappedColumns) (rows : List InjectRow) (ws ws' : Worksheet) :
    Prop where
  frame : ws'.toSheetFrame = ws.toSheetFrame
  outside : ∀ r, (∀ i < rows.length, r ≠ mapped.headerBlock.dataStartRow + i) →
    ∀ c, ws'.cells r c = ws.cells r c
  row : ∀ i row, rows[i]? = some row → ∀ c,
    HoldsPlaced (lastPlaced (placements mapped row) c)
      (ws.cells (mapped.headerBlock.dataStartRow + i) c)
      (ws'.cells (mapped.headerBlock.dataStartRow + i) c)
  none_ : rows = [] → ws' = ws

/-- The rows are placed one after the other, each into a row of its own. -/
lemma placing (h : rows.zipIdx.foldlM (injectRow mapped) ws = .ok ws') :
    Placing mapped rows ws ws' := by
  induction rows using List.reverseRecOn generalizing ws' with
  | nil =>
    obtain rfl : ws = ws' := Except.ok.inj h
    exact ⟨rfl, fun _ _ _ => rfl, fun i row hrow => by simp at hrow, fun _ => rfl⟩
  | append_singleton rows row ih =>
    rw [List.zipIdx_append, List.foldlM_append] at h
    obtain ⟨ws₁, hbefore, hlast⟩ := Except.bind_eq_ok.mp h
    obtain ⟨ws₂, hrow, hok⟩ := Except.bind_eq_ok.mp hlast
    obtain rfl : ws₂ = ws' := Except.ok.inj hok
    have hin := ih hbefore
    have hplaced := rowPlaced hrow
    rw [Nat.zero_add] at hplaced
    refine ⟨hplaced.frame.trans hin.frame, fun r hr c => ?_, fun i found hfound c => ?_, ?_⟩
    · rw [hplaced.others r (hr rows.length (by simp)),
        hin.outside r fun i hi => hr i (by simp; omega)]
    -- an earlier row is left alone, and the new row was untouched before
    · rcases Nat.lt_or_ge i rows.length with hi | hi
      · rw [List.getElem?_append_left hi] at hfound
        rw [hplaced.others _ (by omega)]
        exact hin.row i found hfound c
      · obtain rfl : i = rows.length := by
          have hlt := (List.getElem?_eq_some_iff.mp hfound).1
          simp only [List.length_append, List.length_singleton] at hlt
          omega
        obtain rfl : row = found := by simpa using hfound
        have hcell := hplaced.cells c
        rwa [hin.outside _ fun j hj => by omega] at hcell
    · intro hnil
      simp at hnil

/-- What is kept and what is not when the sample rows are deleted. -/
lemma dropLeftover_spec {last : ℕ} (hlast : 0 < last) (hrows : rows ≠ []) :
    (dropLeftover last rows ws).toSheetFrame = ws.toSheetFrame ∧
      (∀ r ≤ last, ∀ c, (dropLeftover last rows ws).cells r c = ws.cells r c) ∧
      (∀ r, last < r → ∀ c, (dropLeftover last rows ws).cells r c = Cell.blank) ∧
      (dropLeftover last rows ws).maxRow = min last ws.maxRow := by
  unfold dropLeftover
  split_ifs with h
  · refine ⟨rfl, fun r hr c => if_pos (by omega), fun r hr c => ?_, ?_⟩
    · have hbeyond : ws.cells (r + (ws.maxRow - last)) c = Cell.blank :=
        ws.blank_outside _ _ (by omega)
      change (if r < last + 1 then ws.cells r c
        else if 0 < r then ws.cells (r + (ws.maxRow - last)) c else Cell.blank) = Cell.blank
      rw [if_neg (by omega), if_pos (by omega), hbeyond]
    · change max 1 (if last + 1 ≤ ws.maxRow
        then ws.maxRow - min (ws.maxRow - last) (ws.maxRow + 1 - (last + 1)) else ws.maxRow) = _
      rw [if_pos (by omega)]
      omega
  · have hle : ws.maxRow ≤ last := by
      by_contra hlt
      exact h ⟨hrows, by omega⟩
    exact ⟨rfl, fun _ _ _ => rfl, fun r hr c => ws.blank_outside r c (by omega), by omega⟩

lemma filled (h : injectSheet mapped rows ws = .ok ws') : Filled mapped rows ws ws' := by
  obtain ⟨ws₁, hplaced, hok⟩ := Except.bind_eq_ok.mp h
  obtain rfl := Except.ok.inj hok
  have hin := placing hplaced
  have hpos := mapped.headerBlock.data_pos
  by_cases hrows : rows = []
  · have hsame :
        dropLeftover (mapped.headerBlock.dataStartRow + rows.length - 1) rows ws₁ = ws := by
      rw [dropLeftover, if_neg (fun h => h.1 hrows)]
      exact hin.none_ hrows
    rw [hsame]
    refine ⟨rfl, fun _ _ _ => rfl, fun i row hrow => ?_, fun hne => absurd hrows hne,
      fun hne => absurd hrows hne, fun _ => rfl⟩
    rw [hrows] at hrow
    simp at hrow
  · have hlength : 0 < rows.length := List.length_pos_iff.mpr hrows
    have hlast : 0 < mapped.headerBlock.dataStartRow + rows.length - 1 := by omega
    obtain ⟨hframe, hkept, hgone, hend⟩ := @dropLeftover_spec rows ws₁ _ hlast hrows
    refine ⟨hframe.trans hin.frame, fun r hr c => ?_, fun i row hrow c => ?_,
      fun _ r c hr => hgone r (by omega) c, fun _ => by omega, fun hnil => absurd hnil hrows⟩
    · rw [hkept r (by omega), hin.outside r fun i _ => by omega]
    · have hi := (List.getElem?_eq_some_iff.mp hrow).1
      rw [hkept _ (by omega)]
      exact hin.row i row hrow c

end Filling

/-! ## What becomes of the workbook -/

section Books

variable {wb : Workbook} {ws ws' : Worksheet}

end Books

section Files

variable {File : Type} {py : Python} {xl : Openpyxl File}

end Files

end OzonSuite.Excel
