/-
# The columns of a sheet

Every field of the configuration is resolved to a column: by the index or the letter it is pinned
to, or else by a keyword in the header.  What is not resolved is left alone.
-/
import OzonSuite.Excel.Header

namespace OzonSuite.Excel

open Lib

/-! ## The data -/

/-- What a column has been found by. -/
inductive MatchedBy
  | keyword | letter | index
deriving DecidableEq

/-- A column that a field may stand for, and the keyword that was found in it. -/
structure Hit where
  col : ℕ
  matchedBy : MatchedBy
  token : Option String
deriving DecidableEq

/-- A column that has been found. -/
structure MappedColumn where
  role : ColumnRole
  sheet : String
  colIndex : ℕ
  columnLetter : String
  matchedBy : MatchedBy
  matchedToken : Option String
  imageFormHint : Option ImageForm
deriving DecidableEq

/-- The columns of a sheet. -/
structure MappedColumns where
  sheet : String
  headerBlock : HeaderBlock
  title : Option MappedColumn
  listing : Option MappedColumn
  imagesMain : List MappedColumn
  imagesAdditional : List MappedColumn
  targetColIndices : Finset ℕ
  keyColumn : Option MappedColumn
deriving DecidableEq

namespace MappedColumns

variable (mapped : MappedColumns)

/-- The columns that may be changed. -/
def allTargets : List MappedColumn :=
  mapped.title.toList ++ mapped.listing.toList ++ mapped.imagesMain ++ mapped.imagesAdditional

/-- The columns of all the fields, those of the key last. -/
def columns : List ℕ := (mapped.allTargets ++ mapped.keyColumn.toList).map MappedColumn.colIndex

end MappedColumns

/-- A cell of the header, with its normalised text. -/
structure HeaderCell where
  col : ℕ
  text : String
deriving DecidableEq

/-! ## One field -/

section Resolve

variable (py : Python) (ws : Worksheet) (config : MappingConfig)

/-- The cells of the header that have a value. -/
def headerCells (matchRow : ℕ) : List HeaderCell :=
  (List.range' 1 ws.maxColumn).filterMap fun col =>
    (ws.cells matchRow col).value.map fun v => ⟨col, normalizeText py config.matching (some v)⟩

/-- The columns that have a keyword, each with the first one found in it. -/
def keywordHits (cells : List HeaderCell) (spec : FieldSpec) : List Hit :=
  spec.keywords.foldl (fun hits kw =>
    cells.foldl (fun hits cell =>
      if hits.any (·.col = cell.col) then hits
      else if kwIn py kw.norm cell.text spec.mode then hits ++ [⟨cell.col, .keyword, some kw.raw⟩]
      else hits) hits) []

/-- The columns that a field selects: by its number, its letters, or its keywords. -/
def resolveOne (cells : List HeaderCell) (spec : FieldSpec) : Except Failure (List Hit) :=
  match spec.index, spec.letter with
  | some index, _ => .ok [⟨index, .index, none⟩]
  | none, some letter => do
    let col ← columnIndexFromString letter
    return [⟨col, .letter, none⟩]
  | none, none => .ok (keywordHits py cells spec)

/-- A hit as a column. -/
def toMapped (spec : FieldSpec) (sheet : String) (hit : Hit) (role : ColumnRole) :
    Except Failure MappedColumn := do
  let letter ← getColumnLetter hit.col
  return {
    role := role
    sheet := sheet
    colIndex := hit.col
    columnLetter := letter
    matchedBy := hit.matchedBy
    matchedToken := hit.token
    imageFormHint := spec.imageForm }

/-- How the columns that were found are listed in an error. -/
def listedHits (hits : List Hit) : Except Failure String := do
  let cols ← hits.mapM fun hit => do
    let letter ← getColumnLetter hit.col
    return letter ++ "(" ++ hit.token.elim "None" py.repr ++ ")"
  return ", ".intercalate cols

/-- At most one column may be found. -/
def atMostOne (refuse : String → String) (hits : List Hit) : Except Failure (Option Hit) :=
  match hits with
  | [] => .ok none
  | [hit] => .ok (some hit)
  | hits => do
    let cols ← listedHits py hits
    .error (.mappingError (refuse cols))

/-- The column of the title or of the listing. -/
def single (spec : FieldSpec) (sheet : String) (hits : List Hit) (role : ColumnRole)
    (name : String) : Except Failure (Option MappedColumn) := do
  match ← atMostOne py (fun cols =>
      s!"field {py.repr name} on sheet {py.repr sheet} matched multiple columns: {cols}. " ++
      "Pin it with letter/index in the config.") hits with
  | some hit => return some (← toMapped spec sheet hit role)
  | none => return none

/-- The column of one image field. -/
def singleHit (sheet : String) (hits : List Hit) (name : String) : Except Failure (Option Hit) :=
  atMostOne py (fun cols =>
    s!"image field {py.repr name} on sheet {py.repr sheet} matched multiple columns: {cols}. " ++
    "A keyword image column must resolve to exactly one column; " ++
    "pin each with letter/index, tighten the keyword, or use mode:equals.") hits

/-! ## All the fields -/

/-- The letters that have been pinned, with the field each was pinned to. -/
abbrev PinLetters := List (String × String)

/-- A letter may be pinned by one field only. -/
def notePin (pins : PinLetters) (spec : FieldSpec) (roleName : String) :
    Except Failure PinLetters :=
  match spec.letter with
  | none => .ok pins
  | some letter =>
    match pins.lookup letter with
    | some prev =>
      if prev ≠ roleName then
        .error (.mappingError (s!"column letter {py.repr letter} pinned to both " ++
          s!"{py.repr prev} and {py.repr roleName}"))
      else .ok ((letter, roleName) :: pins)
    | none => .ok ((letter, roleName) :: pins)

/-- The title or the listing. -/
def resolveText (cells : List HeaderCell) (pins : PinLetters) (spec : Option FieldSpec)
    (role : ColumnRole) (name : String) : Except Failure (Option MappedColumn × PinLetters) :=
  match spec with
  | none => .ok (none, pins)
  | some spec => do
    let pins ← notePin py pins spec name
    let hits ← resolveOne py cells spec
    let column ← single py spec ws.title hits role name
    return (column, pins)

/-- The images, a column at most for each of their fields. -/
def resolveImages (cells : List HeaderCell) (role : ColumnRole) (name : String) :
    PinLetters → List FieldSpec → Except Failure (List MappedColumn × PinLetters)
  | pins, [] => .ok ([], pins)
  | pins, spec :: specs => do
    let pins ← notePin py pins spec name
    let hits ← resolveOne py cells spec
    match ← singleHit py ws.title hits name with
    | some hit =>
      let column ← toMapped spec ws.title hit role
      let (columns, pins) ← resolveImages cells role name pins specs
      return (column :: columns, pins)
    | none => resolveImages cells role name pins specs

/-- The key is only read; of several columns it is the first. -/
def resolveKey (cells : List HeaderCell) : Except Failure (Option MappedColumn) :=
  match config.keyColumn with
  | none => .ok none
  | some spec => do
    match ← resolveOne py cells spec with
    | hit :: _ => return some (← toMapped spec ws.title hit .frozen)
    | [] => return none

/-- The fields that have to be there and were not found. -/
def missingColumns (title listing : Option MappedColumn)
    (imagesMain imagesAdditional : List MappedColumn) : List String :=
  (if config.title.any (·.required) && title = none then ["title"] else []) ++
  (if config.listing.any (·.required) && listing = none then ["listing"] else []) ++
  (if config.imagesMain.any (·.required) && imagesMain = [] then ["images_main"] else []) ++
  (if config.imagesAdditional.any (·.required) && imagesAdditional = [] then
    ["images_additional"] else [])

/-- The check that no such field is missing. -/
def checkRequired (title listing : Option MappedColumn)
    (imagesMain imagesAdditional : List MappedColumn) : Except Failure Unit :=
  let missing := missingColumns config title listing imagesMain imagesAdditional
  refuseIf (missing ≠ [] ∧ config.policy.onMissingRequired = .error)
    (Failure.mappingError ("required column(s) unresolved: " ++ ", ".intercalate missing ++
      ". Adjust keywords or pin letter/index."))

/-- The columns of a sheet. -/
def resolveColumns (headerBlock : HeaderBlock) : Except Failure MappedColumns := do
  let cells := headerCells py ws config headerBlock.matchRow
  let (title, pins) ← resolveText py ws cells [] config.title .title "title"
  let (listing, pins) ← resolveText py ws cells pins config.listing .listing "listing"
  let (imagesMain, pins) ←
    resolveImages py ws cells .imageMain "images_main" pins config.imagesMain
  let (imagesAdditional, _) ←
    resolveImages py ws cells .imageAdditional "images_additional" pins config.imagesAdditional
  let key ← resolveKey py ws config cells
  checkRequired config title listing imagesMain imagesAdditional
  let targets := ((title.toList ++ listing.toList ++ imagesMain ++ imagesAdditional).map
    MappedColumn.colIndex).toFinset
  match key.filter fun k => k.colIndex ∈ targets with
  | some k =>
    .error (.mappingError (s!"key column {k.columnLetter} on sheet {py.repr ws.title} also " ++
      "resolved as an editable target; refusing to write the SKU column."))
  | none =>
    return {
      sheet := ws.title
      headerBlock := headerBlock
      title := title
      listing := listing
      imagesMain := imagesMain
      imagesAdditional := imagesAdditional
      targetColIndices := targets
      keyColumn := key }

end Resolve

/-! ## What a field stands for -/

section Selects

variable (py : Python) (cells : List HeaderCell)

/-- The field stands for the column: it is pinned to it, or one of its keywords is in the header
of the column. -/
def Selects (spec : FieldSpec) (col : ℕ) : Prop :=
  match spec.index, spec.letter with
  | some index, _ => index = col
  | none, some letter => columnIndexFromString letter = .ok col
  | none, none => ∃ kw ∈ spec.keywords, ∃ cell ∈ cells, kwIn py kw.norm cell.text spec.mode ∧
      cell.col = col

/-- Two fields stand for no common column. -/
def Apart (a b : FieldSpec) : Prop := ∀ col, ¬ (Selects py cells a col ∧ Selects py cells b col)

/-- What became of a field: its only column, or nothing if there is none. -/
def ResolvesTo (spec : FieldSpec) (column : Option MappedColumn) : Prop :=
  ∀ col, Selects py cells spec col ↔ column.map MappedColumn.colIndex = some col

end Selects

section Lemmas

variable {py : Python} {ws : Worksheet} {config : MappingConfig} {cells : List HeaderCell}
  {spec : FieldSpec} {hits : List Hit}

lemma mem_hits_of_keyword (kw : Keyword) (hits : List Hit) (col : ℕ) :
    (∃ hit ∈ cells.foldl (fun hits cell =>
        if hits.any (·.col = cell.col) then hits
        else if kwIn py kw.norm cell.text spec.mode then
          hits ++ [⟨cell.col, .keyword, some kw.raw⟩]
        else hits) hits, hit.col = col) ↔
      (∃ hit ∈ hits, hit.col = col) ∨
        ∃ cell ∈ cells, kwIn py kw.norm cell.text spec.mode ∧ cell.col = col := by
  induction cells generalizing hits with
  | nil => simp
  | cons cell cells ih =>
    rw [List.foldl_cons, ih]
    by_cases hseen : hits.any (·.col = cell.col) = true
    · -- the column has been found before
      have hold : cell.col = col → ∃ hit ∈ hits, hit.col = col := by
        rintro rfl
        simpa using hseen
      simp only [hseen, if_true, List.mem_cons, exists_eq_or_imp]
      constructor
      · rintro (h | h)
        · exact .inl h
        · exact .inr (.inr h)
      · rintro (h | ⟨-, hcol⟩ | h)
        · exact .inl h
        · exact .inl (hold hcol)
        · exact .inr h
    · by_cases hkw : kwIn py kw.norm cell.text spec.mode = true
      · simp [hseen, hkw, or_assoc]
      · simp [hseen, hkw]

lemma mem_keywordHits (col : ℕ) :
    (∃ hit ∈ keywordHits py cells spec, hit.col = col) ↔
      ∃ kw ∈ spec.keywords, ∃ cell ∈ cells, kwIn py kw.norm cell.text spec.mode ∧
        cell.col = col := by
  have hgo : ∀ (kws : List Keyword) (hits : List Hit),
      (∃ hit ∈ kws.foldl (fun hits kw => cells.foldl (fun hits cell =>
          if hits.any (·.col = cell.col) then hits
          else if kwIn py kw.norm cell.text spec.mode then
            hits ++ [⟨cell.col, .keyword, some kw.raw⟩]
          else hits) hits) hits, hit.col = col) ↔
        (∃ hit ∈ hits, hit.col = col) ∨ ∃ kw ∈ kws, ∃ cell ∈ cells,
          kwIn py kw.norm cell.text spec.mode ∧ cell.col = col := by
    intro kws
    induction kws with
    | nil => simp
    | cons kw kws ih =>
      intro hits
      simp only [List.foldl_cons, ih, mem_hits_of_keyword, List.mem_cons, exists_eq_or_imp,
        or_assoc]
  have h := hgo spec.keywords []
  simpa [keywordHits] using h

/-- The columns that are found are those the field stands for. -/
lemma resolveOne_ok (h : resolveOne py cells spec = .ok hits) (col : ℕ) :
    (∃ hit ∈ hits, hit.col = col) ↔ Selects py cells spec col := by
  unfold resolveOne at h
  unfold Selects
  split at h
  · obtain rfl := Except.ok.inj h
    simp
  · obtain ⟨found, hfound, heq⟩ := Except.bind_eq_ok.mp h
    obtain rfl := Except.ok.inj heq
    simp [hfound]
  · obtain rfl := Except.ok.inj h
    exact mem_keywordHits col

lemma atMostOne_ok {refuse : String → String} {hit : Option Hit}
    (h : atMostOne py refuse hits = .ok hit) : hits = hit.toList := by
  unfold atMostOne at h
  split at h
  · obtain rfl := Except.ok.inj h
    rfl
  · obtain rfl := Except.ok.inj h
    rfl
  · obtain ⟨cols, -, hrefused⟩ := Except.bind_eq_ok.mp h
    cases hrefused

lemma colIndex_toMapped {sheet : String} {hit : Hit} {role : ColumnRole} {column : MappedColumn}
    (h : toMapped spec sheet hit role = .ok column) : column.colIndex = hit.col := by
  obtain ⟨letter, -, heq⟩ := Except.bind_eq_ok.mp h
  obtain rfl := Except.ok.inj heq
  rfl

/-- A field with one column at most resolves to what it stands for. -/
lemma resolvesTo_of_hit {hit : Option Hit} {column : Option MappedColumn}
    (hhits : resolveOne py cells spec = .ok hits) (hone : hits = hit.toList)
    (hcol : column.map MappedColumn.colIndex = hit.map Hit.col) :
    ResolvesTo py cells spec column := by
  intro col
  rw [← resolveOne_ok hhits, hone, hcol]
  cases hit <;> simp

lemma resolveText_ok {pins pins' : PinLetters} {field : Option FieldSpec} {role : ColumnRole}
    {name : String} {column : Option MappedColumn}
    (h : resolveText py ws cells pins field role name = .ok (column, pins')) :
    ∃ results, List.Forall₂ (ResolvesTo py cells) field.toList results ∧
      column.toList = results.reduceOption := by
  cases field with
  | none =>
    obtain ⟨rfl, -⟩ := Prod.mk.inj (Except.ok.inj h)
    exact ⟨[], .nil, rfl⟩
  | some spec =>
    simp only [resolveText, Except.bind_eq_ok] at h
    obtain ⟨_, -, hits, hhits, found, hfound, heq⟩ := h
    obtain ⟨rfl, -⟩ := Prod.mk.inj (Except.ok.inj heq)
    simp only [single, Except.bind_eq_ok] at hfound
    obtain ⟨hit, hhit, hmapped⟩ := hfound
    -- several hits are an error
    have hone := atMostOne_ok hhit
    cases hit with
    | none =>
      obtain rfl := Except.ok.inj hmapped
      exact ⟨[none], .cons (resolvesTo_of_hit hhits hone rfl) .nil, rfl⟩
    | some hit =>
      simp only [Except.bind_eq_ok] at hmapped
      obtain ⟨c, hc, heq⟩ := hmapped
      obtain rfl := Except.ok.inj heq
      refine ⟨[some c], .cons (resolvesTo_of_hit hhits hone ?_) .nil, rfl⟩
      simp [colIndex_toMapped hc]

lemma resolveImages_ok {role : ColumnRole} {name : String} {pins pins' : PinLetters}
    {specs : List FieldSpec} {columns : List MappedColumn}
    (h : resolveImages py ws cells role name pins specs = .ok (columns, pins')) :
    ∃ results, List.Forall₂ (ResolvesTo py cells) specs results ∧
      columns = results.reduceOption := by
  induction specs generalizing pins pins' columns with
  | nil =>
    obtain ⟨rfl, -⟩ := Prod.mk.inj (Except.ok.inj h)
    exact ⟨[], .nil, rfl⟩
  | cons spec specs ih =>
    simp only [resolveImages, Except.bind_eq_ok] at h
    obtain ⟨_, -, hits, hhits, hit, hhit, hrest⟩ := h
    have hone := atMostOne_ok hhit
    cases hit with
    | none =>
      obtain ⟨results, hresults, rfl⟩ := ih hrest
      exact ⟨none :: results, .cons (resolvesTo_of_hit hhits hone rfl) hresults, by simp⟩
    | some hit =>
      simp only [Except.bind_eq_ok] at hrest
      obtain ⟨c, hc, ⟨more, _⟩, hmore, heq⟩ := hrest
      obtain ⟨rfl, -⟩ := Prod.mk.inj (Except.ok.inj heq)
      obtain ⟨results, hresults, rfl⟩ := ih hmore
      refine ⟨some c :: results, .cons (resolvesTo_of_hit hhits hone ?_) hresults, by simp⟩
      simp [colIndex_toMapped hc]

/-- The fields that are to be written, in the order in which they are resolved. -/
def MappingConfig.targetSpecs (config : MappingConfig) : List FieldSpec :=
  config.title.toList ++ config.listing.toList ++ config.imagesMain ++ config.imagesAdditional

/-- What a mapping says: a column for each field that has one, and a key apart from them. -/
structure Mapped (py : Python) (ws : Worksheet) (config : MappingConfig) (mapped : MappedColumns) :
    Prop where
  targets : ∃ results, List.Forall₂
    (ResolvesTo py (headerCells py ws config mapped.headerBlock.matchRow)) config.targetSpecs
      results ∧ mapped.allTargets = results.reduceOption
  main : ∃ results, List.Forall₂
    (ResolvesTo py (headerCells py ws config mapped.headerBlock.matchRow)) config.imagesMain
      results ∧ mapped.imagesMain = results.reduceOption
  additional : ∃ results, List.Forall₂
    (ResolvesTo py (headerCells py ws config mapped.headerBlock.matchRow)) config.imagesAdditional
      results ∧ mapped.imagesAdditional = results.reduceOption
  title : ∃ pins, resolveText py ws (headerCells py ws config mapped.headerBlock.matchRow) []
    config.title .title "title" = .ok (mapped.title, pins)
  key : resolveKey py ws config (headerCells py ws config mapped.headerBlock.matchRow) =
    .ok mapped.keyColumn
  apart : ∀ k ∈ mapped.keyColumn, ∀ c ∈ mapped.allTargets, k.colIndex ≠ c.colIndex

lemma resolveColumns_ok {headerBlock : HeaderBlock} {mapped : MappedColumns}
    (h : resolveColumns py ws config headerBlock = .ok mapped) :
    mapped.headerBlock = headerBlock ∧ Mapped py ws config mapped := by
  simp only [resolveColumns, Except.bind_eq_ok] at h
  obtain ⟨⟨title, _⟩, htitle, ⟨listing, _⟩, hlisting, ⟨main, _⟩, hmain, ⟨additional, _⟩,
    hadditional, key, hkey, _, -, hkept⟩ := h
  split at hkept
  · cases hkept
  · next hnone =>
    obtain rfl := Except.ok.inj hkept
    obtain ⟨rtitle, htitles, hrtitle⟩ := resolveText_ok htitle
    obtain ⟨rlisting, hlistings, hrlisting⟩ := resolveText_ok hlisting
    obtain ⟨rmain, hmains, hrmain⟩ := resolveImages_ok hmain
    obtain ⟨radditional, hadditionals, hradditional⟩ := resolveImages_ok hadditional
    refine ⟨rfl, ?_, ⟨rmain, hmains, hrmain⟩, ⟨radditional, hadditionals, hradditional⟩,
      ⟨_, htitle⟩, hkey, ?_⟩
    · refine ⟨rtitle ++ rlisting ++ rmain ++ radditional, ?_, ?_⟩
      · exact List.rel_append (List.rel_append (List.rel_append htitles hlistings) hmains)
          hadditionals
      · simp only [MappedColumns.allTargets, hrtitle, hrlisting, hrmain, hradditional,
          List.reduceOption_append]
    · intro k hk c hc heq
      obtain rfl : key = some k := hk
      simp only [Option.filter_some, decide_eq_true_eq] at hnone
      split_ifs at hnone with htarget
      -- a key column among the targets is refused
      refine htarget (List.mem_toFinset.mpr ?_)
      rw [heq]
      exact List.mem_map_of_mem hc

/-- A column is among those that were found if and only if some field stands for it. -/
lemma mem_of_resolved {specs : List FieldSpec} {results : List (Option MappedColumn)}
    (h : List.Forall₂ (ResolvesTo py cells) specs results) (col : ℕ) :
    col ∈ results.reduceOption.map MappedColumn.colIndex ↔ ∃ a ∈ specs, Selects py cells a col := by
  induction h with
  | nil => simp
  | @cons spec result specs results hspec _ ih =>
    rw [List.mem_map] at ih
    cases result with
    | none =>
      have hnone : ¬ Selects py cells spec col := fun hsel => by simpa using (hspec col).mp hsel
      simp [ih, hnone]
    | some c =>
      have hsome : Selects py cells spec col ↔ c.colIndex = col := by simpa using hspec col
      simp [ih, hsome, eq_comm (a := col)]

/-- The columns that were found are different if and only if the fields are apart. -/
lemma nodup_of_resolved {specs : List FieldSpec} {results : List (Option MappedColumn)}
    (h : List.Forall₂ (ResolvesTo py cells) specs results) :
    (results.reduceOption.map MappedColumn.colIndex).Nodup ↔ specs.Pairwise (Apart py cells) := by
  induction h with
  | nil => simp
  | @cons spec result specs results hspec hrest ih =>
    cases result with
    | none =>
      have hnone : ∀ col, ¬ Selects py cells spec col := fun col hsel => by
        simpa using (hspec col).mp hsel
      rw [List.reduceOption_cons_of_none, ih, List.pairwise_cons]
      exact ⟨fun hpair => ⟨fun b _ col hboth => hnone col hboth.1, hpair⟩, fun hpair => hpair.2⟩
    | some c =>
      have hsome : ∀ col, Selects py cells spec col ↔ c.colIndex = col := fun col => by
        simpa using hspec col
      rw [List.reduceOption_cons_of_some, List.map_cons, List.nodup_cons, ih, List.pairwise_cons,
        mem_of_resolved hrest]
      refine and_congr_left fun _ => ⟨fun hnot b hb col hboth => ?_, ?_⟩
      · obtain rfl := (hsome col).mp hboth.1
        exact hnot ⟨b, hb, hboth.2⟩
      · rintro hapart ⟨b, hb, hsel⟩
        exact hapart b hb _ ⟨(hsome _).mpr rfl, hsel⟩

end Lemmas

/-- **One column for one role.**  When the columns of a sheet are resolved, those of the title, the
listing, the images and the key are all different if and only if no two of the fields that are
written, by an index, a letter or a keyword, stand for a common column of the header. -/
theorem columns_nodup_iff (py : Python) (ws : Worksheet) (config : MappingConfig)
    (headerBlock : HeaderBlock) (mapped : MappedColumns)
    (h : resolveColumns py ws config headerBlock = .ok mapped) :
    mapped.columns.Nodup ↔
      config.targetSpecs.Pairwise (Apart py (headerCells py ws config headerBlock.matchRow)) := by
  obtain ⟨rfl, hmapped⟩ := resolveColumns_ok h
  obtain ⟨results, hresults, htargets⟩ := hmapped.targets
  rw [← nodup_of_resolved hresults, ← htargets, MappedColumns.columns, List.map_append,
    List.nodup_append]
  constructor
  · exact fun hall => hall.1
  · refine fun htarget => ⟨htarget, ?_, ?_⟩
    · cases mapped.keyColumn <;> simp
    · -- the key is checked against every other column
      intro a ha b hb hab
      obtain ⟨c, hc, rfl⟩ := List.mem_map.mp ha
      obtain ⟨k, hk, rfl⟩ := List.mem_map.mp hb
      exact hmapped.apart k (by simpa using hk) c hc hab.symm

/-- A header in the first row. -/
def firstRowHeader : HeaderBlock where
  headerRows := [1]
  matchRow := 1
  dataStartRow := 2
  data_pos := by decide
  below := by decide

/-- A title and a listing, each pinned to a column of its own. -/
def pinnedConfig : MappingConfig where
  title := some { index := some 1 }
  listing := some { letter := some "B" }

/-- A title that is pinned to the first column, and an image pinned to the same one by its
letter. -/
def crossPinnedConfig : MappingConfig where
  title := some { index := some 1 }
  imagesMain := [{ letter := some "A" }]

/-- A title in the first column. -/
def pinnedColumns : MappedColumns where
  sheet := "S"
  headerBlock := firstRowHeader
  title := some ⟨.title, "S", 1, "A", .index, none, none⟩
  listing := some ⟨.listing, "S", 2, "B", .letter, none, none⟩
  imagesMain := []
  imagesAdditional := []
  targetColIndices := {1, 2}
  keyColumn := none

theorem columns_nodup_iff_pinned :
    pinnedColumns.columns.Nodup ↔ pinnedConfig.targetSpecs.Pairwise
      (Apart plainPython (headerCells plainPython (Worksheet.empty "S") pinnedConfig 1)) :=
  columns_nodup_iff plainPython (Worksheet.empty "S") pinnedConfig firstRowHeader pinnedColumns
    (by decide)

/-- The title and the image are both resolved to the first column. -/
theorem columns_not_nodup :
    ∃ mapped, resolveColumns plainPython (Worksheet.empty "S") crossPinnedConfig firstRowHeader =
      .ok mapped ∧ ¬ mapped.columns.Nodup :=
  ⟨{ sheet := "S"
     headerBlock := firstRowHeader
     title := some ⟨.title, "S", 1, "A", .index, none, none⟩
     listing := none
     imagesMain := [⟨.imageMain, "S", 1, "A", .letter, none, none⟩]
     imagesAdditional := []
     targetColIndices := {1}
     keyColumn := none }, by decide, by decide⟩

end OzonSuite.Excel
