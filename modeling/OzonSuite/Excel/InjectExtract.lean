/-
# A filled template read again

Where the columns are all different, the image cells hold no hyperlinks and the delimiters cut lines
apart, what is put into a template is what comes out of it again, by the columns that it was put in
by: the title, the listing, and the images in their order, however many there are for however many
columns.
-/
import OzonSuite.Excel.Accepted
import OzonSuite.Excel.Inject
import OzonSuite.Excel.Rewrite

namespace OzonSuite.Excel

open Lib

/-! ## Columns and shares -/

section Shares

variable {placed more : List (ℕ × String)} {p : ℕ × String} {col : ℕ}

lemma lastPlaced_append_list : lastPlaced (placed ++ more) col =
    (lastPlaced more col).or (lastPlaced placed col) := by
  induction more using List.reverseRecOn with
  | nil => simp [lastPlaced]
  | append_singleton more p ih =>
    rw [← List.append_assoc, lastPlaced_append, lastPlaced_append, ih]
    split_ifs <;> simp

lemma lastPlaced_cons : lastPlaced (p :: placed) col =
    (lastPlaced placed col).or (if p.1 = col then some p.2 else none) := by
  rw [← List.singleton_append, lastPlaced_append_list]
  congr 1
  exact @lastPlaced_append [] p col

lemma lastPlaced_eq_none (h : col ∉ placed.map Prod.fst) : lastPlaced placed col = none := by
  rw [lastPlaced, Option.map_eq_none_iff, List.find?_eq_none]
  intro p hp
  simp only [decide_eq_true_eq]
  rintro rfl
  exact h (List.mem_map_of_mem (List.mem_reverse.mp hp))

/-- Columns that take one image each take the images in their order. -/
lemma flatMap_lastPlaced_zip {cols : List ℕ} {urls : List String} (hcols : cols.Nodup)
    (hlength : urls.length ≤ cols.length) :
    cols.flatMap (fun c => (lastPlaced (cols.zip urls) c).toList) = urls := by
  induction cols generalizing urls with
  | nil => simpa using hlength
  | cons c cols ih =>
    cases urls with
    | nil =>
      rw [List.zip_nil_right, List.flatMap_eq_nil_iff]
      exact fun _ _ => rfl
    | cons u urls =>
      obtain ⟨hc, hcols⟩ := List.nodup_cons.mp hcols
      have hnone : lastPlaced (cols.zip urls) c = none := by
        refine lastPlaced_eq_none fun hmem => hc ?_
        obtain ⟨p, hp, rfl⟩ := List.mem_map.mp hmem
        exact (List.of_mem_zip hp).1
      have hrest : ∀ c' ∈ cols, (lastPlaced ((c :: cols).zip (u :: urls)) c').toList =
          (lastPlaced (cols.zip urls) c').toList := by
        intro c' hc'
        have hne : ¬ c = c' := fun heq => hc (heq ▸ hc')
        rw [List.zip_cons_cons, lastPlaced_cons, if_neg hne, Option.or_none]
      rw [List.flatMap_cons, List.flatMap_congr hrest, ih hcols (by simpa using hlength),
        List.zip_cons_cons, lastPlaced_cons, hnone, if_pos rfl]
      rfl

/-- Each column gets a share of the images, which is written into it line by line, and the shares
make up the images. -/
structure Shares (cols : List ℕ) (placed : List (ℕ × String)) (urls : List String)
    (share : ℕ → List String) : Prop where
  text : ∀ c ∈ cols, lastPlaced placed c =
    if share c = [] then none else some ("\n".intercalate (share c))
  all : cols.flatMap share = urls

lemma not_mem_zip {cols : List ℕ} {urls : List String} (h : col ∉ cols) :
    lastPlaced (cols.zip urls) col = none := by
  refine lastPlaced_eq_none fun hmem => h ?_
  obtain ⟨p, hp, rfl⟩ := List.mem_map.mp hmem
  exact (List.of_mem_zip hp).1

lemma intercalate_toList (text : Option String) :
    (if text.toList = [] then none else some ("\n".intercalate text.toList)) = text := by
  cases text with
  | none => rfl
  | some u =>
    rw [if_neg (by simp)]
    exact congrArg some String.intercalate_singleton

/-- The first column has several lines, some columns are left out, and the others have one line
each. -/
lemma exists_shares_cons {first : ℕ} {skipped cols : List ℕ} {head urls : List String}
    (hcols : (first :: (skipped ++ cols)).Nodup) (hhead : head ≠ [])
    (hlength : urls.length ≤ cols.length) :
    ∃ share, Shares (first :: (skipped ++ cols))
      ((first, "\n".intercalate head) :: cols.zip urls) (head ++ urls) share := by
  obtain ⟨hfirst, hnodup⟩ := List.nodup_cons.mp hcols
  obtain ⟨-, hrest, hapart⟩ := List.nodup_append.mp hnodup
  have hother : ∀ c ∈ skipped ++ cols, ¬ first = c := fun c hc heq => hfirst (heq ▸ hc)
  let share (c : ℕ) : List String :=
    if first = c then head else (lastPlaced (cols.zip urls) c).toList
  -- the columns are all different, so each has at most one text
  have hshare : ∀ c ∈ skipped ++ cols, share c = (lastPlaced (cols.zip urls) c).toList :=
    fun c hc => if_neg (hother c hc)
  refine ⟨share, fun c hc => ?_, ?_⟩
  · rw [lastPlaced_cons]
    rcases List.mem_cons.mp hc with rfl | hc
    · have hnone : lastPlaced (cols.zip urls) c = none :=
        not_mem_zip fun hmem => hfirst (List.mem_append_right _ hmem)
      have hown : share c = head := if_pos rfl
      rw [hnone, Option.none_or, if_pos rfl, hown, if_neg hhead]
    · rw [hshare c hc, intercalate_toList, if_neg (hother c hc), Option.or_none]
  · have hskipped : ∀ c ∈ skipped, share c = [] := by
      intro c hc
      rw [hshare c (List.mem_append_left _ hc), not_mem_zip fun hmem => hapart c hc c hmem rfl]
      rfl
    have hown : share first = head := if_pos rfl
    rw [List.flatMap_cons, List.flatMap_append, List.flatMap_eq_nil_iff.mpr hskipped,
      List.flatMap_congr fun c hc => hshare c (List.mem_append_right _ hc),
      flatMap_lastPlaced_zip hrest hlength, hown, List.nil_append]

/-- **Every image finds a column.** -/
lemma exists_shares {cols : List ℕ} {others : List String} (hcols : cols.Nodup)
    (hroom : others ≠ [] → cols ≠ []) :
    ∃ share, Shares cols (distribute cols others) others share := by
  cases cols with
  | nil =>
    have hnone : others = [] := by
      by_contra hne
      exact hroom hne rfl
    subst hnone
    exact ⟨fun _ => [], by simp, rfl⟩
  | cons first rest =>
    by_cases hothers : others = []
    · subst hothers
      refine ⟨fun _ => [], fun c _ => rfl, List.flatMap_eq_nil_iff.mpr fun _ _ => rfl⟩
    · have hdistribute : distribute (first :: rest) others =
          if others.take (others.length - min rest.length others.length) ≠ [] then
            (first, "\n".intercalate
              (others.take (others.length - min rest.length others.length))) ::
                rest.zip (others.drop (others.length - min rest.length others.length))
          else
            (first, (others.drop (others.length - min rest.length others.length)).headD "") ::
              rest.tail.zip (others.drop (others.length - min rest.length others.length)).tail :=
        if_neg hothers
      rw [hdistribute]
      split_ifs with hmulti
      · have hsingles : (others.drop (others.length - min rest.length others.length)).length ≤
            rest.length := by
          rw [List.length_drop]
          omega
        have hshares := @exists_shares_cons first [] rest _ _ hcols hmulti hsingles
        rwa [List.take_append_drop] at hshares
      · -- there is nothing left for the first column, so it takes the first image
        rw [not_not, List.take_eq_nil_iff] at hmulti
        have hall : others.length - min rest.length others.length = 0 :=
          hmulti.resolve_right hothers
        obtain ⟨u, urls, rfl⟩ := List.exists_cons_of_ne_nil hothers
        rw [List.length_cons] at hall
        cases rest with
        | nil => simp at hall
        | cons skipped rest =>
          rw [List.length_cons, hall, List.drop_zero]
          have hshares := @exists_shares_cons first [skipped] rest [u] urls hcols (by simp)
            (by rw [List.length_cons] at hall; omega)
          rwa [String.intercalate_singleton] at hshares

end Shares

/-! ## Cells -/

section Cells

variable {py : Python} {place : CellAt} {spec : Option FieldSpec} {ws : Option SheetFrame}
  {delims urls : List String}

/-- A text that begins as an address does is no formula. -/
lemma noFormula_of_cons {s : String} {c : Char} {l : List Char} (hs : s.toList = c :: l)
    (hspace : isPySpace c = false) (hc : c ≠ '=') : hyperlinkFormula s = none := by
  rw [hyperlinkFormula, hs, expect_ne hspace hc]
  rfl

lemma LoneUrl.exists_cons {u : String} (h : LoneUrl delims u) :
    ∃ c l, u.toList = c :: l ∧ isPySpace c = false ∧ c ≠ '=' := by
  obtain ⟨n, hn, -⟩ := h.one
  cases hu : u.toList with
  | nil => exact absurd (String.toList_eq_nil_iff.mp hu) h.ne_empty
  | cons c l =>
    refine ⟨c, l, rfl, h.noSpace c (by rw [hu]; exact List.mem_cons_self), ?_⟩
    rintro rfl
    rw [hu] at hn
    cases hn

/-- The delimiters cut a text with an address on each line at the ends of the lines: the line break
is among them, or the space, which stands for any white space, and no other has a line break in it.
-/
structure CutsLines (delims : List String) : Prop where
  cuts : "\n" ∈ delims ∨ " " ∈ delims
  only : ∀ d ∈ delims, '\n' ∈ d.toList → d = "\n"

/-- Addresses on a line each are cut at the ends of the lines. -/
lemma cutParts_lines (hne : urls ≠ []) (hurls : ∀ u ∈ urls, LoneUrl delims u) {d : String}
    (hd : d = "\n" ∨ d = " ") : cutParts d ("\n".intercalate urls) = urls := by
  rcases hd with rfl | rfl
  · rw [cutParts, if_neg (by decide)]
    refine partsOf_intercalate (by decide) hne fun u hu =>
      ⟨endsFirst_of_head (a := '\n') rfl fun hmem => ?_, (hurls u hu).strip, (hurls u hu).ne_empty⟩
    have hspace := (hurls u hu).noSpace '\n' hmem
    revert hspace
    decide
  · have hbreak : "\n".toList = ['\n'] := rfl
    have hspace : ∀ a ∈ "\n".toList, isPySpace a = true := by
      rw [hbreak]
      exact List.forall_mem_singleton.mpr (by decide)
    rw [cutParts, if_pos rfl]
    exact wordParts_intercalate hspace (hbreak ▸ List.cons_ne_nil _ _) fun u hu =>
      ⟨(hurls u hu).ne_empty, (hurls u hu).noSpace⟩

/-- The line break and the space separate the lines, and the other delimiters do not. -/
lemma separates_lines_iff (hlength : 2 ≤ urls.length) (hurls : ∀ u ∈ urls, LoneUrl delims u)
    (hlines : CutsLines delims) {d : String} (hd : d ∈ delims) :
    Separates ("\n".intercalate urls) d ↔ d = "\n" ∨ d = " " := by
  have hne : urls ≠ [] := List.length_pos_iff.mp (by omega)
  constructor
  · rintro ⟨htwo, -⟩
    by_contra hother
    obtain ⟨hbreak, hblank⟩ := not_or.mp hother
    -- no other delimiter has a line break in it, so it would have to lie in one of the addresses
    have hnot : hasInfix d.toList ("\n".intercalate urls).toList = false := by
      rw [← Bool.not_eq_true, hasInfix_iff, String.toList_intercalate]
      intro hinfix
      have hempty : d.toList ≠ [] := by
        intro hnil
        obtain ⟨u, hu⟩ := List.exists_mem_of_ne_nil _ hne
        exact (hurls u hu).empty_not_mem (String.toList_eq_nil_iff.mp hnil ▸ hd)
      obtain ⟨piece, hpiece, hin⟩ := infix_of_infix_intercalate hempty
        (fun hmem => hbreak (hlines.only d hd hmem)) hinfix
      obtain ⟨u, hu, rfl⟩ := List.mem_map.mp hpiece
      have hlone := (hurls u hu).noDelim d hd
      rw [← Bool.not_eq_true, hasInfix_iff] at hlone
      exact hlone hin
    rw [cutParts, if_neg hblank] at htwo
    have hfew := length_partsOf_le hnot
    have hfilter := List.length_filter_le Excel.looksLikeUrl (partsOf d ("\n".intercalate urls))
    omega
  · intro hd
    have hlook : ∀ u ∈ urls, looksLikeUrl u = true := fun u hu => (hurls u hu).looksLikeUrl
    rw [Separates, cutParts_lines hne hurls hd, List.filter_eq_self.mpr hlook]
    exact ⟨hlength, fun _ => hlook⟩

lemma firstSeparates_lines (hlength : 2 ≤ urls.length) (hurls : ∀ u ∈ urls, LoneUrl delims u)
    (hlines : CutsLines delims) : ∃ d, (d = "\n" ∨ d = " ") ∧
      FirstSeparates ("\n".intercalate urls) delims d := by
  have hsome : ∃ d ∈ delims, d = "\n" ∨ d = " " := by
    rcases hlines.cuts with hmem | hmem
    · exact ⟨_, hmem, .inl rfl⟩
    · exact ⟨_, hmem, .inr rfl⟩
  obtain ⟨d, hfound⟩ : ∃ d, delims.find? (fun d => d = "\n" ∨ d = " ") = some d := by
    rw [← Option.isSome_iff_exists, List.find?_isSome]
    simpa using hsome
  obtain ⟨hd, before, behind, rfl, hbefore⟩ := List.find?_eq_some_iff_append.mp hfound
  have hd : d = "\n" ∨ d = " " := by simpa using hd
  refine ⟨d, hd, before, behind, rfl, fun e he hsep => ?_, ?_⟩
  · have hcut := (separates_lines_iff hlength hurls hlines (List.mem_append_left _ he)).mp hsep
    simpa [hcut] using hbefore e he
  · exact (separates_lines_iff hlength hurls hlines (by simp)).mpr hd

/-- **What is written line by line is read again.** -/
lemma read_lines (hne : urls ≠ []) (hurls : ∀ u ∈ urls, LoneUrl (readDelims spec) u)
    (hlines : 2 ≤ urls.length → CutsLines (readDelims spec))
    (hshown : ShowsText place.cell ("\n".intercalate urls)) (hembedded : Embedded place ws = false)
    (hcol : ∃ letter, getColumnLetter place.col = .ok letter) :
    ∃ ic, parse py place spec ws = .ok ic ∧ ic.urls = urls := by
  obtain ⟨u, hu⟩ := List.exists_mem_of_ne_nil _ hne
  have hempty : "" ∉ readDelims spec := (hurls u hu).empty_not_mem
  obtain ⟨ic, hparse⟩ : ∃ ic, parse py place spec ws = .ok ic :=
    parse_ok_iff.mpr ⟨hcol, .inr fun _ s _ => not_reachesEmpty hempty s⟩
  refine ⟨ic, hparse, ?_⟩
  match urls, hne with
  -- a single address is read whole
  | [u], _ =>
    rw [String.intercalate_singleton] at hshown
    exact (read_lone hshown (hurls u List.mem_cons_self) hembedded hparse).2.1
  | u :: v :: rest, hne =>
    have hlength : 2 ≤ (u :: v :: rest).length := by simp
    obtain ⟨c, l, hcons, hspace, hc⟩ := (hurls u List.mem_cons_self).exists_cons
    have hnone : hyperlinkFormula ("\n".intercalate (u :: v :: rest)) = none := by
      refine noFormula_of_cons (c := c) (l := l ++ "\n".toList ++
        ("\n".intercalate (v :: rest)).toList) ?_ hspace hc
      rw [String.intercalate_cons_cons, String.toList_append, String.toList_append, hcons]
      simp
    obtain ⟨d, hd, hfirst⟩ := firstSeparates_lines hlength hurls (hlines hlength)
    have hread := read_multi hshown hempty hnone hfirst hembedded hparse
    rw [hread.2.1, cutParts_lines hne hurls hd]
    exact List.filter_eq_self.mpr fun w hw => (hurls w hw).looksLikeUrl

lemma read_blank (hblank : isBlankValue place.cell.value = true)
    (hlink : place.cell.hyperlink = none) (hembedded : Embedded place ws = false)
    (hcol : ∃ letter, getColumnLetter place.col = .ok letter) :
    ∃ ic, parse py place spec ws = .ok ic ∧ ic.urls = [] := by
  obtain ⟨ref, href⟩ := (cellRef_ok_iff place).mpr hcol
  refine ⟨ImageCell.bare ref .empty place.cell.value, ?_, rfl⟩
  rw [parse, href]
  simp only [bind, Except.bind, hembedded, hblank, hlink, Bool.false_eq_true, if_false,
    decide_true, Bool.and_self, if_true]
  rfl

end Cells

/-! ## What is placed for a row -/

section Placements

variable {py : Python} {ws : Worksheet} {config : MappingConfig} {mapped : MappedColumns}
  {headerBlock : HeaderBlock}

lemma named_of_toMapped {spec : FieldSpec} {sheet : String} {hit : Hit} {role : ColumnRole}
    {column : MappedColumn} (h : toMapped spec sheet hit role = .ok column) :
    ∃ letter, getColumnLetter column.colIndex = .ok letter := by
  obtain ⟨letter, hletter, heq⟩ := Except.bind_eq_ok.mp h
  obtain rfl := Except.ok.inj heq
  exact ⟨letter, hletter⟩

lemma named_of_resolveText {cells : List HeaderCell} {pins pins' : PinLetters}
    {field : Option FieldSpec} {role : ColumnRole} {name : String} {column : Option MappedColumn}
    (h : resolveText py ws cells pins field role name = .ok (column, pins')) :
    ∀ mc ∈ column, ∃ letter, getColumnLetter mc.colIndex = .ok letter := by
  intro mc hmc
  cases field with
  | none =>
    obtain ⟨rfl, -⟩ := Prod.mk.inj (Except.ok.inj h)
    cases hmc
  | some spec =>
    simp only [resolveText, Except.bind_eq_ok] at h
    obtain ⟨_, -, hits, -, found, hfound, heq⟩ := h
    obtain ⟨rfl, -⟩ := Prod.mk.inj (Except.ok.inj heq)
    simp only [single, Except.bind_eq_ok] at hfound
    obtain ⟨hit, -, hmapped⟩ := hfound
    cases hit with
    | none =>
      obtain rfl := Except.ok.inj hmapped
      cases hmc
    | some hit =>
      simp only [Except.bind_eq_ok] at hmapped
      obtain ⟨c, hc, heq⟩ := hmapped
      obtain rfl := Except.ok.inj heq
      obtain rfl := Option.some.inj hmc
      exact named_of_toMapped hc

lemma named_of_resolveImages {cells : List HeaderCell} {pins pins' : PinLetters}
    {specs : List FieldSpec} {role : ColumnRole} {name : String} {columns : List MappedColumn}
    (h : resolveImages py ws cells role name pins specs = .ok (columns, pins')) :
    ∀ mc ∈ columns, ∃ letter, getColumnLetter mc.colIndex = .ok letter := by
  induction specs generalizing pins pins' columns with
  | nil =>
    obtain ⟨rfl, -⟩ := Prod.mk.inj (Except.ok.inj h)
    simp
  | cons spec specs ih =>
    simp only [resolveImages, Except.bind_eq_ok] at h
    obtain ⟨_, -, hits, -, hit, -, hrest⟩ := h
    cases hit with
    | none => exact ih hrest
    | some hit =>
      simp only [Except.bind_eq_ok] at hrest
      obtain ⟨c, hc, ⟨more, _⟩, hmore, heq⟩ := hrest
      obtain ⟨rfl, -⟩ := Prod.mk.inj (Except.ok.inj heq)
      intro mc hmc
      rcases List.mem_cons.mp hmc with rfl | hmc
      · exact named_of_toMapped hc
      · exact ih hmore mc hmc

/-- The columns that are written have letters, so there is none before the first. -/
lemma named_of_resolveColumns (h : resolveColumns py ws config headerBlock = .ok mapped) :
    ∀ mc ∈ mapped.allTargets, ∃ letter, getColumnLetter mc.colIndex = .ok letter := by
  simp only [resolveColumns, Except.bind_eq_ok] at h
  obtain ⟨⟨title, _⟩, htitle, ⟨listing, _⟩, hlisting, ⟨main, _⟩, hmain, ⟨additional, _⟩,
    hadditional, key, -, _, -, hkept⟩ := h
  split at hkept
  · cases hkept
  · obtain rfl := Except.ok.inj hkept
    intro mc hmc
    simp only [MappedColumns.allTargets, List.mem_append, Option.mem_toList] at hmc
    rcases hmc with ((hmc | hmc) | hmc) | hmc
    · exact named_of_resolveText htitle mc hmc
    · exact named_of_resolveText hlisting mc hmc
    · exact named_of_resolveImages hmain mc hmc
    · exact named_of_resolveImages hadditional mc hmc

/-- The columns that a mapping writes are different, and there are such columns. -/
structure Distinct (mapped : MappedColumns) : Prop where
  nodup : (mapped.allTargets.map MappedColumn.colIndex).Nodup
  pos : ∀ mc ∈ mapped.allTargets, mc.colIndex ≠ 0

variable {row : InjectRow} {urls : List String}

lemma Shares.congr {cols : List ℕ} {placed placed' : List (ℕ × String)} {share : ℕ → List String}
    (h : Shares cols placed urls share)
    (hsame : ∀ c ∈ cols, lastPlaced placed' c = lastPlaced placed c) :
    Shares cols placed' urls share :=
  ⟨fun c hc => (hsame c hc).trans (h.text c hc), h.all⟩

lemma placeIn_some {mc : MappedColumn} {text : String} (hpos : mc.colIndex ≠ 0) :
    placeIn (some mc) text = [(mc.colIndex, text)] := by
  simp [placeIn, hpos]

lemma keys_placeIn {mc : Option MappedColumn} {text : String} {col : ℕ}
    (h : col ∈ (placeIn mc text).map Prod.fst) : col ∈ mc.toList.map MappedColumn.colIndex := by
  cases mc with
  | none => cases h
  | some mc =>
    by_cases hpos : mc.colIndex = 0
    · have hnone : placeIn (some mc) text = [] := by simp [placeIn, hpos]
      rw [hnone] at h
      cases h
    · rwa [placeIn_some hpos] at h

lemma keys_distribute {cols : List ℕ} {others : List String} {col : ℕ}
    (h : col ∈ (distribute cols others).map Prod.fst) : col ∈ cols := by
  cases cols with
  | nil => cases h
  | cons first rest =>
    by_cases hothers : others = []
    · subst hothers
      cases h
    · obtain ⟨p, hp, rfl⟩ := List.mem_map.mp h
      unfold distribute at hp
      dsimp only at hp
      rw [if_neg hothers] at hp
      split_ifs at hp
      · rcases List.mem_cons.mp hp with rfl | hp
        · exact List.mem_cons_self
        · exact List.mem_cons_of_mem _ (List.of_mem_zip hp).1
      · rcases List.mem_cons.mp hp with rfl | hp
        · exact List.mem_cons_self
        · exact List.mem_cons_of_mem _ (List.mem_of_mem_tail (List.of_mem_zip hp).1)

lemma keys_primary {columns : List MappedColumn} {primary : Option String} {col : ℕ}
    (h : col ∈ (primary.toList.flatMap (placeIn columns.head?)).map Prod.fst) :
    col ∈ columns.map MappedColumn.colIndex := by
  obtain ⟨p, hp, rfl⟩ := List.mem_map.mp h
  obtain ⟨u, -, hp⟩ := List.mem_flatMap.mp hp
  have hhead := keys_placeIn (List.mem_map_of_mem (f := Prod.fst) hp)
  cases columns with
  | nil => exact hhead
  | cons mc columns =>
    rw [List.map_cons]
    exact List.mem_cons.mpr (.inl (List.mem_singleton.mp hhead))

/-- The text of a field is in its column. -/
lemma lastPlaced_placeIn {mc : MappedColumn} {text : String} (hpos : mc.colIndex ≠ 0) :
    lastPlaced (placeIn (some mc) text) mc.colIndex = some text := by
  rw [placeIn_some hpos]
  simp [lastPlaced]

/-- The primary image is in the first of the main columns. -/
lemma exists_shares_primary {columns : List MappedColumn} {primary : Option String}
    (hcols : (columns.map MappedColumn.colIndex).Nodup) (hpos : ∀ mc ∈ columns, mc.colIndex ≠ 0)
    (hroom : primary ≠ none → columns ≠ []) :
    ∃ share, Shares (columns.map MappedColumn.colIndex)
      (primary.toList.flatMap (placeIn columns.head?)) primary.toList share := by
  cases primary with
  | none =>
    exact ⟨fun _ => [], fun _ _ => rfl, List.flatMap_eq_nil_iff.mpr fun _ _ => rfl⟩
  | some u =>
    cases columns with
    | nil => exact absurd rfl (hroom (by simp))
    | cons mc columns =>
      have hshares := @exists_shares_cons mc.colIndex (columns.map MappedColumn.colIndex) [] [u] []
        (by simpa using hcols) (by simp) le_rfl
      have hplaced : (some u).toList.flatMap (placeIn (mc :: columns).head?) =
          (mc.colIndex, "\n".intercalate [u]) :: List.zip [] [] := by
        rw [String.intercalate_singleton]
        exact (List.append_nil _).trans (placeIn_some (hpos mc List.mem_cons_self))
      rw [hplaced]
      rwa [List.append_nil] at hshares

/-- **What ends up where.**  If the columns are different, each piece is in its own. -/
structure PlacedApart (mapped : MappedColumns) (row : InjectRow) : Prop where
  title : ∀ mc ∈ mapped.title, lastPlaced (placements mapped row) mc.colIndex = some row.title
  listing : ∀ mc ∈ mapped.listing,
    lastPlaced (placements mapped row) mc.colIndex = some row.listing
  main : ∃ share, Shares (mapped.imagesMain.map MappedColumn.colIndex) (placements mapped row)
    (firstUrl row.primaryImage).toList share
  additional : ∃ share, Shares (mapped.imagesAdditional.map MappedColumn.colIndex)
    (placements mapped row) row.others share
  elsewhere : ∀ c ∉ mapped.allTargets.map MappedColumn.colIndex,
    lastPlaced (placements mapped row) c = none

lemma lastPlaced_placements (c : ℕ) : lastPlaced (placements mapped row) c =
    (lastPlaced (distribute (mapped.imagesAdditional.map MappedColumn.colIndex) row.others) c).or
      ((lastPlaced ((firstUrl row.primaryImage).toList.flatMap
          (placeIn mapped.imagesMain.head?)) c).or
        ((lastPlaced (placeIn mapped.listing row.listing) c).or
          (lastPlaced (placeIn mapped.title row.title) c))) := by
  rw [placements, lastPlaced_append_list, lastPlaced_append_list, lastPlaced_append_list]

lemma placedApart (h : Distinct mapped)
    (hmain : firstUrl row.primaryImage ≠ none → mapped.imagesMain ≠ [])
    (hadditional : row.others ≠ [] → mapped.imagesAdditional ≠ []) : PlacedApart mapped row := by
  have hnodup := h.nodup
  have hpos := h.pos
  simp only [MappedColumns.allTargets, List.map_append] at hnodup
  obtain ⟨hthree, hnodupAdditional, hlast⟩ := List.nodup_append.mp hnodup
  obtain ⟨htwo, hnodupMain, hthird⟩ := List.nodup_append.mp hthree
  obtain ⟨-, -, hsecond⟩ := List.nodup_append.mp htwo
  have hin : ∀ mc, mc ∈ mapped.title.toList ∨ mc ∈ mapped.listing.toList ∨
      mc ∈ mapped.imagesMain ∨ mc ∈ mapped.imagesAdditional → mc.colIndex ≠ 0 := by
    intro mc hmc
    refine hpos mc ?_
    simp only [MappedColumns.allTargets, List.mem_append]
    tauto
  -- a piece is not overwritten by a later one, nor read where an earlier one is
  have hlistingElse : ∀ c ∉ mapped.listing.toList.map MappedColumn.colIndex,
      lastPlaced (placeIn mapped.listing row.listing) c = none :=
    fun c hc => lastPlaced_eq_none fun hmem => hc (keys_placeIn hmem)
  have htitleElse : ∀ c ∉ mapped.title.toList.map MappedColumn.colIndex,
      lastPlaced (placeIn mapped.title row.title) c = none :=
    fun c hc => lastPlaced_eq_none fun hmem => hc (keys_placeIn hmem)
  have hmainElse : ∀ c ∉ mapped.imagesMain.map MappedColumn.colIndex,
      lastPlaced ((firstUrl row.primaryImage).toList.flatMap
        (placeIn mapped.imagesMain.head?)) c = none :=
    fun c hc => lastPlaced_eq_none fun hmem => hc (keys_primary hmem)
  have hadditionalElse : ∀ c ∉ mapped.imagesAdditional.map MappedColumn.colIndex,
      lastPlaced (distribute (mapped.imagesAdditional.map MappedColumn.colIndex) row.others) c =
        none :=
    fun c hc => lastPlaced_eq_none fun hmem => hc (keys_distribute hmem)
  refine ⟨fun mc hmc => ?_, fun mc hmc => ?_, ?_, ?_, fun c hc => ?_⟩
  · have hcol : mc.colIndex ∈ mapped.title.toList.map MappedColumn.colIndex :=
      List.mem_map_of_mem (Option.mem_toList.mpr hmc)
    rw [lastPlaced_placements,
      hadditionalElse _ fun hmem => hlast _ (by simp only [List.mem_append]; tauto) _ hmem rfl,
      hmainElse _ fun hmem => hthird _ (List.mem_append_left _ hcol) _ hmem rfl,
      hlistingElse _ fun hmem => hsecond _ hcol _ hmem rfl, Option.mem_def.mp hmc]
    exact lastPlaced_placeIn (hin mc (.inl (Option.mem_toList.mpr hmc)))
  · have hcol : mc.colIndex ∈ mapped.listing.toList.map MappedColumn.colIndex :=
      List.mem_map_of_mem (Option.mem_toList.mpr hmc)
    rw [lastPlaced_placements,
      hadditionalElse _ fun hmem => hlast _ (by simp only [List.mem_append]; tauto) _ hmem rfl,
      hmainElse _ fun hmem => hthird _ (List.mem_append_right _ hcol) _ hmem rfl,
      Option.none_or, Option.none_or, Option.mem_def.mp hmc,
      lastPlaced_placeIn (hin mc (.inr (.inl (Option.mem_toList.mpr hmc))))]
    rfl
  · obtain ⟨share, hshares⟩ := exists_shares_primary hnodupMain
      (fun mc hmc => hin mc (.inr (.inr (.inl hmc)))) hmain
    refine ⟨share, hshares.congr fun c hc => ?_⟩
    rw [lastPlaced_placements,
      hadditionalElse c fun hmem => hlast c (List.mem_append_right _ hc) c hmem rfl,
      hlistingElse c fun hmem => hthird c (List.mem_append_right _ hmem) c hc rfl,
      htitleElse c fun hmem => hthird c (List.mem_append_left _ hmem) c hc rfl,
      Option.none_or, Option.none_or, Option.or_none]
  · obtain ⟨share, hshares⟩ := exists_shares hnodupAdditional fun hne =>
      List.map_eq_nil_iff.not.mpr (hadditional hne)
    refine ⟨share, hshares.congr fun c hc => ?_⟩
    rw [lastPlaced_placements,
      hmainElse c fun hmem => hlast c (List.mem_append_right _ hmem) c hc rfl,
      hlistingElse c fun hmem => hlast c (by simp only [List.mem_append]; tauto) c hc rfl,
      htitleElse c fun hmem => hlast c (by simp only [List.mem_append]; tauto) c hc rfl,
      Option.none_or, Option.none_or, Option.or_none]
  · simp only [MappedColumns.allTargets, List.map_append, List.mem_append, not_or] at hc
    rw [lastPlaced_placements, hadditionalElse c hc.2, hmainElse c hc.1.2, hlistingElse c hc.1.1.2,
      htitleElse c hc.1.1.1]
    rfl

/-! ## Rows -/

/-- The template can take the row: its texts fit into cells, there are columns for its images, the
images are clean addresses which stay apart on lines of their own, and where nothing is written
there is nothing to be read. -/
structure Takes (config : MappingConfig) (mapped : MappedColumns) (ws : Worksheet) (r : ℕ)
    (row : InjectRow) : Prop where
  fits : ∀ p ∈ placements mapped row, Fits p.2
  primary : ∀ u ∈ firstUrl row.primaryImage, mapped.imagesMain ≠ [] ∧
    LoneUrl (readDelims (extractFieldFor config "image_main")) u
  others : ∀ u ∈ row.others, mapped.imagesAdditional ≠ [] ∧
    LoneUrl (readDelims (extractFieldFor config "image_additional")) u
  /-- With two additional images or more the lines that are written can be told apart. -/
  lines : 2 ≤ row.others.length →
    CutsLines (readDelims (extractFieldFor config "image_additional"))
  unlinked : ∀ mc ∈ mapped.imagesMain ++ mapped.imagesAdditional,
    (ws.cells r mc.colIndex).hyperlink = none ∧
      cellHasEmbeddedImage ws.toSheetFrame r mc.colIndex = false
  blank : ∀ mc ∈ mapped.imagesMain ++ mapped.imagesAdditional,
    mc.colIndex ∉ (placements mapped row).map Prod.fst →
      isBlankValue (ws.cells r mc.colIndex).value = true

/-- The product is what was supplied, beside the key that the template has. -/
structure Delivers (py : Python) (mapped : MappedColumns) (ws : Worksheet) (r : ℕ)
    (row : InjectRow) (product : ProductRow) : Prop where
  place : product.row = r
  sku : product.sku = columnText py ws r mapped.keyColumn
  title : product.title = mapped.title.map fun _ => row.title
  listing : product.listing = mapped.listing.map fun _ => row.listing
  images : (product.imagesMain ++ product.imagesAdditional).flatMap ImageCell.urls =
    (firstUrl row.primaryImage).toList ++ row.others

variable {ws' : Worksheet} {r : ℕ} {placed : List (ℕ × String)}

lemma mem_of_lastPlaced {c : ℕ} {text : String} (h : lastPlaced placed c = some text) :
    (c, text) ∈ placed := by
  obtain ⟨p, hfound, rfl⟩ := Option.map_eq_some_iff.mp h
  have hmem := List.mem_reverse.mp (List.mem_of_find?_eq_some hfound)
  obtain rfl : p.1 = c := by simpa using List.find?_some hfound
  exact hmem

lemma not_mem_of_lastPlaced {c : ℕ} (h : lastPlaced placed c = none) :
    c ∉ placed.map Prod.fst := by
  rintro hmem
  obtain ⟨p, hp, rfl⟩ := List.mem_map.mp hmem
  rw [lastPlaced, Option.map_eq_none_iff, List.find?_eq_none] at h
  exact h p (List.mem_reverse.mpr hp) (by simp)

/-- A text that fits is in the cell as it is. -/
lemma showsText_of_set {cell cell' : Cell} {text : String} (hfits : Fits text)
    (h : cell.setValue text = .ok cell') (hlink : cell.hyperlink = none) :
    ShowsText cell' text := by
  obtain ⟨kept, hkept, hvalue, hsame⟩ := setValue_eq_ok h
  obtain rfl : text = kept := Except.ok.inj (hfits.symm.trans hkept)
  exact ⟨hvalue, hsame.trans hlink⟩

lemma str_of_set {cell cell' : Cell} {text : String} (hfits : Fits text)
    (h : cell.setValue text = .ok cell') : cell'.value.map py.str = some text := by
  obtain ⟨kept, hkept, hvalue, -⟩ := setValue_eq_ok h
  obtain rfl : text = kept := Except.ok.inj (hfits.symm.trans hkept)
  obtain ⟨v, hv, hstr⟩ := Option.bind_eq_some_iff.mp hvalue
  rw [hv, Option.map_some]
  cases v with
  | text s => exact hstr
  | formula s => exact hstr
  | error s => exact hstr
  | _ => cases hstr

/-- The images of a role are read from its columns share by share. -/
lemma extractImages_shares {columns : List MappedColumn} {role : String} {share : ℕ → List String}
    (hshares : Shares (columns.map MappedColumn.colIndex) placed urls share)
    (hframe : ws'.toSheetFrame = ws.toSheetFrame)
    (hcells : ∀ c, HoldsPlaced (lastPlaced placed c) (ws.cells r c) (ws'.cells r c))
    (hfits : ∀ p ∈ placed, Fits p.2)
    (hurls : ∀ u ∈ urls, LoneUrl (readDelims (extractFieldFor config role)) u)
    (hlines : 2 ≤ urls.length → CutsLines (readDelims (extractFieldFor config role)))
    (hunlinked : ∀ mc ∈ columns, (ws.cells r mc.colIndex).hyperlink = none ∧
      cellHasEmbeddedImage ws.toSheetFrame r mc.colIndex = false)
    (hblank : ∀ mc ∈ columns, mc.colIndex ∉ placed.map Prod.fst →
      isBlankValue (ws.cells r mc.colIndex).value = true)
    (hnamed : ∀ mc ∈ columns, ∃ letter, getColumnLetter mc.colIndex = .ok letter) :
    ∃ ics, extractImages py ws' config r columns role = .ok ics ∧
      ics.flatMap ImageCell.urls = urls := by
  -- what is read from one column is its share
  have hcell : ∀ mc ∈ columns, ∃ ic, parse py ⟨ws'.title, r, mc.colIndex, ws'.cells r mc.colIndex⟩
      (extractFieldFor config role) (some ws'.toSheetFrame) = .ok ic ∧
        ic.urls = share mc.colIndex := by
    intro mc hmc
    obtain ⟨hlink, hembedded⟩ := hunlinked mc hmc
    have hcol : mc.colIndex ∈ columns.map MappedColumn.colIndex := List.mem_map_of_mem hmc
    have htext := hshares.text mc.colIndex hcol
    have hholds := hcells mc.colIndex
    have hbare : Embedded ⟨ws'.title, r, mc.colIndex, ws'.cells r mc.colIndex⟩
        (some ws'.toSheetFrame) = false := by
      rw [hframe]
      exact hembedded
    by_cases hnone : share mc.colIndex = []
    -- nothing was placed there, so the cell is as it was, and blank
    · rw [htext, if_pos hnone] at hholds
      have hsame : ws'.cells r mc.colIndex = ws.cells r mc.colIndex := hholds
      rw [if_pos hnone] at htext
      rw [hnone]
      refine read_blank ?_ ?_ hbare (hnamed mc hmc)
      · rw [hsame]
        exact hblank mc hmc (not_mem_of_lastPlaced htext)
      · rw [hsame]
        exact hlink
    · rw [htext, if_neg hnone] at hholds
      rw [if_neg hnone] at htext
      have hshown := showsText_of_set (hfits _ (mem_of_lastPlaced htext)) hholds hlink
      have hsub : (share mc.colIndex).Sublist urls := by
        rw [← hshares.all, List.flatMap_def]
        exact List.sublist_flatten_of_mem (List.mem_map_of_mem hcol)
      exact read_lines hnone (fun u hu => hurls u (hsub.subset hu))
        (fun htwo => hlines (htwo.trans hsub.length_le)) hshown hbare (hnamed mc hmc)
  -- the columns are read in the order in which the shares were taken
  rw [← hshares.all]
  clear hshares hunlinked hblank hnamed
  unfold extractImages
  induction columns with
  | nil => exact ⟨[], rfl, rfl⟩
  | cons mc columns ih =>
    obtain ⟨ic, hparse, hown⟩ := hcell mc List.mem_cons_self
    obtain ⟨ics, hrest, hall⟩ := ih fun mc hmc => hcell mc (List.mem_cons_of_mem _ hmc)
    refine ⟨ic :: ics, ?_, ?_⟩
    · rw [List.mapM_cons, hparse, hrest]
      rfl
    · rw [List.flatMap_cons, List.map_cons, List.flatMap_cons, hown, hall]

lemma Takes.placedApart (h : Takes config mapped ws r row) (hdistinct : Distinct mapped) :
    PlacedApart mapped row := by
  refine Excel.placedApart hdistinct (fun hne => ?_) fun hne => ?_
  · obtain ⟨u, hu⟩ := Option.ne_none_iff_exists'.mp hne
    exact (h.primary u hu).1
  · obtain ⟨u, hu⟩ := List.exists_mem_of_ne_nil _ hne
    exact (h.others u hu).1

/-- A row of the filled template gives the product that was supplied. -/
lemma extractRow_delivers {rows : List InjectRow} {i : ℕ} (hdistinct : Distinct mapped)
    (hnamed : ∀ mc ∈ mapped.allTargets, ∃ letter, getColumnLetter mc.colIndex = .ok letter)
    (hkey : ∀ key ∈ mapped.keyColumn, key.colIndex ∉ mapped.allTargets.map MappedColumn.colIndex)
    (hfilled : Filled mapped rows ws ws') (hrow : rows[i]? = some row)
    (htakes : Takes config mapped ws (mapped.headerBlock.dataStartRow + i) row) :
    ∃ product, extractRow py ws' config mapped (mapped.headerBlock.dataStartRow + i) = .ok product ∧
      Delivers py mapped ws (mapped.headerBlock.dataStartRow + i) row product := by
  -- each cell of the row holds the last text placed there
  have hcells := hfilled.row i row hrow
  obtain ⟨htitle, hlisting, ⟨share, hmain⟩, ⟨share', hadditional⟩, helse⟩ :=
    htakes.placedApart hdistinct
  have htext : ∀ (mc : Option MappedColumn) (text : String),
      (∀ c ∈ mc, lastPlaced (placements mapped row) c.colIndex = some text) →
        columnText py ws' (mapped.headerBlock.dataStartRow + i) mc = mc.map fun _ => text := by
    intro mc text hplaced
    cases mc with
    | none => rfl
    | some c =>
      have hholds := hcells c.colIndex
      rw [hplaced c rfl] at hholds
      exact str_of_set (htakes.fits _ (mem_of_lastPlaced (hplaced c rfl))) hholds
  obtain ⟨main, hmainOk, hmainUrls⟩ : ∃ ics, extractImages py ws' config _ mapped.imagesMain
      "image_main" = .ok ics ∧ ics.flatMap ImageCell.urls = (firstUrl row.primaryImage).toList :=
    extractImages_shares hmain hfilled.frame hcells htakes.fits
    (fun u hu => (htakes.primary u (Option.mem_toList.mp hu)).2)
    (fun htwo => by cases h : firstUrl row.primaryImage <;> simp [h] at htwo)
    (fun mc hmc => htakes.unlinked mc (List.mem_append_left _ hmc))
    (fun mc hmc => htakes.blank mc (List.mem_append_left _ hmc))
    (fun mc hmc => hnamed mc (by simp [MappedColumns.allTargets, hmc]))
  obtain ⟨additional, hadditionalOk, hadditionalUrls⟩ : ∃ ics, extractImages py ws' config _
      mapped.imagesAdditional "image_additional" = .ok ics ∧
        ics.flatMap ImageCell.urls = row.others :=
    extractImages_shares hadditional hfilled.frame hcells htakes.fits
    (fun u hu => (htakes.others u hu).2) htakes.lines
    (fun mc hmc => htakes.unlinked mc (List.mem_append_right _ hmc))
    (fun mc hmc => htakes.blank mc (List.mem_append_right _ hmc))
    (fun mc hmc => hnamed mc (by simp [MappedColumns.allTargets, hmc]))
  rw [extractRow, hmainOk, hadditionalOk]
  refine ⟨_, rfl, rfl, ?_, htext _ _ htitle, htext _ _ hlisting, ?_⟩
  -- nothing is placed in the column of the key
  · change columnText py ws' _ mapped.keyColumn = columnText py ws _ mapped.keyColumn
    cases hkeyColumn : mapped.keyColumn with
    | none => rfl
    | some key =>
      have hholds := hcells key.colIndex
      rw [helse _ (hkey key hkeyColumn)] at hholds
      have hsame : ws'.cells (mapped.headerBlock.dataStartRow + i) key.colIndex =
          ws.cells (mapped.headerBlock.dataStartRow + i) key.colIndex := hholds
      simp only [columnText, Option.bind_some, hsame]
  · rw [List.flatMap_append, hmainUrls, hadditionalUrls]

/-- The last of the rows that were supplied is the last of the sheet. -/
lemma maxRow_filled {rows : List InjectRow} (hdistinct : Distinct mapped)
    (hfilled : Filled mapped rows ws ws') (hrows : rows ≠ []) {mc : MappedColumn}
    (htitle : mapped.title = some mc)
    (htakes : ∀ i row, rows[i]? = some row →
      Takes config mapped ws (mapped.headerBlock.dataStartRow + i) row) :
    ws'.maxRow + 1 = mapped.headerBlock.dataStartRow + rows.length := by
  have hend := hfilled.end_ hrows
  have hpos : 0 < rows.length := List.length_pos_iff.mpr hrows
  obtain ⟨row, hrow⟩ : ∃ row, rows[rows.length - 1]? = some row :=
    ⟨_, List.getElem?_eq_getElem (by omega)⟩
  have hholds := hfilled.row _ row hrow mc.colIndex
  rw [((htakes _ row hrow).placedApart hdistinct).title mc htitle] at hholds
  obtain ⟨kept, -, hvalue, -⟩ := setValue_eq_ok hholds
  by_contra hshort
  -- a row beyond the last one is blank
  rw [ws'.blank_outside _ _ (by omega)] at hvalue
  cases hvalue

end Placements

/-- **What is put in comes out.**  Rows, one at least, are put into a template whose columns, with
one for the title, are all different, and which can take them: their texts fit, their images are
clean addresses with columns to go to and delimiters that cut lines apart, and no hyperlink, picture
or other value is in the way.  Then the products that are read from it by these same columns are
those rows and no others: each in its place and under the key that was there, with the title and the
listing as supplied, and with the primary image and then the additional ones that differ from it, in
their order, however many columns there are for them. -/
theorem inject_then_extract (py : Python) (config : MappingConfig) (headerBlock : HeaderBlock)
    {mapped : MappedColumns} {rows : List InjectRow} {ws ws' : Worksheet}
    (hmapped : resolveColumns py ws config headerBlock = .ok mapped)
    (hnodup : (mapped.allTargets.map MappedColumn.colIndex).Nodup)
    (htitle : mapped.title.isSome) (hrows : rows ≠ [])
    (htakes : ∀ i row, rows[i]? = some row →
      Takes config mapped ws (mapped.headerBlock.dataStartRow + i) row)
    (h : injectSheet mapped rows ws = .ok ws') :
    ∃ products, extractRows py ws' config mapped = .ok products ∧
      List.Forall₂ (fun row product =>
          Delivers py mapped ws (mapped.headerBlock.dataStartRow + row.2) row.1 product)
        rows.zipIdx products := by
  have hnamed := named_of_resolveColumns hmapped
  have hdistinct : Distinct mapped := by
    refine ⟨hnodup, fun mc hmc => ?_⟩
    obtain ⟨letter, hletter⟩ := hnamed mc hmc
    exact (pos_of_getColumnLetter hletter).ne'
  have hkey : ∀ key ∈ mapped.keyColumn,
      key.colIndex ∉ mapped.allTargets.map MappedColumn.colIndex := by
    intro key hkey hmem
    obtain ⟨c, hc, hsame⟩ := List.mem_map.mp hmem
    exact (resolveColumns_ok hmapped).2.apart key hkey c hc hsame.symm
  have hfilled := filled h
  obtain ⟨mc, hmc⟩ := Option.isSome_iff_exists.mp htitle
  -- the title is placed in every row, so the sheet ends with the last of them
  have hlast := maxRow_filled hdistinct hfilled hrows hmc htakes
  have hcount : ws'.maxRow + 1 - mapped.headerBlock.dataStartRow = rows.length := by omega
  rw [extractRows, hcount]
  refine mapM_zipIdx (k := 0) fun i row hrow => ?_
  rw [Nat.zero_add]
  exact extractRow_delivers hdistinct hnamed hkey hfilled hrow (htakes i row hrow)

/-! ### Three images for two columns -/

/-- A column for the title, one for the first image, and two for the others. -/
def imagesConfig : MappingConfig where
  header := { scanRows := 1, matchRow := some 1, dataStart := some 2 }
  title := some { index := some 1 }
  imagesMain := [{ index := some 2 }]
  imagesAdditional := [{ index := some 3 }, { index := some 4 }]

/-- Columns for a title and for images. -/
def imagesColumns : MappedColumns where
  sheet := "S"
  headerBlock := firstRowHeader
  title := some ⟨.title, "S", 1, "A", .index, none, none⟩
  listing := none
  imagesMain := [⟨.imageMain, "S", 2, "B", .index, none, none⟩]
  imagesAdditional := [⟨.imageAdditional, "S", 3, "C", .index, none, none⟩,
    ⟨.imageAdditional, "S", 4, "D", .index, none, none⟩]
  targetColIndices := {1, 2, 3, 4}
  keyColumn := none

/-- A product with a main image and four additional ones, the first of which is the main one. -/
def picturedRow : InjectRow :=
  ⟨"ball", "", some "http://m", ["http://m", "http://a", "http://b", "http://c"]⟩

lemma takes_picturedRow :
    Takes imagesConfig imagesColumns (Worksheet.empty "S") 2 picturedRow where
  fits p hp := by
    have hall : placements imagesColumns picturedRow =
        [(1, "ball"), (2, "http://m"), (3, "http://a\nhttp://b"), (4, "http://c")] := by decide
    rw [hall] at hp
    revert p
    simp only [Fits]
    decide
  primary u hu := by
    obtain rfl : u = "http://m" := (Option.some.inj hu).symm
    exact ⟨by decide, loneUrl_of (n := 7) (by decide) (by decide) (by decide) (by decide)⟩
  others u hu := by
    have hall : picturedRow.others = ["http://a", "http://b", "http://c"] := by decide
    rw [hall] at hu
    refine ⟨by decide, ?_⟩
    obtain rfl | rfl | rfl : u = "http://a" ∨ u = "http://b" ∨ u = "http://c" := by simpa using hu
    · exact loneUrl_of (n := 7) (by decide) (by decide) (by decide) (by decide)
    · exact loneUrl_of (n := 7) (by decide) (by decide) (by decide) (by decide)
    · exact loneUrl_of (n := 7) (by decide) (by decide) (by decide) (by decide)
  lines _ := ⟨.inl (by decide), by decide⟩
  unlinked _ _ := ⟨rfl, rfl⟩
  blank _ _ _ := rfl

theorem inject_then_extract_pictured : ∃ ws',
    injectSheet imagesColumns [picturedRow] (Worksheet.empty "S") = .ok ws' ∧
    ∃ products, extractRows plainPython ws' imagesConfig imagesColumns = .ok products ∧
      List.Forall₂ (fun row product =>
          Delivers plainPython imagesColumns (Worksheet.empty "S") (2 + row.2) row.1 product)
        [(picturedRow, 0)] products :=
  have hrun : ∃ ws', injectSheet imagesColumns [picturedRow] (Worksheet.empty "S") = .ok ws' :=
    ⟨_, rfl⟩
  hrun.imp fun _ h => ⟨h, inject_then_extract plainPython imagesConfig firstRowHeader (by decide)
    (by decide) (by decide) (by decide) (fun i row hrow => by
      match i, hrow with
      | 0, hrow =>
        obtain rfl := Option.some.inj hrow
        exact takes_picturedRow) h⟩

end OzonSuite.Excel
