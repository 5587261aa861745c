/-
# Accepted configurations

A configuration that has been accepted may still make the reading of a cell, or the writing of one,
fail: its delimiters and its forms are checked for their types only.
-/
import OzonSuite.Excel.ConfigFile
import OzonSuite.Excel.UrlCells

namespace OzonSuite.Excel

open Lib

/-! ## Texts that a workbook can hold -/

/-- No character that a workbook cannot hold. -/
def Storable (l : List Char) : Prop := ∀ c ∈ l, isIllegalCharacter c = false

section Storable

variable {s : String} {l : List Char} {cell : Cell} {urls : List String}

lemma storable_of_any (h : l.any isIllegalCharacter = false) : Storable l := fun c hc => by
  simpa using List.any_eq_false.mp h c hc

lemma storable_of_subset {l' : List Char} (h : Storable l) (hsub : l' ⊆ l) : Storable l' :=
  fun c hc => h c (hsub hc)

lemma storable_append {l' : List Char} (h : Storable l) (h' : Storable l') : Storable (l ++ l') :=
  fun c hc => (List.mem_append.mp hc).elim (h c) (h' c)

lemma setValue_ok (hmerged : cell.merged = false) (h : Storable s.toList) :
    ∃ written, cell.setValue s = .ok written := by
  have hkept : (s.toList.take maxStringLength).any isIllegalCharacter = false := by
    rw [List.any_eq_false]
    intro c hc
    simp [h c (List.mem_of_mem_take hc)]
  rw [Cell.setValue, dif_pos hmerged, checkString]
  simp only [hkept]
  exact ⟨_, rfl⟩

lemma storable_escapeQuotes (h : Storable l) : Storable (escapeQuotes l) := by
  intro c hc
  obtain ⟨d, hd, hmem⟩ := List.mem_flatMap.mp hc
  split_ifs at hmem with hquote
  · obtain rfl : c = '"' := by simpa using hmem
    decide
  · obtain rfl : c = d := by simpa using hmem
    exact h c hd

lemma unescapeQuotes_subset (l : List Char) : unescapeQuotes l ⊆ l := by
  induction l using unescapeQuotes.induct with
  | case1 => exact List.Subset.refl _
  | case2 l ih =>
    rw [unescapeQuotes]
    exact List.cons_subset_cons _ fun c hc => List.mem_cons_of_mem _ (ih hc)
  | case3 c l hne ih =>
    rw [unescapeQuotes]
    · exact List.cons_subset_cons _ ih
    · exact hne

lemma storable_formulaStart : Storable "=HYPERLINK(\"".toList := storable_of_any (by decide)

lemma storable_formulaComma : Storable "\",\"".toList := storable_of_any (by decide)

lemma storable_formulaEnd : Storable "\")".toList := storable_of_any (by decide)

lemma storable_formulaText {url : String} {display : Option String} (hurl : Storable url.toList)
    (hdisplay : ∀ d ∈ display, Storable d.toList) : Storable (formulaText url display).toList := by
  have hstart := storable_append storable_formulaStart (storable_escapeQuotes hurl)
  unfold formulaText
  rw [String.toList_ofList]
  cases display with
  | none => exact storable_append hstart storable_formulaEnd
  | some d =>
    have hd := storable_escapeQuotes (hdisplay d rfl)
    exact storable_append hstart
      (storable_append (storable_append storable_formulaComma hd) storable_formulaEnd)

lemma storable_intercalate {sep : String} {parts : List String} (hsep : Storable sep.toList)
    (hparts : ∀ p ∈ parts, Storable p.toList) : Storable (sep.intercalate parts).toList := by
  rw [String.toList_intercalate]
  induction parts with
  | nil => exact fun c hc => nomatch hc
  | cons p parts ih =>
    have hrest := ih fun q hq => hparts q (List.mem_cons_of_mem _ hq)
    have hp := hparts p List.mem_cons_self
    cases parts with
    | nil => simpa using hp
    | cons q parts =>
      rw [List.map_cons, List.map_cons, List.intercalate_cons_cons]
      exact storable_append (storable_append hp hsep) hrest

/-- What is filled in comes from the parts or from the addresses. -/
lemma mem_fill {t : Template} {p : String} (h : p ∈ t.fill urls) : p ∈ t.parts ∨ p ∈ urls := by
  have hgo : ∀ (pairs : List (ℕ × String)) (parts : List String),
      p ∈ pairs.foldl (fun parts pair => parts.set pair.1 pair.2) parts →
        p ∈ parts ∨ p ∈ pairs.map Prod.snd := by
    intro pairs
    induction pairs with
    | nil => exact fun _ h => .inl h
    | cons pair pairs ih =>
      intro parts h
      rcases ih _ h with hset | hrest
      · rcases List.mem_or_eq_of_mem_set hset with hparts | rfl
        · exact .inl hparts
        · exact .inr List.mem_cons_self
      · exact .inr (List.mem_cons_of_mem _ hrest)
  rcases hgo _ _ h with hparts | hurl
  · exact .inl hparts
  · obtain ⟨pair, hpair, rfl⟩ := List.mem_map.mp hurl
    exact .inr (List.of_mem_zip hpair).2

end Storable

/-! ## What is read from a text that can be stored -/

section Read

variable {l rest : List Char} {s : String}

lemma expect_subset {c : Char} (h : expect c l = some rest) : rest ⊆ l := by
  unfold expect skipSpace at h
  split at h
  · cases h
  · next d tail hdrop =>
    split_ifs at h
    obtain rfl := Option.some.inj h
    intro x hx
    have hmem : x ∈ l.dropWhile isPySpace := by
      rw [hdrop]
      exact List.mem_cons_of_mem _ hx
    exact (List.dropWhile_suffix _).subset hmem

lemma dropLiteral_subset {lit : List Char} (h : dropLiteral lit l = some rest) : rest ⊆ l := by
  induction lit generalizing l with
  | nil =>
    obtain rfl := Option.some.inj h
    exact List.Subset.refl _
  | cons a lit ih =>
    cases l with
    | nil => cases h
    | cons c l =>
      rw [dropLiteral] at h
      split_ifs at h
      exact List.subset_cons_of_subset _ (ih h)

lemma quoted_subset {content : List Char} (h : quoted l = some (content, rest)) :
    content ⊆ l ∧ rest ⊆ l := by
  induction l using quoted.induct generalizing content rest with
  | case1 => cases h
  | case2 l ih =>
    rw [quoted] at h
    obtain ⟨⟨content', rest'⟩, hquoted, heq⟩ := Option.map_eq_some_iff.mp h
    obtain ⟨rfl, rfl⟩ := Prod.mk.inj heq
    obtain ⟨hcontent, hrest⟩ := ih hquoted
    exact ⟨List.cons_subset_cons _ (List.cons_subset_cons _ hcontent),
      List.subset_cons_of_subset _ (List.subset_cons_of_subset _ hrest)⟩
  | case3 l hne =>
    rw [quoted] at h
    · obtain ⟨rfl, rfl⟩ := Prod.mk.inj (Option.some.inj h)
      exact ⟨List.nil_subset _, List.subset_cons_self _ _⟩
    · exact hne
  | case4 c l hne hne' ih =>
    rw [quoted] at h
    · obtain ⟨⟨content', rest'⟩, hquoted, heq⟩ := Option.map_eq_some_iff.mp h
      obtain ⟨rfl, rfl⟩ := Prod.mk.inj heq
      obtain ⟨hcontent, hrest⟩ := ih hquoted
      exact ⟨List.cons_subset_cons _ hcontent, List.subset_cons_of_subset _ hrest⟩
    · exact hne
    · exact hne'

lemma displayArgument_subset {display : Option (List Char)}
    (h : displayArgument l = some (display, rest)) : ∀ d ∈ display, d ⊆ l := by
  unfold displayArgument at h
  split at h
  · next l₁ h₁ =>
    simp only [Option.bind_eq_bind, Option.bind_eq_some_iff] at h
    obtain ⟨l₂, h₂, ⟨d, l₃⟩, h₃, heq⟩ := h
    obtain ⟨rfl, -⟩ := Prod.mk.inj (Option.some.inj heq)
    intro d' hd'
    obtain rfl : d = d' := Option.some.inj hd'
    exact fun c hc => expect_subset h₁ (expect_subset h₂ ((quoted_subset h₃).1 hc))
  · obtain ⟨rfl, -⟩ := Prod.mk.inj (Option.some.inj h)
    exact fun d hd => nomatch hd

lemma hyperlinkFormula_subset {url : List Char} {display : Option (List Char)}
    (h : hyperlinkFormula s = some (url, display)) : ∀ d ∈ display, d ⊆ s.toList := by
  simp only [hyperlinkFormula, Option.bind_eq_bind, Option.bind_eq_some_iff] at h
  obtain ⟨l₁, h₁, l₂, h₂, l₃, h₃, l₄, h₄, ⟨url', l₅⟩, h₅, ⟨display', l₆⟩, h₆, l₇, -, h₇⟩ := h
  split_ifs at h₇
  obtain ⟨rfl, rfl⟩ := Prod.mk.inj (Option.some.inj h₇)
  have hskip : skipSpace l₁ ⊆ l₁ := (List.dropWhile_suffix _).subset
  intro d hd c hc
  have hrest := (quoted_subset h₅).2 (displayArgument_subset h₆ d hd hc)
  exact expect_subset h₁ (hskip (dropLiteral_subset h₂ (expect_subset h₃ (expect_subset h₄ hrest))))

end Read

section Split

variable {value delim : String} {delims : List String}

lemma storable_parts (h : Storable value.toList) (hdelim : delim ≠ "") :
    ∀ p ∈ cutParts delim value, Storable p.toList := fun _ hp =>
  storable_of_subset h
    ((inOrder_cutParts value hdelim).isInfix (List.mem_map_of_mem hp)).subset

lemma storable_firstRun (h : Storable value.toList) : Storable (firstRun value).toList := by
  unfold firstRun
  dsimp only
  split_ifs
  · exact storable_of_any (by decide)
  · rw [String.toList_ofList]
    intro c hc
    have hstrip : c ∈ trimList isPySpace value.toList := by
      have hmem := (List.dropWhile_suffix _).subset ((List.takeWhile_prefix _).subset hc)
      rwa [strip, trimText, String.toList_ofList] at hmem
    exact h c ((trimList_isInfix _).subset hstrip)

/-- A delimiter that separates is in the text. -/
lemma Separates.isInfix (h : Separates value delim) (hblank : delim ≠ " ") :
    delim.toList <:+: value.toList := by
  rw [← hasInfix_iff]
  by_contra hnot
  have hfew : (partsOf delim value).length ≤ 1 := length_partsOf_le (by simpa using hnot)
  have htwo := h.1
  rw [cutParts, if_neg hblank] at htwo
  have hfilter := List.length_filter_le looksLikeUrl (partsOf delim value)
  omega

lemma storable_delimiter (h : Storable value.toList) (hsep : Separates value delim) :
    Storable (splitAt value delim).delimiter.toList := by
  unfold splitAt
  dsimp only
  split_ifs with hblank
  · exact storable_firstRun h
  · exact storable_of_subset h (hsep.isInfix hblank).subset

/-- The empty delimiter comes before every one that separates two addresses. -/
def ReachesEmpty (value : String) (delims : List String) : Prop :=
  ∃ before behind, delims = before ++ "" :: behind ∧ ∀ e ∈ before, ¬ Separates value e

lemma trySplit_empty : trySplit value "" = .error (.raised "ValueError") := by
  have hinfix : hasInfix "".toList value.toList = true :=
    hasInfix_iff.mpr (List.nil_infix : [] <:+: value.toList)
  rw [trySplit, if_neg (by decide), if_pos hinfix, if_pos rfl]

lemma trySplit_error {e : Failure} (h : trySplit value delim = .error e) : delim = "" := by
  unfold trySplit at h
  dsimp only at h
  split_ifs at h with hblank hspace hcond hinfix hempty
  exact hempty

/-- A text can be cut unless the empty delimiter is reached. -/
lemma splitMulti_ok_iff :
    (∃ split, splitMulti value delims = .ok split) ↔ ¬ ReachesEmpty value delims := by
  induction delims with
  | nil =>
    refine ⟨fun _ => ?_, fun _ => ⟨none, rfl⟩⟩
    rintro ⟨before, behind, h, -⟩
    cases before <;> cases h
  | cons d ds ih =>
    -- a delimiter that separates nothing is passed, and one that does ends the loop
    have hcons : d ≠ "" → (ReachesEmpty value (d :: ds) ↔
        ¬ Separates value d ∧ ReachesEmpty value ds) := by
      intro hd
      constructor
      · rintro ⟨before, behind, heq, hbefore⟩
        cases before with
        | nil => exact absurd (List.cons.inj heq).1 hd
        | cons e before =>
          obtain ⟨rfl, rfl⟩ := List.cons.inj heq
          exact ⟨hbefore d List.mem_cons_self, before, behind, rfl,
            fun e he => hbefore e (List.mem_cons_of_mem _ he)⟩
      · rintro ⟨hsep, before, behind, rfl, hbefore⟩
        refine ⟨d :: before, behind, rfl, fun e he => ?_⟩
        rcases List.mem_cons.mp he with rfl | he
        · exact hsep
        · exact hbefore e he
    by_cases hd : d = ""
    · subst hd
      constructor
      · rintro ⟨split, h⟩
        rw [splitMulti, trySplit_empty] at h
        cases h
      · exact fun h => absurd ⟨[], ds, rfl, fun e he => nomatch he⟩ h
    rw [hcons hd]
    cases htry : trySplit value d with
    | error e => exact absurd (trySplit_error htry) hd
    | ok found =>
      cases found with
      | some found =>
        have hsep := (trySplit_eq_some.mp htry).1
        refine ⟨fun _ h => h.1 hsep, fun _ => ⟨some found, ?_⟩⟩
        rw [splitMulti, htry]
        rfl
      | none =>
        have hsep : ¬ Separates value d := fun hsep => by
          rw [trySplit_eq_some.mpr ⟨hsep, rfl⟩] at htry
          cases htry
        have hnext : splitMulti value (d :: ds) = splitMulti value ds := by
          rw [splitMulti, htry]
          rfl
        rw [hnext, ih]
        exact not_congr ⟨fun h => ⟨hsep, h⟩, fun h => h.2⟩

end Split

/-! ## Reading and writing without an error -/

section Parse

variable {py : Python} {place : CellAt} {spec : Option FieldSpec} {ws : Option SheetFrame}
  {ic : ImageCell}

variable (place) in
lemma cellRef_ok_iff : (∃ ref, CellRef.of place.sheet place.row place.col = .ok ref) ↔
    ∃ letter, getColumnLetter place.col = .ok letter := by
  constructor
  · rintro ⟨ref, href⟩
    unfold CellRef.of at href
    split at href
    · next letter hletter => exact ⟨letter, hletter⟩
    · cases href
  · rintro ⟨letter, hletter⟩
    refine ⟨⟨place.sheet, place.row, place.col, letter, hletter⟩, ?_⟩
    unfold CellRef.of
    split
    · next letter' hletter' =>
      obtain rfl : letter = letter' := Except.ok.inj (hletter.symm.trans hletter')
      rfl
    · next e herror =>
      rw [hletter] at herror
      cases herror

lemma parseText_ok_iff {ref : CellRef} {v : CellValue} {s : String} {delims : List String} :
    (∃ ic, parseText ref v s delims = .ok ic) ↔ ∃ split, splitMulti s delims = .ok split := by
  constructor
  · rintro ⟨ic, h⟩
    obtain ⟨split, hsplit, -⟩ := Except.bind_eq_ok.mp h
    exact ⟨split, hsplit⟩
  · rintro ⟨split, hsplit⟩
    rw [parseText, hsplit]
    cases split with
    | some split => exact ⟨_, rfl⟩
    | none =>
      by_cases hurl : looksLikeUrl s = true
      · exact ⟨_, if_pos hurl⟩
      · exact ⟨_, if_neg hurl⟩

/-- A cell can be read if its column has letters, and no text in it is to be cut at nothing. -/
lemma parse_ok_iff :
    (∃ ic, parse py place spec ws = .ok ic) ↔
      (∃ letter, getColumnLetter place.col = .ok letter) ∧
        (Embedded place ws = true ∨
          ∀ v s, PlainTextCell place v s → ¬ ReachesEmpty s (readDelims spec)) := by
  rw [← cellRef_ok_iff place]
  constructor
  · rintro ⟨ic, h⟩
    obtain ⟨ref, href, -⟩ := Except.bind_eq_ok.mp h
    refine ⟨⟨ref, href⟩, ?_⟩
    cases hembedded : Embedded place ws with
    | true => exact .inl rfl
    | false =>
      refine .inr fun v s hcell => ?_
      have htext : ∃ ic, parseText ref v s (readDelims spec) = .ok ic :=
        ⟨ic, by rwa [← parse_plainText href hembedded hcell]⟩
      exact splitMulti_ok_iff.mp (parseText_ok_iff.mp htext)
  · rintro ⟨⟨ref, href⟩, hcut⟩
    by_cases hembedded : Embedded place ws = true
    · rw [parse, href]
      exact ⟨_, if_pos hembedded⟩
    by_cases hplain : ∃ v s, PlainTextCell place v s
    · obtain ⟨v, s, hcell⟩ := hplain
      rw [parse_plainText href (by simpa using hembedded) hcell]
      exact parseText_ok_iff.mpr (splitMulti_ok_iff.mpr (hcut.resolve_left hembedded v s hcell))
    · -- every other cell is read without looking at its text
      rw [parse, href]
      simp only [bind, Except.bind, if_neg hembedded]
      split_ifs with hblank
      · exact ⟨_, rfl⟩
      split
      · exact ⟨_, rfl⟩
      · next hformula =>
        split
        · exact ⟨_, rfl⟩
        · exact ⟨_, rfl⟩
        · next v hlink hvalue =>
          split
          · next s htext =>
            refine absurd ⟨v, s, hvalue, htext, hlink, ?_, ?_⟩ hplain
            · simpa [hvalue, htext, hlink, isBlankValue] using hblank
            · simpa [hvalue, htext] using hformula
          · exact ⟨_, rfl⟩

end Parse

section Serialize

variable {py : Python} {place : CellAt} {delims : List String} {ws : Option SheetFrame}
  {ic : ImageCell} {cell : Cell} {urls : List String}

/-- The texts that an image cell hands on can be stored. -/
structure StorableTexts (ic : ImageCell) : Prop where
  display : ic.form = .hyperlinkFormula → ∀ d ∈ ic.displayText, Storable d.toList
  delimiter : ∀ d ∈ ic.delimiter, Storable d.toList
  parts : ∀ t ∈ ic.template, ∀ p ∈ t.parts, Storable p.toList

lemma storable_headD (h : ∀ u ∈ urls, Storable u.toList) : Storable (urls.headD "").toList := by
  cases urls with
  | nil => exact storable_of_any (by decide)
  | cons u urls => exact h u List.mem_cons_self

lemma storable_multiText (hic : StorableTexts ic) (h : ∀ u ∈ urls, Storable u.toList) :
    Storable (multiText ic urls).toList := by
  have hdelim : Storable (ic.delimiter.getD "\n").toList := by
    cases hd : ic.delimiter with
    | none => exact storable_of_any (by decide)
    | some d => exact hic.delimiter d hd
  unfold multiText
  cases ht : ic.template with
  | none => exact storable_intercalate hdelim h
  | some t =>
    dsimp only
    split_ifs
    · refine storable_intercalate hdelim fun p hp => ?_
      rcases mem_fill hp with hparts | hurl
      · exact hic.parts t ht p hparts
      · exact h p hurl
    · exact storable_intercalate hdelim h

lemma writeText_ok {s : String} (hmerged : cell.merged = false) (h : Storable s.toList) :
    ∃ result, writeText cell s = .ok result := by
  unfold writeText
  split_ifs
  · exact ⟨_, rfl⟩
  · obtain ⟨written, hwritten⟩ := setValue_ok hmerged h
    rw [hwritten]
    exact ⟨_, rfl⟩

lemma writeLink_ok {url : String} (hmerged : cell.merged = false) (h : Storable url.toList) :
    ∃ result, writeLink cell url = .ok result := by
  unfold writeLink
  split_ifs
  · have hlinked : ∃ written, cell.setHyperlink url = .ok written := by
      unfold Cell.setHyperlink
      rw [dif_pos hmerged]
      dsimp only
      split_ifs
      · exact setValue_ok hmerged h
      · exact ⟨_, rfl⟩
    obtain ⟨written, hwritten⟩ := hlinked
    rw [hwritten]
    exact ⟨_, rfl⟩
  · exact ⟨_, rfl⟩

/-- Every form can be written into a cell that no merged range covers. -/
lemma writeForm_ok (form : ImageForm) (hmerged : cell.merged = false) (hic : StorableTexts ic)
    (hform : form = .hyperlinkFormula → ∀ d ∈ ic.displayText, Storable d.toList)
    (h : ∀ u ∈ urls, Storable u.toList) :
    ∃ result, writeForm form cell ic urls none = .ok result := by
  cases form with
  | plainUrl => exact writeText_ok hmerged (storable_headD h)
  | hyperlinkFormula =>
    exact writeText_ok hmerged (storable_formulaText (storable_headD h) (hform rfl))
  | realHyperlink =>
    obtain ⟨⟨written, changed⟩, hwritten⟩ := writeLink_ok hmerged (storable_headD h)
    rw [writeForm, hwritten]
    exact ⟨_, rfl⟩
  | multiUrl =>
    unfold writeForm
    dsimp only
    split_ifs
    · exact ⟨_, rfl⟩
    · obtain ⟨written, hwritten⟩ := setValue_ok hmerged (storable_multiText hic h)
      rw [hwritten]
      exact ⟨_, rfl⟩
  | embeddedImage => exact ⟨_, rfl⟩
  | empty => exact ⟨_, rfl⟩

lemma storableTexts (h : ParsedAs py place delims ws ic)
    (hcell : ∀ v s, place.cell.value = some v → v.str? = some s → Storable s.toList) :
    StorableTexts ic := by
  -- a cell without a text to show has nothing to be stored
  have hbare : ∀ ref form value, StorableTexts (.bare ref form value) := fun ref form value =>
    ⟨fun _ => nofun, nofun, nofun⟩
  cases h with
  | image ref => exact hbare _ _ _
  | blank ref => exact hbare _ _ _
  | other ref => exact hbare _ _ _
  | text ref => exact hbare _ _ _
  | plain ref => exact ⟨fun _ => nofun, nofun, nofun⟩
  | link ref => exact ⟨nofun, nofun, nofun⟩
  | formula ref _ v s url display hvalue htext hformula =>
    refine ⟨fun _ d hd => ?_, nofun, nofun⟩
    obtain ⟨raw, hraw, rfl⟩ := Option.map_eq_some_iff.mp hd
    rw [String.toList_ofList]
    exact storable_of_subset (hcell v s hvalue htext) fun c hc =>
      hyperlinkFormula_subset hformula raw hraw (unescapeQuotes_subset raw hc)
  | multi ref _ v s delim hplain hfirst =>
    have hs := hcell v s hplain.value hplain.text
    obtain ⟨_, _, -, -, hsep⟩ := hfirst
    refine ⟨nofun, fun d hd => ?_, fun t ht p hp => ?_⟩
    · obtain rfl := Option.some.inj hd
      exact storable_delimiter hs hsep
    · obtain rfl := Option.some.inj ht
      refine storable_parts hs ?_ p hp
      rintro rfl
      exact not_separates_empty hsep

/-- What shows no address has no text to show either. -/
lemma ParsedAs.display_eq_none (h : ParsedAs py place delims ws ic) (hform : ic.form = .empty) :
    ic.displayText = none := by
  cases h with
  | image => rfl
  | blank => rfl
  | other => rfl
  | text => rfl
  | formula => cases hform
  | link => cases hform
  | multi => cases hform
  | plain => cases hform

lemma serialize_ok {forced : Option ImageForm} (hmerged : cell.merged = false)
    (hic : StorableTexts ic) (hempty : ic.form = .empty → ic.displayText = none)
    (h : ∀ u ∈ urls, Storable u.toList) :
    ∃ result, serialize cell ic urls none forced = .ok result := by
  unfold serialize
  split
  · exact ⟨_, rfl⟩
  · next hform =>
    split
    · exact ⟨_, rfl⟩
    · next form =>
      split_ifs
      · exact ⟨_, rfl⟩
      · refine writeForm_ok form hmerged hic (fun _ d hd => ?_) h
        rw [hempty hform] at hd
        cases hd
  · split_ifs
    · exact ⟨_, rfl⟩
    · exact writeForm_ok ic.form hmerged hic hic.display h

/-- A covered cell shows nothing, but perhaps an image. -/
lemma ParsedAs.merged (h : ParsedAs py place delims ws ic) (hmerged : place.cell.merged = true) :
    Embedded place ws = true ∧ ic.form = .embeddedImage ∨
      Embedded place ws = false ∧ ic.form = .empty := by
  obtain ⟨hvalue, hlink⟩ := place.cell.covered hmerged
  cases h with
  | image _ h => exact .inl ⟨h, rfl⟩
  | blank _ h => exact .inr ⟨h, rfl⟩
  | other _ h => exact .inr ⟨h, rfl⟩
  | text _ h => exact .inr ⟨h, rfl⟩
  | formula _ _ v _ _ _ hv => simp [hvalue] at hv
  | link _ _ link hl => simp [hlink] at hl
  | multi _ _ v _ _ hcell => exact absurd (hvalue.symm.trans hcell.value) nofun
  | plain _ _ v _ hcell => exact absurd (hvalue.symm.trans hcell.value) nofun

/-- Nothing can be written into a covered cell. -/
lemma writeForm_merged {form : ImageForm} {url : String} (hmerged : cell.merged = true)
    (hform : form ≠ .embeddedImage ∧ form ≠ .empty) :
    writeForm form cell ic [url] none = .error (.raised "AttributeError") := by
  obtain ⟨hvalue, hlink⟩ := cell.covered hmerged
  have hholds : ∀ s, holdsText cell s = false := by simp [holdsText, hvalue]
  have hset : ∀ s, cell.setValue s = .error (.raised "AttributeError") := by
    simp [Cell.setValue, hmerged]
  have htext : ∀ s, writeText cell s = .error (.raised "AttributeError") := by
    simp [writeText, hholds, hset, bind, Except.bind]
  cases form with
  | plainUrl => exact htext _
  | hyperlinkFormula => exact htext _
  | realHyperlink =>
    simp [writeForm, writeLink, hlink, Cell.setHyperlink, hmerged, bind, Except.bind]
  | multiUrl => simp [writeForm, hholds, hset, bind, Except.bind]
  | embeddedImage => exact absurd rfl hform.1
  | empty => exact absurd rfl hform.2

end Serialize

/-! ## The fields of an accepted configuration -/

section Fields

variable {py : Python} {x : PythonData} {m : MatchSpec} {mode : MatchMode} {place : String}
  {config : MappingConfig} {spec : FieldSpec}

/-- A form that a field may force is one that can be written. -/
def WritableForm (spec : FieldSpec) : Prop :=
  ∀ form ∈ spec.imageForm, form ≠ .embeddedImage ∧ form ≠ .empty

lemma formByName_writable {name : String} {form : ImageForm}
    (h : formByName.lookup name = some (some form)) : form ≠ .embeddedImage ∧ form ≠ .empty := by
  obtain ⟨before, behind, heq, -⟩ := List.lookup_eq_some_iff.mp h
  have hmem : some form ∈ formByName.map Prod.snd := by simp [heq]
  revert hmem
  cases form <;> decide

lemma parseImageForm_writable {value : Data} {form : ImageForm}
    (h : parseImageForm x value place = .ok (some form)) :
    form ≠ .embeddedImage ∧ form ≠ .empty := by
  unfold parseImageForm at h
  split_ifs at h
  · cases h
  split at h
  · next found hlookup =>
    obtain rfl := Except.ok.inj h
    exact formByName_writable hlookup
  · obtain ⟨_, -, hfail⟩ := Except.bind_eq_ok.mp h
    cases hfail

lemma parseField_writable {raw : Data} (h : parseField py x raw m mode place = .ok spec) :
    WritableForm spec := by
  simp only [parseField, Except.bind_eq_ok] at h
  obtain ⟨_, -, _, -, _, -, _, -, _, -, _, -, _, -, _, -, _, -, _, -, form, hform, h⟩ := h
  obtain rfl := Except.ok.inj h
  rintro form' hform'
  obtain rfl : form = some form' := hform'
  exact parseImageForm_writable hform

lemma parseImageItems_writable {i : ℕ} {items : List Data} {specs : List FieldSpec}
    (h : parseImageItems py x m mode place i items = .ok specs) :
    ∀ spec ∈ specs, WritableForm spec := by
  induction items generalizing i specs with
  | nil =>
    obtain rfl := Except.ok.inj h
    exact nofun
  | cons item items ih =>
    obtain ⟨first, hfirst, h⟩ := Except.bind_eq_ok.mp h
    obtain ⟨rest, hrest, h⟩ := Except.bind_eq_ok.mp h
    obtain rfl := Except.ok.inj h
    exact List.forall_mem_cons.mpr ⟨parseField_writable hfirst, ih hrest⟩

lemma parseImageList_writable {raw : Data} {specs : List FieldSpec}
    (h : parseImageList py x raw m mode place = .ok specs) : ∀ spec ∈ specs, WritableForm spec := by
  unfold parseImageList at h
  split at h
  · obtain rfl := Except.ok.inj h
    exact nofun
  · exact parseImageItems_writable h
  · exact parseImageItems_writable h

lemma parseOptionalField_writable {raw : Data} {found : Option FieldSpec}
    (h : parseOptionalField py x raw m mode place = .ok found) :
    ∀ spec ∈ found.toList, WritableForm spec := by
  unfold parseOptionalField at h
  split_ifs at h
  · obtain rfl := Except.ok.inj h
    exact nofun
  · obtain ⟨first, hfirst, h⟩ := Except.bind_eq_ok.mp h
    obtain rfl := Except.ok.inj h
    simpa using parseField_writable hfirst

/-- Every field of an accepted configuration forces a form that can be written, or none. -/
lemma parseConfig_writable {data : Data} (h : parseConfig py x data = .ok config) :
    ∀ spec ∈ config.allFieldSpecs, WritableForm spec := by
  cases data with
  | dict root =>
    simp only [parseConfig, Except.bind_eq_ok] at h
    obtain ⟨_, -, _, -, _, -, _, -, ⟨m, mode⟩, -, _, -, _, -, title, htitle, listing, hlisting,
      main, hmain, additional, hadditional, key, hkey, _, -, h⟩ := h
    obtain rfl := Except.ok.inj h
    simp only [MappingConfig.allFieldSpecs, List.mem_append]
    rintro spec ((((hspec | hspec) | hspec) | hspec) | hspec)
    · exact parseOptionalField_writable htitle spec hspec
    · exact parseOptionalField_writable hlisting spec hspec
    · exact parseImageList_writable hmain spec hspec
    · exact parseImageList_writable hadditional spec hspec
    · exact parseOptionalField_writable hkey spec hspec
  | none => cases h
  | bool => cases h
  | int => cases h
  | float => cases h
  | str => cases h
  | list => cases h
  | other => cases h

end Fields

/-! ## Without an error -/

/-- A text that looks like an address and that a workbook can hold. -/
def UrlString (u : String) : Prop := looksLikeUrl u = true ∧ Storable u.toList

/-- Neither the reading of the cell nor the writing of any addresses into it fails. -/
def NeverRaises (py : Python) (place : CellAt) (spec : FieldSpec) (ws : Option SheetFrame) : Prop :=
  ∃ ic, parse py place (some spec) ws = .ok ic ∧
    ∀ urls, (∀ u ∈ urls, UrlString u) →
      ∃ result, serialize place.cell ic urls none spec.imageForm = .ok result

/-- The column of the cell has letters; and unless the cell has an image, it is not covered while a
form is forced, and a plain text in it is cut at a delimiter before it is to be cut at nothing. -/
structure SafeCell (place : CellAt) (spec : FieldSpec) (ws : Option SheetFrame) : Prop where
  column : ∃ letter, getColumnLetter place.col = .ok letter
  writable : Embedded place ws = true ∨ place.cell.merged = false ∨ spec.imageForm = none
  cut : Embedded place ws = true ∨
    ∀ v s, PlainTextCell place v s → ¬ ReachesEmpty s (readDelims (some spec))

/-- **Accepted configurations.**  With a field of an accepted configuration, neither the reading of
a cell nor the writing of addresses fails if and only if the column of the cell has letters and,
unless it has an image: it is not covered by a merged range while a form is forced; and if it has a
plain text, a delimiter that separates two addresses comes before every empty one. -/
theorem accepted_config_iff (py : Python) (x : PythonData) (data : Data) (config : MappingConfig)
    (spec : FieldSpec) (place : CellAt) (ws : Option SheetFrame)
    (hconfig : parseConfig py x data = .ok config) (hspec : spec ∈ config.allFieldSpecs)
    (hcell : ∀ v s, place.cell.value = some v → v.str? = some s → Storable s.toList) :
    NeverRaises py place spec ws ↔ SafeCell place spec ws := by
  have hforms := parseConfig_writable hconfig spec hspec
  constructor
  · rintro ⟨ic, hic, hwrite⟩
    obtain ⟨hcolumn, hcut⟩ := parse_ok_iff.mp ⟨ic, hic⟩
    refine ⟨hcolumn, ?_, hcut⟩
    by_contra hnot
    simp only [not_or, Bool.not_eq_true, Bool.not_eq_false] at hnot
    obtain ⟨hembedded, hmerged, hforced⟩ := hnot
    obtain ⟨form, hform⟩ := Option.ne_none_iff_exists'.mp hforced
    obtain ⟨himage, -⟩ | ⟨-, hempty⟩ := (parsedAs hic).merged hmerged
    · simp [himage] at hembedded
    obtain ⟨result, hresult⟩ := hwrite ["http://a"] fun u hu => by
      obtain rfl := List.mem_singleton.mp hu
      exact ⟨by decide, storable_of_any (by decide)⟩
    unfold serialize at hresult
    rw [hempty, hform] at hresult
    dsimp only at hresult
    rw [if_neg (List.cons_ne_nil _ _), writeForm_merged hmerged (hforms form hform)] at hresult
    cases hresult
  · rintro ⟨hcolumn, hwritable, hcut⟩
    obtain ⟨ic, hic⟩ := parse_ok_iff.mpr ⟨hcolumn, hcut⟩
    refine ⟨ic, hic, fun urls hurls => ?_⟩
    have hparsed := parsedAs hic
    by_cases hmerged : place.cell.merged = true
    · -- a covered cell is not written to
      rcases hparsed.merged hmerged with ⟨-, hform⟩ | ⟨hembedded, hform⟩
      · exact ⟨_, by unfold serialize; rw [hform]⟩
      · have hforced : spec.imageForm = none := by simpa [hembedded, hmerged] using hwritable
        exact ⟨_, by unfold serialize; rw [hform, hforced]⟩
    · exact serialize_ok (by simpa using hmerged) (storableTexts hparsed hcell)
        hparsed.display_eq_none fun u hu => (hurls u hu).2

/-- Texts of simple values. -/
def plainData : PythonData where
  repr value := value.str?.getD value.typeName
  str value := value.typeName
  sortedRepr values := .ok (", ".intercalate (values.map fun value => value.str?.getD ""))
  upper := id
  lower := id

/-- A configuration of nothing but the delimiters of the images. -/
def delimitersOnly (delims : List String) : Data :=
  .dict [(.str "version", .int 1), (.str "columns", .dict [(.str "images_main", .dict
    [(.str "multi", .dict [(.str "read_delimiters", .list (delims.map .str))])])])]

theorem accepted_config_iff_comma :
    NeverRaises plainPython (textPlace "www.a") { readDelimiters := [","] } none ↔
      SafeCell (textPlace "www.a") { readDelimiters := [","] } none :=
  accepted_config_iff plainPython plainData (delimitersOnly [","])
    { imagesMain := [{ readDelimiters := [","] }] } { readDelimiters := [","] }
    (textPlace "www.a") none rfl (by decide) fun v s hv hs => by
      obtain rfl := Option.some.inj hv
      obtain rfl := Option.some.inj hs
      exact storable_of_any (by decide)

/-- The empty delimiter is accepted, and no text with an address can be read with it. -/
theorem accepted_config_raises :
    ∃ config, parseConfig plainPython plainData (delimitersOnly [""]) = .ok config ∧
      ∃ spec ∈ config.allFieldSpecs,
        parse plainPython (textPlace "www.a") (some spec) none = .error (.raised "ValueError") ∧
        ¬ NeverRaises plainPython (textPlace "www.a") spec none := by
  have hraised : parse plainPython (textPlace "www.a") (some { readDelimiters := [""] }) none =
      .error (.raised "ValueError") := by decide
  refine ⟨_, rfl, { readDelimiters := [""] }, by decide, hraised, ?_⟩
  rintro ⟨ic, hic, -⟩
  rw [hraised] at hic
  cases hic

end OzonSuite.Excel
