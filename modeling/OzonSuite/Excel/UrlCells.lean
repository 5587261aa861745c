/-
# Addresses in a text

A text with several addresses is cut at the first delimiter that separates two of them.  What stands
between is taken as it is, so the addresses that come out are single ones only if the text is
written with that delimiter alone.
-/
import OzonSuite.Excel.Images

namespace OzonSuite.Excel

open Lib

/-! ## How a text is cut -/

/-- The parts that a delimiter cuts a text into. -/
def cutParts (delim value : String) : List String :=
  if delim = " " then wordParts value else partsOf delim value

/-- A delimiter separates two addresses.  A blank has to separate nothing else. -/
def Separates (value delim : String) : Prop :=
  2 ≤ ((cutParts delim value).filter looksLikeUrl).length ∧
    (delim = " " → ∀ p ∈ cutParts delim value, looksLikeUrl p = true)

instance (value delim : String) : Decidable (Separates value delim) :=
  inferInstanceAs (Decidable (_ ∧ _))

/-- The first delimiter that separates two addresses. -/
def FirstSeparates (value : String) (delims : List String) (delim : String) : Prop :=
  ∃ before behind, delims = before ++ delim :: behind ∧ (∀ e ∈ before, ¬ Separates value e) ∧
    Separates value delim

/-- The text as it is cut at a delimiter. -/
def splitAt (value delim : String) : MultiSplit where
  delimiter := if delim = " " then firstRun value else delim
  urlParts := (cutParts delim value).filter looksLikeUrl
  parts := cutParts delim value

section Schemes

lemma pattern_schemeLength : Pattern schemeLength :=
  pattern_firstLiteral (by decide)

lemma countSchemes_eq (s : String) : countSchemes s = countStarts schemeLength s.toList := by
  rw [countSchemes, pattern_schemeLength.countMatches_eq, List.drop_zero]

/-- What looks like an address has a scheme. -/
lemma countSchemes_pos {s : String} (h : looksLikeUrl s = true) : 0 < countSchemes s := by
  rw [countSchemes_eq]
  have hall : s.toList.takeWhile isPySpace ++ s.toList.dropWhile isPySpace = s.toList :=
    List.takeWhile_append_dropWhile
  have happend := pattern_schemeLength.countStarts_append (s.toList.takeWhile isPySpace)
    (s.toList.dropWhile isPySpace)
  rw [hall] at happend
  refine lt_of_lt_of_le ?_ (le_trans (Nat.le_add_left _ _) happend)
  rw [looksLikeUrl] at h
  cases hl : s.toList.dropWhile isPySpace with
  | nil =>
    rw [hl] at h
    exact absurd h (by decide)
  | cons c l =>
    rw [hl] at h
    rw [countStarts, if_pos h]
    omega

end Schemes

section Parts

variable {value delim : String} {split : MultiSplit}

lemma toList_partsOf : (partsOf delim value).map String.toList =
    ((splitText delim.toList value.toList).map (trimList isPySpace)).filter (· ≠ []) := by
  rw [partsOf]
  generalize splitText delim.toList value.toList = pieces
  induction pieces with
  | nil => rfl
  | cons p pieces ih =>
    have hstrip : (strip (String.ofList p)).toList = trimList isPySpace p := by
      rw [strip, trimText, String.toList_ofList, String.toList_ofList]
    by_cases hp : trimList isPySpace p = []
    · have hempty : strip (String.ofList p) = "" := by
        rw [← String.toList_eq_nil_iff, hstrip, hp]
      simpa [hempty, hp] using ih
    · have hne : strip (String.ofList p) ≠ "" := by
        rwa [Ne, ← String.toList_eq_nil_iff, hstrip]
      simpa [hne, hp, hstrip] using ih

lemma toList_wordParts : (wordParts value).map String.toList = wordsOf isPySpace value.toList := by
  rw [wordParts, List.map_map]
  exact (List.map_congr_left fun p _ => String.toList_ofList).trans (List.map_id _)

lemma trimList_isInfix (l : List Char) : trimList isPySpace l <:+: l :=
  (List.rdropWhile_prefix _ _).isInfix.trans (List.dropWhile_suffix _).isInfix

variable (value) in
/-- The parts stand in the text, one behind the other. -/
lemma inOrder_cutParts (hdelim : delim ≠ "") :
    InOrder ((cutParts delim value).map String.toList) value.toList := by
  unfold cutParts
  split_ifs
  · rw [toList_wordParts]
    exact (InOrder.splitOnP isPySpace value.toList).sublist List.filter_sublist
  · have hsep : delim.toList ≠ [] := fun h => hdelim (String.toList_eq_nil_iff.mp h)
    rw [toList_partsOf]
    refine InOrder.sublist List.filter_sublist ?_
    refine (inOrder_splitText hsep value.toList).infixes ?_
    rw [List.forall₂_map_left_iff]
    exact List.forall₂_same.mpr fun p _ => trimList_isInfix p

variable (value) in
lemma sum_countSchemes_le (hdelim : delim ≠ "") :
    ((cutParts delim value).map countSchemes).sum ≤ countSchemes value := by
  have h := pattern_schemeLength.countStarts_inOrder (inOrder_cutParts value hdelim)
  rw [List.map_map] at h
  rw [countSchemes_eq]
  have hcount : countSchemes = countStarts schemeLength ∘ String.toList := funext countSchemes_eq
  rwa [hcount]

/-- The addresses have no more schemes than the parts. -/
lemma length_urlParts_le (parts : List String) :
    (parts.filter looksLikeUrl).length ≤ (parts.map countSchemes).sum := by
  induction parts with
  | nil => simp
  | cons p parts ih =>
    rw [List.map_cons, List.sum_cons]
    by_cases hp : looksLikeUrl p = true
    · have hpos := countSchemes_pos hp
      rw [List.filter_cons_of_pos hp, List.length_cons]
      omega
    · rw [List.filter_cons_of_neg hp]
      omega

lemma not_separates_empty : ¬ Separates value "" := by
  have hgo : ∀ (l : List Char), ∀ p ∈ splitGo [] 0 [] l, p = ([] : List Char) := by
    intro l
    induction l with
    | nil => simp [splitGo]
    | cons c l ih => simpa [splitGo] using ih
  rintro ⟨htwo, -⟩
  have hparts : cutParts "" value = [] := by
    rw [cutParts, if_neg (by decide), ← List.map_eq_nil_iff (f := String.toList), toList_partsOf,
      List.filter_eq_nil_iff]
    intro p hp
    obtain ⟨q, hq, rfl⟩ := List.mem_map.mp hp
    obtain rfl := hgo _ q hq
    decide
  rw [hparts] at htwo
  simp at htwo

/-- Without white space there is one word at most. -/
lemma length_wordParts_le (h : value.toList.any isPySpace = false) :
    (wordParts value).length ≤ 1 := by
  have hsingle : value.toList.splitOnP isPySpace = [value.toList] :=
    List.splitOnP_eq_singleton fun c hc => by simpa using List.any_eq_false.mp h c hc
  rw [wordParts, wordsOf, hsingle, List.length_map]
  exact List.length_filter_le _ _

lemma length_partsOf_le (h : hasInfix delim.toList value.toList = false) :
    (partsOf delim value).length ≤ 1 := by
  rw [partsOf, splitText_of_not_infix h]
  exact List.length_filter_le _ _

/-- One turn of the loop finds a split if and only if the delimiter separates two addresses. -/
lemma trySplit_eq_some :
    trySplit value delim = .ok (some split) ↔
      Separates value delim ∧ split = splitAt value delim := by
  have hfew : ∀ parts : List String, parts.length ≤ 1 →
      ¬ 2 ≤ (parts.filter looksLikeUrl).length := fun parts hle htwo => by
    have hfilter := List.length_filter_le looksLikeUrl parts
    omega
  by_cases hblank : delim = " "
  -- the blank stands for any white space, and takes every word for an address or none
  · subst hblank
    simp only [trySplit, if_true, Separates, splitAt, cutParts, forall_const]
    split_ifs with hspace hcond
    · rw [List.length_filter_eq_length_iff] at hcond
      constructor
      · intro h
        exact ⟨hcond, (Option.some.inj (Except.ok.inj h)).symm⟩
      · rintro ⟨-, rfl⟩
        rfl
    · rw [List.length_filter_eq_length_iff] at hcond
      exact ⟨nofun, fun h => absurd h.1 hcond⟩
    · refine ⟨nofun, fun h => absurd h.1.1 (hfew _ ?_)⟩
      exact length_wordParts_le (by simpa using hspace)
  · by_cases hempty : delim = ""
    · subst hempty
      refine ⟨fun h => ?_, fun h => absurd h.1 not_separates_empty⟩
      simp only [trySplit, if_neg hblank, if_true] at h
      split_ifs at h
      cases h
    -- each part with an address has a scheme of its own, so the count of schemes excludes nothing
    have hschemes : 2 ≤ ((partsOf delim value).filter looksLikeUrl).length →
        2 ≤ countSchemes value := by
      have hsum := sum_countSchemes_le value hempty
      rw [cutParts, if_neg hblank] at hsum
      exact fun htwo => (htwo.trans (length_urlParts_le _)).trans hsum
    simp only [trySplit, if_neg hblank, if_neg hempty, Separates, splitAt, cutParts]
    split_ifs with hinfix hcond
    · constructor
      · intro h
        exact ⟨⟨hcond.1, fun hb => absurd hb hblank⟩, (Option.some.inj (Except.ok.inj h)).symm⟩
      · rintro ⟨-, rfl⟩
        rfl
    · exact ⟨nofun, fun h => absurd ⟨h.1.1, hschemes h.1.1⟩ hcond⟩
    · refine ⟨nofun, fun h => absurd h.1.1 (hfew _ ?_)⟩
      exact length_partsOf_le (by simpa using hinfix)

lemma splitMulti_eq_some {delims : List String} (h : splitMulti value delims = .ok (some split)) :
    ∃ delim, FirstSeparates value delims delim ∧ split = splitAt value delim := by
  induction delims with
  | nil => cases h
  | cons delim delims ih =>
    obtain ⟨found, hfound, hrest⟩ := Except.bind_eq_ok.mp h
    cases found with
    | some found =>
      obtain rfl : found = split := Option.some.inj (Except.ok.inj hrest)
      obtain ⟨hsep, hsplit⟩ := trySplit_eq_some.mp hfound
      exact ⟨delim, ⟨[], delims, rfl, by simp, hsep⟩, hsplit⟩
    | none =>
      obtain ⟨d, ⟨before, behind, rfl, hbefore, hsep⟩, hsplit⟩ := ih hrest
      refine ⟨d, ⟨delim :: before, behind, rfl, ?_, hsep⟩, hsplit⟩
      intro e he
      rcases List.mem_cons.mp he with rfl | he
      · intro hsep'
        rw [trySplit_eq_some.mpr ⟨hsep', rfl⟩] at hfound
        cases hfound
      · exact hbefore e he

end Parts

/-! ## What a cell is read as -/

/-- The text of a cell that is neither blank, nor a formula of a hyperlink, nor linked. -/
structure PlainTextCell (place : CellAt) (v : CellValue) (s : String) : Prop where
  value : place.cell.value = some v
  text : v.str? = some s
  unlinked : place.cell.hyperlink = none
  filled : strip s ≠ ""
  noFormula : hyperlinkFormula s = none

/-- All that a cell may be read as. -/
inductive ParsedAs (py : Python) (place : CellAt) (delims : List String) (ws : Option SheetFrame) :
    ImageCell → Prop
  | image (ref : CellRef) (h : Embedded place ws = true) :
    ParsedAs py place delims ws (.bare ref .embeddedImage place.cell.value)
  | blank (ref : CellRef) (h : Embedded place ws = false)
      (hblank : isBlankValue place.cell.value = true) (hlink : place.cell.hyperlink = none) :
    ParsedAs py place delims ws (.bare ref .empty place.cell.value)
  | formula (ref : CellRef) (h : Embedded place ws = false) (v : CellValue) (s : String)
      (url : List Char) (display : Option (List Char)) (hvalue : place.cell.value = some v)
      (htext : v.str? = some s) (hformula : hyperlinkFormula s = some (url, display)) :
    ParsedAs py place delims ws
      { ref := ref
        form := .hyperlinkFormula
        urls := [String.ofList (unescapeQuotes url)]
        displayText := display.map fun d => String.ofList (unescapeQuotes d)
        delimiter := none
        originalValue := place.cell.value
        template := none }
  | link (ref : CellRef) (h : Embedded place ws = false) (link : Hyperlink)
      (hlink : place.cell.hyperlink = some link)
      (hformula : (place.cell.value.bind CellValue.str?).bind hyperlinkFormula = none) :
    ParsedAs py place delims ws
      { ref := ref
        form := .realHyperlink
        urls := [linkUrl link]
        displayText := place.cell.value.map py.str
        delimiter := none
        originalValue := place.cell.value
        template := none }
  | other (ref : CellRef) (h : Embedded place ws = false) (v : CellValue)
      (hvalue : place.cell.value = some v) (htext : v.str? = none) :
    ParsedAs py place delims ws (.bare ref .empty (some v))
  | multi (ref : CellRef) (h : Embedded place ws = false) (v : CellValue) (s delim : String)
      (hcell : PlainTextCell place v s) (hfirst : FirstSeparates s delims delim) :
    ParsedAs py place delims ws
      { ref := ref
        form := .multiUrl
        urls := (splitAt s delim).urlParts
        displayText := none
        delimiter := some (splitAt s delim).delimiter
        originalValue := some v
        template := some (Template.ofParts (splitAt s delim).parts) }
  | plain (ref : CellRef) (h : Embedded place ws = false) (v : CellValue) (s : String)
      (hcell : PlainTextCell place v s) (hnone : splitMulti s delims = .ok none)
      (hurl : looksLikeUrl s = true) :
    ParsedAs py place delims ws
      { ref := ref
        form := .plainUrl
        urls := [strip s]
        displayText := none
        delimiter := none
        originalValue := some v
        template := none }
  | text (ref : CellRef) (h : Embedded place ws = false) (v : CellValue) (s : String)
      (hcell : PlainTextCell place v s) (hnone : splitMulti s delims = .ok none)
      (hurl : looksLikeUrl s = false) :
    ParsedAs py place delims ws (.bare ref .empty (some v))

section Parse

variable {py : Python} {place : CellAt} {spec : Option FieldSpec} {ws : Option SheetFrame}
  {ic : ImageCell}

lemma PlainTextCell.not_blank {v : CellValue} {s : String} (h : PlainTextCell place v s) :
    (isBlankValue place.cell.value && decide (place.cell.hyperlink = none)) = false := by
  simp [h.value, h.text, isBlankValue, h.filled]

/-- A plain text is read as one. -/
lemma parse_plainText {ref : CellRef} {v : CellValue} {s : String}
    (href : CellRef.of place.sheet place.row place.col = .ok ref) (h : Embedded place ws = false)
    (hcell : PlainTextCell place v s) :
    parse py place spec ws = parseText ref v s (readDelims spec) := by
  have hformula : (place.cell.value.bind CellValue.str?).bind hyperlinkFormula = none := by
    rw [hcell.value, Option.bind_some, hcell.text, Option.bind_some, hcell.noFormula]
  have hblank := hcell.not_blank
  rw [parse, href]
  simp only [bind, Except.bind, h, hblank, hformula, Bool.false_eq_true, if_false]
  simp only [hcell.unlinked, hcell.value, hcell.text]

lemma parsedAs (h : parse py place spec ws = .ok ic) :
    ParsedAs py place (readDelims spec) ws ic := by
  obtain ⟨ref, -, h⟩ := Except.bind_eq_ok.mp h
  dsimp only at h
  by_cases hembedded : Embedded place ws = true
  · rw [if_pos hembedded] at h
    obtain rfl := Except.ok.inj h
    exact .image ref hembedded
  have hplain : Embedded place ws = false := by simpa using hembedded
  rw [if_neg hembedded] at h
  split_ifs at h with hblank
  · obtain rfl := Except.ok.inj h
    simp only [Bool.and_eq_true, decide_eq_true_eq] at hblank
    exact .blank ref hplain hblank.1 hblank.2
  -- a formula comes before a link, and a link before the text
  split at h
  · next url display hformula =>
    obtain rfl := Except.ok.inj h
    obtain ⟨s, hs, hformula⟩ := Option.bind_eq_some_iff.mp hformula
    obtain ⟨v, hv, htext⟩ := Option.bind_eq_some_iff.mp hs
    exact .formula ref hplain v s url display hv htext hformula
  · next hformula =>
    split at h
    · next link hlink =>
      obtain rfl := Except.ok.inj h
      exact .link ref hplain link hlink hformula
    · next hlink hvalue =>
      simp [hvalue, hlink, isBlankValue] at hblank
    · next v hlink hvalue =>
      split at h
      · next s htext =>
        have hcell : PlainTextCell place v s := by
          refine ⟨hvalue, htext, hlink, ?_, by simpa [hvalue, htext] using hformula⟩
          simpa [hvalue, htext, hlink, isBlankValue] using hblank
        obtain ⟨found, hfound, hic⟩ := Except.bind_eq_ok.mp h
        cases found with
        | some split =>
          obtain rfl := Except.ok.inj hic
          obtain ⟨delim, hfirst, rfl⟩ := splitMulti_eq_some hfound
          exact .multi ref hplain v s delim hcell hfirst
        | none =>
          dsimp only at hic
          split_ifs at hic with hurl
          · obtain rfl := Except.ok.inj hic
            exact .plain ref hplain v s hcell hfound hurl
          · obtain rfl := Except.ok.inj hic
            exact .text ref hplain v s hcell hfound (by simpa using hurl)
      · next htext =>
        obtain rfl := Except.ok.inj h
        exact .other ref hplain v hvalue htext

end Parse

/-! ## Single addresses -/

/-- One address: a scheme and, but for the beginning of the host, no other one. -/
def OneUrl (s : String) : Prop :=
  ∃ n, schemeLength s.toList = some n ∧
    countStarts schemeLength
      ((dropLiteral "www.".toList (s.toList.drop n)).getD (s.toList.drop n)) = 0

/-- One address, with no white space and no delimiter in it. -/
structure LoneUrl (delims : List String) (s : String) : Prop where
  one : OneUrl s
  noSpace : ∀ c ∈ s.toList, isPySpace c = false
  noDelim : ∀ d ∈ delims, hasInfix d.toList s.toList = false

/-- The addresses that come out are single ones, and all those of the text, in order. -/
structure ExactUrls (delims : List String) (value : String) (urls : List String) : Prop where
  lone : ∀ u ∈ urls, LoneUrl delims u
  inOrder : InOrder (urls.map String.toList) value.toList
  complete : countSchemes value = (urls.map countSchemes).sum

/-- The text is written with one delimiter: between its occurrences there are single addresses, and
texts without a scheme; and it does not cut through a scheme. -/
structure WrittenWith (delims : List String) (delim value : String) : Prop where
  parts : ∀ p ∈ cutParts delim value, LoneUrl delims p ∨ countSchemes p = 0
  uncut : countSchemes value = ((cutParts delim value).map countSchemes).sum

section Exact

variable {delims : List String} {delim value : String}

lemma LoneUrl.looksLikeUrl {u : String} (h : LoneUrl delims u) : looksLikeUrl u = true := by
  obtain ⟨n, hn, -⟩ := h.one
  have hdrop : u.toList.dropWhile isPySpace = u.toList := by
    rw [List.dropWhile_eq_self_iff]
    intro hpos
    simp [h.noSpace _ (List.getElem_mem hpos)]
  rw [Excel.looksLikeUrl, hdrop, hn]
  rfl

lemma sum_filter_le (parts : List String) :
    ((parts.filter looksLikeUrl).map countSchemes).sum ≤ (parts.map countSchemes).sum :=
  (List.filter_sublist.map countSchemes).sum_le_sum fun _ _ => Nat.zero_le _

/-- When the addresses have all the schemes, the other parts have none. -/
lemma countSchemes_eq_zero {parts : List String}
    (h : (parts.map countSchemes).sum ≤ ((parts.filter looksLikeUrl).map countSchemes).sum)
    {p : String} (hp : p ∈ parts) (hnot : ¬ looksLikeUrl p = true) : countSchemes p = 0 := by
  induction parts with
  | nil => cases hp
  | cons q parts ih =>
    have hle := sum_filter_le parts
    rw [List.map_cons, List.sum_cons] at h
    by_cases hq : looksLikeUrl q = true
    · rw [List.filter_cons_of_pos hq, List.map_cons, List.sum_cons] at h
      rcases List.mem_cons.mp hp with rfl | hp
      · exact absurd hq hnot
      · exact ih (by omega) hp
    · rw [List.filter_cons_of_neg hq] at h
      rcases List.mem_cons.mp hp with rfl | hp
      · omega
      · exact ih (by omega) hp

lemma exactUrls_iff (hdelim : delim ≠ "") :
    ExactUrls delims value ((cutParts delim value).filter looksLikeUrl) ↔
      WrittenWith delims delim value := by
  have hsum := sum_countSchemes_le value hdelim
  have hfilter := sum_filter_le (cutParts delim value)
  constructor
  · rintro ⟨hlone, -, hcomplete⟩
    refine ⟨fun p hp => ?_, by omega⟩
    by_cases hurl : looksLikeUrl p = true
    · exact .inl (hlone p (List.mem_filter.mpr ⟨hp, hurl⟩))
    · exact .inr (countSchemes_eq_zero (by omega) hp hurl)
  · rintro ⟨hparts, huncut⟩
    refine ⟨fun u hu => ?_, ?_, ?_⟩
    · obtain ⟨hmem, hurl⟩ := List.mem_filter.mp hu
      rcases hparts u hmem with hlone | hzero
      · exact hlone
      · exact absurd hzero (countSchemes_pos hurl).ne'
    · exact (inOrder_cutParts value hdelim).sublist (List.filter_sublist.map _)
    · -- the parts that are not addresses have no scheme
      rw [huncut]
      generalize cutParts delim value = parts at hparts
      induction parts with
      | nil => rfl
      | cons p parts ih =>
        have hrest := ih fun q hq => hparts q (List.mem_cons_of_mem _ hq)
        by_cases hurl : looksLikeUrl p = true
        · simp [List.filter_cons_of_pos hurl, hrest]
        · have hzero : countSchemes p = 0 := by
            rcases hparts p List.mem_cons_self with hlone | hzero
            · exact absurd hlone.looksLikeUrl hurl
            · exact hzero
          simp [List.filter_cons_of_neg hurl, hrest, hzero]

end Exact

/-- **Single addresses.**  A text that is read as several addresses is cut at the first delimiter
that separates two of them.  The addresses that come out are single ones, without white space or a
delimiter, and all those of the text in order, if and only if the text is written with that
delimiter: between its occurrences there are single addresses and texts without a scheme, and it
cuts through no scheme. -/
theorem multi_urls_iff (py : Python) (place : CellAt) (spec : Option FieldSpec)
    (ws : Option SheetFrame) (ic : ImageCell) (value : String)
    (hvalue : place.cell.value.bind CellValue.str? = some value)
    (h : parse py place spec ws = .ok ic) (hform : ic.form = .multiUrl) :
    ∃ delim, FirstSeparates value (readDelims spec) delim ∧
      (ExactUrls (readDelims spec) value ic.urls ↔ WrittenWith (readDelims spec) delim value) := by
  have hparsed := parsedAs h
  cases hparsed with
  | multi ref _ v s delim hcell hfirst =>
    obtain rfl : s = value := by
      rw [hcell.value, Option.bind_some, hcell.text] at hvalue
      exact Option.some.inj hvalue
    refine ⟨delim, hfirst, exactUrls_iff ?_⟩
    rintro rfl
    obtain ⟨_, _, -, -, hsep⟩ := hfirst
    exact not_separates_empty hsep
  | image => cases hform
  | blank => cases hform
  | formula => cases hform
  | link => cases hform
  | other => cases hform
  | plain => cases hform
  | text => cases hform

/-- A text in the first cell. -/
def textPlace (s : String) : CellAt := ⟨"S", 1, 1, Cell.ofValue (.text s)⟩

/-- A text in the first cell, cut at line breaks into addresses only. -/
def lineCell (s : String) (urls : List String) : ImageCell where
  ref := ⟨"S", 1, 1, "A", by decide⟩
  form := .multiUrl
  urls := urls
  displayText := none
  delimiter := some "\n"
  originalValue := some (.text s)
  template := some (Template.ofParts urls)

theorem multi_urls_iff_lines :
    ∃ delim, FirstSeparates "www.a\nwww.b" ["\n", ",", " "] delim ∧
      (ExactUrls ["\n", ",", " "] "www.a\nwww.b" ["www.a", "www.b"] ↔
        WrittenWith ["\n", ",", " "] delim "www.a\nwww.b") :=
  multi_urls_iff plainPython (textPlace "www.a\nwww.b") (some {}) none
    (lineCell "www.a\nwww.b" ["www.a", "www.b"]) "www.a\nwww.b" rfl (by decide) rfl

/-- A text with line breaks and commas: two of the addresses are not separated. -/
theorem multi_urls_glued :
    parse plainPython (textPlace "www.a\nwww.b,www.c") (some {}) none =
        .ok (lineCell "www.a\nwww.b,www.c" ["www.a", "www.b,www.c"]) ∧
      ¬ ExactUrls ["\n", ",", " "] "www.a\nwww.b,www.c" ["www.a", "www.b,www.c"] := by
  refine ⟨by decide, fun h => ?_⟩
  have hcomma := (h.lone "www.b,www.c" (by decide)).noDelim "," (by decide)
  revert hcomma
  decide

end OzonSuite.Excel
