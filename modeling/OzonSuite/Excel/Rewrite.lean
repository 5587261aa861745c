/-
# Addresses written back

New addresses are written into a cell in the form in which the old ones stood.  Whether they come
out again when the cell is read depends on the text that is written: it has to fit into a cell, and
a text with several addresses is cut anew, perhaps at another delimiter.
-/
import OzonSuite.Excel.Accepted

namespace OzonSuite.Excel

open Lib

/-! ## Formulas -/

section Formulas

variable {l rest p : List Char}

lemma unescapeQuotes_cons {c : Char} (h : c ≠ '"') (l : List Char) :
    unescapeQuotes (c :: l) = c :: unescapeQuotes l := by
  rw [unescapeQuotes]
  exact fun _ hc => absurd hc h

lemma escapeQuotes_quote (l : List Char) :
    escapeQuotes ('"' :: l) = '"' :: '"' :: escapeQuotes l := rfl

lemma escapeQuotes_cons {c : Char} (h : c ≠ '"') (l : List Char) :
    escapeQuotes (c :: l) = c :: escapeQuotes l := by
  rw [escapeQuotes, List.flatMap_cons, if_neg h]
  rfl

@[simp] lemma unescapeQuotes_escapeQuotes (l : List Char) :
    unescapeQuotes (escapeQuotes l) = l := by
  induction l with
  | nil => rfl
  | cons c l ih =>
    by_cases hc : c = '"'
    · subst hc
      rw [escapeQuotes_quote, unescapeQuotes, ih]
    · rw [escapeQuotes_cons hc, unescapeQuotes_cons hc, ih]

lemma quoted_cons {c : Char} (h : c ≠ '"') (l : List Char) :
    quoted (c :: l) = (quoted l).map fun (content, rest) => (c :: content, rest) := by
  rw [quoted]
  · exact fun _ hc => absurd hc h
  · exact h

/-- A quote that no other one follows ends what is quoted. -/
lemma quoted_end (h : ∀ r, l ≠ '"' :: r) : quoted ('"' :: l) = some ([], l) := by
  rw [quoted]
  exact fun r hr => absurd hr (h r)

lemma quoted_escapeQuotes (h : ∀ r, rest ≠ '"' :: r) (l : List Char) :
    quoted (escapeQuotes l ++ '"' :: rest) = some (escapeQuotes l, rest) := by
  induction l with
  | nil => exact quoted_end h
  | cons c l ih =>
    by_cases hc : c = '"'
    · subst hc
      rw [escapeQuotes_quote, List.cons_append, List.cons_append, quoted, ih]
      rfl
    · rw [escapeQuotes_cons hc, List.cons_append, quoted_cons hc, ih]
      rfl

/-- What is quoted in the beginning of such a text ends where the beginning ends, or where it ends
in the whole text. -/
lemma quoted_prefix (h : ∀ r, rest ≠ '"' :: r) {content tail : List Char}
    (hp : p <+: escapeQuotes l ++ '"' :: rest) (hquoted : quoted p = some (content, tail)) :
    tail = [] ∨ p = escapeQuotes l ++ '"' :: tail := by
  induction l generalizing p content with
  | nil =>
    cases p with
    | nil => cases hquoted
    | cons c p =>
      obtain ⟨rfl, more, hmore⟩ := List.cons_prefix_cons.mp hp
      rw [quoted_end] at hquoted
      · obtain ⟨-, rfl⟩ := Prod.mk.inj (Option.some.inj hquoted)
        exact .inr rfl
      · rintro r rfl
        exact h (r ++ more) hmore.symm
  | cons c l ih =>
    cases p with
    | nil => cases hquoted
    | cons d p =>
      by_cases hc : c = '"'
      -- a quote is written twice; where the beginning ends between the two, the first one closes
      · subst hc
        rw [escapeQuotes_quote, List.cons_append, List.cons_append] at hp
        obtain ⟨hd, hp₁⟩ := List.cons_prefix_cons.mp hp
        subst hd
        cases p with
        | nil =>
          obtain ⟨-, rfl⟩ := Prod.mk.inj (Option.some.inj hquoted)
          exact .inl rfl
        | cons d p =>
          obtain ⟨hd, hp₂⟩ := List.cons_prefix_cons.mp hp₁
          subst hd
          rw [quoted] at hquoted
          obtain ⟨⟨content', tail'⟩, hrest, heq⟩ := Option.map_eq_some_iff.mp hquoted
          obtain ⟨-, rfl⟩ := Prod.mk.inj heq
          refine (ih hp₂ hrest).imp_right ?_
          rintro rfl
          rfl
      · rw [escapeQuotes_cons hc, List.cons_append] at hp
        obtain ⟨hd, hp₁⟩ := List.cons_prefix_cons.mp hp
        subst hd
        rw [quoted_cons hc] at hquoted
        obtain ⟨⟨content', tail'⟩, hrest, heq⟩ := Option.map_eq_some_iff.mp hquoted
        obtain ⟨-, rfl⟩ := Prod.mk.inj heq
        refine (ih hp₁ hrest).imp_right ?_
        rintro rfl
        rw [escapeQuotes_cons hc, List.cons_append]

lemma expect_cons {c : Char} (h : isPySpace c = false) (l : List Char) :
    expect c (c :: l) = some l := by
  rw [expect, skipSpace, List.dropWhile_cons_of_neg (by simp [h])]
  exact if_pos rfl

lemma expect_ne {c d : Char} (h : isPySpace d = false) (hne : d ≠ c) (l : List Char) :
    expect c (d :: l) = none := by
  rw [expect, skipSpace, List.dropWhile_cons_of_neg (by simp [h])]
  exact if_neg hne

/-- What follows the first quote of a formula. -/
def formulaArguments (l : List Char) : Option (List Char × Option (List Char)) := do
  let (url, l) ← quoted l
  let (display, l) ← displayArgument l
  let l ← expect ')' l
  if l.all isPySpace then some (url, display) else none

lemma hyperlinkFormula_start (l : List Char) :
    hyperlinkFormula (String.ofList ("=HYPERLINK(\"".toList ++ l)) = formulaArguments l := by
  rw [hyperlinkFormula, String.toList_ofList]
  rfl

/-- The end of a formula: its text, if there is one. -/
def formulaEnd (display : Option String) : List Char :=
  match display with
  | some display => ',' :: '"' :: (escapeQuotes display.toList ++ '"' :: [')'])
  | none => [')']

lemma formulaText_eq (url : String) (display : Option String) :
    formulaText url display = String.ofList
      ("=HYPERLINK(\"".toList ++ (escapeQuotes url.toList ++ '"' :: formulaEnd display)) := by
  unfold formulaText
  rw [List.append_assoc]
  cases display with
  | none => rfl
  | some display =>
    refine congrArg String.ofList (congrArg _ (congrArg _ ?_))
    change ['"', ',', '"'] ++ escapeQuotes display.toList ++ ['"', ')'] = _
    simp [formulaEnd]

lemma formulaEnd_ne (display : Option String) (r : List Char) : formulaEnd display ≠ '"' :: r := by
  cases display <;> simp [formulaEnd]

lemma displayArgument_formulaEnd (display : Option String) :
    displayArgument (formulaEnd display) =
      some (display.map fun d => escapeQuotes d.toList, [')']) := by
  cases display with
  | none => rfl
  | some d =>
    have hquoted : quoted (escapeQuotes d.toList ++ '"' :: [')']) =
        some (escapeQuotes d.toList, [')']) := quoted_escapeQuotes (by simp) d.toList
    rw [formulaEnd, displayArgument, expect_cons (by decide)]
    dsimp only
    rw [expect_cons (by decide)]
    simp only [Option.bind_eq_bind, Option.bind_some, hquoted]
    rfl

lemma formulaArguments_of (url : List Char) (display : Option String) :
    formulaArguments (escapeQuotes url ++ '"' :: formulaEnd display) =
      some (escapeQuotes url, display.map fun d => escapeQuotes d.toList) := by
  rw [formulaArguments, quoted_escapeQuotes (formulaEnd_ne display)]
  simp only [Option.bind_eq_bind, Option.bind_some, displayArgument_formulaEnd,
    expect_cons (show isPySpace ')' = false by decide)]
  rfl

lemma expect_nil (c : Char) : expect c [] = none := rfl

/-- Nothing but the whole end of a formula ends one. -/
lemma formulaEnd_of_isPrefix {display : Option String} (hp : p <+: formulaEnd display)
    {found : Option (List Char)} {tail : List Char}
    (hdisplay : displayArgument p = some (found, tail)) (hclose : expect ')' tail ≠ none) :
    p = formulaEnd display := by
  have hnil : tail ≠ [] := fun hnil => hclose (by rw [hnil, expect_nil])
  cases p with
  | nil =>
    obtain ⟨-, rfl⟩ := Prod.mk.inj (Option.some.inj hdisplay)
    exact absurd rfl hnil
  | cons c p =>
    cases display with
    | none =>
      obtain ⟨hc, hp⟩ := List.cons_prefix_cons.mp hp
      rw [hc, List.prefix_nil.mp hp, formulaEnd]
    | some d =>
      obtain ⟨hc, hp₁⟩ := List.cons_prefix_cons.mp hp
      subst hc
      rw [displayArgument, expect_cons (by decide)] at hdisplay
      simp only [Option.bind_eq_bind, Option.bind_eq_some_iff] at hdisplay
      obtain ⟨l, hquote, ⟨content, tail'⟩, hquoted, heq⟩ := hdisplay
      obtain ⟨-, rfl⟩ := Prod.mk.inj (Option.some.inj heq)
      cases p with
      | nil => cases hquote
      | cons c p =>
        obtain ⟨hc, hp₂⟩ := List.cons_prefix_cons.mp hp₁
        subst hc
        rw [expect_cons (by decide)] at hquote
        obtain rfl := Option.some.inj hquote
        -- the quoted text ends where it ends in the whole formula
        obtain rfl | rfl := quoted_prefix (by simp) hp₂ hquoted
        · exact absurd rfl hnil
        · obtain ⟨-, htail⟩ := List.cons_prefix_cons.mp ((List.prefix_append_right_inj _).mp hp₂)
          rcases tail' with _ | ⟨c, tail'⟩
          · exact absurd rfl hnil
          · obtain ⟨hc, hnone⟩ := List.cons_prefix_cons.mp htail
            rw [hc, List.prefix_nil.mp hnone, formulaEnd]

/-- A formula that is cut short is none. -/
lemma formulaArguments_of_isPrefix {url : List Char} {display : Option String}
    (hp : p <+: escapeQuotes url ++ '"' :: formulaEnd display)
    {found : List Char × Option (List Char)} (h : formulaArguments p = some found) :
    p = escapeQuotes url ++ '"' :: formulaEnd display := by
  simp only [formulaArguments, Option.bind_eq_bind, Option.bind_eq_some_iff] at h
  obtain ⟨⟨content, tail⟩, hquoted, ⟨found', tail'⟩, hdisplay, l, hclose, -⟩ := h
  have hsome : expect ')' tail' ≠ none := by simp [hclose]
  obtain rfl | rfl := quoted_prefix (formulaEnd_ne display) hp hquoted
  · obtain ⟨-, rfl⟩ := Prod.mk.inj (Option.some.inj hdisplay)
    exact absurd rfl hsome
  · obtain ⟨-, htail⟩ := List.cons_prefix_cons.mp ((List.prefix_append_right_inj _).mp hp)
    rw [formulaEnd_of_isPrefix htail hdisplay hsome]

/-- **A formula, read again.** -/
lemma hyperlinkFormula_formulaText (url : String) (display : Option String) :
    hyperlinkFormula (formulaText url display) =
      some (escapeQuotes url.toList, display.map fun d => escapeQuotes d.toList) := by
  rw [formulaText_eq, hyperlinkFormula_start, formulaArguments_of]

/-- What a cell keeps of a formula is no formula, unless it is the whole. -/
lemma hyperlinkFormula_take {url : String} {display : Option String} {n : ℕ} (hn : 12 ≤ n)
    {found : List Char × Option (List Char)}
    (h : hyperlinkFormula (String.ofList ((formulaText url display).toList.take n)) = some found) :
    String.ofList ((formulaText url display).toList.take n) = formulaText url display := by
  rw [formulaText_eq, String.toList_ofList] at h ⊢
  have hlen : "=HYPERLINK(\"".toList.length = 12 := rfl
  rw [List.take_append, List.take_of_length_le (by omega), hlen] at h ⊢
  rw [hyperlinkFormula_start] at h
  rw [formulaArguments_of_isPrefix (List.take_prefix _ _) h]

end Formulas

/-! ## Labels and addresses -/

section Fill

variable {p : String} {ps urls : List String}

lemma positions_cons (p : String) (ps : List String) :
    (Template.ofParts (p :: ps)).positions =
      (if looksLikeUrl p then [0] else []) ++ (Template.ofParts ps).positions.map (· + 1) := by
  have hrest : ((List.range ps.length).map Nat.succ).filter
      (fun i => ((p :: ps)[i]?).any looksLikeUrl) =
        (Template.ofParts ps).positions.map (· + 1) := by
    rw [List.filter_map]
    rfl
  simp only [Template.ofParts] at hrest ⊢
  rw [List.length_cons, List.range_succ_eq_map]
  by_cases hp : looksLikeUrl p = true
  · rw [List.filter_cons_of_pos (by simpa using hp), hrest, if_pos hp]
    rfl
  · rw [List.filter_cons_of_neg (by simpa using hp), hrest, if_neg hp]
    rfl

lemma length_positions (ps : List String) :
    (Template.ofParts ps).positions.length = (ps.filter looksLikeUrl).length := by
  induction ps with
  | nil => rfl
  | cons p ps ih =>
    rw [positions_cons, List.length_append, List.length_map, ih]
    by_cases hp : looksLikeUrl p = true
    · rw [if_pos hp, List.filter_cons_of_pos hp]
      simp [Nat.add_comm]
    · rw [if_neg hp, List.filter_cons_of_neg hp]
      simp

lemma foldl_set_cons (p : String) (ps : List String) (pairs : List (ℕ × String)) :
    (pairs.map fun (i, url) => (i + 1, url)).foldl (fun parts (i, url) => parts.set i url)
        (p :: ps) =
      p :: pairs.foldl (fun parts (i, url) => parts.set i url) ps := by
  induction pairs generalizing ps with
  | nil => rfl
  | cons pair pairs ih => exact ih _

lemma zip_succ (positions : List ℕ) (urls : List String) :
    (positions.map (· + 1)).zip urls = (positions.zip urls).map fun (i, url) => (i + 1, url) := by
  rw [List.zip_map_left]
  rfl

/-- A label is left where it is. -/
lemma fill_label (hp : ¬ looksLikeUrl p = true) (ps urls : List String) :
    (Template.ofParts (p :: ps)).fill urls = p :: (Template.ofParts ps).fill urls := by
  rw [Template.fill, positions_cons, if_neg hp, List.nil_append, zip_succ]
  exact foldl_set_cons p ps _

/-- An address is replaced by the first of the new ones. -/
lemma fill_url (hp : looksLikeUrl p = true) (ps : List String) (url : String) (urls : List String) :
    (Template.ofParts (p :: ps)).fill (url :: urls) = url :: (Template.ofParts ps).fill urls := by
  rw [Template.fill, positions_cons, if_pos hp, List.singleton_append, List.zip_cons_cons, zip_succ]
  exact foldl_set_cons url ps _

/-- The addresses of the filled parts are the new ones. -/
lemma filter_fill (hlen : urls.length = (ps.filter looksLikeUrl).length)
    (hurls : ∀ u ∈ urls, looksLikeUrl u = true) :
    ((Template.ofParts ps).fill urls).filter looksLikeUrl = urls := by
  induction ps generalizing urls with
  | nil => exact (List.length_eq_zero_iff.mp hlen).symm
  | cons p ps ih =>
    by_cases hp : looksLikeUrl p = true
    · rw [List.filter_cons_of_pos hp, List.length_cons] at hlen
      obtain ⟨url, urls, rfl⟩ := List.exists_cons_of_length_eq_add_one hlen
      rw [fill_url hp, List.filter_cons_of_pos (hurls url List.mem_cons_self),
        ih (Nat.succ.inj hlen) fun u hu => hurls u (List.mem_cons_of_mem _ hu)]
    · rw [List.filter_cons_of_neg hp] at hlen
      rw [fill_label hp, List.filter_cons_of_neg hp, ih hlen hurls]

/-- The new addresses stand in the places of the old ones. -/
lemma positions_fill (hlen : urls.length = (ps.filter looksLikeUrl).length)
    (hurls : ∀ u ∈ urls, looksLikeUrl u = true) :
    (Template.ofParts ((Template.ofParts ps).fill urls)).positions =
      (Template.ofParts ps).positions := by
  induction ps generalizing urls with
  | nil => rfl
  | cons p ps ih =>
    by_cases hp : looksLikeUrl p = true
    · rw [List.filter_cons_of_pos hp, List.length_cons] at hlen
      obtain ⟨url, urls, rfl⟩ := List.exists_cons_of_length_eq_add_one hlen
      rw [fill_url hp, positions_cons, positions_cons, if_pos hp,
        if_pos (hurls url List.mem_cons_self),
        ih (Nat.succ.inj hlen) fun u hu => hurls u (List.mem_cons_of_mem _ hu)]
    · rw [List.filter_cons_of_neg hp] at hlen
      rw [fill_label hp, positions_cons, positions_cons, if_neg hp, ih hlen hurls]

/-- The old addresses change nothing. -/
lemma fill_filter (ps : List String) :
    (Template.ofParts ps).fill (ps.filter looksLikeUrl) = ps := by
  induction ps with
  | nil => rfl
  | cons p ps ih =>
    by_cases hp : looksLikeUrl p = true
    · rw [List.filter_cons_of_pos hp, fill_url hp, ih]
    · rw [List.filter_cons_of_neg hp, fill_label hp, ih]

end Fill

/-! ## The text that is written -/

/-- The text fits into a cell as it is. -/
def Fits (s : String) : Prop := checkString s = .ok s

/-- What a cell holds once the text has been written into it, if it does not hold it already. -/
def stored (cell : Cell) (s : String) : Except Failure String :=
  if holdsText cell s then .ok s else checkString s

/-- The cell shows a text, and has no hyperlink. -/
structure ShowsText (cell : Cell) (s : String) : Prop where
  text : cell.value.bind CellValue.str? = some s
  unlinked : cell.hyperlink = none

section Writing

variable {cell cell' : Cell} {s kept : String} {changed : Bool}

lemma checkString_eq_ok (h : checkString s = .ok kept) :
    kept = String.ofList (s.toList.take maxStringLength) := by
  simp only [checkString] at h
  split_ifs at h
  exact (Except.ok.inj h).symm

lemma setValue_eq_ok (h : cell.setValue s = .ok cell') :
    ∃ kept, checkString s = .ok kept ∧ cell'.value.bind CellValue.str? = some kept ∧
      cell'.hyperlink = cell.hyperlink := by
  unfold Cell.setValue at h
  split_ifs at h with hmerged
  obtain ⟨kept, hkept, h⟩ := Except.bind_eq_ok.mp h
  obtain rfl := Except.ok.inj h
  exact ⟨kept, hkept, CellValue.str?_ofString kept, rfl⟩

lemma setValue_of_checkString (hmerged : cell.merged = false) (h : checkString s = .ok kept) :
    ∃ cell', cell.setValue s = .ok cell' := by
  rw [Cell.setValue, dif_pos hmerged, h]
  exact ⟨_, rfl⟩

@[simp] lemma value_clearHyperlink (cell : Cell) : cell.clearHyperlink.value = cell.value := by
  unfold Cell.clearHyperlink
  split_ifs <;> rfl

@[simp] lemma hyperlink_clearHyperlink (cell : Cell) : cell.clearHyperlink.hyperlink = none := by
  unfold Cell.clearHyperlink
  split_ifs with hmerged
  · rfl
  · exact (cell.covered (by simpa using hmerged)).2

lemma holdsText_iff : holdsText cell s = true ↔ cell.value.bind CellValue.str? = some s := by
  rw [holdsText, decide_eq_true_iff]

/-- A text is written, unless the cell shows it already. -/
lemma writeText_eq_ok (h : writeText cell s = .ok (cell', changed)) :
    ShowsText cell s ∨ ∃ kept, checkString s = .ok kept ∧ ShowsText cell' kept := by
  unfold writeText at h
  split_ifs at h with hshown
  · rw [Bool.and_eq_true, holdsText_iff, decide_eq_true_iff] at hshown
    exact .inl ⟨hshown.1, hshown.2⟩
  · obtain ⟨written, hwritten, h⟩ := Except.bind_eq_ok.mp h
    obtain ⟨rfl, -⟩ := Prod.mk.inj (Except.ok.inj h)
    obtain ⟨kept, hkept, htext, -⟩ := setValue_eq_ok hwritten
    exact .inr ⟨kept, hkept, by rwa [value_clearHyperlink], hyperlink_clearHyperlink _⟩

lemma writeText_of_fits (hmerged : cell.merged = false) (h : Fits s) :
    ∃ cell' changed, writeText cell s = .ok (cell', changed) ∧ ShowsText cell' s := by
  unfold writeText
  split_ifs with hshown
  · rw [Bool.and_eq_true, holdsText_iff, decide_eq_true_iff] at hshown
    exact ⟨_, _, rfl, hshown.1, hshown.2⟩
  · obtain ⟨written, hwritten⟩ := setValue_of_checkString hmerged h
    obtain ⟨kept, hkept, htext, -⟩ := setValue_eq_ok hwritten
    obtain rfl : kept = s := Except.ok.inj (hkept.symm.trans h)
    refine ⟨_, _, by rw [hwritten]; rfl, ?_, hyperlink_clearHyperlink _⟩
    rwa [value_clearHyperlink]

/-- A text with several addresses leaves the hyperlink alone. -/
lemma writeForm_multi_eq_ok {ic : ImageCell} {urls : List String}
    (h : writeForm .multiUrl cell ic urls none = .ok (cell', changed)) :
    ∃ kept, stored cell (multiText ic urls) = .ok kept ∧
      cell'.value.bind CellValue.str? = some kept ∧ cell'.hyperlink = cell.hyperlink := by
  unfold writeForm at h
  dsimp only at h
  unfold stored
  split_ifs at h ⊢ with hholds
  · obtain ⟨rfl, -⟩ := Prod.mk.inj (Except.ok.inj h)
    exact ⟨_, rfl, holdsText_iff.mp hholds, rfl⟩
  · obtain ⟨written, hwritten, h⟩ := Except.bind_eq_ok.mp h
    obtain ⟨rfl, -⟩ := Prod.mk.inj (Except.ok.inj h)
    exact setValue_eq_ok hwritten

lemma writeForm_multi_of_stored {ic : ImageCell} {urls : List String}
    (hmerged : cell.merged = false) (h : stored cell (multiText ic urls) = .ok kept) :
    ∃ cell' changed, writeForm .multiUrl cell ic urls none = .ok (cell', changed) := by
  unfold stored at h
  unfold writeForm
  dsimp only
  split_ifs at h ⊢ with hholds
  · exact ⟨_, _, rfl⟩
  · obtain ⟨written, hwritten⟩ := setValue_of_checkString hmerged h
    rw [hwritten]
    exact ⟨_, _, rfl⟩

lemma linkUrl_of_target {link : Hyperlink} {url : String} (h : link.target = some url)
    (hurl : url ≠ "") : linkUrl link = url := by
  rw [linkUrl, h, Option.filter_some_pos (by simpa using hurl)]

/-- A hyperlink is written into a cell with a value, which is left as it is. -/
lemma writeLink_of_value {url : String} (hmerged : cell.merged = false) (hvalue : cell.value ≠ none)
    (hurl : url ≠ "") :
    ∃ cell' changed link, writeLink cell url = .ok (cell', changed) ∧ cell'.value = cell.value ∧
      cell'.hyperlink = some link ∧ linkUrl link = url := by
  unfold writeLink
  split_ifs with htarget
  · have hset :
        cell.setHyperlink url = .ok (cell.withHyperlink (some ⟨some url, none⟩) hmerged) := by
      simp only [Cell.setHyperlink, dif_pos hmerged]
      exact if_neg fun h => hvalue h.1
    refine ⟨cell.withHyperlink (some ⟨some url, none⟩) hmerged, true, ⟨some url, none⟩, ?_, rfl,
      rfl, linkUrl_of_target rfl hurl⟩
    rw [hset]
    rfl
  · simp only [ne_eq, not_not] at htarget
    obtain ⟨link, hlink, htarget⟩ := Option.bind_eq_some_iff.mp htarget
    exact ⟨_, _, link, rfl, rfl, hlink, linkUrl_of_target htarget hurl⟩

end Writing

/-! ## The text that is read again -/

section Reading

variable {py : Python} {place : CellAt} {delims : List String} {ws : Option SheetFrame}
  {ic : ImageCell} {s u : String}

lemma strip_ne_empty {c : Char} (hc : c ∈ s.toList) (hspace : isPySpace c = false) :
    strip s ≠ "" := by
  intro hempty
  rw [← String.toList_eq_nil_iff, strip, trimText, String.toList_ofList, trimList,
    List.rdropWhile_eq_nil_iff] at hempty
  have hall : s.toList.takeWhile isPySpace ++ s.toList.dropWhile isPySpace = s.toList :=
    List.takeWhile_append_dropWhile
  rw [← hall, List.mem_append] at hc
  rcases hc with hc | hc
  · simp [List.mem_takeWhile_imp hc] at hspace
  · simp [hempty c hc] at hspace

/-- What comes behind the white space is none. -/
lemma skipSpace_cons {l rest : List Char} {c : Char} (h : skipSpace l = c :: rest) :
    c ∈ l ∧ isPySpace c = false := by
  have hmem : c ∈ skipSpace l := by
    rw [h]
    exact List.mem_cons_self
  have hhead := List.head?_dropWhile_not isPySpace l
  rw [show l.dropWhile isPySpace = c :: rest from h] at hhead
  exact ⟨(List.dropWhile_suffix _).subset hmem, by simpa using hhead⟩

lemma strip_formula {found : List Char × Option (List Char)} (h : hyperlinkFormula s = some found) :
    strip s ≠ "" := by
  simp only [hyperlinkFormula, Option.bind_eq_bind, Option.bind_eq_some_iff] at h
  obtain ⟨l, hl, -⟩ := h
  cases hskip : skipSpace s.toList with
  | nil =>
    rw [expect, hskip] at hl
    cases hl
  | cons c rest =>
    obtain ⟨hc, hspace⟩ := skipSpace_cons hskip
    exact strip_ne_empty hc hspace

lemma LoneUrl.strip (h : LoneUrl delims u) : strip u = u := trimText_of_forall h.noSpace

lemma LoneUrl.ne_empty (h : LoneUrl delims u) : u ≠ "" := by
  rintro rfl
  obtain ⟨n, hn, -⟩ := h.one
  have hnone : schemeLength "".toList = none := rfl
  rw [hnone] at hn
  cases hn

/-- An address is no formula. -/
lemma LoneUrl.noFormula (h : LoneUrl delims u) : hyperlinkFormula u = none := by
  obtain ⟨n, hn, -⟩ := h.one
  cases hu : u.toList with
  | nil => exact absurd (String.toList_eq_nil_iff.mp hu) h.ne_empty
  | cons c l =>
    have hspace : isPySpace c = false := h.noSpace c (by rw [hu]; exact List.mem_cons_self)
    have hc : c ≠ '=' := by
      rintro rfl
      rw [hu] at hn
      cases hn
    rw [hyperlinkFormula, hu, expect_ne hspace hc]
    rfl

lemma LoneUrl.empty_not_mem (h : LoneUrl delims u) : "" ∉ delims := fun hmem => by
  have hinfix : hasInfix "".toList u.toList = true := hasInfix_iff.mpr List.nil_infix
  rw [h.noDelim "" hmem] at hinfix
  cases hinfix

lemma LoneUrl.not_separates (h : LoneUrl delims u) {d : String} (hd : d ∈ delims) :
    ¬ Separates u d := by
  rintro ⟨htwo, -⟩
  have hfew : (cutParts d u).length ≤ 1 := by
    unfold cutParts
    split_ifs
    · refine length_wordParts_le (List.any_eq_false.mpr fun c hc => ?_)
      simp [h.noSpace c hc]
    · exact length_partsOf_le (h.noDelim d hd)
  have hfilter := List.length_filter_le Excel.looksLikeUrl (cutParts d u)
  omega

lemma not_reachesEmpty (h : "" ∉ delims) (s : String) : ¬ ReachesEmpty s delims := by
  rintro ⟨before, behind, rfl, -⟩
  exact h (List.mem_append_right _ List.mem_cons_self)

/-- A text is cut at the first delimiter that separates two addresses. -/
lemma splitMulti_of_first {delim : String} (hne : "" ∉ delims)
    (h : FirstSeparates s delims delim) : splitMulti s delims = .ok (some (splitAt s delim)) := by
  obtain ⟨before, behind, rfl, hbefore, hsep⟩ := h
  induction before with
  | nil =>
    rw [List.nil_append, splitMulti, trySplit_eq_some.mpr ⟨hsep, rfl⟩]
    rfl
  | cons d before ih =>
    have hrest := ih (fun hmem => hne (List.mem_cons_of_mem _ hmem))
      fun e he => hbefore e (List.mem_cons_of_mem _ he)
    cases htry : trySplit s d with
    | error e =>
      obtain rfl := trySplit_error htry
      exact absurd List.mem_cons_self hne
    | ok found =>
      cases found with
      | some found => exact absurd (trySplit_eq_some.mp htry).1 (hbefore d List.mem_cons_self)
      | none =>
        rw [List.cons_append, splitMulti, htry]
        exact hrest

lemma ShowsText.eq {cell : Cell} {v : CellValue} {s' : String} (h : ShowsText cell s)
    (hvalue : cell.value = some v) (htext : v.str? = some s') : s' = s := by
  have hs := h.text
  rw [hvalue, Option.bind_some, htext] at hs
  exact Option.some.inj hs

lemma ShowsText.str {cell : Cell} {v : CellValue} (h : ShowsText cell s)
    (hvalue : cell.value = some v) : v.str? = some s := by
  have hs := h.text
  rwa [hvalue, Option.bind_some] at hs

/-- What is read of a text that is not blank, where no image is. -/
inductive ReadText (py : Python) (place : CellAt) (delims : List String) (s : String) :
    ImageCell → Prop
  | formula (ref : CellRef) (url : List Char) (display : Option (List Char))
      (h : hyperlinkFormula s = some (url, display)) :
    ReadText py place delims s
      { ref := ref
        form := .hyperlinkFormula
        urls := [String.ofList (unescapeQuotes url)]
        displayText := display.map fun d => String.ofList (unescapeQuotes d)
        delimiter := none
        originalValue := place.cell.value
        template := none }
  | multi (ref : CellRef) (v : CellValue) (delim : String) (h : hyperlinkFormula s = none)
      (hfirst : FirstSeparates s delims delim) :
    ReadText py place delims s
      { ref := ref
        form := .multiUrl
        urls := (cutParts delim s).filter looksLikeUrl
        displayText := none
        delimiter := some (splitAt s delim).delimiter
        originalValue := some v
        template := some (Template.ofParts (cutParts delim s)) }
  | plain (ref : CellRef) (v : CellValue) (h : hyperlinkFormula s = none)
      (hnone : splitMulti s delims = .ok none) (hurl : looksLikeUrl s = true) :
    ReadText py place delims s
      { ref := ref
        form := .plainUrl
        urls := [strip s]
        displayText := none
        delimiter := none
        originalValue := some v
        template := none }
  | text (ref : CellRef) (v : CellValue) (h : hyperlinkFormula s = none)
      (hnone : splitMulti s delims = .ok none) (hurl : looksLikeUrl s = false) :
    ReadText py place delims s (.bare ref .empty (some v))

lemma readText (hshown : ShowsText place.cell s) (hfilled : strip s ≠ "")
    (hembedded : Embedded place ws = false) (h : ParsedAs py place delims ws ic) :
    ReadText py place delims s ic := by
  cases h with
  | image ref h => simp [hembedded] at h
  | blank ref h hblank =>
    obtain ⟨v, hv, htext⟩ := Option.bind_eq_some_iff.mp hshown.text
    simp [isBlankValue, hv, htext, hfilled] at hblank
  | formula ref h v s' url display hvalue htext hformula =>
    obtain rfl := hshown.eq hvalue htext
    exact .formula ref url display hformula
  | link ref h link hlink => simp [hshown.unlinked] at hlink
  | other ref h v hvalue htext => simp [hshown.str hvalue] at htext
  | multi ref h v s' delim hcell hfirst =>
    obtain rfl := hshown.eq hcell.value hcell.text
    exact .multi ref v delim hcell.noFormula hfirst
  | plain ref h v s' hcell hnone hurl =>
    obtain rfl := hshown.eq hcell.value hcell.text
    exact .plain ref v hcell.noFormula hnone hurl
  | text ref h v s' hcell hnone hurl =>
    obtain rfl := hshown.eq hcell.value hcell.text
    exact .text ref v hcell.noFormula hnone hurl

end Reading

/-! ## The round trip -/

/-- The place with another cell in it. -/
def CellAt.withCell (place : CellAt) (cell : Cell) : CellAt :=
  { place with cell := cell }

/-- What is read again: the new addresses, in the same form, with the same text to show and the same
labels in the same slots. -/
structure ReadAgain (ic ic' : ImageCell) (newUrls : List String) : Prop where
  urls : ic'.urls = newUrls
  form : ic'.form = ic.form
  display : ic'.displayText = ic.displayText
  parts : ic'.template.map Template.parts = ic.template.map fun t => t.fill newUrls
  slots : ic'.template.map Template.positions = ic.template.map Template.positions

/-- The new addresses are written and come out again when the cell is read; and if they are the old
ones the cell is left as it is. -/
structure RoundTrip (py : Python) (place : CellAt) (spec : Option FieldSpec)
    (ws : Option SheetFrame) (ic : ImageCell) (newUrls : List String)
    (forced : Option ImageForm) : Prop where
  again : ∃ cell' changed ic', serialize place.cell ic newUrls none forced = .ok (cell', changed) ∧
    parse py (place.withCell cell') spec ws = .ok ic' ∧ ReadAgain ic ic' newUrls
  idle : newUrls = ic.urls → serialize place.cell ic newUrls none forced = .ok (place.cell, false)

/-- When new addresses come out again.  A single address, or the formula with it, has to fit into a
cell.  A text with several addresses has to be, as far as it fits, no formula, and the first
delimiter that separates two addresses of it has to cut it into the labels and the new addresses. -/
def Restored (cell : Cell) (delims : List String) (ic : ImageCell) (newUrls : List String) : Prop :=
  match ic.form with
  | .plainUrl => Fits (newUrls.headD "")
  | .hyperlinkFormula => Fits (formulaText (newUrls.headD "") ic.displayText)
  | .multiUrl => ∃ kept delim, stored cell (multiText ic newUrls) = .ok kept ∧
      hyperlinkFormula kept = none ∧ FirstSeparates kept delims delim ∧
      ic.template.map (fun t => t.fill newUrls) = some (cutParts delim kept)
  | .realHyperlink => True
  | .embeddedImage => True
  | .empty => True

section RoundTrip

variable {py : Python} {place : CellAt} {spec : Option FieldSpec} {ws : Option SheetFrame}
  {ic ic' : ImageCell} {newUrls : List String} {u : String} {cell' : Cell}

/-- Without an empty delimiter, every text in the place can be read. -/
lemma parse_withCell (h : parse py place spec ws = .ok ic) (hne : "" ∉ readDelims spec)
    (cell' : Cell) : ∃ ic', parse py (place.withCell cell') spec ws = .ok ic' :=
  parse_ok_iff.mpr ⟨(parse_ok_iff.mp ⟨ic, h⟩).1, .inr fun _ s _ => not_reachesEmpty hne s⟩

lemma ParsedAs.not_embedded {delims : List String} (h : ParsedAs py place delims ws ic)
    (hform : ic.form ≠ .embeddedImage) : Embedded place ws = false := by
  cases h with
  | image => exact absurd rfl hform
  | blank _ h => exact h
  | other _ h => exact h
  | text _ h => exact h
  | formula _ h => exact h
  | link _ h => exact h
  | multi _ h => exact h
  | plain _ h => exact h

lemma ParsedAs.not_merged {delims : List String} (h : ParsedAs py place delims ws ic)
    (hform : ic.form ≠ .embeddedImage ∧ ic.form ≠ .empty) : place.cell.merged = false := by
  by_contra hmerged
  rcases h.merged (by simpa using hmerged) with ⟨-, h⟩ | ⟨-, h⟩
  · exact hform.1 h
  · exact hform.2 h

/-- A cell that is read as one address. -/
lemma ParsedAs.of_plain {delims : List String} (h : ParsedAs py place delims ws ic)
    (hform : ic.form = .plainUrl) :
    ∃ s, place.cell.value.bind CellValue.str? = some s ∧ ic.urls = [strip s] ∧
      ic.displayText = none ∧ ic.template = none := by
  cases h with
  | plain ref _ v s hcell =>
    refine ⟨s, ?_, rfl, rfl, rfl⟩
    rw [hcell.value, Option.bind_some, hcell.text]
  | image => cases hform
  | blank => cases hform
  | formula => cases hform
  | link => cases hform
  | other => cases hform
  | multi => cases hform
  | text => cases hform

/-- A cell that is read as a formula. -/
lemma ParsedAs.of_formula {delims : List String} (h : ParsedAs py place delims ws ic)
    (hform : ic.form = .hyperlinkFormula) :
    ∃ s found, place.cell.value.bind CellValue.str? = some s ∧ hyperlinkFormula s = some found ∧
      ic.template = none := by
  cases h with
  | formula ref _ v s url display hvalue htext hformula =>
    refine ⟨s, _, ?_, hformula, rfl⟩
    rw [hvalue, Option.bind_some, htext]
  | image => cases hform
  | blank => cases hform
  | plain => cases hform
  | link => cases hform
  | other => cases hform
  | multi => cases hform
  | text => cases hform

/-- A cell that is read as several addresses. -/
lemma ParsedAs.of_multi {delims : List String} (h : ParsedAs py place delims ws ic)
    (hform : ic.form = .multiUrl) :
    ∃ s delim, ShowsText place.cell s ∧ hyperlinkFormula s = none ∧ FirstSeparates s delims delim ∧
      ic.urls = (cutParts delim s).filter looksLikeUrl ∧ ic.displayText = none ∧
      ic.delimiter = some (splitAt s delim).delimiter ∧
      ic.template = some (Template.ofParts (cutParts delim s)) := by
  cases h with
  | multi ref _ v s delim hcell hfirst =>
    refine ⟨s, delim, ⟨?_, hcell.unlinked⟩, hcell.noFormula, hfirst, rfl, rfl, rfl, rfl⟩
    rw [hcell.value, Option.bind_some, hcell.text]
  | image => cases hform
  | blank => cases hform
  | formula => cases hform
  | plain => cases hform
  | link => cases hform
  | other => cases hform
  | text => cases hform

/-- A cell that is read as a hyperlink. -/
lemma ParsedAs.of_link {delims : List String} (h : ParsedAs py place delims ws ic)
    (hform : ic.form = .realHyperlink) :
    (place.cell.value.bind CellValue.str?).bind hyperlinkFormula = none ∧
      ic.displayText = place.cell.value.map py.str ∧ ic.template = none := by
  cases h with
  | link ref _ link hlink hformula => exact ⟨hformula, rfl, rfl⟩
  | image => cases hform
  | blank => cases hform
  | formula => cases hform
  | plain => cases hform
  | multi => cases hform
  | other => cases hform
  | text => cases hform

/-- An address in a cell of its own. -/
lemma read_lone (hshown : ShowsText place.cell u) (hu : LoneUrl (readDelims spec) u)
    (hembedded : Embedded place ws = false) (hparse : parse py place spec ws = .ok ic) :
    ic.form = .plainUrl ∧ ic.urls = [u] ∧ ic.displayText = none ∧ ic.template = none := by
  have hread := readText hshown (by rw [hu.strip]; exact hu.ne_empty) hembedded (parsedAs hparse)
  cases hread with
  | formula _ _ _ h => simp [hu.noFormula] at h
  | multi _ _ delim _ hfirst =>
    obtain ⟨before, behind, hdelims, -, hsep⟩ := hfirst
    exact absurd hsep (hu.not_separates (hdelims ▸ by simp))
  | plain => exact ⟨rfl, by rw [hu.strip], rfl, rfl⟩
  | text _ _ _ _ hurl => simp [hu.looksLikeUrl] at hurl

lemma read_formula {url : List Char} {display : Option (List Char)} {s : String}
    (hshown : ShowsText place.cell s) (hformula : hyperlinkFormula s = some (url, display))
    (hembedded : Embedded place ws = false) (hparse : parse py place spec ws = .ok ic) :
    ic.form = .hyperlinkFormula ∧ ic.urls = [String.ofList (unescapeQuotes url)] ∧
      ic.displayText = display.map (fun d => String.ofList (unescapeQuotes d)) ∧
      ic.template = none := by
  have hread := readText hshown (strip_formula hformula) hembedded (parsedAs hparse)
  cases hread with
  | formula _ url' display' h =>
    obtain ⟨rfl, rfl⟩ := Prod.mk.inj (Option.some.inj (hformula.symm.trans h))
    exact ⟨rfl, rfl, rfl, rfl⟩
  | multi _ _ _ h => simp [hformula] at h
  | plain _ _ h => simp [hformula] at h
  | text _ _ h => simp [hformula] at h

/-- A text that a delimiter separates is not blank. -/
lemma Separates.filled {s delim : String} (h : Separates s delim) : strip s ≠ "" := by
  have hdelim : delim ≠ "" := by
    rintro rfl
    exact not_separates_empty h
  have hpos : 0 < ((cutParts delim s).filter looksLikeUrl).length := lt_of_lt_of_le two_pos h.1
  obtain ⟨p, hp⟩ := List.exists_mem_of_length_pos hpos
  obtain ⟨hmem, hurl⟩ := List.mem_filter.mp hp
  have hpart := (inOrder_cutParts s hdelim).isInfix (List.mem_map_of_mem hmem)
  cases hskip : skipSpace p.toList with
  | nil =>
    rw [looksLikeUrl, show p.toList.dropWhile isPySpace = [] from hskip] at hurl
    cases hurl
  | cons c rest =>
    obtain ⟨hc, hspace⟩ := skipSpace_cons hskip
    exact strip_ne_empty (hpart.subset hc) hspace

lemma read_multi {s delim : String} (hshown : ShowsText place.cell s)
    (hne : "" ∉ readDelims spec) (hnone : hyperlinkFormula s = none)
    (hfirst : FirstSeparates s (readDelims spec) delim) (hembedded : Embedded place ws = false)
    (hparse : parse py place spec ws = .ok ic) :
    ic.form = .multiUrl ∧ ic.urls = (cutParts delim s).filter looksLikeUrl ∧
      ic.displayText = none ∧ ic.template = some (Template.ofParts (cutParts delim s)) := by
  have hfilled : strip s ≠ "" := by
    obtain ⟨_, _, -, -, hsep⟩ := hfirst
    exact hsep.filled
  have hsplit := splitMulti_of_first hne hfirst
  have hread := readText hshown hfilled hembedded (parsedAs hparse)
  cases hread with
  | formula _ _ _ h => simp [hnone] at h
  | multi _ _ delim' _ hfirst' =>
    have hsame := (splitMulti_of_first hne hfirst').symm.trans hsplit
    have hparts : cutParts delim' s = cutParts delim s :=
      congrArg MultiSplit.parts (Option.some.inj (Except.ok.inj hsame))
    rw [hparts]
    exact ⟨rfl, rfl, rfl, rfl⟩
  | plain _ _ _ hno => simp [hsplit] at hno
  | text _ _ _ hno => simp [hsplit] at hno

/-- Written in the form of the cell, the new addresses come out again. -/
def Rewrites (py : Python) (place : CellAt) (spec : Option FieldSpec) (ws : Option SheetFrame)
    (ic : ImageCell) (newUrls : List String) : Prop :=
  ∃ cell' changed ic', writeForm ic.form place.cell ic newUrls none = .ok (cell', changed) ∧
    parse py (place.withCell cell') spec ws = .ok ic' ∧ ReadAgain ic ic' newUrls

/-- What a cell keeps of an address is the address only if it is the whole of it. -/
lemma take_of_strip {n : ℕ} (h : strip (String.ofList (u.toList.take n)) = u) :
    String.ofList (u.toList.take n) = u := by
  have htrim : trimList isPySpace (u.toList.take n) = u.toList := by
    have hlist := congrArg String.toList h
    rwa [strip, trimText, String.toList_ofList, String.toList_ofList] at hlist
  have hle := (trimList_isInfix (u.toList.take n)).length_le
  rw [htrim, List.length_take] at hle
  rw [List.take_of_length_le (by omega), String.ofList_toList]

lemma rewrites_plain (hparse : parse py place spec ws = .ok ic) (hform : ic.form = .plainUrl)
    (hu : LoneUrl (readDelims spec) u) (hne : [u] ≠ ic.urls) :
    Rewrites py place spec ws ic [u] ↔ Fits u := by
  have hread := parsedAs hparse
  have hembedded := hread.not_embedded (by simp [hform])
  have hmerged := hread.not_merged (by simp [hform])
  obtain ⟨s, -, -, hnodisplay, hnotemplate⟩ := hread.of_plain hform
  constructor
  · rintro ⟨cell', changed, ic', hwrite, hagain, hsame⟩
    rw [hform] at hwrite
    rcases writeText_eq_ok hwrite with hshown | ⟨kept, hkept, hshown⟩
    · exact absurd (read_lone hshown hu hembedded hparse).2.1.symm hne
    · -- what is read is the address, so nothing of it has been cut off
      obtain ⟨s', hs', hurls, -⟩ := (parsedAs hagain).of_plain (hsame.form.trans hform)
      obtain rfl : kept = s' := Option.some.inj (hshown.text.symm.trans hs')
      obtain ⟨hstrip, -⟩ := List.cons.inj (hurls.symm.trans hsame.urls)
      have hcut := checkString_eq_ok hkept
      rw [hcut] at hstrip
      rw [hcut, take_of_strip hstrip] at hkept
      exact hkept
  · intro hfits
    obtain ⟨cell', changed, hwrite, hshown⟩ := writeText_of_fits hmerged hfits
    obtain ⟨ic', hagain⟩ := parse_withCell hparse hu.empty_not_mem cell'
    have hshown' : ShowsText (place.withCell cell').cell u := hshown
    obtain ⟨hform', hurls, hdisplay, htemplate⟩ := read_lone hshown' hu hembedded hagain
    refine ⟨cell', changed, ic', by rw [hform]; exact hwrite, hagain, hurls, ?_, ?_, ?_, ?_⟩
    · rw [hform', hform]
    · rw [hdisplay, hnodisplay]
    · rw [htemplate, hnotemplate]
      rfl
    · rw [htemplate, hnotemplate]

lemma rewrites_formula (hparse : parse py place spec ws = .ok ic)
    (hform : ic.form = .hyperlinkFormula) (hu : LoneUrl (readDelims spec) u) (hne : [u] ≠ ic.urls) :
    Rewrites py place spec ws ic [u] ↔ Fits (formulaText u ic.displayText) := by
  have hread := parsedAs hparse
  have hembedded := hread.not_embedded (by simp [hform])
  have hmerged := hread.not_merged (by simp [hform])
  obtain ⟨-, -, -, -, hnotemplate⟩ := hread.of_formula hform
  have hformula := hyperlinkFormula_formulaText u ic.displayText
  constructor
  · rintro ⟨cell', changed, ic', hwrite, hagain, hsame⟩
    rw [hform] at hwrite
    rcases writeText_eq_ok hwrite with hshown | ⟨kept, hkept, hshown⟩
    · obtain ⟨-, hurls, -⟩ := read_formula hshown hformula hembedded hparse
      rw [unescapeQuotes_escapeQuotes, String.ofList_toList] at hurls
      exact absurd hurls.symm hne
    · -- what is read is a formula, so nothing of it has been cut off
      obtain ⟨s', found, hs', hfound, -⟩ := (parsedAs hagain).of_formula (hsame.form.trans hform)
      obtain rfl : kept = s' := Option.some.inj (hshown.text.symm.trans hs')
      have hcut := checkString_eq_ok hkept
      rw [hcut] at hfound
      rw [hcut, hyperlinkFormula_take (by decide) hfound] at hkept
      exact hkept
  · intro hfits
    obtain ⟨cell', changed, hwrite, hshown⟩ := writeText_of_fits hmerged hfits
    obtain ⟨ic', hagain⟩ := parse_withCell hparse hu.empty_not_mem cell'
    have hshown' : ShowsText (place.withCell cell').cell (formulaText u ic.displayText) := hshown
    obtain ⟨hform', hurls, hdisplay, htemplate⟩ := read_formula hshown' hformula hembedded hagain
    refine ⟨cell', changed, ic', by rw [hform]; exact hwrite, hagain, ?_, ?_, ?_, ?_, ?_⟩
    · rw [hurls, unescapeQuotes_escapeQuotes, String.ofList_toList]
    · rw [hform', hform]
    · rw [hdisplay, Option.map_map]
      simp [Function.comp_def]
    · rw [htemplate, hnotemplate]
      rfl
    · rw [htemplate, hnotemplate]

/-- A cell with a hyperlink is read as one, unless it has a formula of its own. -/
lemma parse_link {ref : CellRef} {link : Hyperlink}
    (href : CellRef.of place.sheet place.row place.col = .ok ref)
    (hembedded : Embedded place ws = false) (hlink : place.cell.hyperlink = some link)
    (hformula : (place.cell.value.bind CellValue.str?).bind hyperlinkFormula = none) :
    ∃ ic, parse py place spec ws = .ok ic ∧ ic.form = .realHyperlink ∧ ic.urls = [linkUrl link] ∧
      ic.displayText = place.cell.value.map py.str ∧ ic.template = none := by
  rw [parse, href]
  simp only [bind, Except.bind, hembedded, hlink, hformula, Bool.false_eq_true, if_false,
    reduceCtorEq, decide_false, Bool.and_false]
  exact ⟨_, rfl, rfl, rfl, rfl, rfl⟩

/-- A hyperlink of a cell with a value can always be replaced. -/
lemma rewrites_link (hparse : parse py place spec ws = .ok ic) (hform : ic.form = .realHyperlink)
    (hvalue : place.cell.value ≠ none) (hu : LoneUrl (readDelims spec) u) :
    Rewrites py place spec ws ic [u] := by
  have hread := parsedAs hparse
  have hembedded := hread.not_embedded (by simp [hform])
  have hmerged := hread.not_merged (by simp [hform])
  obtain ⟨hformula, hdisplay, hnotemplate⟩ := hread.of_link hform
  obtain ⟨ref, href, -⟩ := Except.bind_eq_ok.mp hparse
  obtain ⟨cell', changed, link, hwrite, hsame, hlink, hurl⟩ :=
    writeLink_of_value hmerged hvalue hu.ne_empty
  have hformula' : ((place.withCell cell').cell.value.bind CellValue.str?).bind hyperlinkFormula =
      none := by
    rw [show (place.withCell cell').cell.value = place.cell.value from hsame, hformula]
  have hlink' : (place.withCell cell').cell.hyperlink = some link := hlink
  have href' : CellRef.of (place.withCell cell').sheet (place.withCell cell').row
      (place.withCell cell').col = .ok ref := href
  obtain ⟨ic', hagain, hform', hurls, hdisplay', htemplate⟩ :=
    parse_link href' hembedded hlink' hformula'
  refine ⟨cell', changed, ic', ?_, hagain, ?_, ?_, ?_, ?_, ?_⟩
  · rw [hform, writeForm, List.headD_cons, hwrite]
    rfl
  · rw [hurls, hurl]
  · rw [hform', hform]
  · rw [hdisplay', hdisplay, show (place.withCell cell').cell.value = place.cell.value from hsame]
  · rw [htemplate, hnotemplate]
    rfl
  · rw [htemplate, hnotemplate]

lemma rewrites_multi (hparse : parse py place spec ws = .ok ic) (hform : ic.form = .multiUrl)
    (hlen : newUrls.length = ic.urls.length) (hurls : ∀ u ∈ newUrls, LoneUrl (readDelims spec) u) :
    Rewrites py place spec ws ic newUrls ↔
      ∃ kept delim, stored place.cell (multiText ic newUrls) = .ok kept ∧
        hyperlinkFormula kept = none ∧ FirstSeparates kept (readDelims spec) delim ∧
        ic.template.map (fun t => t.fill newUrls) = some (cutParts delim kept) := by
  -- what is kept of the text is read again just as any other text
  have hread := parsedAs hparse
  have hembedded := hread.not_embedded (by simp [hform])
  have hmerged := hread.not_merged (by simp [hform])
  obtain ⟨s, delim, hshown, -, hfirst, hold, hnodisplay, -, htemplate⟩ := hread.of_multi hform
  rw [hold] at hlen
  constructor
  · rintro ⟨cell', changed, ic', hwrite, hagain, hsame⟩
    rw [hform] at hwrite
    obtain ⟨kept, hkept, htext, -⟩ := writeForm_multi_eq_ok hwrite
    obtain ⟨s', delim', hshown', hnone, hfirst', -, -, -, htemplate'⟩ :=
      (parsedAs hagain).of_multi (hsame.form.trans hform)
    obtain rfl : kept = s' := Option.some.inj (htext.symm.trans hshown'.text)
    refine ⟨kept, delim', hkept, hnone, hfirst', ?_⟩
    rw [← hsame.parts, htemplate']
    rfl
  · rintro ⟨kept, delim', hkept, hnone, hfirst', hparts⟩
    have hne : "" ∉ readDelims spec := by
      obtain ⟨_, _, -, -, htwo, -⟩ := hfirst
      obtain ⟨u, hu⟩ := List.exists_mem_of_length_pos (hlen ▸ lt_of_lt_of_le two_pos htwo)
      exact (hurls u hu).empty_not_mem
    obtain ⟨cell', changed, hwrite⟩ := writeForm_multi_of_stored hmerged hkept
    obtain ⟨kept', hkept', htext, hlink⟩ := writeForm_multi_eq_ok hwrite
    obtain rfl : kept' = kept := Except.ok.inj (hkept'.symm.trans hkept)
    obtain ⟨ic', hagain⟩ := parse_withCell hparse hne cell'
    have hshown' : ShowsText (place.withCell cell').cell kept' :=
      ⟨htext, hlink.trans hshown.unlinked⟩
    obtain ⟨hform', hurls', hdisplay, htemplate'⟩ :=
      read_multi hshown' hne hnone hfirst' hembedded hagain
    rw [htemplate] at hparts
    have hfill : (Template.ofParts (cutParts delim s)).fill newUrls = cutParts delim' kept' :=
      Option.some.inj hparts
    have hlook : ∀ u ∈ newUrls, looksLikeUrl u = true := fun u hu => (hurls u hu).looksLikeUrl
    refine ⟨cell', changed, ic', by rw [hform]; exact hwrite, hagain, ?_, ?_, ?_, ?_, ?_⟩
    -- the parts that look like addresses are the new ones
    · rw [hurls', ← hfill, filter_fill hlen hlook]
    · rw [hform', hform]
    · rw [hdisplay, hnodisplay]
    · rw [htemplate', htemplate, Option.map_some, Option.map_some, hfill]
      rfl
    · rw [htemplate', htemplate, ← hfill, Option.map_some, Option.map_some,
        positions_fill hlen hlook]

variable {forced : Option ImageForm}

/-- Addresses that have not changed are not written. -/
lemma serialize_same (hform : ic.form ≠ .empty) (cell : Cell) :
    serialize cell ic ic.urls none forced = .ok (cell, false) := by
  unfold serialize
  split
  · rfl
  · next h => exact absurd h hform
  · exact if_pos ⟨rfl, .inl rfl⟩

lemma serialize_new (hform : ic.form ≠ .embeddedImage ∧ ic.form ≠ .empty) (hne : newUrls ≠ ic.urls)
    (cell : Cell) :
    serialize cell ic newUrls none forced = writeForm ic.form cell ic newUrls none := by
  unfold serialize
  split
  · next h => exact absurd h hform.1
  · next h => exact absurd h hform.2
  · exact if_neg fun h => hne h.1

/-- What has not been written is read as before. -/
lemma readAgain_self {delims : List String} (h : ParsedAs py place delims ws ic)
    (hform : ic.form ≠ .empty) : ReadAgain ic ic ic.urls := by
  have hparts : ic.template.map Template.parts = ic.template.map fun t => t.fill ic.urls := by
    by_cases hmulti : ic.form = .multiUrl
    · obtain ⟨s, delim, -, -, -, hurls, -, -, htemplate⟩ := h.of_multi hmulti
      rw [htemplate, hurls, Option.map_some, Option.map_some, fill_filter]
      rfl
    · have hnone : ic.template = none := by
        cases h with
        | multi => exact absurd rfl hmulti
        | image => rfl
        | blank => rfl
        | formula => rfl
        | plain => rfl
        | link => rfl
        | other => rfl
        | text => rfl
      rw [hnone]
      rfl
  exact ⟨rfl, rfl, rfl, hparts, rfl⟩

end RoundTrip

/-- **Addresses written back.**  As many new single addresses as there were old ones are written
into a cell.  They come out again, in the same form, with the same text to show and the same labels
in the same slots, if and only if they are the old ones, which leaves the cell as it is, or: the
address, or the formula with it, fits into a cell; or what the cell keeps of a text with several
addresses is no formula, and the first read delimiter that separates two addresses of it cuts it
into the labels and the new addresses.  With a hyperlink there is no condition. -/
theorem image_rewrite_iff (py : Python) (place : CellAt) (spec : Option FieldSpec)
    (ws : Option SheetFrame) (ic : ImageCell) (newUrls : List String) (forced : Option ImageForm)
    (hparse : parse py place spec ws = .ok ic)
    (hform : ic.form ≠ .embeddedImage ∧ ic.form ≠ .empty)
    (hvalue : ic.form = .realHyperlink → place.cell.value ≠ none)
    (hlen : newUrls.length = ic.urls.length)
    (hurls : ∀ u ∈ newUrls, LoneUrl (readDelims spec) u) :
    RoundTrip py place spec ws ic newUrls forced ↔
      newUrls = ic.urls ∨ Restored place.cell (readDelims spec) ic newUrls := by
  have hread := parsedAs hparse
  by_cases hsame : newUrls = ic.urls
  · subst hsame
    have hidle : serialize place.cell ic ic.urls none forced = .ok (place.cell, false) :=
      serialize_same hform.2 place.cell
    refine ⟨fun _ => .inl rfl, fun _ => ⟨⟨_, _, ic, hidle, hparse, ?_⟩, fun _ => hidle⟩⟩
    exact readAgain_self hread hform.2
  · have hwrites : RoundTrip py place spec ws ic newUrls forced ↔
        Rewrites py place spec ws ic newUrls := by
      constructor
      · rintro ⟨⟨cell', changed, ic', hwrite, hagain⟩, -⟩
        exact ⟨cell', changed, ic', serialize_new hform hsame place.cell ▸ hwrite, hagain⟩
      · rintro ⟨cell', changed, ic', hwrite, hagain⟩
        exact ⟨⟨cell', changed, ic', (serialize_new hform hsame place.cell).trans hwrite, hagain⟩,
          fun h => absurd h hsame⟩
    rw [hwrites, or_iff_right hsame]
    -- but for a text with several addresses, there is one
    have hone : ic.form ≠ .multiUrl → ∃ u, newUrls = [u] ∧ LoneUrl (readDelims spec) u := by
      intro hmulti
      have hlen1 : ic.urls.length = 1 := by
        cases hread with
        | image => exact absurd rfl hform.1
        | blank => exact absurd rfl hform.2
        | other => exact absurd rfl hform.2
        | text => exact absurd rfl hform.2
        | multi => exact absurd rfl hmulti
        | formula => rfl
        | plain => rfl
        | link => rfl
      obtain ⟨u, rfl⟩ := List.length_eq_one_iff.mp (hlen.trans hlen1)
      exact ⟨u, rfl, hurls u List.mem_cons_self⟩
    cases hkind : ic.form with
    | plainUrl =>
      obtain ⟨u, rfl, hu⟩ := hone (by simp [hkind])
      rw [rewrites_plain hparse hkind hu hsame, Restored, hkind]
      rfl
    | hyperlinkFormula =>
      obtain ⟨u, rfl, hu⟩ := hone (by simp [hkind])
      rw [rewrites_formula hparse hkind hu hsame, Restored, hkind]
      rfl
    | realHyperlink =>
      obtain ⟨u, rfl, hu⟩ := hone (by simp [hkind])
      rw [Restored, hkind]
      exact iff_true_intro (rewrites_link hparse hkind (hvalue hkind) hu)
    | multiUrl =>
      rw [rewrites_multi hparse hkind hlen hurls, Restored, hkind]
    | embeddedImage => exact absurd hkind hform.1
    | empty => exact absurd hkind hform.2

lemma loneUrl_of {delims : List String} {u : String} {n : ℕ}
    (hscheme : schemeLength u.toList = some n)
    (hone : countStarts schemeLength
      ((dropLiteral "www.".toList (u.toList.drop n)).getD (u.toList.drop n)) = 0)
    (hspace : u.toList.any isPySpace = false)
    (hdelim : ∀ d ∈ delims, hasInfix d.toList u.toList = false) : LoneUrl delims u where
  one := ⟨n, hscheme, hone⟩
  noSpace c hc := by simpa using List.any_eq_false.mp hspace c hc
  noDelim := hdelim

/-- A text that is cut at the second of its delimiters. -/
def semicolonSpec : FieldSpec := { readDelimiters := [" ", "; "] }

theorem image_rewrite_iff_plain :
    RoundTrip plainPython (textPlace "www.a") (some semicolonSpec) none
        { lineCell "www.a" ["www.a"] with form := .plainUrl, delimiter := none, template := none }
        ["http://b"] none ↔
      ["http://b"] = ["www.a"] ∨ Restored (textPlace "www.a").cell [" ", "; "]
        { lineCell "www.a" ["www.a"] with form := .plainUrl, delimiter := none, template := none }
        ["http://b"] :=
  image_rewrite_iff plainPython (textPlace "www.a") (some semicolonSpec) none
    { lineCell "www.a" ["www.a"] with form := .plainUrl, delimiter := none, template := none }
    ["http://b"] none (by decide) (by decide) (by decide) rfl fun u hu => by
      obtain rfl := List.mem_singleton.mp hu
      exact loneUrl_of (n := 7) (by decide) (by decide) (by decide) (by decide)

/-- Without the blank that stood in the first address, the blank behind the semicolon separates the
new ones. -/
theorem image_rewrite_recut :
    ∃ ic, parse plainPython (textPlace "http://a b; http://c") (some semicolonSpec) none = .ok ic ∧
      ic.form = .multiUrl ∧ ic.urls = ["http://a b", "http://c"] ∧
      (∀ u ∈ ["http://x", "http://y"], LoneUrl (readDelims (some semicolonSpec)) u) ∧
      ¬ RoundTrip plainPython (textPlace "http://a b; http://c") (some semicolonSpec) none ic
        ["http://x", "http://y"] none := by
  have hlone : ∀ u ∈ ["http://x", "http://y"], LoneUrl [" ", "; "] u := by
    intro u hu
    obtain rfl | rfl : u = "http://x" ∨ u = "http://y" := by simpa using hu
    · exact loneUrl_of (n := 7) (by decide) (by decide) (by decide) (by decide)
    · exact loneUrl_of (n := 7) (by decide) (by decide) (by decide) (by decide)
  refine ⟨_, rfl, rfl, by decide, hlone, ?_⟩
  rintro ⟨⟨cell', changed, ic', hwrite, hagain, hsame⟩, -⟩
  obtain ⟨rfl, -⟩ := Prod.mk.inj (Except.ok.inj hwrite)
  obtain rfl := Except.ok.inj hagain
  have hurls := hsame.urls
  revert hurls
  decide

/-! ## Labels and delimiters -/

section Labels

variable {py : Python} {place : CellAt} {spec : Option FieldSpec} {ws : Option SheetFrame}
  {ic : ImageCell} {newUrls parts : List String} {s delim : String} {c : Char}

/-- Parts that do not run into the delimiter, joined with it and cut again. -/
lemma partsOf_intercalate (hdelim : delim ≠ "") (hne : parts ≠ [])
    (hparts : ∀ p ∈ parts, EndsFirst delim.toList p.toList ∧ strip p = p ∧ p ≠ "") :
    partsOf delim (delim.intercalate parts) = parts := by
  have hsplit :
      splitText delim.toList (delim.intercalate parts).toList = parts.map String.toList := by
    rw [String.toList_intercalate]
    refine splitText_intercalate (fun h => hdelim (String.toList_eq_nil_iff.mp h))
      (by simpa using hne) fun l hl => ?_
    obtain ⟨p, hp, rfl⟩ := List.mem_map.mp hl
    exact (hparts p hp).1
  have hstrip : parts.map (fun p => strip (String.ofList p.toList)) = parts := by
    conv_rhs => rw [← List.map_id parts]
    refine List.map_congr_left fun p hp => ?_
    rw [String.ofList_toList]
    exact (hparts p hp).2.1
  rw [partsOf, hsplit, List.map_map, Function.comp_def, hstrip, List.filter_eq_self]
  intro p hp
  simpa using (hparts p hp).2.2

lemma mem_partsOf {p : String} (hp : p ∈ partsOf delim s) : strip p = p ∧ p ≠ "" := by
  obtain ⟨hmem, hne⟩ := List.mem_filter.mp hp
  obtain ⟨piece, -, rfl⟩ := List.mem_map.mp hmem
  exact ⟨trimText_trimText _, by simpa using hne⟩

/-- A delimiter of one character is in no part. -/
lemma not_mem_of_mem_partsOf (hdelim : delim.toList = [c]) {p : String}
    (hp : p ∈ partsOf delim s) : c ∉ p.toList := by
  obtain ⟨piece, hpiece, rfl⟩ := List.mem_map.mp (List.mem_filter.mp hp).1
  rw [hdelim, splitText_singleton, List.splitOn_eq_splitOnP] at hpiece
  have htrim : (strip (String.ofList piece)).toList = trimList isPySpace piece := by
    rw [strip, trimText, String.toList_ofList, String.toList_ofList]
  intro hc
  rw [htrim] at hc
  have hnot := not_of_mem_splitOnP hpiece c ((trimList_isInfix piece).subset hc)
  simp at hnot

/-- The first white space is white space, and some. -/
lemma firstRun_space (s : String) :
    (∀ a ∈ (firstRun s).toList, isPySpace a = true) ∧ (firstRun s).toList ≠ [] := by
  simp only [firstRun]
  split_ifs with hrun
  · have hblank : " ".toList = [' '] := rfl
    rw [hblank]
    exact ⟨List.forall_mem_singleton.mpr (by decide), List.cons_ne_nil _ _⟩
  · rw [String.toList_ofList]
    exact ⟨fun a ha => List.mem_takeWhile_imp ha, hrun⟩

lemma wordParts_intercalate {gap : String} (hgap : ∀ a ∈ gap.toList, isPySpace a = true)
    (hgap' : gap.toList ≠ []) (hparts : ∀ p ∈ parts, p ≠ "" ∧ ∀ a ∈ p.toList, isPySpace a = false) :
    wordParts (gap.intercalate parts) = parts := by
  rw [wordParts, String.toList_intercalate, wordsOf_intercalate hgap hgap', List.map_map]
  · conv_rhs => rw [← List.map_id parts]
    exact List.map_congr_left fun p _ => String.ofList_toList
  · intro l hl
    obtain ⟨p, hp, rfl⟩ := List.mem_map.mp hl
    exact ⟨fun h => (hparts p hp).1 (String.toList_eq_nil_iff.mp h), (hparts p hp).2⟩

/-- Where there are no labels, the filled parts are the new addresses. -/
lemma fill_all (hall : ∀ p ∈ parts, looksLikeUrl p = true)
    (hlen : newUrls.length = (parts.filter looksLikeUrl).length)
    (hurls : ∀ u ∈ newUrls, looksLikeUrl u = true) :
    (Template.ofParts parts).fill newUrls = newUrls := by
  have hfilter := filter_fill hlen hurls
  rwa [List.filter_eq_self.mpr] at hfilter
  intro p hp
  rcases mem_fill hp with hpart | hurl
  · exact hall p hpart
  · exact hurls p hurl

/-- The delimiter that the old text was cut at cuts the new one into the labels and the new
addresses. -/
lemma cutParts_fill (hsep : Separates s delim)
    (hlen : newUrls.length = ((cutParts delim s).filter looksLikeUrl).length)
    {delims : List String} (hurls : ∀ u ∈ newUrls, LoneUrl delims u)
    (hends : delim ≠ " " → ∀ p ∈ (Template.ofParts (cutParts delim s)).fill newUrls,
      EndsFirst delim.toList p.toList) :
    cutParts delim ((splitAt s delim).delimiter.intercalate
        ((Template.ofParts (cutParts delim s)).fill newUrls)) =
      (Template.ofParts (cutParts delim s)).fill newUrls := by
  have hlook : ∀ u ∈ newUrls, looksLikeUrl u = true := fun u hu => (hurls u hu).looksLikeUrl
  by_cases hblank : delim = " "
  · obtain ⟨hspace, hne⟩ := firstRun_space s
    have hdelimiter : (splitAt s delim).delimiter = firstRun s := if_pos hblank
    have hcut : ∀ value, cutParts delim value = wordParts value := fun _ => if_pos hblank
    rw [fill_all (hsep.2 hblank) hlen hlook, hdelimiter, hcut]
    exact wordParts_intercalate hspace hne fun u hu => ⟨(hurls u hu).ne_empty, (hurls u hu).noSpace⟩
  · have hfilled := filter_fill hlen hlook
    have hdelimiter : (splitAt s delim).delimiter = delim := if_neg hblank
    have hcut : ∀ value, cutParts delim value = partsOf delim value := fun _ => if_neg hblank
    rw [hdelimiter, hcut (delim.intercalate _)]
    refine partsOf_intercalate ?_ ?_ fun p hp => ⟨hends hblank p hp, ?_⟩
    · rintro rfl
      exact not_separates_empty hsep
    · intro hnil
      rw [hnil, List.filter_nil] at hfilled
      have htwo := hsep.1
      rw [← hlen, ← hfilled] at htwo
      simp at htwo
    · rcases mem_fill hp with hpart | hurl
      · have hmem : p ∈ cutParts delim s := hpart
        rw [hcut s] at hmem
        exact mem_partsOf hmem
      · exact ⟨(hurls p hurl).strip, (hurls p hurl).ne_empty⟩

/-- **Delimiters, labels and addresses.**  New addresses come out of a text again if it fits into a
cell and is no formula, no label and no new address runs into the delimiter behind it, and no
delimiter separates two addresses of the text that separated none of the old one. -/
theorem restored_of_parts (hparse : parse py place spec ws = .ok ic) (hform : ic.form = .multiUrl)
    (hs : place.cell.value.bind CellValue.str? = some s)
    (hlen : newUrls.length = ic.urls.length) (hurls : ∀ u ∈ newUrls, LoneUrl (readDelims spec) u)
    (hends : ∀ t, ic.template = some t → ∀ d, ic.delimiter = some d → ∀ p ∈ t.fill newUrls,
      EndsFirst d.toList p.toList)
    (hfits : Fits (multiText ic newUrls))
    (hnone : hyperlinkFormula (multiText ic newUrls) = none)
    (hkeep : ∀ d ∈ readDelims spec, Separates (multiText ic newUrls) d → Separates s d) :
    Restored place.cell (readDelims spec) ic newUrls := by
  obtain ⟨s', delim, hshown, -, ⟨before, behind, hdelims, hbefore, hsep⟩, hold, -, hdelimiter,
    htemplate⟩ := (parsedAs hparse).of_multi hform
  obtain rfl : s' = s := Option.some.inj (hshown.text.symm.trans hs)
  rw [hold] at hlen
  have hmem : ∀ d ∈ before, d ∈ readDelims spec := fun d hd => by
    rw [hdelims]
    exact List.mem_append_left _ hd
  have htext : multiText ic newUrls = (splitAt s' delim).delimiter.intercalate
      ((Template.ofParts (cutParts delim s')).fill newUrls) := by
    rw [multiText, htemplate, hdelimiter]
    exact if_pos ((length_positions _).trans hlen.symm)
  have hown : delim ≠ " " → (splitAt s' delim).delimiter = delim := fun hblank => if_neg hblank
  -- the delimiter of the cell cuts the new text into the same slots
  have hcut := cutParts_fill hsep hlen hurls fun hblank =>
    hends _ htemplate _ (hdelimiter.trans (congrArg some (hown hblank)))
  rw [← htext] at hcut
  have hlook : ∀ u ∈ newUrls, looksLikeUrl u = true := fun u hu => (hurls u hu).looksLikeUrl
  have hsep' : Separates (multiText ic newUrls) delim := by
    refine ⟨?_, fun hblank => ?_⟩
    · rw [hcut, filter_fill hlen hlook, hlen]
      exact hsep.1
    · rw [hcut, fill_all (hsep.2 hblank) hlen hlook]
      exact hlook
  have hstored : stored place.cell (multiText ic newUrls) = .ok (multiText ic newUrls) := by
    unfold stored
    split_ifs
    · rfl
    · exact hfits
  -- no delimiter before it has anything to cut
  have hfirst : FirstSeparates (multiText ic newUrls) (readDelims spec) delim :=
    ⟨before, behind, hdelims, fun d hd hnew => hbefore d hd (hkeep d (hmem d hd) hnew), hsep'⟩
  rw [Restored, hform]
  exact ⟨_, delim, hstored, hnone, hfirst, by rw [htemplate, hcut]; rfl⟩

/-- **Delimiters of one character.**  No label and no address runs into such a delimiter. -/
theorem restored_of_chars (hparse : parse py place spec ws = .ok ic) (hform : ic.form = .multiUrl)
    (hs : place.cell.value.bind CellValue.str? = some s)
    (hlen : newUrls.length = ic.urls.length) (hurls : ∀ u ∈ newUrls, LoneUrl (readDelims spec) u)
    (hchars : ∀ d ∈ readDelims spec, d.toList.length = 1) (hfits : Fits (multiText ic newUrls))
    (hnone : hyperlinkFormula (multiText ic newUrls) = none)
    (hkeep : ∀ d ∈ readDelims spec, Separates (multiText ic newUrls) d → Separates s d) :
    Restored place.cell (readDelims spec) ic newUrls := by
  refine restored_of_parts hparse hform hs hlen hurls ?_ hfits hnone hkeep
  obtain ⟨s', delim, -, -, ⟨before, behind, hdelims, -, hsep⟩, hold, -, hdelimiter, htemplate⟩ :=
    (parsedAs hparse).of_multi hform
  rw [hold] at hlen
  have hdelim : delim ∈ readDelims spec := by simp [hdelims]
  have hlook : ∀ u ∈ newUrls, looksLikeUrl u = true := fun u hu => (hurls u hu).looksLikeUrl
  intro t ht d hd p hp
  obtain rfl := Option.some.inj (ht.symm.trans htemplate)
  obtain rfl := Option.some.inj (hd.symm.trans hdelimiter)
  by_cases hblank : delim = " "
  · -- between words there are no labels, and the addresses have no white space
    have hown : (splitAt s' delim).delimiter = firstRun s' := if_pos hblank
    obtain ⟨hspace, hne⟩ := firstRun_space s'
    obtain ⟨a, gap, hgap⟩ := List.exists_cons_of_ne_nil hne
    rw [fill_all (hsep.2 hblank) hlen hlook] at hp
    rw [hown]
    refine endsFirst_of_head (a := a) (by rw [hgap]; rfl) fun ha => ?_
    have hnot := (hurls p hp).noSpace a ha
    rw [hspace a (hgap ▸ List.mem_cons_self)] at hnot
    cases hnot
  · have hown : (splitAt s' delim).delimiter = delim := if_neg hblank
    obtain ⟨c, hc⟩ := List.length_eq_one_iff.mp (hchars delim hdelim)
    rw [hown]
    refine endsFirst_of_head (a := c) (by rw [hc]; rfl) ?_
    rcases mem_fill hp with hpart | hurl
    · have hmem : p ∈ cutParts delim s' := hpart
      rw [cutParts, if_neg hblank] at hmem
      exact not_mem_of_mem_partsOf hc hmem
    · intro hmem
      have hnot := (hurls p hurl).noDelim delim hdelim
      have hinfix : hasInfix [c] p.toList = true :=
        hasInfix_iff.mpr ((List.singleton_infix_iff c p.toList).mpr hmem)
      rw [hc, hinfix] at hnot
      cases hnot

end Labels

end OzonSuite.Excel
