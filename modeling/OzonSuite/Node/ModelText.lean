/-
# What a model answers

A model that is asked for a JSON object may put it between quotes, or into a code block, or both,
with blanks around.  The node takes these wrappings away before it reads the object.  The wrappings
are written out here, and taking them away undoes them, whatever stands in the object.
-/
import OzonSuite.Node.CopyMatch

namespace OzonSuite

open Lib

/-! ## Taking the wrappings away -/

/-- `strip_json_wrappers`, the first part: one enclosing code block. -/
def stripFence (out : String) : String :=
  match stripPrefix "```" out with
  | none => out
  | some rest =>
    let rest := (stripPrefix "json" rest).getD rest
    let rest := (stripPrefix "JSON" rest).getD rest
    let rest := String.ofList (rest.toList.dropWhile (· = '\n'))
    match stripSuffix "```" rest with
    | some inner => trim inner
    | none => trim rest

/-- `strip_json_wrappers`, the second part: one enclosing pair of quotes. -/
def stripQuotes (out : String) : String :=
  match out.toList.head?, out.toList.getLast? with
  | some first, some last =>
    if 2 ≤ out.toList.length ∧ first ∈ ['"', '\'', '«'] ∧ last ∈ ['"', '\'', '»'] then
      trim (String.ofList out.toList.tail.dropLast)
    else out
  | _, _ => out

/-- The text without its wrappings. -/
def stripJsonWrappers (content : String) : String := stripQuotes (stripFence (trim content))

/-- `parse_module3_result`; `fromStr` is the library's reader for the fields. -/
def parseModule3Result (fromStr : String → Except String Module3Fields) (content : String) :
    Except String Module3Fields :=
  (fromStr (stripJsonWrappers content)).mapError fun error =>
    s!"could not parse model JSON: {error}"

/-! ## Wrappings -/

/-- A text that begins with an opening brace and ends with a closing one. -/
structure Braced where
  text : String
  opens : text.toList.head? = some '{'
  closes : text.toList.getLast? = some '}'

/-- White space of any kind and length. -/
structure Blank where
  chars : List Char
  blank : ∀ c ∈ chars, isWhitespace c = true

/-- The quotes that an object may stand between. -/
inductive QuotePair
  | double
  | single
  | guillemets
deriving DecidableEq

/-- The quote at the beginning. -/
def QuotePair.left : QuotePair → Char
  | .double => '"'
  | .single => '\''
  | .guillemets => '«'

/-- The quote at the end. -/
def QuotePair.right : QuotePair → Char
  | .double => '"'
  | .single => '\''
  | .guillemets => '»'

/-- A pair of quotes, with what stands between them and the text. -/
structure Quoting where
  pair : QuotePair
  before : Blank
  behind : Blank

/-- What stands behind the fence of a code block. -/
inductive FenceTag
  | plain
  | lower
  | upper
deriving DecidableEq

/-- The characters of the tag. -/
def FenceTag.chars : FenceTag → List Char
  | .plain => []
  | .lower => "json".toList
  | .upper => "JSON".toList

/-- How a line ends. -/
inductive LineEnd
  | lf
  | crlf
deriving DecidableEq

/-- The characters of the line end. -/
def LineEnd.chars : LineEnd → List Char
  | .lf => ['\n']
  | .crlf => ['\r', '\n']

/-- A code block: its tag and the end of the first line, and the end of the last line where there is
a closing fence, with more blanks inside. -/
structure Fencing where
  tag : FenceTag
  firstLine : LineEnd
  closing : Option LineEnd
  before : Blank
  behind : Blank

/-- A wrapping: quotes inside, a code block around them, and blanks around everything. -/
structure Wrapping where
  quoting : Option Quoting
  fencing : Option Fencing
  before : Blank
  behind : Blank

/-- The text between its quotes. -/
def Quoting.wrap (q : Quoting) (l : List Char) : List Char :=
  q.pair.left :: (q.before.chars ++ l ++ q.behind.chars ++ [q.pair.right])

/-- The text in its code block. -/
def Fencing.wrap (f : Fencing) (l : List Char) : List Char :=
  "```".toList ++ f.tag.chars ++ (f.firstLine.chars ++ f.before.chars ++ l ++ f.behind.chars) ++
    match f.closing with
    | some lineEnd => lineEnd.chars ++ "```".toList
    | none => []

/-- The text in its wrapping. -/
def Wrapping.wrap (w : Wrapping) (s : Braced) : String :=
  let quoted := match w.quoting with
    | some q => q.wrap s.text.toList
    | none => s.text.toList
  let fenced := match w.fencing with
    | some f => f.wrap quoted
    | none => quoted
  String.ofList (w.before.chars ++ fenced ++ w.behind.chars)

/-! ## Blanks around a text -/

/-- A text that begins and ends with something other than white space and the sign of a fence. -/
def Solid (l : List Char) : Prop :=
  (∃ a ∈ l.head?, isWhitespace a = false ∧ a ≠ '\x60') ∧
    ∃ z ∈ l.getLast?, isWhitespace z = false ∧ z ≠ '\x60'

/-- **Blanks around a text are taken away.** -/
lemma trim_blank {l before behind : List Char} {a z : Char} (ha : l.head? = some a)
    (hz : l.getLast? = some z) (hblank : isWhitespace a = false) (hblank' : isWhitespace z = false)
    (hbefore : ∀ c ∈ before, isWhitespace c = true)
    (hbehind : ∀ c ∈ behind, isWhitespace c = true) :
    trim (String.ofList (before ++ l ++ behind)) = String.ofList l := by
  obtain ⟨t, rfl⟩ := List.head?_eq_some_iff.mp ha
  have hdrop : (before ++ (a :: t) ++ behind).dropWhile isWhitespace = a :: t ++ behind := by
    rw [List.append_assoc, List.dropWhile_append_of_pos hbefore, List.cons_append,
      List.dropWhile_cons_of_neg (by simp [hblank])]
  have hend : (a :: t ++ behind).rdropWhile isWhitespace = a :: t := by
    obtain ⟨start, hstart⟩ := List.getLast?_eq_some_iff.mp hz
    rw [List.rdropWhile, List.reverse_append,
      List.dropWhile_append_of_pos fun c hc => hbehind c (List.mem_reverse.mp hc), hstart,
      List.reverse_concat, List.dropWhile_cons_of_neg (by simp [hblank']), ← List.reverse_concat,
      List.reverse_reverse]
  rw [trim, trimText, String.toList_ofList, trimList, hdrop, hend]

lemma noBlank : ∀ c ∈ ([] : List Char), isWhitespace c = true :=
  fun _ hc => absurd hc List.not_mem_nil

lemma Solid.trim {l before behind : List Char} (h : Solid l)
    (hbefore : ∀ c ∈ before, isWhitespace c = true)
    (hbehind : ∀ c ∈ behind, isWhitespace c = true) :
    trim (String.ofList (before ++ l ++ behind)) = String.ofList l := by
  obtain ⟨⟨a, ha, hblank, -⟩, z, hz, hblank', -⟩ := h
  exact trim_blank ha hz hblank hblank' hbefore hbehind

lemma Braced.solid (s : Braced) : Solid s.text.toList :=
  ⟨⟨'{', s.opens, by decide, by decide⟩, '}', s.closes, by decide, by decide⟩

lemma Quoting.solid (q : Quoting) (l : List Char) : Solid (q.wrap l) := by
  refine ⟨⟨q.pair.left, rfl, ?_⟩, q.pair.right, ?_, ?_⟩
  · cases q.pair <;> decide
  · rw [wrap, ← List.cons_append]
    exact List.getLast?_concat ..
  · cases q.pair <;> decide

/-! ## One wrapping after the other -/

/-- A text that begins with neither quotes nor a fence is left as it is. -/
lemma stripQuotes_braced (s : Braced) : stripQuotes s.text = s.text := by
  rw [stripQuotes, s.opens, s.closes]
  exact if_neg (by simp)

/-- **Quotes are taken away**, with the blanks inside. -/
lemma stripQuotes_wrap (q : Quoting) (s : Braced) :
    stripQuotes (String.ofList (q.wrap s.text.toList)) = s.text := by
  have hhead : (q.wrap s.text.toList).head? = some q.pair.left := rfl
  have hlast : (q.wrap s.text.toList).getLast? = some q.pair.right := by
    rw [Quoting.wrap, ← List.cons_append]
    exact List.getLast?_concat ..
  have hinner : (q.wrap s.text.toList).tail.dropLast =
      q.before.chars ++ s.text.toList ++ q.behind.chars := by
    rw [Quoting.wrap, List.tail_cons, List.dropLast_concat]
  have hlen : 2 ≤ (q.wrap s.text.toList).length := by
    simp only [Quoting.wrap, List.length_cons, List.length_append, List.length_nil]
    omega
  have hpair : q.pair.left ∈ ['"', '\'', '«'] ∧ q.pair.right ∈ ['"', '\'', '»'] := by
    cases q.pair <;> decide
  rw [stripQuotes, String.toList_ofList, hhead, hlast]
  dsimp only
  rw [if_pos ⟨hlen, hpair⟩, hinner, s.solid.trim q.before.blank q.behind.blank,
    String.ofList_toList]

/-- A text without a fence is left as it is. -/
lemma Solid.stripFence {l : List Char} (h : Solid l) :
    stripFence (String.ofList l) = String.ofList l := by
  obtain ⟨⟨a, ha, -, hfence⟩, -⟩ := h
  obtain ⟨t, rfl⟩ := List.head?_eq_some_iff.mp ha
  have hsigns : "```".toList = ['\x60', '\x60', '\x60'] := by decide
  have hnone : stripPrefix "```" (String.ofList (a :: t)) = none :=
    stripPrefix_of_ne hsigns (Ne.symm hfence)
  rw [OzonSuite.stripFence, hnone]

/-- Of blanks before a text, some are left when its line ends are taken away. -/
lemma exists_dropWhile_line {before l : List Char} {a : Char} (ha : l.head? = some a)
    (hblank : isWhitespace a = false) (hbefore : ∀ c ∈ before, isWhitespace c = true) :
    ∃ left, (∀ c ∈ left, isWhitespace c = true) ∧
      (before ++ l).dropWhile (· = '\n') = left ++ l := by
  induction before with
  | nil =>
    obtain ⟨t, rfl⟩ := List.head?_eq_some_iff.mp ha
    have hline : a ≠ '\n' := by
      rintro rfl
      exact absurd hblank (by decide)
    exact ⟨[], noBlank, by simp [hline]⟩
  | cons c before ih =>
    by_cases hc : c = '\n'
    · rw [List.cons_append, List.dropWhile_cons_of_pos (by simpa using hc)]
      exact ih fun c hc => hbefore c (List.mem_cons_of_mem _ hc)
    · refine ⟨c :: before, hbefore, ?_⟩
      rw [List.cons_append, List.dropWhile_cons_of_neg (by simpa using hc)]

/-- The tag of a fence is taken away. -/
lemma strip_tag (tag : FenceTag) {c : Char} {l : List Char} (hc : c ≠ 'j' ∧ c ≠ 'J') :
    (stripPrefix "JSON" ((stripPrefix "json" (String.ofList (tag.chars ++ c :: l))).getD
      (String.ofList (tag.chars ++ c :: l)))).getD ((stripPrefix "json"
        (String.ofList (tag.chars ++ c :: l))).getD (String.ofList (tag.chars ++ c :: l))) =
      String.ofList (c :: l) := by
  have hlowerText : "json".toList = ['j', 's', 'o', 'n'] := by decide
  have hupperText : "JSON".toList = ['J', 'S', 'O', 'N'] := by decide
  have hlower : stripPrefix "json" (String.ofList (c :: l)) = none :=
    stripPrefix_of_ne hlowerText (Ne.symm hc.1)
  have hupper : stripPrefix "JSON" (String.ofList (c :: l)) = none :=
    stripPrefix_of_ne hupperText (Ne.symm hc.2)
  cases tag with
  | plain =>
    simp only [FenceTag.chars, List.nil_append, hlower, hupper, Option.getD_none]
  | lower =>
    have hstrip := stripPrefix_append "json" (c :: l)
    simp only [FenceTag.chars, hstrip, hupper, Option.getD_some, Option.getD_none]
  | upper =>
    have hstrip := stripPrefix_append "JSON" (c :: l)
    have hnot : stripPrefix "json" (String.ofList ("JSON".toList ++ c :: l)) = none := by
      rw [hupperText]
      exact stripPrefix_of_ne hlowerText (by decide)
    simp only [FenceTag.chars, hstrip, hnot, Option.getD_some, Option.getD_none]

lemma LineEnd.blank (e : LineEnd) : ∀ c ∈ e.chars, isWhitespace c = true := by
  intro c hc
  cases e with
  | lf =>
    obtain rfl := List.mem_singleton.mp hc
    decide
  | crlf => rcases List.mem_pair.mp hc with rfl | rfl <;> decide

lemma blank_append {l l' : List Char} (h : ∀ c ∈ l, isWhitespace c = true)
    (h' : ∀ c ∈ l', isWhitespace c = true) : ∀ c ∈ l ++ l', isWhitespace c = true := by
  intro c hc
  rcases List.mem_append.mp hc with hc | hc
  · exact h c hc
  · exact h' c hc

/-- What is between the fences, or behind the only one, is taken out. -/
lemma stripFence_open (tag : FenceTag) (e : LineEnd) (before : Blank) {l : List Char}
    (tail : List Char) (h : Solid l) : ∃ left, (∀ c ∈ left, isWhitespace c = true) ∧
      stripFence (String.ofList ("```".toList ++ (tag.chars ++ (e.chars ++ before.chars ++ l ++
        tail)))) = match stripSuffix "```" (String.ofList (left ++ (l ++ tail))) with
          | some inner => trim inner
          | none => trim (String.ofList (left ++ (l ++ tail))) := by
  obtain ⟨⟨a, ha, hblank, -⟩, -⟩ := h
  have hhead : (l ++ tail).head? = some a := by
    obtain ⟨t, rfl⟩ := List.head?_eq_some_iff.mp ha
    rfl
  have hlines : ∀ c ∈ e.chars ++ before.chars, isWhitespace c = true :=
    blank_append e.blank before.blank
  obtain ⟨left, hleft, hdrop⟩ := exists_dropWhile_line hhead hblank hlines
  refine ⟨left, hleft, ?_⟩
  obtain ⟨c, rest, hrest, hc⟩ : ∃ c rest, e.chars ++ before.chars ++ l ++ tail = c :: rest ∧
      (c ≠ 'j' ∧ c ≠ 'J') := by
    cases e with
    | lf => exact ⟨'\n', _, rfl, by decide⟩
    | crlf => exact ⟨'\r', _, rfl, by decide⟩
  rw [stripFence, stripPrefix_append]
  dsimp only
  rw [hrest, strip_tag tag hc, ← hrest, String.toList_ofList, List.append_assoc, hdrop]

/-- **A code block is taken away**, with the blanks around it and inside. -/
lemma stripFence_wrap (f : Fencing) {l before behind : List Char} (h : Solid l)
    (hbefore : ∀ c ∈ before, isWhitespace c = true)
    (hbehind : ∀ c ∈ behind, isWhitespace c = true) :
    stripFence (trim (String.ofList (before ++ f.wrap l ++ behind))) = String.ofList l := by
  obtain ⟨tag, e, closing, inside, tail⟩ := f
  have hsign : isWhitespace '\x60' = false := by decide
  obtain ⟨-, z, hz, hzblank, hzsign⟩ := id h
  cases closing with
  | some e' =>
    have hwrap : (Fencing.mk tag e (some e') inside tail).wrap l = "```".toList ++ (tag.chars ++
        (e.chars ++ inside.chars ++ l ++ (tail.chars ++ e'.chars ++ "```".toList))) := by
      simp [Fencing.wrap]
    -- with a closing fence nothing is trimmed inside it yet
    have hlast : ((Fencing.mk tag e (some e') inside tail).wrap l).getLast? = some '\x60' := by
      rw [Fencing.wrap, List.getLast?_append, List.getLast?_append]
      rfl
    rw [trim_blank rfl hlast hsign hsign hbefore hbehind, hwrap]
    obtain ⟨left, hleft, hopen⟩ := stripFence_open tag e inside
      (tail.chars ++ e'.chars ++ "```".toList) h
    rw [hopen, ← List.append_assoc l, ← List.append_assoc left, stripSuffix_append]
    dsimp only
    rw [← List.append_assoc left]
    exact h.trim hleft (blank_append tail.blank e'.blank)
  | none =>
    have hwrap : before ++ (Fencing.mk tag e none inside tail).wrap l ++ behind = before ++
        ("```".toList ++ (tag.chars ++ (e.chars ++ inside.chars ++ l ++ []))) ++
          (tail.chars ++ behind) := by
      simp [Fencing.wrap]
    have hlast : ("```".toList ++ (tag.chars ++ (e.chars ++ inside.chars ++ l ++ []))).getLast? =
        some z := by
      rw [List.append_nil, ← List.append_assoc, ← List.append_assoc, List.getLast?_append, hz]
      rfl
    rw [hwrap, trim_blank rfl hlast hsign hzblank hbefore (blank_append tail.blank hbehind)]
    obtain ⟨left, hleft, hopen⟩ := stripFence_open tag e inside [] h
    -- without one the blanks at the end are gone, and what is left does not end with a fence
    have hnone : stripSuffix "```" (String.ofList (left ++ (l ++ []))) = none := by
      rw [stripSuffix, if_neg]
      intro hsuffix
      rw [List.isSuffixOf_iff_suffix] at hsuffix
      obtain ⟨start, hstart⟩ := hsuffix
      have hend := congrArg List.getLast? hstart
      rw [List.append_nil, List.getLast?_append, String.toList_ofList (l := left ++ l),
        List.getLast?_append, hz] at hend
      exact hzsign (Option.some.inj hend).symm
    rw [hopen, hnone]
    dsimp only
    rw [← List.append_assoc]
    exact h.trim hleft noBlank

/-- **Unwrapping.**  Whatever wrapping an object is in, the node reads the object itself, and the
same fields as from the bare text. -/
theorem strip_json_wrappers_wrap (w : Wrapping) (s : Braced) :
    stripJsonWrappers (w.wrap s) = s.text ∧ stripJsonWrappers s.text = s.text ∧
      ∀ fromStr, parseModule3Result fromStr (w.wrap s) = parseModule3Result fromStr s.text := by
  have hunquote : ∀ quoting : Option Quoting, ∃ l, (match quoting with
      | some q => q.wrap s.text.toList
      | none => s.text.toList) = l ∧ Solid l ∧ stripQuotes (String.ofList l) = s.text := by
    intro quoting
    cases quoting with
    | some q => exact ⟨_, rfl, q.solid _, stripQuotes_wrap q s⟩
    | none => exact ⟨_, rfl, s.solid, by rw [String.ofList_toList, stripQuotes_braced]⟩
  have hwrapped : stripJsonWrappers (w.wrap s) = s.text := by
    obtain ⟨quoting, fencing, before, behind⟩ := w
    obtain ⟨l, hl, hsolid, hquotes⟩ := hunquote quoting
    rw [stripJsonWrappers, Wrapping.wrap]
    dsimp only
    rw [hl]
    cases fencing with
    | some f => rw [stripFence_wrap f hsolid before.blank behind.blank, hquotes]
    | none =>
      dsimp only
      rw [hsolid.trim before.blank behind.blank, hsolid.stripFence, hquotes]
  have hbare : stripJsonWrappers s.text = s.text := by
    have htrim := s.solid.trim noBlank noBlank
    rw [List.nil_append, List.append_nil, String.ofList_toList] at htrim
    have hfence := s.solid.stripFence
    rw [String.ofList_toList] at hfence
    rw [stripJsonWrappers, htrim, hfence, stripQuotes_braced]
  refine ⟨hwrapped, hbare, fun fromStr => ?_⟩
  rw [parseModule3Result, parseModule3Result, hwrapped, hbare]

end OzonSuite
