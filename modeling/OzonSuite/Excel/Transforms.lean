/-
# Texts that are too long

A text that is longer than its field allows is cut at a blank.  There are three copies of this: in
the node, in the example transform and in the rewriting transform, which cuts the answer of a text
generator.
-/
import OzonSuite.Excel.Workbook
import OzonSuite.Lib.WordCut
import OzonSuite.Node.CopyPush

namespace OzonSuite

open Lib

namespace Excel

/-- `_truncate_word_boundary` of the example transform. -/
def truncateWordBoundary (s : String) (limit : ℕ) : String :=
  if s.toList.length ≤ limit then s
  else
    let cut := s.toList.take limit
    let cut := if ' ' ∈ cut then (cut.rdropWhile (· ≠ ' ')).dropLast else cut
    trimTextEnd isPySpace (String.ofList cut)

/-- What a text generator is called with. -/
structure TextRequest where
  text : String
  instruction : String
  apiBase : String
  apiKey : String
  model : Option String
deriving DecidableEq

/-- The part of the rewriting transform that its texts depend on. -/
structure RelistTransform where
  textgen : Option (TextRequest → Except Failure (Option String))
  textApiBase : String
  textApiKey : String
  textModel : Option String

namespace RelistTransform

/-- What the text generator is asked. -/
def request (r : RelistTransform) (text instruction : String) : TextRequest where
  text := text
  instruction := instruction
  apiBase := r.textApiBase
  apiKey := r.textApiKey
  model := r.textModel.filter (· ≠ "")

/-- The answer of the text generator, if there is one that is not blank. -/
def generated (r : RelistTransform) (text instruction : String) : Option String :=
  match r.textgen with
  | none => none
  | some textgen =>
    if r.textApiKey = "" then none
    else
      match textgen (r.request text instruction) with
      | .error _ => none
      | .ok out =>
        let out := strip (out.getD "")
        if out = "" then none else some out

/-- `_rewrite_text`. -/
def rewriteText (r : RelistTransform) (text : Option String) (instruction : String) (maxLen : ℕ)
    (fallback : String → Option String) : Option String :=
  match text with
  | none => none
  | some text =>
    match r.generated text instruction with
    | none => fallback text
    | some out =>
      if maxLen < out.toList.length then
        let cut := out.toList.take maxLen
        let cut := if ' ' ∈ cut then (cut.rdropWhile (· ≠ ' ')).dropLast else cut
        some (trimTextEnd isPySpace (String.ofList cut))
      else some out

/-- What is generated is trimmed. -/
lemma strip_of_generated {r : RelistTransform} {text instruction out : String}
    (h : r.generated text instruction = some out) : strip out = out := by
  rw [generated] at h
  split at h
  · cases h
  split at h
  · cases h
  split at h
  · cases h
  dsimp only at h
  split at h
  · cases h
  · obtain rfl := Option.some.inj h
    rw [strip, strip, trimText, trimText, String.toList_ofList, trimList_trimList]

end RelistTransform

end Excel

/-! ## Where the cut falls -/

/-- The text fits, or its first word does not, or the limit does not fall right behind a later word
and no white space but blanks begins the gap that the cut is made in. -/
def CutsNoWord (ws : Char → Bool) (s : String) (n : ℕ) : Prop :=
  s.toList.length ≤ n ∨ n < (s.toList.takeWhile (· ≠ ' ')).length ∨
    ¬ BehindWord ws ' ' s.toList n ∧ BlankFirst ws ' ' s.toList n

/-- What the cut of a text to `n` characters has to be. -/
def CutText (ws : Char → Bool) (s : String) (n : ℕ) (r : String) : Prop :=
  CutAtWord ws ' ' s.toList n r.toList

/-- A part of the law that every cut satisfies. -/
def CutShort (ws : Char → Bool) (s : String) (n : ℕ) (r : String) : Prop :=
  Beginning ws s.toList n r.toList

section Cuts

variable {ws : Char → Bool} {s r : String} {n : ℕ}

lemma toList_trimText (s : String) : (trimText ws s).toList = trimList ws s.toList := by
  rw [trimText, String.toList_ofList]

/-- A trimmed text has no white space at its end. -/
lemma last_trimText (s : String) : ∀ c ∈ (trimText ws s).toList.getLast?, ws c = false := by
  rw [toList_trimText]
  exact trimmed_rdropWhile _

lemma cutText_iff (hs : trimText ws s = s) (hr : r.toList = cutAtBlank ws ' ' s.toList n) :
    CutShort ws s n r ∧ (CutText ws s n r ↔ CutsNoWord ws s n) := by
  have hlast : ∀ c ∈ s.toList.getLast?, ws c = false := by
    rw [← hs]
    exact last_trimText s
  rw [CutShort, CutText, CutsNoWord, hr]
  exact cutAtBlank_iff hlast

/-- The three copies cut in the same way. -/
lemma toList_wordBoundaryTruncate_eq (s : String) (n : ℕ) :
    (wordBoundaryTruncate s n).toList = cutAtBlank isWhitespace ' ' (trim s).toList n := by
  rw [wordBoundaryTruncate, cutAtBlank]
  split
  · rfl
  · rw [trimTextEnd, String.toList_ofList, String.toList_ofList]

lemma toList_truncateWordBoundary (s : String) (n : ℕ) :
    (Excel.truncateWordBoundary s n).toList = cutAtBlank isPySpace ' ' s.toList n := by
  rw [Excel.truncateWordBoundary, cutAtBlank]
  split
  · rfl
  · rw [trimTextEnd, String.toList_ofList, String.toList_ofList]

lemma rewriteText_of_generated {t : Excel.RelistTransform} {text instruction : String}
    {fallback : String → Option String} (h : t.generated text instruction = some s) :
    ∃ r, t.rewriteText (some text) instruction n fallback = some r ∧
      r.toList = cutAtBlank isPySpace ' ' s.toList n := by
  simp only [Excel.RelistTransform.rewriteText, h, cutAtBlank]
  by_cases hfit : s.toList.length ≤ n
  · exact ⟨s, by rw [if_neg (by omega)], by rw [if_pos hfit]⟩
  · rw [if_pos (by omega), if_neg hfit]
    exact ⟨_, rfl, by rw [trimTextEnd, String.toList_ofList, String.toList_ofList]⟩

end Cuts

/-- **Cutting a text at a word.**  Every cut is a beginning of the trimmed text that fits and does
not end with white space.  It ends with a word and keeps every word that fits if and only if the
text fits, or its first word does not, or the limit does not fall right behind a later word and the
white space in front of the cut begins with a blank.  That is so in the node, in the example
transform, and for every answer of the text generator in the rewriting transform. -/
theorem word_boundary_truncate (s : String) (n : ℕ) :
    (CutShort isWhitespace (trim s) n (wordBoundaryTruncate s n) ∧
      (CutText isWhitespace (trim s) n (wordBoundaryTruncate s n) ↔
        CutsNoWord isWhitespace (trim s) n)) ∧
    (CutShort isPySpace (strip s) n (Excel.truncateWordBoundary (strip s) n) ∧
      (CutText isPySpace (strip s) n (Excel.truncateWordBoundary (strip s) n) ↔
        CutsNoWord isPySpace (strip s) n)) ∧
    ∀ (t : Excel.RelistTransform) (instruction : String) (fallback : String → Option String),
      ∀ out ∈ t.generated s instruction,
        ∃ r, t.rewriteText (some s) instruction n fallback = some r ∧ CutShort isPySpace out n r ∧
          (CutText isPySpace out n r ↔ CutsNoWord isPySpace out n) := by
  refine ⟨?_, ?_, fun t instruction fallback out hout => ?_⟩
  · exact cutText_iff (trim_trim s) (toList_wordBoundaryTruncate_eq s n)
  · have hstrip : strip (strip s) = strip s := by
      simp only [strip, trimText, String.toList_ofList, trimList_trimList]
    exact cutText_iff hstrip (toList_truncateWordBoundary (strip s) n)
  · obtain ⟨r, hr, hcut⟩ := rewriteText_of_generated hout
    exact ⟨r, hr, cutText_iff (Excel.RelistTransform.strip_of_generated hout) hcut⟩

/-- A transform whose generator answers with the text itself. -/
def echoTransform : Excel.RelistTransform where
  textgen := some fun request => .ok (some request.text)
  textApiBase := "b"
  textApiKey := "k"
  textModel := none

theorem word_boundary_truncate_echo :
    ∃ r, echoTransform.rewriteText (some "ab cd") "" 4 some = some r ∧
      CutShort isPySpace "ab cd" 4 r ∧
        (CutText isPySpace "ab cd" 4 r ↔ CutsNoWord isPySpace "ab cd" 4) :=
  (word_boundary_truncate "ab cd" 4).2.2 echoTransform "" some "ab cd" (by decide)

/-- The second word fits, and is dropped. -/
theorem word_boundary_truncate_drops_word :
    ¬ CutText isWhitespace (trim "ab cd ef") 5 (wordBoundaryTruncate "ab cd ef" 5) := by
  intro h
  have hat := CutAtWord.atWord h (by decide) (by decide)
  have hd : isWhitespace 'd' = false := by decide
  have hword : Beginning isWhitespace (trim "ab cd ef").toList 5 "ab cd".toList :=
    ⟨by decide, by decide, by simpa using hd⟩
  have hshort := hat.2 _ hword (by decide)
  exact absurd hshort (by decide)

end OzonSuite
