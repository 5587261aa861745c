/-
# Texts as Python reads them

What Python counts as white space, literals of a pattern that ignores the case, substrings, and
`str.split` at a text.
-/
import OzonSuite.Lib.PlainText

namespace Lib

/-- The characters that `str.strip` takes away and that `\s` matches. -/
def isPySpace (c : Char) : Bool :=
  let n := c.toNat
  (9 ≤ n && n ≤ 13) || (0x1C ≤ n && n ≤ 0x20) || n == 0x85 || n == 0xA0 || n == 0x1680 ||
    (0x2000 ≤ n && n ≤ 0x200A) || n == 0x2028 || n == 0x2029 || n == 0x202F || n == 0x205F ||
    n == 0x3000

/-- `str.strip`. -/
def strip (s : String) : String := trimText isPySpace s

/-- Whether a pattern that ignores the case matches `c` by its letter `lit`, a small one.  Besides
the two ASCII letters there are four characters that fold to one of them. -/
def foldsTo (lit c : Char) : Bool :=
  c.toLower == lit || (lit == 's' && c.toNat == 0x17F) || (lit == 'k' && c.toNat == 0x212A) ||
    (lit == 'i' && (c.toNat == 0x130 || c.toNat == 0x131))

/-- What follows a literal that is matched without its case. -/
def dropLiteral : List Char → List Char → Option (List Char)
  | [], l => some l
  | _ :: _, [] => none
  | lit :: lits, c :: l => if foldsTo lit c then dropLiteral lits l else none

section Lists

variable {α : Type*} [BEq α]

/-- Whether `needle` occurs in the list. -/
def hasInfix (needle : List α) : List α → Bool
  | [] => needle.isPrefixOf []
  | a :: l => needle.isPrefixOf (a :: l) || hasInfix needle l

/-- The splitting loop: how many elements of a separator are still to be passed, and what has been
read since the last separator. -/
def splitGo (sep : List α) : ℕ → List α → List α → List (List α)
  | _, cur, [] => [cur]
  | skip + 1, cur, _ :: l => splitGo sep skip cur l
  | 0, cur, a :: l =>
    if sep.isPrefixOf (a :: l) then cur :: splitGo sep (sep.length - 1) [] l
    else splitGo sep 0 (cur ++ [a]) l

/-- `str.split(sep)`, for a separator that is not empty. -/
def splitText (sep l : List α) : List (List α) := splitGo sep 0 [] l

/-- What has been read before goes to the front of the first part. -/
lemma splitGo_singleton [LawfulBEq α] (a : α) (cur l : List α) :
    splitGo [a] 0 cur l = (l.splitOn a).modifyHead (cur ++ ·) := by
  induction l generalizing cur with
  | nil => simp [splitGo, List.splitOn_nil]
  | cons b l ih =>
    obtain ⟨w, ws, hw⟩ := List.exists_cons_of_ne_nil (List.splitOn_ne_nil a l)
    by_cases hb : b = a
    · have hprefix : [a].isPrefixOf (b :: l) = true := by simp [List.isPrefixOf, hb]
      rw [splitGo, if_pos hprefix, List.splitOn_cons_eq_if_modifyHead]
      simp [hb, ih, hw]
    · have hprefix : ¬ [a].isPrefixOf (b :: l) = true := by simp [List.isPrefixOf, Ne.symm hb]
      rw [splitGo, if_neg hprefix, ih, List.splitOn_cons_eq_if_modifyHead]
      simp [hb, hw]

/-- At a single element the split is the one of the standard library. -/
theorem splitText_singleton [LawfulBEq α] (a : α) (l : List α) : splitText [a] l = l.splitOn a := by
  obtain ⟨w, ws, hw⟩ := List.exists_cons_of_ne_nil (List.splitOn_ne_nil a l)
  rw [splitText, splitGo_singleton, hw]
  simp

end Lists

end Lib
