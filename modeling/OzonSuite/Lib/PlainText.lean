/-
# Plain text

Taking a kind of character away from the ends of a text, and splitting a text at that kind of
character; beginnings and endings of a text, and its length in bytes.  The kind of character is a
parameter: what counts as white space differs between languages.
-/
import Mathlib

namespace Lib

section Lists

variable {α : Type*} (p : α → Bool)

/-- Without the leading and the trailing elements that `p` holds of. -/
def trimList (l : List α) : List α := (l.dropWhile p).rdropWhile p

/-- The maximal runs of elements that `p` does not hold of. -/
def wordsOf (l : List α) : List (List α) := (l.splitOnP p).filter (· ≠ [])

variable {p}

/-- A list without such elements is left alone. -/
lemma trimList_of_forall {l : List α} (h : ∀ a ∈ l, p a = false) : trimList p l = l := by
  have hdrop : l.dropWhile p = l := by
    cases l with
    | nil => rfl
    | cons a l => rw [List.dropWhile_cons_of_neg (by simp [h a List.mem_cons_self])]
  rw [trimList, hdrop, List.rdropWhile_eq_self_iff]
  intro hne
  simp [h _ (List.getLast_mem hne)]

/-- A trimmed list does not begin with such an element. -/
lemma head_trimList {l : List α} {a : α} (h : a ∈ (trimList p l).head?) : p a = false := by
  have hprefix : trimList p l <+: l.dropWhile p := List.rdropWhile_prefix p _
  obtain ⟨rest, hrest⟩ := hprefix
  cases ht : trimList p l with
  | nil => simp [ht] at h
  | cons b t =>
    obtain rfl : b = a := by simpa [ht] using h
    rw [ht] at hrest
    have hhead := List.head_dropWhile_not p (l := l) (by rw [← hrest]; simp)
    simpa [← hrest] using hhead

section Prefixes

variable {l q : List α}

/-- What is left of the beginning of a trimmed list, trimmed at its end, is trimmed. -/
lemma trimList_rdropWhile (h : q <+: trimList p l) :
    trimList p (q.rdropWhile p) = q.rdropWhile p := by
  have hdrop : (q.rdropWhile p).dropWhile p = q.rdropWhile p := by
    cases hq : q.rdropWhile p with
    | nil => rfl
    | cons a t =>
      have hpre : a :: t <+: trimList p l := hq ▸ (List.rdropWhile_prefix p q).trans h
      obtain ⟨rest, hrest⟩ := hpre
      have ha : p a = false := head_trimList (l := l) (by rw [← hrest]; simp)
      rw [List.dropWhile_cons_of_neg (by simp [ha])]
  rw [trimList, hdrop, List.rdropWhile_idempotent]

/-- Such a beginning does not vanish. -/
lemma rdropWhile_ne_nil (h : q <+: trimList p l) (hq : q ≠ []) : q.rdropWhile p ≠ [] := by
  intro hnil
  obtain ⟨a, t, rfl⟩ := List.exists_cons_of_ne_nil hq
  obtain ⟨rest, hrest⟩ := h
  have ha : p a = false := head_trimList (l := l) (by rw [← hrest]; simp)
  have hall := List.rdropWhile_eq_nil_iff.mp hnil a List.mem_cons_self
  rw [ha] at hall
  cases hall

lemma trimList_trimList (l : List α) : trimList p (trimList p l) = trimList p l := by
  have h := trimList_rdropWhile (q := trimList p l) (p := p) (l := l) List.prefix_rfl
  rwa [show (trimList p l).rdropWhile p = trimList p l from List.rdropWhile_idempotent p _] at h

end Prefixes

lemma splitOnP_concat_pos {a : α} (h : p a = true) (l : List α) :
    (l ++ [a]).splitOnP p = l.splitOnP p ++ [[]] := by
  induction l with
  | nil => simp [List.splitOnP_cons_eq_if_modifyHead, h]
  | cons b l ih =>
    rw [List.cons_append, List.splitOnP_cons_eq_if_modifyHead, ih,
      List.splitOnP_cons_eq_if_modifyHead]
    split
    · rfl
    · obtain ⟨w, ws, hw⟩ := List.exists_cons_of_ne_nil (List.splitOnP_ne_nil p l)
      rw [hw]
      rfl

/-- What is taken from the ends does not matter for the words. -/
lemma wordsOf_trimList (l : List α) : wordsOf p (trimList p l) = wordsOf p l := by
  have hright : ∀ l : List α, wordsOf p (l.rdropWhile p) = wordsOf p l := by
    intro l
    induction l using List.reverseRecOn with
    | nil => rfl
    | append_singleton l a ih =>
      by_cases ha : p a = true
      · rw [List.rdropWhile_concat_pos _ _ _ ha, ih, wordsOf, wordsOf, splitOnP_concat_pos ha]
        simp
      · rw [List.rdropWhile_concat_neg _ _ _ ha]
  have hleft : wordsOf p (l.dropWhile p) = wordsOf p l := by
    induction l with
    | nil => rfl
    | cons a l ih =>
      by_cases ha : p a = true
      · rw [List.dropWhile_cons_of_pos ha, ih, wordsOf, wordsOf,
          List.splitOnP_cons_eq_if_modifyHead, if_pos ha]
        simp
      · rw [List.dropWhile_cons_of_neg ha]
  rw [trimList, hright, hleft]

end Lists

variable (p : Char → Bool)

/-- The text without such characters at its ends. -/
def trimText (s : String) : String := String.ofList (trimList p s.toList)

/-- The text without such characters at its end. -/
def trimTextEnd (s : String) : String := String.ofList (s.toList.rdropWhile p)

/-- The text begins with `start`. -/
def hasPrefix (start s : String) : Bool := start.toList.isPrefixOf s.toList

/-- What stands behind the beginning `start`. -/
def stripPrefix (start s : String) : Option String :=
  if hasPrefix start s then some (String.ofList (s.toList.drop start.toList.length)) else none

/-- What stands before the ending. -/
def stripSuffix (ending s : String) : Option String :=
  if ending.toList.isSuffixOf s.toList then
    some (String.ofList (s.toList.take (s.toList.length - ending.toList.length)))
  else none

/-- What stands before the first `separator` and what stands behind it. -/
def splitOnce (separator : Char) (s : String) : Option (String × String) :=
  match s.toList.dropWhile (· ≠ separator) with
  | [] => none
  | _ :: rest => some (String.ofList (s.toList.takeWhile (· ≠ separator)), String.ofList rest)

/-- The number of bytes of the text in UTF-8. -/
def byteLength (s : String) : ℕ := (s.toList.map Char.utf8Size).sum

/-- The text with every run of such characters replaced by one blank. -/
def collapseText (s : String) : String := " ".intercalate ((wordsOf p s.toList).map String.ofList)

variable {p}

lemma trimText_of_forall {s : String} (h : ∀ c ∈ s.toList, p c = false) : trimText p s = s := by
  rw [trimText, trimList_of_forall h, String.ofList_toList]

/-- A text that neither begins nor ends with such a character is left alone. -/
lemma trimText_of_ends {s : String} (hhead : s.toList.head?.any p = false)
    (hlast : s.toList.getLast?.any p = false) : trimText p s = s := by
  have hstart : s.toList.dropWhile p = s.toList := by
    cases hs : s.toList with
    | nil => rfl
    | cons c l =>
      have hc : p c = false := by simpa [hs] using hhead
      simp [hc]
  have hend : s.toList.rdropWhile p = s.toList := by
    rw [List.rdropWhile_eq_self_iff]
    intro hs hblank
    rw [List.getLast?_eq_getLast_of_ne_nil hs, Option.any_some, hblank] at hlast
    cases hlast
  rw [trimText, trimList, hstart, hend, String.ofList_toList]

/-- A text that begins with another character is not blank. -/
lemma trimText_ne_empty {c : Char} {l : List Char} (hc : p c = false) :
    trimText p (String.ofList (c :: l)) ≠ "" := by
  intro h
  have hlist := congrArg String.toList h
  have hdrop : (c :: l).dropWhile p = c :: l := by simp [hc]
  rw [trimText, String.toList_ofList, String.toList_ofList, trimList, hdrop] at hlist
  have hblank := List.rdropWhile_eq_nil_iff.mp hlist c List.mem_cons_self
  rw [hc] at hblank
  cases hblank

lemma trimText_trimText (s : String) : trimText p (trimText p s) = trimText p s := by
  rw [trimText, trimText, String.toList_ofList, trimList_trimList]

/-- Trimming takes characters away and changes none. -/
lemma trimText_sublist (s : String) : (trimText p s).toList.Sublist s.toList := by
  rw [trimText, String.toList_ofList, trimList]
  exact (List.rdropWhile_prefix p _).sublist.trans (List.dropWhile_suffix p).sublist

/-- Trimming a text does not change what it collapses to. -/
lemma collapseText_trimText (s : String) : collapseText p (trimText p s) = collapseText p s := by
  rw [collapseText, trimText, String.toList_ofList, wordsOf_trimList, collapseText]

lemma hasPrefix_append (start s : String) : hasPrefix start (start ++ s) = true := by
  rw [hasPrefix, String.toList_append, List.isPrefixOf_iff_prefix]
  exact List.prefix_append _ _

lemma stripPrefix_of_ne {start : String} {a c : Char} {t l : List Char}
    (hstart : start.toList = a :: t) (h : a ≠ c) :
    stripPrefix start (String.ofList (c :: l)) = none := by
  rw [stripPrefix, hasPrefix, if_neg]
  rw [hstart, String.toList_ofList, List.isPrefixOf_iff_prefix, List.cons_prefix_cons]
  exact fun hprefix => h hprefix.1

lemma stripPrefix_append (start : String) (l : List Char) :
    stripPrefix start (String.ofList (start.toList ++ l)) = some (String.ofList l) := by
  simp [stripPrefix, hasPrefix]

lemma stripSuffix_append (ending : String) (l : List Char) :
    stripSuffix ending (String.ofList (l ++ ending.toList)) = some (String.ofList l) := by
  simp [stripSuffix]

/-- The key ends at the first separator. -/
lemma splitOnce_eq_some {separator : Char} {s key behind : String} :
    splitOnce separator s = some (key, behind) ↔
      s.toList = key.toList ++ separator :: behind.toList ∧ separator ∉ key.toList := by
  rw [splitOnce]
  constructor
  · intro h
    split at h
    · cases h
    · next c rest hrest =>
      obtain ⟨rfl, rfl⟩ := Prod.mk.inj (Option.some.inj h)
      rw [String.toList_ofList, String.toList_ofList]
      -- the key stops short of the separator, and there is one
      have hne : s.toList.dropWhile (fun a => decide (a ≠ separator)) ≠ [] := by
        rw [hrest]
        exact List.cons_ne_nil _ _
      have hhead := List.head_dropWhile_not (fun a => decide (a ≠ separator)) hne
      have hc : c = separator := by
        simp only [hrest, List.head_cons, decide_eq_false_iff_not, not_not] at hhead
        exact hhead
      constructor
      · have happend := List.takeWhile_append_dropWhile (l := s.toList)
          (p := fun a => decide (a ≠ separator))
        rw [hrest, hc] at happend
        exact happend.symm
      · intro hmem
        have hnot := List.mem_takeWhile_imp hmem
        simp at hnot
  · rintro ⟨hs, hnot⟩
    have hall : ∀ a ∈ key.toList, decide (a ≠ separator) = true := by
      intro a ha
      simpa using fun heq : a = separator => hnot (heq ▸ ha)
    rw [hs, List.dropWhile_append_of_pos hall, List.takeWhile_append_of_pos hall,
      List.dropWhile_cons_of_neg (by simp), List.takeWhile_cons_of_neg (by simp), List.append_nil,
      String.ofList_toList]
    exact congrArg (fun t => some (key, t)) String.ofList_toList

/-- What stands behind a separator stands in the text. -/
lemma splitOnce_sublist {separator : Char} {s key value : String}
    (h : splitOnce separator s = some (key, value)) : value.toList.Sublist s.toList := by
  rw [(splitOnce_eq_some.mp h).1]
  exact (List.sublist_cons_self _ _).trans (List.sublist_append_right _ _)

lemma length_le_byteLength (s : String) : s.toList.length ≤ byteLength s := by
  rw [byteLength]
  have hsize : ∀ n ∈ s.toList.map Char.utf8Size, 1 ≤ n := by
    intro n hn
    obtain ⟨c, -, rfl⟩ := List.mem_map.mp hn
    exact c.utf8Size_pos
  simpa using List.card_nsmul_le_sum _ 1 hsize

end Lib
