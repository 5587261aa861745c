/-
# Pieces of a list

Pieces that stand in a list one behind the other, with gaps between them; the occurrences of a
pattern whose matches do not overlap, of which the pieces have no more than the whole; and what a
split at a separator, or at a kind of element, has to do with that.
-/
import OzonSuite.Lib.PythonText

namespace Lib

variable {α : Type*}

/-! ## Pieces in order -/

/-- The pieces stand in the list, in this order, without overlapping. -/
inductive InOrder : List (List α) → List α → Prop
  | nil (l : List α) : InOrder [] l
  | cons (gap piece : List α) {pieces : List (List α)} {l : List α} (h : InOrder pieces l) :
    InOrder (piece :: pieces) (gap ++ (piece ++ l))

namespace InOrder

variable {pieces qs : List (List α)} {l : List α}

lemma append_left (h : InOrder pieces l) (before : List α) : InOrder pieces (before ++ l) := by
  cases h with
  | nil => exact .nil _
  | cons gap piece h =>
    rw [← List.append_assoc]
    exact .cons _ _ h

lemma sublist (hsub : qs.Sublist pieces) (h : InOrder pieces l) : InOrder qs l := by
  induction h generalizing qs with
  | nil =>
    obtain rfl := List.sublist_nil.mp hsub
    exact .nil _
  | cons gap piece h ih =>
    rcases List.sublist_cons_iff.mp hsub with hrest | ⟨rest, rfl, hrest⟩
    · exact ((ih hrest).append_left piece).append_left gap
    · exact .cons gap piece (ih hrest)

/-- Parts of the pieces stand in the list as well. -/
lemma infixes (hsub : List.Forall₂ (· <:+: ·) qs pieces) (h : InOrder pieces l) : InOrder qs l := by
  induction h generalizing qs with
  | nil =>
    cases hsub
    exact .nil _
  | cons gap piece h ih =>
    cases hsub with
    | @cons q _ _ _ hq hsub =>
      obtain ⟨before, behind, rfl⟩ := hq
      have hrest := (ih hsub).append_left behind
      have hall := InOrder.cons (gap ++ before) q hrest
      simpa [List.append_assoc] using hall

lemma intercalate (sep : List α) (pieces : List (List α)) :
    InOrder pieces (sep.intercalate pieces) := by
  induction pieces with
  | nil => exact .nil _
  | cons piece pieces ih =>
    cases pieces with
    | nil => simpa using InOrder.cons [] piece (InOrder.nil [])
    | cons next pieces =>
      rw [List.intercalate_cons_cons]
      simpa using InOrder.cons [] piece (ih.append_left sep)

/-- The first piece of a split stands at the front. -/
lemma head_splitOnP (p : α → Bool) (l : List α) : ∃ piece pieces rest,
    l.splitOnP p = piece :: pieces ∧ l = piece ++ rest ∧ InOrder pieces rest := by
  induction l with
  | nil => exact ⟨[], [], [], rfl, rfl, .nil _⟩
  | cons a l ih =>
    obtain ⟨piece, pieces, rest, hsplit, hl, h⟩ := ih
    rw [List.splitOnP_cons_eq_if_modifyHead, hsplit]
    split
    · refine ⟨[], piece :: pieces, a :: l, rfl, rfl, ?_⟩
      simpa [hl] using InOrder.cons [a] piece h
    · exact ⟨a :: piece, pieces, rest, rfl, by rw [hl, List.cons_append], h⟩

lemma splitOnP (p : α → Bool) (l : List α) : InOrder (l.splitOnP p) l := by
  obtain ⟨piece, pieces, rest, hsplit, hl, h⟩ := head_splitOnP p l
  rw [hsplit, hl]
  exact .cons [] piece h

/-- A piece stands in the list. -/
lemma isInfix (h : InOrder pieces l) {piece : List α} (hmem : piece ∈ pieces) : piece <:+: l := by
  induction h with
  | nil => cases hmem
  | @cons gap p pieces l h ih =>
    rcases List.mem_cons.mp hmem with rfl | hmem
    · exact ⟨gap, l, by rw [List.append_assoc]⟩
    · exact (ih hmem).trans ((List.suffix_append p l).trans (List.suffix_append gap _)).isInfix

end InOrder

/-! ## Splitting at a separator -/

section Split

variable [BEq α] [LawfulBEq α] {sep cur l : List α}

lemma hasInfix_iff {needle : List α} : hasInfix needle l = true ↔ needle <:+: l := by
  induction l with
  | nil => simp [hasInfix]
  | cons a l ih =>
    rw [hasInfix, Bool.or_eq_true, List.isPrefixOf_iff_prefix, ih, List.infix_cons_iff]

omit [LawfulBEq α] in
lemma splitGo_ne_nil (skip : ℕ) (cur l : List α) : splitGo sep skip cur l ≠ [] := by
  induction l generalizing skip cur with
  | nil => cases skip <;> simp [splitGo]
  | cons a l ih =>
    cases skip with
    | succ skip => exact ih skip cur
    | zero =>
      rw [splitGo]
      split_ifs
      · exact List.cons_ne_nil _ _
      · exact ih 0 _

lemma intercalate_splitGo (hsep : sep ≠ []) (skip : ℕ) (cur l : List α) :
    sep.intercalate (splitGo sep skip cur l) = cur ++ l.drop skip := by
  induction l generalizing skip cur with
  | nil => cases skip <;> simp [splitGo]
  | cons a l ih =>
    cases skip with
    | succ skip => simp [splitGo, ih]
    | zero =>
      rw [splitGo]
      split_ifs with hpre
      · obtain ⟨rest, hrest⟩ := List.isPrefixOf_iff_prefix.mp hpre
        obtain ⟨b, sep', rfl⟩ := List.exists_cons_of_ne_nil hsep
        obtain ⟨rfl, rfl⟩ : b = a ∧ sep' ++ rest = l := by simpa using hrest
        rw [List.intercalate_cons_of_ne_nil (splitGo_ne_nil _ _ _), ih]
        simp
      · rw [ih]
        simp

/-- **A split, put together again.** -/
lemma intercalate_splitText (hsep : sep ≠ []) (l : List α) :
    sep.intercalate (splitText sep l) = l := by
  rw [splitText, intercalate_splitGo hsep, List.nil_append, List.drop_zero]

lemma inOrder_splitText (hsep : sep ≠ []) (l : List α) : InOrder (splitText sep l) l := by
  have h := InOrder.intercalate sep (splitText sep l)
  rwa [intercalate_splitText hsep] at h

omit [LawfulBEq α] in
lemma splitGo_of_not_infix (h : hasInfix sep l = false) (cur : List α) :
    splitGo sep 0 cur l = [cur ++ l] := by
  induction l generalizing cur with
  | nil => simp [splitGo]
  | cons a l ih =>
    obtain ⟨hhead, htail⟩ := Bool.or_eq_false_iff.mp h
    rw [splitGo, hhead, if_neg Bool.false_ne_true, ih htail, List.append_assoc]
    rfl

omit [LawfulBEq α] in
/-- A list is not cut at what is not in it. -/
lemma splitText_of_not_infix (h : hasInfix sep l = false) : splitText sep l = [l] :=
  splitGo_of_not_infix h []

omit [LawfulBEq α] in
lemma splitGo_append (cur front l : List α) :
    splitGo sep front.length cur (front ++ l) = splitGo sep 0 cur l := by
  induction front with
  | nil => rfl
  | cons a front ih => exact ih

variable (sep) in
/-- If the separator is written behind the list, it is found where the list ends and not before. -/
def EndsFirst (l : List α) : Prop := ∀ t, t <:+ l → t ≠ [] → ¬ sep <+: t ++ sep

lemma EndsFirst.not_infix (hsep : sep ≠ []) (h : EndsFirst sep l) : hasInfix sep l = false := by
  rw [Bool.eq_false_iff, Ne, hasInfix_iff]
  rintro ⟨front, back, rfl⟩
  refine h (sep ++ back) ⟨front, (List.append_assoc ..).symm⟩ (by simp [hsep]) ?_
  rw [List.append_assoc]
  exact List.prefix_append _ _

/-- The first cut is at the end of such a list. -/
lemma EndsFirst.splitGo (hsep : sep ≠ []) (h : EndsFirst sep l) (cur rest : List α) :
    splitGo sep 0 cur (l ++ (sep ++ rest)) = (cur ++ l) :: Lib.splitGo sep 0 [] rest := by
  induction l generalizing cur with
  | nil =>
    obtain ⟨b, sep', rfl⟩ := List.exists_cons_of_ne_nil hsep
    have hpre : (b :: sep').isPrefixOf (b :: (sep' ++ rest)) = true :=
      List.isPrefixOf_iff_prefix.mpr ⟨rest, rfl⟩
    rw [List.nil_append, List.cons_append, Lib.splitGo, if_pos hpre, List.append_nil]
    exact congrArg (cur :: ·) (splitGo_append [] sep' rest)
  | cons a l ih =>
    have hpre : ¬ sep.isPrefixOf (a :: (l ++ (sep ++ rest))) = true := by
      intro hpre
      refine h (a :: l) List.suffix_rfl (List.cons_ne_nil a l) ?_
      refine List.prefix_of_prefix_length_le (List.isPrefixOf_iff_prefix.mp hpre)
        ⟨rest, by simp⟩ ?_
      rw [List.length_append]
      exact Nat.le_add_left ..
    rw [List.cons_append, Lib.splitGo, if_neg hpre,
      ih (fun t ht => h t (ht.trans (List.suffix_cons a l))), List.append_assoc]
    rfl

/-- **Put together and split again.** -/
theorem splitText_intercalate (hsep : sep ≠ []) {pieces : List (List α)} (hne : pieces ≠ [])
    (h : ∀ piece ∈ pieces, EndsFirst sep piece) :
    splitText sep (sep.intercalate pieces) = pieces := by
  induction pieces with
  | nil => exact absurd rfl hne
  | cons piece pieces ih =>
    have hpiece : EndsFirst sep piece := h piece List.mem_cons_self
    cases pieces with
    | nil =>
      rw [List.intercalate_singleton]
      exact splitText_of_not_infix (hpiece.not_infix hsep)
    | cons next pieces =>
      have hrest := ih (List.cons_ne_nil next pieces) fun p hp => h p (List.mem_cons_of_mem _ hp)
      rw [List.intercalate_cons_cons, List.append_assoc, splitText, hpiece.splitGo hsep]
      exact congrArg (piece :: ·) hrest

omit [BEq α] [LawfulBEq α] in
/-- The separator is not found in a list that does not have its first element. -/
lemma endsFirst_of_head {a : α} (hsep : sep.head? = some a) (h : a ∉ l) : EndsFirst sep l := by
  intro t ht hne hpre
  obtain ⟨sep', rfl⟩ := List.head?_eq_some_iff.mp hsep
  obtain ⟨b, t, rfl⟩ := List.exists_cons_of_ne_nil hne
  obtain rfl : a = b := (List.cons_prefix_cons.mp hpre).1
  exact h (ht.subset List.mem_cons_self)

end Split

/-! ## Put together at a separator -/

lemma filter_intercalate (p : α → Bool) (sep : List α) (pieces : List (List α)) :
    (sep.intercalate pieces).filter p =
      (sep.filter p).intercalate (pieces.map (List.filter p)) := by
  induction pieces with
  | nil => rfl
  | cons piece pieces ih =>
    cases pieces with
    | nil => simp
    | cons next pieces =>
      rw [List.map_cons, List.map_cons, List.intercalate_cons_cons, List.intercalate_cons_cons,
        List.filter_append, List.filter_append, ih, List.map_cons]

/-- What does not have the separator in it lies on one side of it. -/
lemma infix_of_infix_separator {a : α} {w l m : List α} (hne : w ≠ []) (ha : a ∉ w)
    (h : w <:+: l ++ a :: m) : w <:+: l ∨ w <:+: m := by
  obtain ⟨front, back, hsplit⟩ := h
  rw [List.append_assoc] at hsplit
  rcases List.append_eq_append_iff.mp hsplit with ⟨more, rfl, hrest⟩ | ⟨more, rfl, hrest⟩
  · rcases List.append_eq_append_iff.mp hrest with ⟨gap, rfl, -⟩ | ⟨gap, rfl, hback⟩
    · exact .inl ⟨front, gap, by rw [List.append_assoc]⟩
    · cases gap with
      | nil => exact .inl ⟨front, [], by simp⟩
      | cons b gap =>
        obtain rfl : a = b := (List.cons.inj hback).1
        exact absurd (List.mem_append_right _ List.mem_cons_self) ha
  · cases more with
    | nil =>
      obtain ⟨b, w, rfl⟩ := List.exists_cons_of_ne_nil hne
      obtain rfl : a = b := (List.cons.inj hrest).1
      exact absurd List.mem_cons_self ha
    | cons b more =>
      refine .inr ⟨more, back, ?_⟩
      rw [List.append_assoc]
      exact (List.cons.inj hrest).2.symm

/-- What does not have the separator in it lies in one of the pieces. -/
lemma infix_of_infix_intercalate {a : α} {w : List α} {pieces : List (List α)} (hne : w ≠ [])
    (ha : a ∉ w) (h : w <:+: [a].intercalate pieces) : ∃ piece ∈ pieces, w <:+: piece := by
  induction pieces with
  | nil => exact absurd (List.infix_nil.mp h) hne
  | cons piece pieces ih =>
    cases pieces with
    | nil =>
      rw [List.intercalate_singleton] at h
      exact ⟨piece, List.mem_cons_self, h⟩
    | cons next pieces =>
      rw [List.intercalate_cons_cons, List.append_assoc, List.singleton_append] at h
      rcases infix_of_infix_separator hne ha h with hpiece | hrest
      · exact ⟨piece, List.mem_cons_self, hpiece⟩
      · obtain ⟨other, hmem, hother⟩ := ih hrest
        exact ⟨other, List.mem_cons_of_mem piece hmem, hother⟩

/-- What is put together at a separator is split into the pieces of its pieces. -/
lemma splitOn_intercalate_flatMap [BEq α] [LawfulBEq α] (a : α) {pieces : List (List α)}
    (hne : pieces ≠ []) :
    ([a].intercalate pieces).splitOn a = pieces.flatMap (List.splitOn a) := by
  induction pieces with
  | nil => exact absurd rfl hne
  | cons piece pieces ih =>
    cases pieces with
    | nil => simp
    | cons next pieces =>
      rw [List.intercalate_cons_cons, List.append_assoc, List.singleton_append,
        List.splitOn_append_cons_self, ih (List.cons_ne_nil _ _), ← List.flatMap_cons]

/-! ## Words put together -/

section Words

variable {p : α → Bool} {l w gap : List α} {ws : List (List α)}

/-- A list is trimmed when neither of its ends is to be taken away. -/
lemma trimList_eq_self_iff :
    trimList p l = l ↔ (∀ a ∈ l.head?, p a = false) ∧ ∀ z ∈ l.getLast?, p z = false := by
  constructor
  · intro h
    refine ⟨fun a ha => head_trimList (l := l) (by rwa [h]), fun z hz => ?_⟩
    have hlast : (l.dropWhile p).rdropWhile p = l := h
    obtain ⟨start, rfl⟩ := List.getLast?_eq_some_iff.mp hz
    by_contra hpz
    rw [Bool.not_eq_false] at hpz
    have hidem := List.rdropWhile_idempotent p ((start ++ [z]).dropWhile p)
    rw [hlast, List.rdropWhile_concat_pos _ _ _ hpz] at hidem
    have hlen := congrArg List.length hidem
    have hle := (List.rdropWhile_prefix p start).length_le
    rw [List.length_append, List.length_singleton] at hlen
    omega
  · rintro ⟨hhead, hlast⟩
    have hdrop : l.dropWhile p = l := by
      cases l with
      | nil => rfl
      | cons a l => rw [List.dropWhile_cons_of_neg (by simp [hhead a rfl])]
    rw [trimList, hdrop, List.rdropWhile_eq_self_iff]
    intro hne
    simp [hlast _ (List.getLast?_eq_some_getLast hne)]

/-- What stands between the elements of a kind has none of them. -/
lemma not_of_mem_splitOnP (h : w ∈ l.splitOnP p) : ∀ a ∈ w, p a = false := by
  induction l generalizing w with
  | nil =>
    obtain rfl : w = [] := by simpa using h
    exact nofun
  | cons b l ih =>
    rw [List.splitOnP_cons_eq_if_modifyHead] at h
    split at h
    · rcases List.mem_cons.mp h with rfl | h
      · exact nofun
      · exact ih h
    · next hb =>
      obtain ⟨piece, pieces, hsplit⟩ := List.exists_cons_of_ne_nil (List.splitOnP_ne_nil p l)
      rw [hsplit, List.modifyHead_cons] at h
      rw [hsplit] at ih
      rcases List.mem_cons.mp h with rfl | h
      · intro a ha
        rcases List.mem_cons.mp ha with rfl | ha
        · simpa using hb
        · exact ih List.mem_cons_self a ha
      · exact ih (List.mem_cons_of_mem _ h)

/-- The words without what stands between them. -/
lemma flatten_wordsOf (l : List α) : (wordsOf p l).flatten = l.filter fun a => !p a := by
  have hblank : ∀ pieces : List (List α), (pieces.filter (· ≠ [])).flatten = pieces.flatten := by
    intro pieces
    induction pieces with
    | nil => rfl
    | cons piece pieces ih => cases piece <;> simp_all
  rw [wordsOf, hblank]
  induction l with
  | nil => rfl
  | cons a l ih =>
    rw [List.splitOnP_cons_eq_if_modifyHead, List.filter_cons, ← ih]
    obtain ⟨piece, pieces, hsplit⟩ := List.exists_cons_of_ne_nil (List.splitOnP_ne_nil p l)
    by_cases ha : p a = true <;> simp [ha, hsplit]

/-- White space in front of the words does not matter. -/
lemma wordsOf_gap (hgap : ∀ a ∈ gap, p a = true) (l : List α) :
    wordsOf p (gap ++ l) = wordsOf p l := by
  induction gap with
  | nil => rfl
  | cons b gap ih =>
    rw [List.cons_append, wordsOf, List.splitOnP_cons_eq_if_modifyHead,
      if_pos (hgap b List.mem_cons_self), List.filter_cons_of_neg (by simp)]
    exact ih fun a ha => hgap a (List.mem_cons_of_mem _ ha)

lemma wordsOf_word (hw : ∀ a ∈ w, p a = false) (hne : w ≠ []) : wordsOf p w = [w] := by
  rw [wordsOf, List.splitOnP_eq_singleton hw, List.filter_cons_of_pos (by simpa using hne)]
  rfl

/-- The first word is what stands before the white space. -/
lemma wordsOf_append (hw : ∀ a ∈ w, p a = false) (hne : w ≠ []) (hgap : ∀ a ∈ gap, p a = true)
    (hgap' : gap ≠ []) (l : List α) : wordsOf p (w ++ (gap ++ l)) = w :: wordsOf p l := by
  obtain ⟨b, gap, rfl⟩ := List.exists_cons_of_ne_nil hgap'
  rw [List.cons_append, wordsOf,
    List.splitOnP_append_cons_of_forall_mem hw b (hgap b List.mem_cons_self),
    List.filter_cons_of_pos (by simpa using hne)]
  exact congrArg _ (wordsOf_gap (fun a ha => hgap a (List.mem_cons_of_mem _ ha)) l)

/-- **Words, put together and taken apart again.** -/
lemma wordsOf_intercalate (hgap : ∀ a ∈ gap, p a = true) (hgap' : gap ≠ [])
    (hws : ∀ w ∈ ws, w ≠ [] ∧ ∀ a ∈ w, p a = false) : wordsOf p (gap.intercalate ws) = ws := by
  induction ws with
  | nil => rfl
  | cons w ws ih =>
    obtain ⟨hne, hw⟩ := hws w List.mem_cons_self
    have hrest := ih fun v hv => hws v (List.mem_cons_of_mem _ hv)
    cases ws with
    | nil => simpa using wordsOf_word hw hne
    | cons v ws =>
      rw [List.intercalate_cons_cons, List.append_assoc, wordsOf_append hw hne hgap hgap', hrest]

end Words

/-! ## Occurrences of a pattern -/

/-- The matches of a pattern, one behind the other: how many elements of the last one are still to
be passed. -/
def countMatches (found : List α → Option ℕ) : ℕ → List α → ℕ
  | _, [] => 0
  | skip + 1, _ :: l => countMatches found skip l
  | 0, a :: l =>
    match found (a :: l) with
    | some n => countMatches found (n - 1) l + 1
    | none => countMatches found 0 l

/-- The places where a pattern matches. -/
def countStarts (found : List α → Option ℕ) : List α → ℕ
  | [] => 0
  | a :: l => countStarts found l + if (found (a :: l)).isSome then 1 else 0

/-- A pattern whose matches have a length that does not depend on what follows, and do not
overlap. -/
structure Pattern (found : List α → Option ℕ) : Prop where
  extend : ∀ {l n}, found l = some n → ∀ rest, found (l ++ rest) = some n
  alone : ∀ {l n}, found l = some n → ∀ k, 0 < k → k < n → found (l.drop k) = none

namespace Pattern

variable {found : List α → Option ℕ} {l : List α} {pieces : List (List α)}

lemma countStarts_skip {n : ℕ} (h : ∀ k < n, found (l.drop k) = none) :
    countStarts found l = countStarts found (l.drop n) := by
  induction n generalizing l with
  | zero => rfl
  | succ n ih =>
    cases l with
    | nil => rfl
    | cons a l =>
      have hhead : found (a :: l) = none := h 0 n.succ_pos
      rw [countStarts, hhead, List.drop_succ_cons]
      exact ih fun k hk => h (k + 1) (by omega)

/-- As matches do not overlap, none of them is passed over. -/
theorem countMatches_eq (hf : Pattern found) (skip : ℕ) (l : List α) :
    countMatches found skip l = countStarts found (l.drop skip) := by
  induction l generalizing skip with
  | nil => cases skip <;> simp [countMatches, countStarts]
  | cons a l ih =>
    cases skip with
    | succ skip => rw [countMatches, ih, List.drop_succ_cons]
    | zero =>
      rw [countMatches, List.drop_zero, countStarts]
      cases hfound : found (a :: l) with
      | none => simp [ih]
      | some n =>
        have hskip : countStarts found l = countStarts found (l.drop (n - 1)) :=
          countStarts_skip fun k hk => hf.alone hfound (k + 1) k.succ_pos (by omega)
        simp [ih, hskip]

lemma countStarts_append (hf : Pattern found) (l l' : List α) :
    countStarts found l + countStarts found l' ≤ countStarts found (l ++ l') := by
  induction l with
  | nil => simp [countStarts]
  | cons a l ih =>
    rw [List.cons_append, countStarts, countStarts]
    have hhead : (if (found (a :: l)).isSome then 1 else 0) ≤
        if (found (a :: (l ++ l'))).isSome then 1 else 0 := by
      cases hfound : found (a :: l) with
      | none => simp
      | some n => rw [← List.cons_append, hf.extend hfound]
    omega

/-- **Pieces have no more matches than the whole.** -/
theorem countStarts_inOrder (hf : Pattern found) (h : InOrder pieces l) :
    (pieces.map (countStarts found)).sum ≤ countStarts found l := by
  induction h with
  | nil => simp
  | @cons gap piece pieces l h ih =>
    have hgap := hf.countStarts_append gap (piece ++ l)
    have hpiece := hf.countStarts_append piece l
    rw [List.map_cons, List.sum_cons]
    omega

end Pattern

/-! ## Literals without their case -/

/-- The length of the first of some literals that the text begins with. -/
def firstLiteral (lits : List (List Char)) (l : List Char) : Option ℕ :=
  (lits.find? fun lit => (dropLiteral lit l).isSome).map List.length

/-- One of the two begins with the other. -/
def agree : List Char → List Char → Bool
  | a :: l, b :: l' => a = b && agree l l'
  | [], _ => true
  | _ :: _, [] => true

/-- Literals of ASCII characters that are not empty, none of which begins with another, or within
another. -/
def Separate (lits : List (List Char)) : Bool :=
  lits.all (fun lit => lit ≠ [] && lit.all fun c => c.toNat < 128) &&
    lits.all fun lit => lits.all fun lit' => (List.range lit.length).all fun k =>
      !agree (lit.drop k) lit' || (k = 0 && lit = lit')

section Literals

variable {lit lit' l : List Char} {lits : List (List Char)}

/-- A character folds to one ASCII letter at most. -/
lemma foldsTo_unique {a b c : Char} (ha : a.toNat < 128) (hb : b.toNat < 128)
    (h : foldsTo a c = true) (h' : foldsTo b c = true) : a = b := by
  have hupper : ∀ {d : Char}, d.toNat < 128 → 128 ≤ c.toNat → c.toLower ≠ d := by
    rintro d hd hc rfl
    have hsame : c.toLower = c := by
      rw [Char.toLower, dif_neg]
      rintro ⟨-, hle⟩
      have hle' : c.toNat ≤ 90 := hle
      omega
    rw [hsame] at hd
    omega
  simp only [foldsTo, Bool.or_eq_true, Bool.and_eq_true, beq_iff_eq] at h h'
  rcases h with ((h | ⟨rfl, h⟩) | ⟨rfl, h⟩) | ⟨rfl, h⟩ <;>
    rcases h' with ((h' | ⟨rfl, h'⟩) | ⟨rfl, h'⟩) | ⟨rfl, h'⟩ <;>
    first
      | rfl
      | exact h.symm.trans h'
      | exact absurd h (hupper ha (by omega))
      | exact absurd h' (hupper hb (by omega))
      | omega

lemma dropLiteral_append {rest : List Char} (h : dropLiteral lit l = some rest)
    (behind : List Char) : dropLiteral lit (l ++ behind) = some (rest ++ behind) := by
  induction lit generalizing l with
  | nil =>
    obtain rfl := Option.some.inj h
    rfl
  | cons a lit ih =>
    cases l with
    | nil => cases h
    | cons c l =>
      rw [dropLiteral] at h
      split_ifs at h with hc
      rw [List.cons_append, dropLiteral, if_pos hc]
      exact ih h

lemma dropLiteral_drop (h : (dropLiteral lit l).isSome) (k : ℕ) :
    (dropLiteral (lit.drop k) (l.drop k)).isSome := by
  induction k generalizing lit l with
  | zero => exact h
  | succ k ih =>
    cases lit with
    | nil => rfl
    | cons a lit =>
      cases l with
      | nil => cases h
      | cons c l =>
        rw [dropLiteral] at h
        split_ifs at h
        · exact ih h
        · cases h

/-- Two literals that the same text begins with agree. -/
lemma agree_of_dropLiteral (ha : ∀ c ∈ lit, c.toNat < 128) (ha' : ∀ c ∈ lit', c.toNat < 128)
    (h : (dropLiteral lit l).isSome) (h' : (dropLiteral lit' l).isSome) :
    agree lit lit' = true := by
  induction lit generalizing lit' l with
  | nil => rfl
  | cons a lit ih =>
    cases lit' with
    | nil => rfl
    | cons b lit' =>
      cases l with
      | nil => cases h
      | cons c l =>
        rw [dropLiteral] at h h'
        split_ifs at h with hc
        · split_ifs at h' with hc'
          · have hab : a = b := foldsTo_unique (ha a List.mem_cons_self) (ha' b List.mem_cons_self)
              hc hc'
            simp only [agree, hab, decide_true, Bool.true_and]
            exact ih (fun d hd => ha d (List.mem_cons_of_mem _ hd))
              (fun d hd => ha' d (List.mem_cons_of_mem _ hd)) h h'
          · cases h'
        · cases h

lemma firstLiteral_eq_some {n : ℕ} (h : firstLiteral lits l = some n) :
    ∃ lit ∈ lits, (dropLiteral lit l).isSome ∧ n = lit.length := by
  obtain ⟨lit, hfind, rfl⟩ := Option.map_eq_some_iff.mp h
  exact ⟨lit, List.mem_of_find?_eq_some hfind, by simpa using List.find?_some hfind, rfl⟩

lemma Separate.eq_of_match (hsep : Separate lits = true) (hlit : lit ∈ lits) (hlit' : lit' ∈ lits)
    {k : ℕ} (hk : k < lit.length) (h : (dropLiteral lit l).isSome)
    (h' : (dropLiteral lit' (l.drop k)).isSome) : k = 0 ∧ lit = lit' := by
  simp only [Separate, Bool.and_eq_true, List.all_eq_true, decide_eq_true_eq, List.mem_range,
    Bool.or_eq_true, Bool.not_eq_true'] at hsep
  rcases hsep.2 lit hlit lit' hlit' k hk with hno | hyes
  · have hagree := agree_of_dropLiteral
      (fun c hc => (hsep.1 lit hlit).2 c (List.mem_of_mem_drop hc)) (hsep.1 lit' hlit').2
      (dropLiteral_drop h k) h'
    rw [hagree] at hno
    cases hno
  · exact hyes

/-- **Literals as a pattern.**  The first of some separate literals is a pattern whose matches do
not overlap. -/
theorem pattern_firstLiteral (hsep : Separate lits = true) : Pattern (firstLiteral lits) where
  extend := by
    intro l n h rest
    obtain ⟨lit, hlit, hmatch, rfl⟩ := firstLiteral_eq_some h
    have hpos : 0 < lit.length := by
      simp only [Separate, Bool.and_eq_true, List.all_eq_true, decide_eq_true_eq] at hsep
      exact List.length_pos_of_ne_nil (hsep.1 lit hlit).1
    have hlonger : (dropLiteral lit (l ++ rest)).isSome := by
      obtain ⟨r, hr⟩ := Option.isSome_iff_exists.mp hmatch
      rw [dropLiteral_append hr]
      rfl
    have hfind : (lits.find? fun lit => (dropLiteral lit (l ++ rest)).isSome).isSome :=
      List.find?_isSome.mpr ⟨lit, hlit, hlonger⟩
    obtain ⟨lit', hlit'⟩ := Option.isSome_iff_exists.mp hfind
    have hmatch' : (dropLiteral lit' (l ++ rest)).isSome := by
      simpa using List.find?_some hlit'
    obtain ⟨-, rfl⟩ := Separate.eq_of_match hsep hlit (List.mem_of_find?_eq_some hlit') hpos hlonger
      hmatch'
    rw [firstLiteral, hlit', Option.map_some]
  alone := by
    intro l n h k hpos hk
    obtain ⟨lit, hlit, hmatch, rfl⟩ := firstLiteral_eq_some h
    by_contra hsome
    obtain ⟨m, hm⟩ := Option.ne_none_iff_exists'.mp hsome
    obtain ⟨lit', hlit', hmatch', -⟩ := firstLiteral_eq_some hm
    obtain ⟨rfl, -⟩ := Separate.eq_of_match hsep hlit hlit' hk hmatch hmatch'
    exact lt_irrefl 0 hpos

end Literals

end Lib
