/-
# Cutting a list at the end of a word

A list is cut to a number of elements, at the last blank among them, and trimmed at its end.  This
gives the longest beginning that ends with a word only if the limit does not fall right behind a
word, and if no other white space stands in front of the blank.
-/
import OzonSuite.Lib.PlainText

namespace Lib

section

variable {α : Type*} {ws : α → Bool} {b : α} {t p : List α} {k : ℕ}

lemma trimmed_rdropWhile (l : List α) : ∀ c ∈ (l.rdropWhile ws).getLast?, ws c = false := by
  intro c hc
  obtain ⟨hne, rfl⟩ := List.mem_getLast?_eq_getLast hc
  simpa using List.rdropWhile_last_not ws l hne

/-- What stands behind a beginning. -/
lemma getElem?_length_of_append {l rest t : List α} (h : l ++ rest = t) :
    t[l.length]? = rest.head? := by
  rw [← h, List.getElem?_append_right le_rfl, Nat.sub_self, List.head?_eq_getElem?]

/-- A beginning without white space at its end is not longer than what trimming leaves. -/
lemma length_le_rdropWhile {l : List α} (h : p <+: l) (hp : ∀ c ∈ p.getLast?, ws c = false) :
    p.length ≤ (l.rdropWhile ws).length := by
  obtain ⟨s, rfl⟩ := h
  induction s using List.reverseRecOn with
  | nil =>
    have hself : p.rdropWhile ws = p := List.rdropWhile_eq_self_iff.mpr fun hne => by
      simp [hp _ (List.getLast_mem_getLast? hne)]
    rw [List.append_nil, hself]
  | append_singleton s a ih =>
    rw [← List.append_assoc, List.rdropWhile_concat]
    split
    · exact ih
    · simp

/-- What stands behind a trimmed beginning. -/
lemma getElem?_rdropWhile_take (h : t[k]? = some b) :
    t[((t.take k).rdropWhile ws).length]? = some b ↔
      ∀ c ∈ ((t.take k).rtakeWhile ws).head?, c = b := by
  have hhead : (t.drop k).head? = some b := by rw [List.head?_drop, h]
  have hsplit : (t.take k).rdropWhile ws ++ ((t.take k).rtakeWhile ws ++ t.drop k) = t := by
    rw [← List.append_assoc, List.rdropWhile_append_rtakeWhile, List.take_append_drop]
  rw [getElem?_length_of_append hsplit]
  cases hs : (t.take k).rtakeWhile ws with
  | nil => simp [hhead]
  | cons a s => simp

end

section

variable {α : Type*} [DecidableEq α] (ws : α → Bool) (b : α) (t : List α) (n : ℕ)

/-- The list cut to `n` elements, at the last blank `b` if there is one. -/
def cutAtBlank : List α :=
  if t.length ≤ n then t
  else
    let cut := t.take n
    (if b ∈ cut then (cut.rdropWhile (· ≠ b)).dropLast else cut).rdropWhile ws

/-- A beginning of the list that does not end with white space. -/
structure Beginning (p : List α) : Prop where
  starts : p <+: t
  short : p.length ≤ n
  trimmed : ∀ c ∈ p.getLast?, ws c = false

/-- What a cut at the end of a word is: a beginning, everything if that fits, and otherwise, when
the first word fits, the longest beginning with a blank behind it. -/
structure CutAtWord (r : List α) : Prop extends Beginning ws t n r where
  whole : t.length ≤ n → r = t
  atWord : n < t.length → (t.takeWhile (· ≠ b)).length ≤ n →
    t[r.length]? = some b ∧
      ∀ p, Beginning ws t n p → t[p.length]? = some b → p.length ≤ r.length

/-- Where the list is cut before it is trimmed. -/
def cutPlace : ℕ :=
  if b ∈ t.take n then ((t.take n).rdropWhile (· ≠ b)).length - 1 else n

/-- The limit falls right behind a word that is not the first one. -/
def BehindWord : Prop :=
  b ∈ t.take n ∧ (∀ c ∈ (t.take n).getLast?, ws c = false) ∧ t[n]? = some b

/-- The white space in front of the cut begins with a blank. -/
def BlankFirst : Prop := ∀ c ∈ ((t.take (cutPlace b t n)).rtakeWhile ws).head?, c = b

end

section

variable {α : Type*} [DecidableEq α] {ws : α → Bool} {b : α} {t : List α} {n : ℕ}

/-- The list up to its last blank. -/
lemma exists_last_blank {l : List α} (h : b ∈ l) :
    ∃ u v, l = u ++ b :: v ∧ b ∉ v ∧ l.rdropWhile (· ≠ b) = u ++ [b] := by
  induction l using List.reverseRecOn with
  | nil => simp at h
  | append_singleton l a ih =>
    by_cases ha : a = b
    · subst ha
      exact ⟨l, [], rfl, by simp, List.rdropWhile_concat_neg _ _ _ (by simp)⟩
    · have hl : b ∈ l := by simpa [Ne.symm ha] using h
      obtain ⟨u, v, rfl, hv, hdrop⟩ := ih hl
      refine ⟨u, v ++ [a], by simp, by simpa [hv] using Ne.symm ha, ?_⟩
      rw [List.rdropWhile_concat_pos _ _ _ (by simpa using ha), hdrop]

/-- A list that does not fit is cut in front of a blank. -/
lemma cutAtBlank_eq (h : n < t.length) :
    cutAtBlank ws b t n = (t.take (cutPlace b t n)).rdropWhile ws := by
  rw [cutAtBlank, if_neg (by omega)]
  by_cases hmem : b ∈ t.take n
  · obtain ⟨u, v, htake, -, hdrop⟩ := exists_last_blank hmem
    have hlen : u.length < n := by
      have hn := congrArg List.length htake
      simp only [List.length_take, List.length_append, List.length_cons] at hn
      omega
    have hu : t.take u.length = u := by
      have hshort := congrArg (List.take u.length) htake
      rwa [List.take_take, Nat.min_eq_left hlen.le, List.take_left'] at hshort
      rfl
    simp only [cutPlace, if_pos hmem, hdrop, List.dropLast_concat, List.length_append,
      List.length_singleton, Nat.add_sub_cancel, hu]
  · simp only [cutPlace, if_neg hmem]

/-- The place of the cut is that of the last blank that is not behind the limit. -/
structure IsCutPlace (b : α) (t : List α) (n k : ℕ) : Prop where
  within : k ≤ n
  blank : t[k]? = some b
  last : ∀ j, k < j → j < n → t[j]? ≠ some b

lemma isCutPlace (h : n < t.length) (hword : (t.takeWhile (· ≠ b)).length ≤ n) :
    IsCutPlace b t n (cutPlace b t n) := by
  rw [cutPlace]
  split_ifs with hmem
  · obtain ⟨u, v, htake, hv, hdrop⟩ := exists_last_blank hmem
    have hn := congrArg List.length htake
    simp only [List.length_take, List.length_append, List.length_cons] at hn
    have hget : ∀ j < n, t[j]? = (u ++ b :: v)[j]? := fun j hj => by
      rw [← htake, List.getElem?_take_of_lt hj]
    simp only [hdrop, List.length_append, List.length_singleton, Nat.add_sub_cancel]
    refine ⟨by omega, by rw [hget _ (by omega)]; simp, fun j hj hlt hblank => hv ?_⟩
    rw [hget j hlt, List.getElem?_append_right hj.le] at hblank
    obtain ⟨i, hi⟩ : ∃ i, j - u.length = i + 1 := ⟨j - u.length - 1, by omega⟩
    rw [hi, List.getElem?_cons_succ] at hblank
    exact List.mem_of_getElem? hblank
  · -- the first word takes up everything that is kept
    refine ⟨le_rfl, ?_, fun j hj hlt => absurd (hj.trans hlt) (lt_irrefl _)⟩
    have hsplit : t.takeWhile (· ≠ b) ++ t.dropWhile (· ≠ b) = t := List.takeWhile_append_dropWhile
    have hlen := congrArg List.length hsplit
    rw [List.length_append] at hlen
    have hne : t.dropWhile (· ≠ b) ≠ [] := List.ne_nil_of_length_pos (by omega)
    obtain ⟨a, rest, hrest⟩ := List.exists_cons_of_ne_nil hne
    have hab : a = b := by
      have hhead := List.head_dropWhile_not (fun c => decide (c ≠ b)) (l := t) hne
      simp only [hrest, List.head_cons] at hhead
      simpa using hhead
    subst hab
    have hfirst : t[(t.takeWhile (· ≠ a)).length]? = some a := by
      rw [hrest] at hsplit
      rw [getElem?_length_of_append hsplit, List.head?_cons]
    have hword' : (t.takeWhile (· ≠ a)).length = n := by
      refine le_antisymm hword (Nat.le_of_not_lt fun hlt => hmem ?_)
      exact List.mem_of_getElem? ((List.getElem?_take_of_lt hlt).trans hfirst)
    rw [← hword']
    exact hfirst

/-- **Cutting at a blank.**  What it gives is a beginning of the text, and everything if that fits.
When it does not fit and the first word does, the cut is at the end of a word and keeps every word
that fits exactly if the limit does not fall right behind a word other than the first, and the
white space in front of the cut begins with a blank. -/
theorem cutAtBlank_iff (ht : ∀ c ∈ t.getLast?, ws c = false) :
    Beginning ws t n (cutAtBlank ws b t n) ∧
      (CutAtWord ws b t n (cutAtBlank ws b t n) ↔
        t.length ≤ n ∨ n < (t.takeWhile (· ≠ b)).length ∨
          ¬ BehindWord ws b t n ∧ BlankFirst ws b t n) := by
  by_cases hfit : t.length ≤ n
  · have hwhole : cutAtBlank ws b t n = t := if_pos hfit
    have hbegin : Beginning ws t n t := ⟨List.prefix_rfl, hfit, ht⟩
    rw [hwhole]
    exact ⟨hbegin, fun _ => .inl hfit, fun _ => ⟨hbegin, fun _ => rfl, fun hlt => by omega⟩⟩
  have hlt : n < t.length := by omega
  rw [cutAtBlank_eq hlt]
  have hplace : cutPlace b t n ≤ n := by
    rw [cutPlace]
    split_ifs with hmem
    · have hlen := (List.rdropWhile_prefix (fun c => decide (c ≠ b)) (t.take n)).length_le
      rw [List.length_take] at hlen
      omega
    · exact le_rfl
  have hbegin : Beginning ws t n ((t.take (cutPlace b t n)).rdropWhile ws) := by
    have hstarts := List.rdropWhile_prefix ws (t.take (cutPlace b t n))
    refine ⟨hstarts.trans (List.take_prefix _ _), ?_, trimmed_rdropWhile _⟩
    have hlen := hstarts.length_le
    rw [List.length_take] at hlen
    omega
  refine ⟨hbegin, ?_⟩
  by_cases hword : (t.takeWhile (· ≠ b)).length ≤ n
  swap
  · exact ⟨fun _ => .inr (.inl (by omega)), fun _ => ⟨hbegin, fun h => absurd h hfit,
      fun _ h => absurd h hword⟩⟩
  have hcut := isCutPlace hlt hword
  constructor
  · rintro ⟨-, -, hat⟩
    obtain ⟨hblank, hlongest⟩ := hat hlt hword
    refine .inr (.inr ⟨?_, (getElem?_rdropWhile_take hcut.blank).mp hblank⟩)
    rintro ⟨hmem, hlast, hbehind⟩
    have hn : (t.take n).length = n := by rw [List.length_take]; omega
    have hlong := hlongest (t.take n) ⟨List.take_prefix _ _, hn.le, hlast⟩ (by rw [hn, hbehind])
    have hless : cutPlace b t n < n := by
      obtain ⟨u, v, htake, -, hdrop⟩ := exists_last_blank hmem
      have hsum := congrArg List.length htake
      simp only [hn, List.length_append, List.length_cons] at hsum
      rw [cutPlace, if_pos hmem, hdrop, List.length_append, List.length_singleton]
      omega
    have hshort := (List.rdropWhile_prefix ws (t.take (cutPlace b t n))).length_le
    rw [List.length_take] at hshort
    omega
  · rintro (h | h | ⟨hbehind, hfirst⟩)
    · exact absurd h hfit
    · omega
    refine ⟨hbegin, fun h => absurd h hfit, fun _ _ =>
      ⟨(getElem?_rdropWhile_take hcut.blank).mpr hfirst, fun p hp hblank => ?_⟩⟩
    refine length_le_rdropWhile ?_ hp.trimmed
    -- a longer beginning with a blank behind it would reach up to the limit
    have hle : p.length ≤ cutPlace b t n := by
      by_contra hgt
      rcases lt_or_eq_of_le hp.short with hshort | heq
      · exact hcut.last _ (by omega) hshort hblank
      · have hp' : t.take n = p := by rw [← heq]; exact (List.prefix_iff_eq_take.mp hp.starts).symm
        refine hbehind ⟨?_, by rw [hp']; exact hp.trimmed, by rw [← heq]; exact hblank⟩
        by_contra hmem
        rw [cutPlace, if_neg hmem] at hgt
        omega
    exact List.prefix_take_iff.mpr ⟨hp.starts, hle⟩

end

end Lib
