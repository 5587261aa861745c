/-
# Sequences that grow, are worked off, or are read in pieces

Three ways in which a program handles a long sequence.  A backlog is worked off out of order: each
of its items belongs to a key, and the items of a key are dealt with in the order in which they came
up if each is the oldest of its key when it is taken.  A log of bounded length keeps the last
entries of all that was ever written to it.  And a list in the order of its keys is read page by
page.
-/
import Mathlib

namespace Lib

/-! ## Backlogs

Items that wait to be dealt with stand in a list, in the order in which they came up, and may be
taken from any place of it.  A reader who keeps the last item of every key ends with the item that
came up last, if the items of each key are dealt with in order. -/

section Backlog

variable {α κ : Type*} [DecidableEq κ] {key : α → κ}

/-- The items of one key. -/
def itemsOf (key : α → κ) (k : κ) (l : List α) : List α := l.filter fun a => key a = k

@[simp] lemma itemsOf_nil (k : κ) : itemsOf key k [] = [] := rfl

@[simp] lemma itemsOf_append (k : κ) (l l' : List α) :
    itemsOf key k (l ++ l') = itemsOf key k l ++ itemsOf key k l' := List.filter_append ..

lemma itemsOf_singleton_self (a : α) : itemsOf key (key a) [a] = [a] := by simp [itemsOf]

lemma itemsOf_singleton_of_ne {a : α} {k : κ} (h : key a ≠ k) : itemsOf key k [a] = [] := by
  simp [itemsOf, h]

lemma itemsOf_eq_nil {l : List α} {k : κ} (h : ∀ a ∈ l, key a ≠ k) : itemsOf key k l = [] := by
  simpa [itemsOf] using h

lemma itemsOf_map {β : Type*} (f : β → α) (k : κ) (l : List β) :
    itemsOf key k (l.map f) = (itemsOf (fun b => key (f b)) k l).map f := by
  simp only [itemsOf, List.filter_map]
  rfl

/-! ### Taking an item -/

/-- No older item has the key of the item at the place `i`. -/
def OldestAt (key : α → κ) (l : List α) (i : ℕ) : Prop :=
  match l[i]? with
  | none => True
  | some a => ∀ b ∈ l.take i, key b ≠ key a

instance (l : List α) (i : ℕ) : Decidable (OldestAt key l i) :=
  match h : l[i]? with
  | none => .isTrue (by simp [OldestAt, h])
  | some a => decidable_of_iff (∀ b ∈ l.take i, key b ≠ key a) (by simp [OldestAt, h])

omit [DecidableEq κ] in
lemma oldestAt_map {β : Type*} (f : β → α) {l : List β} {i : ℕ}
    (h : OldestAt (fun b => key (f b)) l i) : OldestAt key (l.map f) i := by
  rw [OldestAt, List.getElem?_map]
  rw [OldestAt] at h
  cases hi : l[i]? with
  | none => trivial
  | some b =>
    rw [hi] at h
    intro a ha
    rw [← List.map_take, List.mem_map] at ha
    obtain ⟨c, hc, rfl⟩ := ha
    exact h c hc

/-- **Taking the oldest item of its key.**  For every key, the item that is taken and the ones that
are left are what was there. -/
theorem itemsOf_eraseIdx {l : List α} {i : ℕ} {a : α} (ha : l[i]? = some a)
    (h : OldestAt key l i) (k : κ) :
    itemsOf key k [a] ++ itemsOf key k (l.eraseIdx i) = itemsOf key k l := by
  simp only [OldestAt, ha] at h
  have hsplit : l = l.take i ++ a :: l.drop (i + 1) := by
    obtain ⟨hi, hget⟩ := List.getElem?_eq_some_iff.mp ha
    rw [← hget, List.getElem_cons_drop, List.take_append_drop]
  rw [List.eraseIdx_eq_take_drop_succ]
  conv_rhs => rw [hsplit, List.append_cons, itemsOf_append, itemsOf_append]
  by_cases hk : key a = k
  · subst hk
    rw [itemsOf_append, itemsOf_eq_nil h, List.nil_append, List.nil_append]
  · rw [itemsOf_append, itemsOf_singleton_of_ne hk, List.nil_append, List.append_nil]

/-! ### The last item of every key -/

/-- What a reader has who keeps the last item of every key. -/
def lastOfEach (key : α → κ) (l : List α) : κ → Option α :=
  l.foldl (fun seen a => Function.update seen (key a) (some a)) fun _ => none

lemma lastOfEach_concat (l : List α) (a : α) :
    lastOfEach key (l ++ [a]) = Function.update (lastOfEach key l) (key a) (some a) := by
  rw [lastOfEach, List.foldl_append]
  rfl

lemma lastOfEach_eq (l : List α) (k : κ) : lastOfEach key l k = (itemsOf key k l).getLast? := by
  induction l using List.reverseRecOn with
  | nil => rfl
  | append_singleton l a ih =>
    rw [lastOfEach_concat, itemsOf_append]
    by_cases hk : key a = k
    · subst hk
      simp [itemsOf_singleton_self]
    · rw [Function.update_of_ne (Ne.symm hk), itemsOf_singleton_of_ne hk, List.append_nil, ih]

end Backlog

/-! ## Logs of bounded length

Whoever appends an entry and cuts the log to its bound keeps this up; whoever only appends does so
as long as there is room. -/

section BoundedLog

variable {α : Type*} {log past : List α} {n : ℕ}

/-- The log has the last entries of the past, as many as fit. -/
def KeepsLast (n : ℕ) (log past : List α) : Prop := log.length ≤ n ∧ log = past.rtake n

lemma length_rtake (l : List α) (n : ℕ) : (l.rtake n).length = min n l.length := by
  rw [List.rtake_eq_reverse_take_reverse, List.length_reverse, List.length_take,
    List.length_reverse]

lemma keepsLast_nil : KeepsLast n ([] : List α) [] := ⟨Nat.zero_le n, (List.rtake_nil n).symm⟩

lemma rtake_rtake (l : List α) {m n : ℕ} (h : m ≤ n) : (l.rtake n).rtake m = l.rtake m := by
  simp only [List.rtake_eq_reverse_take_reverse, List.reverse_reverse, List.take_take,
    Nat.min_eq_left h]

/-- **Appending and cutting.** -/
theorem KeepsLast.trim (h : KeepsLast (n + 1) log past) (entry : α) :
    KeepsLast (n + 1) ((log ++ [entry]).rtake (n + 1)) (past ++ [entry]) := by
  refine ⟨?_, ?_⟩
  · rw [length_rtake]
    exact Nat.min_le_left _ _
  · rw [List.rtake_concat_succ, List.rtake_concat_succ, h.2, rtake_rtake past (Nat.le_succ n)]

/-- **Appending where there is room.** -/
theorem KeepsLast.append (h : KeepsLast n log past) (hroom : log.length < n) (entry : α) :
    KeepsLast n (log ++ [entry]) (past ++ [entry]) := by
  have hshort : past.length < n := by
    have hlen := congrArg List.length h.2
    rw [length_rtake] at hlen
    omega
  have hall : log = past := by
    rw [h.2, List.rtake, Nat.sub_eq_zero_of_le hshort.le, List.drop_zero]
  subst hall
  refine ⟨by simpa using hshort, ?_⟩
  rw [List.rtake, List.length_append, List.length_singleton, Nat.sub_eq_zero_of_le hroom,
    List.drop_zero]

/-- Without room, the log gets too long. -/
lemma KeepsLast.not_append (hfull : ¬ log.length < n) (entry : α) :
    ¬ KeepsLast n (log ++ [entry]) (past ++ [entry]) := by
  rintro ⟨hlen, -⟩
  rw [List.length_append, List.length_singleton] at hlen
  omega

end BoundedLog

/-! ## Paging by a cursor

Each page is asked for by the greatest key of the pages before it, and begins with what comes after
that key. -/

section Paging

variable {α κ : Type*} [LinearOrder κ] (key : α → κ)

/-- What comes after a key. -/
def after (cursor : κ) (l : List α) : List α := l.filter fun a => cursor < key a

variable {key} {cursor m : κ} {l : List α} {n : ℕ}

lemma mem_after {a : α} : a ∈ after key cursor l ↔ a ∈ l ∧ cursor < key a := by
  simp [after]

/-- **A page.**  What comes after the greatest key of a page is what the page has left over. -/
theorem after_greatest (hsorted : l.Pairwise fun a b => key a < key b)
    (hm : ∃ a ∈ (after key cursor l).take n, key a = m)
    (hgreatest : ∀ a ∈ (after key cursor l).take n, key a ≤ m) :
    after key m l = (after key cursor l).drop n := by
  obtain ⟨last, hlast, rfl⟩ := hm
  have hcursor : cursor < key last := (mem_after.mp (List.mem_of_mem_take hlast)).2
  have hafter : after key (key last) l = after key (key last) (after key cursor l) := by
    rw [after, after, after, List.filter_filter]
    refine List.filter_congr fun a _ => ?_
    simpa using fun h => hcursor.trans h
  have hpage : after key (key last) ((after key cursor l).take n) = [] :=
    List.filter_eq_nil_iff.mpr fun a ha => by simpa using hgreatest a ha
  have hrest : after key (key last) ((after key cursor l).drop n) =
      (after key cursor l).drop n := by
    refine List.filter_eq_self.mpr fun a ha => ?_
    -- what is left over comes after everything on the page
    have hsplit : ((after key cursor l).take n ++ (after key cursor l).drop n).Pairwise
        fun a b => key a < key b := by
      rw [List.take_append_drop]
      exact hsorted.filter _
    simpa using (List.pairwise_append.mp hsplit).2.2 last hlast a ha
  rw [hafter]
  conv_lhs => rw [← List.take_append_drop n (after key cursor l)]
  rw [after, List.filter_append]
  exact (congrArg₂ (· ++ ·) hpage hrest).trans (List.nil_append _)

end Paging

end Lib
