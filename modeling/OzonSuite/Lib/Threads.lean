/-
# Threads over something shared

The threads of a program run their blocks one at a time, each block under a lock, and between two
blocks of one thread any other thread may run some of its own.  A thread is the point that it has
reached together with its local variables; a block changes what is shared, moves its thread on, and
may start more threads.
-/
import Mathlib

namespace Lib

/-- What a block of a thread comes to. -/
structure Block (σ τ : Type*) where
  /-- Where the thread is now. -/
  next : τ
  /-- The threads that it has started. -/
  started : List τ
  shared : σ

/-- Threads over something shared, in the order in which they were started. -/
structure Threads (σ τ : Type*) where
  shared : σ
  threads : List τ

/-- The threads by their numbers, once one more has been started. -/
lemma getElem?_concat_eq_some {α : Type*} {l : List α} {a b : α} {i : ℕ} :
    (l ++ [a])[i]? = some b ↔ l[i]? = some b ∨ (i = l.length ∧ b = a) := by
  rcases Nat.lt_trichotomy i l.length with hi | rfl | hi
  · simp [List.getElem?_append_left hi, hi.ne]
  · simp [eq_comm]
  · have hright : l.length ≤ i := hi.le
    have hpast : (l ++ [a]).length ≤ i := by simpa using hi
    simp [List.getElem?_eq_none hright, List.getElem?_eq_none hpast, hi.ne']

namespace Threads

variable {σ τ κ : Type*}

/-- The `i`-th thread has run a block. -/
def after (s : Threads σ τ) (i : ℕ) (b : Block σ τ) : Threads σ τ :=
  ⟨b.shared, s.threads.set i b.next ++ b.started⟩

variable {s : Threads σ τ} {i : ℕ} {b : Block σ τ} {t u : τ}

@[simp] lemma shared_after : (s.after i b).shared = b.shared := rfl

lemma mem_after (h : t ∈ (s.after i b).threads) : t ∈ s.threads ∨ t ∈ b.next :: b.started := by
  rcases List.mem_append.mp h with h | h
  · rcases List.mem_or_eq_of_mem_set h with h | rfl
    · exact .inl h
    · exact .inr (List.mem_cons_self ..)
  · exact .inr (List.mem_cons_of_mem _ h)

lemma next_mem_after (hi : s.threads[i]? = some t) : b.next ∈ (s.after i b).threads := by
  have hlt : i < s.threads.length := (List.getElem?_eq_some_iff.mp hi).1
  exact List.mem_append_left _ (List.mem_set hlt b.next)

/-- The other threads are where they were. -/
lemma mem_after_of_ne (hi : s.threads[i]? = some t) (hu : u ∈ s.threads) (hne : u ≠ t) :
    u ∈ (s.after i b).threads := by
  refine List.mem_append_left _ ?_
  obtain ⟨j, hj⟩ := List.mem_iff_getElem?.mp hu
  have hij : i ≠ j := by
    rintro rfl
    rw [hi] at hj
    exact hne (Option.some.inj hj).symm
  exact List.mem_of_getElem? ((List.getElem?_set_ne hij).trans hj)

/-- What holds of every thread, and of those that a block leaves, holds of every thread after it. -/
lemma forall_after {P : τ → Prop} (h : ∀ t ∈ s.threads, P t)
    (hblock : ∀ t ∈ b.next :: b.started, P t) : ∀ t ∈ (s.after i b).threads, P t := by
  intro t ht
  rcases mem_after ht with ht | ht
  · exact h t ht
  · exact hblock t ht

/-- The threads by their numbers, after a block that starts no thread. -/
lemma getElem?_after {j : ℕ} {next : τ} {shared : σ}
    (h : (s.after i ⟨next, [], shared⟩).threads[j]? = some u) :
    (j = i ∧ u = next) ∨ (j ≠ i ∧ s.threads[j]? = some u) := by
  simp only [after, List.append_nil, List.getElem?_set] at h
  split_ifs at h with hij hlt
  · exact .inl ⟨hij.symm, (Option.some.inj h).symm⟩
  · exact .inr ⟨Ne.symm hij, h⟩

lemma getElem?_after_self (hi : s.threads[i]? = some t) :
    (s.after i b).threads[i]? = some b.next := by
  have hlt : i < s.threads.length := (List.getElem?_eq_some_iff.mp hi).1
  rw [after, List.getElem?_append_left (by simpa using hlt), List.getElem?_set_self hlt]

lemma getElem?_after_of_ne {j : ℕ} (hij : i ≠ j) (hj : s.threads[j]? = some u) :
    (s.after i b).threads[j]? = some u := by
  have hlt : j < s.threads.length := (List.getElem?_eq_some_iff.mp hj).1
  rw [after, List.getElem?_append_left (by simpa using hlt), List.getElem?_set_ne hij]
  exact hj

/-! ## Nothing gets lost -/

/-- Whatever is live is kept in the shared state or held by a thread. -/
def Accounted (live kept : σ → κ → Prop) (holds : τ → κ → Prop) (s : Threads σ τ) : Prop :=
  ∀ r, live s.shared r → kept s.shared r ∨ ∃ t ∈ s.threads, holds t r

variable {live kept : σ → κ → Prop} {holds : τ → κ → Prop}

/-- **Ownership rule.**  Nothing gets lost in a block that puts away or keeps at hand everything
that is live after it and was kept before, held by its own thread, or not live. -/
theorem Accounted.after (h : s.Accounted live kept holds) (hi : s.threads[i]? = some t)
    (hblock : ∀ r, live b.shared r → kept s.shared r ∨ holds t r ∨ ¬ live s.shared r →
      kept b.shared r ∨ holds b.next r) : (s.after i b).Accounted live kept holds := by
  intro r hr
  have hown : kept s.shared r ∨ holds t r ∨ ¬ live s.shared r →
      kept b.shared r ∨ ∃ u ∈ (s.after i b).threads, holds u r := by
    intro hcase
    rcases hblock r hr hcase with hk | hn
    · exact .inl hk
    · exact .inr ⟨b.next, next_mem_after hi, hn⟩
  by_cases hlive : live s.shared r
  · rcases h r hlive with hk | ⟨u, hu, hheld⟩
    · exact hown (.inl hk)
    · by_cases hut : u = t
      · exact hown (.inr (.inl (hut ▸ hheld)))
      · -- another thread holds it still
        exact .inr ⟨u, mem_after_of_ne hi hu hut, hheld⟩
  · exact hown (.inr (.inr hlive))

/-! ## Nothing is held twice -/

/-- The threads, the one that runs a block in front, before the block and after it. -/
lemma exists_rest (hi : s.threads[i]? = some t) :
    ∃ rest, s.threads.Perm (t :: rest) ∧
      ∀ b : Block σ τ, (s.after i b).threads.Perm (b.next :: b.started ++ rest) := by
  obtain ⟨hlt, rfl⟩ := List.getElem?_eq_some_iff.mp hi
  refine ⟨s.threads.take i ++ s.threads.drop (i + 1), ?_, fun b => ?_⟩
  · conv_lhs => rw [← List.take_append_drop i s.threads, List.drop_eq_getElem_cons hlt]
    exact List.perm_middle
  · have hset : (s.after i b).threads =
        s.threads.take i ++ b.next :: s.threads.drop (i + 1) ++ b.started := by
      rw [after, List.set_eq_take_append_cons_drop, if_pos hlt]
    rw [hset]
    refine List.perm_append_comm.trans ?_
    refine (List.Perm.append_left b.started List.perm_middle).trans ?_
    exact List.perm_middle

/-- No two threads hold the same. -/
def Exclusive (hold : τ → Option κ) (s : Threads σ τ) : Prop := (s.threads.filterMap hold).Nodup

variable {hold : τ → Option κ}

/-- What the threads hold, the thread that runs a block in front, before the block and after it. -/
lemma exists_held_rest (hi : s.threads[i]? = some t) (hold : τ → Option κ) :
    ∃ rest, (s.threads.filterMap hold).Perm ((hold t).toList ++ rest) ∧
      ∀ b : Block σ τ, ((s.after i b).threads.filterMap hold).Perm
        ((b.next :: b.started).filterMap hold ++ rest) := by
  obtain ⟨rest, hbefore, hafter⟩ := exists_rest hi
  refine ⟨rest.filterMap hold, ?_, fun b => ?_⟩
  · have hcons : (t :: rest).filterMap hold = (hold t).toList ++ rest.filterMap hold := by
      cases ht : hold t <;> simp [ht]
    exact hcons ▸ hbefore.filterMap hold
  · rw [← List.filterMap_append]
    exact (hafter b).filterMap hold

/-- **Transfer rule.**  Nothing is held twice after a block that leaves its thread, and those that
it starts, with nothing but what the thread has held. -/
theorem Exclusive.after (h : s.Exclusive hold) (hi : s.threads[i]? = some t)
    (hblock : ((b.next :: b.started).filterMap hold).Sublist (hold t).toList) :
    (s.after i b).Exclusive hold := by
  obtain ⟨rest, hbefore, hafter⟩ := exists_held_rest hi hold
  exact (hafter b).nodup_iff.mpr ((hblock.append_right rest).nodup (hbefore.nodup_iff.mp h))

/-- A block may bring about something that no thread has held. -/
lemma Exclusive.after_new {r : κ} (h : s.Exclusive hold) (hi : s.threads[i]? = some t)
    (hblock : (b.next :: b.started).filterMap hold = [r])
    (hnew : ∀ u ∈ s.threads, hold u ≠ some r) : (s.after i b).Exclusive hold := by
  obtain ⟨rest, hbefore, hafter⟩ := exists_rest hi
  have hrest : ((t :: rest).filterMap hold).Nodup := (hbefore.filterMap hold).nodup_iff.mp h
  refine ((hafter b).filterMap hold).nodup_iff.mpr ?_
  rw [List.filterMap_append, hblock, List.singleton_append, List.nodup_cons]
  refine ⟨fun hmem => ?_, (List.sublist_cons_self t rest).filterMap hold |>.nodup hrest⟩
  obtain ⟨u, hu, hheld⟩ := List.mem_filterMap.mp hmem
  exact hnew u (hbefore.mem_iff.mpr (List.mem_cons_of_mem t hu)) hheld

/-- The other threads do not hold what the thread holds. -/
lemma Exclusive.mem_after {r : κ} (h : s.Exclusive hold) (hi : s.threads[i]? = some t)
    (ht : hold t = some r) (hu : u ∈ (s.after i b).threads) (hheld : hold u = some r) :
    u ∈ b.next :: b.started := by
  obtain ⟨rest, hbefore, hafter⟩ := exists_rest hi
  rcases List.mem_append.mp ((hafter b).mem_iff.mp hu) with hu | hu
  · exact hu
  · have hnodup : ((t :: rest).filterMap hold).Nodup := (hbefore.filterMap hold).nodup_iff.mp h
    rw [List.filterMap_cons_some ht, List.nodup_cons] at hnodup
    exact absurd (List.mem_filterMap.mpr ⟨u, hu, hheld⟩) hnodup.1

end Threads

end Lib
