/-
# Lookups after an update

The facts that an invariant over a collection of records needs: what is found in a finite map after
an insertion, and what a slot holds after one has been overwritten or added.
-/
import Mathlib

namespace Lib

/-! ## Finite maps -/

section Maps

variable {κ ν : Type*} [DecidableEq κ] {m : Finmap (fun _ : κ => ν)} {k k' : κ} {v w : ν}

/-- What is found after an insertion is the new entry, or an old one under another key. -/
lemma lookup_insert_eq_some :
    (m.insert k v).lookup k' = some w ↔
      (k' = k ∧ w = v) ∨ (k' ≠ k ∧ m.lookup k' = some w) := by
  by_cases hk : k' = k
  · subst hk
    simp [Finmap.lookup_insert, eq_comm]
  · simp [Finmap.lookup_insert_of_ne _ hk, hk]

/-- Writing back the value that is there changes nothing. -/
lemma insert_lookup_self (h : m.lookup k = some v) : m.insert k v = m := by
  refine Finmap.ext_lookup fun k' => ?_
  by_cases hk : k' = k
  · rw [hk, Finmap.lookup_insert, h]
  · rw [Finmap.lookup_insert_of_ne _ hk]

end Maps

/-! ## Slots

A list of requests in the order in which they came, each with a place of its own for ever: a
request that has come to its end leaves its slot empty, so the number of the slot names the
request in every later state. -/

section Slots

variable {α : Type*}

/-- What the `i`-th slot holds. -/
def slot (l : List (Option α)) (i : ℕ) : Option α := l[i]?.join

variable {l : List (Option α)} {i j : ℕ} {a : α} {v : Option α}

@[simp] lemma slot_nil : slot ([] : List (Option α)) i = none := rfl

lemma slot_eq_some : slot l i = some a ↔ l[i]? = some (some a) := by
  rw [slot, Option.join_eq_some_iff]

/-- The slots after the `i`-th one has been overwritten. -/
lemma slot_set (h : slot (l.set i v) j = some a) :
    (j = i ∧ v = some a) ∨ (j ≠ i ∧ slot l j = some a) := by
  rw [slot_eq_some, List.getElem?_set] at h
  split at h
  · next hij =>
    split at h
    · exact .inl ⟨hij.symm, Option.some.inj h⟩
    · cases h
  · next hij => exact .inr ⟨Ne.symm hij, slot_eq_some.mpr h⟩

/-- The slots after a new one has been added. -/
lemma slot_append (h : slot (l ++ [v]) j = some a) :
    (j = l.length ∧ v = some a) ∨ slot l j = some a := by
  rw [slot_eq_some] at h
  rcases Nat.lt_trichotomy j l.length with hj | rfl | hj
  · rw [List.getElem?_append_left hj] at h
    exact .inr (slot_eq_some.mpr h)
  · rw [List.getElem?_append_right le_rfl] at h
    simp only [Nat.sub_self, List.getElem?_cons_zero, Option.some.injEq] at h
    exact .inl ⟨rfl, h⟩
  · rw [List.getElem?_eq_none (by simp; omega)] at h
    cases h

lemma mem_of_slot (h : slot l i = some a) : some a ∈ l :=
  List.mem_of_getElem? (slot_eq_some.mp h)

end Slots

end Lib
