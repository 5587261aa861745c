/-
# A cache that is written after the store

A writer puts its value into a store and then, in a step of its own, into a cache; between the two
steps other writers may come in between.  Each value belongs to a key.  The cache ends with what
the store has if the values of every key reach the cache in the order in which they reached the
store.
-/
import OzonSuite.Lib.Sequences

namespace Lib

/-- A store and a cache; `pending` are the values that are in the store and on their way to the
cache, in the order in which they were put. -/
@[ext] structure WriteThrough (κ α : Type*) where
  store : κ → Option α
  cache : κ → Option α
  pending : List α

namespace WriteThrough

variable {κ α : Type*} [DecidableEq κ] (key : α → κ)

/-- The first step of a writer. -/
def put (s : WriteThrough κ α) (a : α) : WriteThrough κ α :=
  { s with
    store := Function.update s.store (key a) (some a)
    pending := s.pending ++ [a] }

/-- The second step of the `i`-th writer under way. -/
def flush (s : WriteThrough κ α) (i : ℕ) : WriteThrough κ α :=
  match s.pending[i]? with
  | none => s
  | some a => { s with
      cache := Function.update s.cache (key a) (some a)
      pending := s.pending.eraseIdx i }

/-- The cache has nothing of a key, or what the store has. -/
def Agrees (s : WriteThrough κ α) (k : κ) : Prop := s.cache k = none ∨ s.cache k = s.store k

/-- The store has the youngest value of each key that is on its way to the cache; where none is,
the cache agrees with it. -/
def Inv (s : WriteThrough κ α) : Prop :=
  ∀ k, match (itemsOf key k s.pending).getLast? with
    | some a => s.store k = some a
    | none => s.Agrees k

variable {key} {s : WriteThrough κ α}

/-- A quiet cache agrees with the store. -/
theorem Inv.agrees (h : s.Inv key) (hquiet : s.pending = []) (k : κ) : s.Agrees k := by
  have hk := h k
  rwa [hquiet] at hk

theorem Inv.put (h : s.Inv key) (a : α) : (s.put key a).Inv key := by
  intro k
  have hk := h k
  rw [WriteThrough.put, itemsOf_append]
  by_cases hkey : key a = k
  · subst hkey
    rw [itemsOf_singleton_self, List.getLast?_concat]
    exact Function.update_self ..
  · rw [itemsOf_singleton_of_ne hkey, List.append_nil]
    simp only [Agrees, Function.update_of_ne (Ne.symm hkey)]
    exact hk

/-- **Writing the cache in order.**  The oldest value of its key goes to the cache. -/
theorem Inv.flush (h : s.Inv key) {i : ℕ} (holdest : OldestAt key s.pending i) :
    (s.flush key i).Inv key := by
  rw [WriteThrough.flush]
  cases hi : s.pending[i]? with
  | none => exact h
  | some a =>
    intro k
    have hk := h k
    have hitems := itemsOf_eraseIdx hi holdest k
    by_cases hkey : key a = k
    · subst hkey
      rw [itemsOf_singleton_self] at hitems
      rw [← hitems] at hk
      cases hrest : itemsOf key (key a) (s.pending.eraseIdx i) with
      | nil =>
        -- nothing younger is under way, so the store still has this value
        rw [hrest] at hk
        have hstore : s.store (key a) = some a := hk
        rw [List.getLast?_nil]
        exact .inr (by simp [hstore])
      | cons b l =>
        rw [hrest, List.singleton_append, List.getLast?_cons_cons] at hk
        exact hk
    · rw [itemsOf_singleton_of_ne hkey, List.nil_append] at hitems
      simp only [hitems, Agrees, Function.update_of_ne (Ne.symm hkey)]
      exact hk

end WriteThrough

end Lib
