/-
# Transactions

A transaction is a sequence of statements on the state of a database, any of which may fail.
When one does, the transaction is rolled back and its answer is the error; otherwise the state it
has reached is committed.
-/
import Mathlib

namespace Lib

universe u v

variable {σ : Type u} {ε : Type v} {α β : Type u}

/-- The body of a transaction. -/
abbrev Tx (σ : Type u) (ε : Type v) (α : Type u) := StateT σ (Except ε) α

/-- Run a body as a transaction: commit it, or roll it back. -/
def atomically (tx : Tx σ ε α) (s : σ) : Except ε α × σ :=
  match tx s with
  | .ok (a, s') => (.ok a, s')
  | .error e => (.error e, s)

/-- A transaction that fails leaves the state as it was. -/
lemma atomically_error {tx : Tx σ ε α} {s : σ} {e : ε} (h : (atomically tx s).1 = .error e) :
    (atomically tx s).2 = s := by
  simp only [atomically] at h ⊢
  cases htx : tx s with
  | error e' => rfl
  | ok p => simp [htx] at h

lemma atomically_ok {tx : Tx σ ε α} {s : σ} {a : α} (h : (atomically tx s).1 = .ok a) :
    tx s = .ok (a, (atomically tx s).2) := by
  simp only [atomically] at h ⊢
  cases htx : tx s with
  | error e => simp [htx] at h
  | ok p =>
    simp only [htx, Except.ok.injEq] at h ⊢
    rw [← h]

namespace Tx

/-- The part of a body that has succeeded, taken apart at a bind. -/
lemma bind_eq_ok {x : Tx σ ε α} {f : α → Tx σ ε β} {s s'' : σ} {b : β} :
    (x >>= f) s = .ok (b, s'') ↔ ∃ a s', x s = .ok (a, s') ∧ f a s' = .ok (b, s'') := by
  change ((x s) >>= fun p => f p.1 p.2) = _ ↔ _
  cases hx : x s with
  | error e => simp [bind, Except.bind]
  | ok p =>
    obtain ⟨a, s'⟩ := p
    simp [bind, Except.bind]

/-- The part of a body that has failed, taken apart at a bind. -/
lemma bind_eq_error {x : Tx σ ε α} {f : α → Tx σ ε β} {s : σ} {e : ε} :
    (x >>= f) s = .error e ↔ x s = .error e ∨ ∃ a s', x s = .ok (a, s') ∧ f a s' = .error e := by
  change ((x s) >>= fun p => f p.1 p.2) = _ ↔ _
  cases hx : x s with
  | error e' => simp [bind, Except.bind]
  | ok p =>
    obtain ⟨a, s'⟩ := p
    simp [bind, Except.bind]

@[simp] lemma pure_ne_error {s : σ} {a : α} {e : ε} : (pure a : Tx σ ε α) s ≠ .error e := by
  simp [pure, StateT.pure, Except.pure]

@[simp] lemma get_ne_error {s : σ} {e : ε} : (get : Tx σ ε σ) s ≠ .error e := by
  simp [get, getThe, MonadStateOf.get, StateT.get, pure, Except.pure]

@[simp] lemma throw_eq_error {s : σ} {e e' : ε} :
    (throw e : Tx σ ε α) s = .error e' ↔ e = e' := by
  simp [throw, throwThe, MonadExceptOf.throw, StateT.lift, bind, Except.bind]

@[simp] lemma pure_eq_ok {s s' : σ} {a b : α} :
    (pure a : Tx σ ε α) s = .ok (b, s') ↔ a = b ∧ s = s' := by
  simp [pure, StateT.pure, Except.pure]

@[simp] lemma throw_ne_ok {e : ε} {s : σ} {p : α × σ} :
    (throw e : Tx σ ε α) s ≠ .ok p := by
  simp [throw, throwThe, MonadExceptOf.throw, StateT.lift, bind, Except.bind]

@[simp] lemma get_eq_ok {s s' t : σ} : (get : Tx σ ε σ) s = .ok (t, s') ↔ s = t ∧ s = s' := by
  simp [get, getThe, MonadStateOf.get, StateT.get, pure, Except.pure]

@[simp] lemma set_eq_ok {s s' t : σ} {u : PUnit} :
    (set t : Tx σ ε PUnit) s = .ok (u, s') ↔ t = s' := by
  simp [set, StateT.set, pure, Except.pure]

@[simp] lemma throw_bind_ne_ok {e : ε} {f : α → Tx σ ε β} {s : σ} {p : β × σ} :
    ((throw e : Tx σ ε α) >>= f) s ≠ .ok p := by
  intro h
  obtain ⟨a, s', ha, -⟩ := bind_eq_ok.mp h
  exact throw_ne_ok ha

/-- A guard at the end of a body has passed. -/
lemma guard_eq_ok {c : Prop} [Decidable c] {e : ε} {x : Tx σ ε α} {s : σ} {p : α × σ} :
    (if c then throw e else x : Tx σ ε α) s = .ok p ↔ ¬ c ∧ x s = .ok p := by
  by_cases hc : c <;> simp [hc]

/-- A guard in the middle of a body has passed. -/
lemma guard_bind_eq_ok {c : Prop} [Decidable c] {e : ε} {f : β → Tx σ ε α} {x : Tx σ ε α} {s : σ}
    {p : α × σ} : (if c then throw e >>= f else x : Tx σ ε α) s = .ok p ↔ ¬ c ∧ x s = .ok p := by
  by_cases hc : c <;> simp [hc]

/-! ## What a body keeps -/

variable {I : σ → Prop}

/-- Whenever the body succeeds, the property holds afterwards if it did before. -/
def Keeps (I : σ → Prop) (tx : Tx σ ε α) : Prop :=
  ∀ s a s', tx s = .ok (a, s') → I s → I s'

namespace Keeps

lemma of_eq {tx : Tx σ ε α} (h : ∀ s a s', tx s = .ok (a, s') → s' = s) : Keeps I tx := by
  intro s a s' htx hI
  rwa [h s a s' htx]

lemma pure (a : α) : Keeps I (Pure.pure a : Tx σ ε α) :=
  of_eq fun _ _ _ h => (pure_eq_ok.mp h).2.symm

lemma throw (e : ε) : Keeps I (MonadExcept.throw e : Tx σ ε α) := fun _ _ _ h =>
  absurd h throw_ne_ok

lemma get : Keeps I (MonadState.get : Tx σ ε σ) := of_eq fun _ _ _ h => (get_eq_ok.mp h).2.symm

/-- **Sequencing.** -/
theorem bind {x : Tx σ ε α} {f : α → Tx σ ε β} (hx : Keeps I x) (hf : ∀ a, Keeps I (f a)) :
    Keeps I (x >>= f) := by
  intro s b s'' h hI
  obtain ⟨a, s', ha, hb⟩ := bind_eq_ok.mp h
  exact hf a s' b s'' hb (hx s a s' ha hI)

lemma ite {c : Prop} [Decidable c] {x y : Tx σ ε α} (hx : Keeps I x) (hy : Keeps I y) :
    Keeps I (if c then x else y) := by
  by_cases hc : c
  · rwa [if_pos hc]
  · rwa [if_neg hc]

/-- A transaction keeps what its body keeps. -/
lemma atomically {tx : Tx σ ε α} (h : Keeps I tx) {s : σ} (hI : I s) :
    I (Lib.atomically tx s).2 := by
  cases hr : (Lib.atomically tx s).1 with
  | error e => rwa [atomically_error hr]
  | ok a => exact h s a _ (atomically_ok hr) hI

end Keeps

end Tx

end Lib
