/-
# Procedures as sequences of calls

A procedure that works on something shared does so by calls, and between two of its calls anything
may happen.  Such a procedure is the tree of the calls that it makes: what it does next depends on
what the call before answered.  The same tree is run in one go, when nothing intervenes, and one
call at a time, when other procedures run beside it.
-/
import Mathlib

namespace Lib

/-- A procedure with answers in `α` that makes calls `c : κ`, each of them answered in `ρ c`. -/
inductive Calls (κ : Type) (ρ : κ → Type) (α : Type)
  | done (answer : α)
  | call (c : κ) (next : ρ c → Calls κ ρ α)

namespace Calls

variable {κ : Type} {ρ : κ → Type} {α β σ : Type}

/-- First the one procedure, then with its answer the other. -/
def andThen : Calls κ ρ α → (α → Calls κ ρ β) → Calls κ ρ β
  | done a, f => f a
  | call c next, f => call c fun r => (next r).andThen f

instance : Monad (Calls κ ρ) where
  pure := done
  bind := andThen

/-- A single call. -/
def perform (c : κ) : Calls κ ρ (ρ c) := call c done

/-- The call that comes next. -/
def head? : Calls κ ρ α → Option κ
  | done _ => none
  | call c _ => some c

@[simp] lemma pure_eq (a : α) : (pure a : Calls κ ρ α) = done a := rfl

@[simp] lemma done_bind (a : α) (f : α → Calls κ ρ β) : (done a >>= f) = f a := rfl

@[simp] lemma call_bind (c : κ) (next : ρ c → Calls κ ρ α) (f : α → Calls κ ρ β) :
    (call c next >>= f) = call c fun r => next r >>= f := rfl

@[simp] lemma perform_bind (c : κ) (f : ρ c → Calls κ ρ β) : (perform c >>= f) = call c f := rfl

instance : LawfulMonad (Calls κ ρ) :=
  LawfulMonad.mk' (Calls κ ρ)
    (fun p => by
      change p.andThen done = p
      induction p with
      | done a => rfl
      | call c next ih => exact congrArg (call c) (funext ih))
    (fun _ _ => rfl)
    (fun p f g => by
      change (p.andThen f).andThen g = p.andThen fun a => (f a).andThen g
      induction p with
      | done a => rfl
      | call c next ih => exact congrArg (call c) (funext ih))

/-- The answer of a procedure that is left alone, and the state it leaves. -/
def run (handle : (c : κ) → σ → ρ c × σ) : Calls κ ρ α → σ → α × σ
  | done a, s => (a, s)
  | call c next, s => (next (handle c s).1).run handle (handle c s).2

variable {handle : (c : κ) → σ → ρ c × σ}

@[simp] lemma run_done (a : α) (s : σ) : (done a : Calls κ ρ α).run handle s = (a, s) := rfl

@[simp] lemma run_call (c : κ) (next : ρ c → Calls κ ρ α) (s : σ) :
    (call c next).run handle s = (next (handle c s).1).run handle (handle c s).2 := rfl

lemma run_bind (p : Calls κ ρ α) (f : α → Calls κ ρ β) (s : σ) :
    (p >>= f).run handle s = (f (p.run handle s).1).run handle (p.run handle s).2 := by
  induction p generalizing s with
  | done a => rfl
  | call c next ih =>
    rw [call_bind, run_call, run_call]
    exact ih _ _

/-- The calls that are made, each with its answer. -/
def exchanges (handle : (c : κ) → σ → ρ c × σ) : Calls κ ρ α → σ → List ((c : κ) × ρ c)
  | done _, _ => []
  | call c next, s =>
    ⟨c, (handle c s).1⟩ :: (next (handle c s).1).exchanges handle (handle c s).2

@[simp] lemma exchanges_done (a : α) (s : σ) :
    (done a : Calls κ ρ α).exchanges handle s = [] := rfl

@[simp] lemma exchanges_call (c : κ) (next : ρ c → Calls κ ρ α) (s : σ) :
    (call c next).exchanges handle s =
      ⟨c, (handle c s).1⟩ :: (next (handle c s).1).exchanges handle (handle c s).2 := rfl

lemma exchanges_bind (p : Calls κ ρ α) (f : α → Calls κ ρ β) (s : σ) :
    (p >>= f).exchanges handle s = p.exchanges handle s ++
      (f (p.run handle s).1).exchanges handle (p.run handle s).2 := by
  induction p generalizing s with
  | done a => rfl
  | call c next ih =>
    rw [call_bind, exchanges_call, exchanges_call, run_call, List.cons_append]
    exact congrArg _ (ih _ _)

end Calls

end Lib
