/-
# Handlers that work on a shared state

A handler reads and writes a shared state and may fail; what it had written before it failed
stays written.  Such a handler is an `EStateM`.  This file has the rules by which one reasons
about what a handler leaves behind, whether it fails or not.
-/
import Mathlib

namespace Lib

variable {ε ε' σ α β : Type}

/-- The state in which a call ends, whether it fails or not. -/
def finalState : EStateM.Result ε σ α → σ
  | .ok _ s => s
  | .error _ s => s

/-- What a call answers. -/
def outcome : EStateM.Result ε σ α → Except ε α
  | .ok a _ => .ok a
  | .error e _ => .error e

/-- Run a body and hand its error on as a value. -/
def attempt (m : EStateM ε σ α) : EStateM ε' σ (Except ε α) := fun s =>
  match m s with
  | .ok a s => .ok (.ok a) s
  | .error e s => .ok (.error e) s

section Checks

variable {m : Type → Type} [Monad m] [MonadExceptOf ε m]

/-- Fail if the condition holds. -/
def refuseIf (c : Prop) [Decidable c] (e : ε) : m Unit := if c then throw e else pure ()

/-- The value of an option, or an error in its place. -/
def okOr (o : Option α) (e : ε) : m α :=
  match o with
  | some a => pure a
  | none => throw e

end Checks

/-! ## Checks that only answer -/

section Answers

variable {c : Prop} [Decidable c] {o : Option α} {e : ε}

lemma Except.bind_eq_ok {r : Except ε α} {f : α → Except ε β} {b : β} :
    (r >>= f) = .ok b ↔ ∃ a, r = .ok a ∧ f a = .ok b := by
  cases r <;> simp [bind, Except.bind]

lemma Except.ok_bind (a : α) (f : α → Except ε β) : (Except.ok a >>= f) = f a := rfl

/-- Two computations that begin alike come to the same if they go on alike. -/
lemma Except.map_bind_congr {γ : Type} {x : Except ε α} {f f' : α → Except ε β} {g : β → γ}
    (h : ∀ a, (f a).map g = (f' a).map g) : (x >>= f).map g = (x >>= f').map g := by
  cases x with
  | error e => rfl
  | ok a => exact h a

@[simp] lemma Except.refuseIf_eq_ok {u : Unit} :
    (refuseIf c e : Except ε Unit) = .ok u ↔ ¬ c := by
  by_cases hc : c <;> simp [refuseIf, hc, throw, throwThe, MonadExceptOf.throw, pure, Except.pure]

@[simp] lemma Except.okOr_eq_ok {a : α} : (okOr o e : Except ε α) = .ok a ↔ o = some a := by
  cases o <;> simp [okOr, throw, throwThe, MonadExceptOf.throw, pure, Except.pure]

@[simp] lemma Except.mapError_eq_ok {r : Except ε α} {f : ε → ε'} {a : α} :
    r.mapError f = .ok a ↔ r = .ok a := by
  cases r <;> simp [Except.mapError]

end Answers

/-! ## What a call answers and leaves behind -/

section Rules

variable {m : EStateM ε σ α} {f : α → EStateM ε σ β} {s s'' : σ}

@[simp] lemma finalState_pure (a : α) : finalState ((pure a : EStateM ε σ α) s) = s := rfl

@[simp] lemma finalState_throw (e : ε) : finalState ((throw e : EStateM ε σ α) s) = s := rfl

@[simp] lemma finalState_get : finalState ((get : EStateM ε σ σ) s) = s := rfl

@[simp] lemma finalState_ofExcept (r : Except ε α) :
    finalState ((ofExcept r : EStateM ε σ α) s) = s := by
  cases r <;> rfl

@[simp] lemma finalState_attempt :
    finalState ((attempt m : EStateM ε' σ (Except ε α)) s) = finalState (m s) := by
  simp only [attempt]
  cases m s <;> rfl

@[simp] lemma outcome_attempt :
    outcome ((attempt m : EStateM ε' σ (Except ε α)) s) = .ok (outcome (m s)) := by
  simp only [attempt]
  cases m s <;> rfl

/-- A body that has succeeded, taken apart at a bind. -/
lemma bind_eq_ok {b : β} :
    (m >>= f) s = .ok b s'' ↔ ∃ a s', m s = .ok a s' ∧ f a s' = .ok b s'' := by
  change EStateM.bind m f s = _ ↔ _
  simp only [EStateM.bind]
  cases m s <;> simp

lemma bind_of_ok {a : α} {s' : σ} (h : m s = .ok a s') : (m >>= f) s = f a s' := by
  change EStateM.bind m f s = _
  simp only [EStateM.bind, h]

lemma bind_of_error {e : ε} {s' : σ} (h : m s = .error e s') : (m >>= f) s = .error e s' := by
  change EStateM.bind m f s = _
  simp only [EStateM.bind, h]

@[simp] lemma pure_eq_ok {a b : α} {s' : σ} :
    (pure a : EStateM ε σ α) s = .ok b s' ↔ a = b ∧ s = s' := by
  change EStateM.Result.ok a s = .ok b s' ↔ _
  simp

@[simp] lemma throw_ne_ok {e : ε} {a : α} {s' : σ} :
    (throw e : EStateM ε σ α) s ≠ .ok a s' := nofun

@[simp] lemma get_eq_ok {t s' : σ} : (get : EStateM ε σ σ) s = .ok t s' ↔ s = t ∧ s = s' := by
  change EStateM.Result.ok s s = .ok t s' ↔ _
  simp

@[simp] lemma set_eq_ok {t s' : σ} {u : PUnit} :
    (set t : EStateM ε σ PUnit) s = .ok u s' ↔ t = s' := by
  change EStateM.Result.ok PUnit.unit t = .ok u s' ↔ _
  simp

@[simp] lemma modify_eq_ok {g : σ → σ} {s' : σ} {u : PUnit} :
    (modify g : EStateM ε σ PUnit) s = .ok u s' ↔ g s = s' := by
  change EStateM.Result.ok PUnit.unit (g s) = .ok u s' ↔ _
  simp

@[simp] lemma refuseIf_eq_ok {c : Prop} [Decidable c] {e : ε} {u : Unit} {s' : σ} :
    (refuseIf c e : EStateM ε σ Unit) s = .ok u s' ↔ ¬ c ∧ s = s' := by
  by_cases hc : c <;> simp [refuseIf, hc]

@[simp] lemma okOr_eq_ok {o : Option α} {e : ε} {a : α} {s' : σ} :
    (okOr o e : EStateM ε σ α) s = .ok a s' ↔ o = some a ∧ s = s' := by
  cases o <;> simp [okOr]

@[simp] lemma finalState_refuseIf {c : Prop} [Decidable c] {e : ε} :
    finalState ((refuseIf c e : EStateM ε σ Unit) s) = s := by
  by_cases hc : c <;> simp [refuseIf, hc]

@[simp] lemma finalState_okOr {o : Option α} {e : ε} :
    finalState ((okOr o e : EStateM ε σ α) s) = s := by
  cases o <;> simp [okOr]

@[simp] lemma ofExcept_eq_ok {r : Except ε α} {a : α} {s' : σ} :
    (ofExcept r : EStateM ε σ α) s = .ok a s' ↔ r = .ok a ∧ s = s' := by
  cases r <;> simp [ofExcept]

/-- What a loop collects has what every round gives it. -/
lemma mapM_eq_ok {ι : Type} {l : List ι} {g : ι → EStateM ε σ β} {P : β → Prop}
    (hg : ∀ i ∈ l, ∀ s b s', g i s = .ok b s' → P b) {bs : List β} {s s' : σ}
    (h : l.mapM g s = .ok bs s') : ∀ b ∈ bs, P b := by
  induction l generalizing s s' bs with
  | nil =>
    rw [List.mapM_nil, pure_eq_ok] at h
    simp [← h.1]
  | cons i l ih =>
    simp only [List.mapM_cons, bind_eq_ok, pure_eq_ok] at h
    obtain ⟨b, s₁, hb, bs', s₂, hbs, rfl, -⟩ := h
    intro c hc
    rcases List.mem_cons.mp hc with rfl | hc
    · exact hg i List.mem_cons_self _ _ _ hb
    · exact ih (fun j hj => hg j (List.mem_cons_of_mem i hj)) hbs c hc

/-- A loop collects one value for every round. -/
lemma forall₂_mapM {ι : Type} {l : List ι} {g : ι → EStateM ε σ β} {bs : List β} {s s' : σ}
    (h : l.mapM g s = .ok bs s') : List.Forall₂ (fun i b => ∃ s s', g i s = .ok b s') l bs := by
  induction l generalizing s s' bs with
  | nil =>
    rw [List.mapM_nil, pure_eq_ok] at h
    rw [← h.1]
    exact .nil
  | cons i l ih =>
    simp only [List.mapM_cons, bind_eq_ok, pure_eq_ok] at h
    obtain ⟨b, s₁, hb, bs', s₂, hbs, rfl, -⟩ := h
    exact .cons ⟨s, s₁, hb⟩ (ih hbs)

/-- The state that a body leaves behind, at a bind. -/
lemma finalState_bind :
    finalState ((m >>= f) s) =
      match m s with
      | .ok a s' => finalState (f a s')
      | .error _ s' => s' := by
  change finalState (EStateM.bind m f s) = _
  simp only [EStateM.bind]
  cases m s <;> rfl

lemma finalState_bind_ok {a : α} {s' : σ} (h : m s = .ok a s') :
    finalState ((m >>= f) s) = finalState (f a s') := by
  rw [finalState_bind, h]

lemma finalState_bind_error {e : ε} {s' : σ} (h : m s = .error e s') :
    finalState ((m >>= f) s) = s' := by
  rw [finalState_bind, h]

end Rules

/-! ## What every call keeps -/

/-- From whatever state the call starts, the state in which it ends is related to it. -/
def Moves (R : σ → σ → Prop) (m : EStateM ε σ α) : Prop := ∀ s, R s (finalState (m s))

namespace Moves

variable {R : σ → σ → Prop} {m : EStateM ε σ α} {f : α → EStateM ε σ β}

lemma refl_of (hR : ∀ s, R s s) (h : ∀ s, finalState (m s) = s) : Moves R m :=
  fun s => (h s).symm ▸ hR s

/-- **Sequencing.** -/
theorem bind (htrans : ∀ a b c, R a b → R b c → R a c) (hm : Moves R m)
    (hf : ∀ a, Moves R (f a)) : Moves R (m >>= f) := by
  intro s
  have hs := hm s
  rw [finalState_bind]
  cases hr : m s with
  | ok a s' =>
    rw [hr] at hs
    exact htrans _ _ _ hs (hf a s')
  | error e s' =>
    rw [hr] at hs
    exact hs

/-- Sequencing of calls that change nothing. -/
lemma bind_eq {m : EStateM ε σ α} {f : α → EStateM ε σ β} (hm : Moves Eq m)
    (hf : ∀ a, Moves Eq (f a)) : Moves Eq (m >>= f) :=
  bind (fun _ _ _ => Eq.trans) hm hf

lemma attempt (hm : Moves R m) : Moves R (Lib.attempt m : EStateM ε' σ (Except ε α)) := by
  intro s
  rw [finalState_attempt]
  exact hm s

/-- **Loops.** -/
theorem mapM (hR : ∀ s, R s s) (htrans : ∀ a b c, R a b → R b c → R a c) {ι : Type} {l : List ι}
    {g : ι → EStateM ε σ β} (hg : ∀ i ∈ l, Moves R (g i)) : Moves R (l.mapM g) := by
  induction l with
  | nil => exact refl_of hR fun s => rfl
  | cons i l ih =>
    rw [List.mapM_cons]
    refine bind htrans (hg i List.mem_cons_self) fun b => ?_
    refine bind htrans (ih fun j hj => hg j (List.mem_cons_of_mem i hj)) fun bs => ?_
    exact refl_of hR fun s => rfl

end Moves

end Lib
