/-
# Scripts, and the writes they make

A script makes calls of a service and fails as soon as something fails: a call, or what it does with
the answer of one.  Some of the calls write and the others only read.  What a script was meant to
write is a list of calls; whatever the service answers, the script makes the first calls of that
list, and all of them if it does not fail.
-/
import OzonSuite.Lib.Calls
import OzonSuite.Lib.Effects

namespace Lib

/-- A loop that may fail collects one value for every round. -/
lemma Except.forall₂_mapM {ι ε β : Type} {l : List ι} {g : ι → Except ε β} {bs : List β}
    (h : l.mapM g = .ok bs) : List.Forall₂ (fun i b => g i = .ok b) l bs := by
  induction l generalizing bs with
  | nil =>
    obtain rfl := Except.ok.inj h
    exact .nil
  | cons i l ih =>
    rw [List.mapM_cons] at h
    obtain ⟨b, hb, h⟩ := Except.bind_eq_ok.mp h
    obtain ⟨bs', hbs, h⟩ := Except.bind_eq_ok.mp h
    obtain rfl := Except.ok.inj h
    exact .cons hb (ih hbs)

/-- A value that such a loop collects is that of a round. -/
lemma Except.exists_of_mem_mapM {ι ε β : Type} {l : List ι} {g : ι → Except ε β} {bs : List β}
    (h : l.mapM g = .ok bs) {b : β} (hb : b ∈ bs) : ∃ i ∈ l, g i = .ok b := by
  have hall := Except.forall₂_mapM h
  clear h
  induction hall with
  | nil => cases hb
  | @cons i b' l bs hi _ ih =>
    rcases List.mem_cons.mp hb with rfl | hb
    · exact ⟨i, List.mem_cons_self, hi⟩
    · obtain ⟨j, hj, hjb⟩ := ih hb
      exact ⟨j, List.mem_cons_of_mem i hj, hjb⟩

/-- The value of a round is among those that such a loop collects. -/
lemma Except.mem_of_mapM {ι ε β : Type} {l : List ι} {g : ι → Except ε β} {bs : List β}
    (h : l.mapM g = .ok bs) {i : ι} (hi : i ∈ l) {b : β} (hb : g i = .ok b) : b ∈ bs := by
  have hall := Except.forall₂_mapM h
  clear h
  induction hall with
  | nil => cases hi
  | @cons j b' l bs hj _ ih =>
    rcases List.mem_cons.mp hi with rfl | hi
    · obtain rfl := Except.ok.inj (hj.symm.trans hb)
      exact List.mem_cons_self
    · exact List.mem_cons_of_mem b' (ih hi)

/-- A procedure that makes calls and may fail. -/
abbrev Script (κ : Type) (ρ : κ → Type) (ε : Type) := ExceptT ε (Calls κ ρ)

namespace Script

variable {κ : Type} {ρ : κ → Type} {ε α β γ σ : Type}

/-- A call that may fail, and then the script fails. -/
def ask (c : κ) : Script κ (fun c => Except ε (ρ c)) ε (ρ c) := ExceptT.mk (Calls.perform c)

variable (handle : (c : κ) → σ → ρ c × σ) (isWrite : κ → Bool)

/-- What a script answers, and the state in which it leaves the service. -/
def play (m : Script κ ρ ε α) (s : σ) : Except ε α × σ := Calls.run handle m.run s

/-- The calls that a script makes, with their answers. -/
def exchanges (m : Script κ ρ ε α) (s : σ) : List ((c : κ) × ρ c) :=
  Calls.exchanges handle m.run s

/-- The writes among the calls. -/
def writes (m : Script κ ρ ε α) (s : σ) : List κ :=
  ((m.exchanges handle s).map Sigma.fst).filter isWrite

/-- The script makes the first of the planned writes, and all of them if it does not fail. -/
def Writes (m : Script κ ρ ε α) (s : σ) (planned : List κ) : Prop :=
  m.writes handle isWrite s <+: planned ∧
    ∀ a s', m.play handle s = (.ok a, s') → m.writes handle isWrite s = planned

variable {handle isWrite} {m : Script κ ρ ε α} {f : α → Script κ ρ ε β} {s s' : σ} {a : α} {e : ε}
  {planned planned' : List κ}

/-! ## One after the other -/

lemma play_pure : play handle (pure a : Script κ ρ ε α) s = (.ok a, s) := rfl

lemma play_ofExcept (r : Except ε α) :
    play handle (MonadExcept.ofExcept r : Script κ ρ ε α) s = (r, s) := by
  cases r <;> rfl

lemma exchanges_pure : (pure a : Script κ ρ ε α).exchanges handle s = [] := rfl

lemma exchanges_ofExcept (r : Except ε α) :
    (MonadExcept.ofExcept r : Script κ ρ ε α).exchanges handle s = [] := by
  cases r <;> rfl

/-- A call that is answered has been exchanged. -/
lemma exchanges_ask {ρ : κ → Type} {handle : (c : κ) → σ → Except ε (ρ c) × σ} {c : κ}
    {a : ρ c} (h : (ask c : Script _ _ ε _).play handle s = (.ok a, s')) :
    (ask c : Script _ _ ε _).exchanges handle s = [⟨c, .ok a⟩] := by
  have hhandle : handle c s = (.ok a, s') := h
  have hanswer : (ask c : Script _ _ ε _).exchanges handle s = [⟨c, (handle c s).1⟩] := rfl
  rw [hanswer, hhandle]

lemma mem_exchanges_of_ask {ρ : κ → Type} {handle : (c : κ) → σ → Except ε (ρ c) × σ} {c : κ}
    {a : ρ c} (h : (ask c : Script _ _ ε _).play handle s = (.ok a, s')) :
    ⟨c, .ok a⟩ ∈ (ask c : Script _ _ ε _).exchanges handle s :=
  exchanges_ask h ▸ List.mem_singleton_self _

lemma play_bind_of_ok (h : m.play handle s = (.ok a, s')) :
    (m >>= f).play handle s = (f a).play handle s' := by
  have hrun : Calls.run handle m.run s = (.ok a, s') := h
  rw [play, ExceptT.run_bind, Calls.run_bind, hrun]
  rfl

lemma play_bind_of_error (h : m.play handle s = (.error e, s')) :
    (m >>= f).play handle s = (.error e, s') := by
  have hrun : Calls.run handle m.run s = (.error e, s') := h
  rw [play, ExceptT.run_bind, Calls.run_bind, hrun]
  rfl

/-- A script does not fail just when its parts do not. -/
lemma play_bind_eq_ok {b : β} {s'' : σ} :
    (m >>= f).play handle s = (.ok b, s'') ↔
      ∃ a s', m.play handle s = (.ok a, s') ∧ (f a).play handle s' = (.ok b, s'') := by
  cases hm : m.play handle s with
  | mk r s' =>
    cases r with
    | error e =>
      rw [play_bind_of_error hm]
      simp
    | ok a =>
      rw [play_bind_of_ok hm]
      constructor
      · exact fun h => ⟨a, s', rfl, h⟩
      · rintro ⟨a', s₁, heq, h⟩
        obtain ⟨rfl, rfl⟩ : a = a' ∧ s' = s₁ := by simpa using heq
        exact h

lemma exchanges_bind_of_ok (h : m.play handle s = (.ok a, s')) :
    (m >>= f).exchanges handle s = m.exchanges handle s ++ (f a).exchanges handle s' := by
  have hrun : Calls.run handle m.run s = (.ok a, s') := h
  rw [exchanges, ExceptT.run_bind, Calls.exchanges_bind, hrun]
  rfl

lemma exchanges_bind_of_error (h : m.play handle s = (.error e, s')) :
    (m >>= f).exchanges handle s = m.exchanges handle s := by
  have hrun : Calls.run handle m.run s = (.error e, s') := h
  rw [exchanges, ExceptT.run_bind, Calls.exchanges_bind, hrun]
  exact List.append_nil _

/-- What a part of a script has exchanged, the script has exchanged. -/
lemma exchanges_prefix_bind : m.exchanges handle s <+: (m >>= f).exchanges handle s := by
  cases hm : m.play handle s with
  | mk r s' =>
    cases r with
    | error e => rw [exchanges_bind_of_error hm]
    | ok a =>
      rw [exchanges_bind_of_ok hm]
      exact List.prefix_append _ _

/-- What the rest of a script has exchanged, the script has exchanged. -/
lemma exchanges_subset_bind (h : m.play handle s = (.ok a, s')) :
    (f a).exchanges handle s' ⊆ (m >>= f).exchanges handle s := by
  rw [exchanges_bind_of_ok h]
  exact List.subset_append_right _ _

/-- A loop collects one value for every round, and exchanges what its rounds exchange. -/
lemma forall₂_of_play_mapM {ι : Type} {l : List ι} {g : ι → Script κ ρ ε β} {bs : List β}
    (h : (l.mapM g).play handle s = (.ok bs, s')) :
    List.Forall₂ (fun i b => ∃ s₁ s₂, (g i).play handle s₁ = (.ok b, s₂) ∧
      (g i).exchanges handle s₁ ⊆ (l.mapM g).exchanges handle s) l bs := by
  induction l generalizing s s' bs with
  | nil =>
    rw [List.mapM_nil, play_pure] at h
    obtain rfl : [] = bs := by simpa using congrArg Prod.fst h
    exact .nil
  | cons i l ih =>
    rw [List.mapM_cons] at h ⊢
    obtain ⟨b, s₁, hb, h⟩ := play_bind_eq_ok.mp h
    obtain ⟨bs', s₂, hbs, h⟩ := play_bind_eq_ok.mp h
    obtain rfl : b :: bs' = bs := by simpa [play_pure] using congrArg Prod.fst h
    refine .cons ⟨s, s₁, hb, exchanges_prefix_bind.subset⟩ ((ih hbs).imp ?_)
    rintro j b' ⟨s₃, s₄, hj, hsub⟩
    exact ⟨s₃, s₄, hj, fun c hc =>
      exchanges_subset_bind hb (exchanges_prefix_bind.subset (hsub hc))⟩

/-! ## Rules for what is written -/

namespace Writes

lemma pure : (pure a : Script κ ρ ε α).Writes handle isWrite s [] :=
  ⟨List.prefix_rfl, fun _ _ _ => rfl⟩

lemma ofExcept (r : Except ε α) :
    (MonadExcept.ofExcept r : Script κ ρ ε α).Writes handle isWrite s [] := by
  cases r <;> exact ⟨List.prefix_rfl, fun _ _ _ => rfl⟩

/-- A call that only reads. -/
lemma ask_read {ρ : κ → Type} {handle : (c : κ) → σ → Except ε (ρ c) × σ} {c : κ}
    (hc : isWrite c = false) : (ask c : Script _ _ ε _).Writes handle isWrite s [] := by
  have hwrites : (ask c : Script _ _ ε _).writes handle isWrite s = [] := by
    simp [writes, exchanges, ask, Calls.perform, hc]
  exact ⟨hwrites ▸ List.prefix_rfl, fun _ _ _ => hwrites⟩

/-- A call that writes. -/
lemma ask_write {ρ : κ → Type} {handle : (c : κ) → σ → Except ε (ρ c) × σ} {c : κ}
    (hc : isWrite c = true) : (ask c : Script _ _ ε _).Writes handle isWrite s [c] := by
  have hwrites : (ask c : Script _ _ ε _).writes handle isWrite s = [c] := by
    simp [writes, exchanges, ask, Calls.perform, hc]
  exact ⟨hwrites ▸ List.prefix_rfl, fun _ _ _ => hwrites⟩

/-- **Sequence rule.** -/
theorem bind (hm : m.Writes handle isWrite s planned)
    (hf : ∀ a s', m.play handle s = (.ok a, s') → (f a).Writes handle isWrite s' planned') :
    (m >>= f).Writes handle isWrite s (planned ++ planned') := by
  cases hplay : m.play handle s with
  | mk r s' =>
    cases r with
    | error e =>
      have hwrites : (m >>= f).writes handle isWrite s = m.writes handle isWrite s := by
        rw [writes, exchanges_bind_of_error hplay, writes]
      refine ⟨hwrites ▸ hm.1.trans (List.prefix_append _ _), fun b s'' hb => ?_⟩
      rw [play_bind_of_error hplay] at hb
      cases hb
    | ok a =>
      have hfirst : m.writes handle isWrite s = planned := hm.2 a s' hplay
      have hwrites : (m >>= f).writes handle isWrite s =
          planned ++ (f a).writes handle isWrite s' := by
        rw [← hfirst, writes, exchanges_bind_of_ok hplay, List.map_append, List.filter_append]
        rfl
      obtain ⟨hstart, hall⟩ := hf a s' hplay
      rw [Writes, hwrites]
      refine ⟨(List.prefix_append_right_inj planned).mpr hstart, fun b s'' hb => ?_⟩
      rw [play_bind_of_ok hplay] at hb
      rw [hall b s'' hb]

/-- Scripts that only read, one after the other. -/
lemma bind_read (hm : m.Writes handle isWrite s [])
    (hf : ∀ a s', m.play handle s = (.ok a, s') → (f a).Writes handle isWrite s' planned) :
    (m >>= f).Writes handle isWrite s planned := hm.bind hf

/-- **Loop rule.**  A loop writes what its rounds write. -/
theorem mapM {ι : Type} {l : List ι} {g : ι → Script κ ρ ε β} {plan : ι → List κ}
    (hg : ∀ i ∈ l, ∀ s, (g i).Writes handle isWrite s (plan i)) :
    (l.mapM g).Writes handle isWrite s (l.flatMap plan) := by
  induction l generalizing s with
  | nil => exact pure
  | cons i l ih =>
    rw [List.mapM_cons, List.flatMap_cons]
    refine (hg i List.mem_cons_self s).bind fun b s' _ => ?_
    have hrest := (ih (s := s') fun j hj => hg j (List.mem_cons_of_mem i hj)).bind
      (f := fun bs => Pure.pure (b :: bs)) fun _ _ _ => pure
    rwa [List.append_nil] at hrest

/-- A loop that only reads. -/
lemma mapM_read {ι : Type} {l : List ι} {g : ι → Script κ ρ ε β}
    (hg : ∀ i ∈ l, ∀ s, (g i).Writes handle isWrite s []) :
    (l.mapM g).Writes handle isWrite s [] := by
  have hnil : l.flatMap (fun _ => ([] : List κ)) = [] := by simp
  exact hnil ▸ mapM hg

end Writes

end Script

end Lib
