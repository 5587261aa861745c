/-
# Names that can be used once

A service makes up a name (a code, a nonce, a token), hands it out, and lets it be used once.  What
makes this work whatever else goes on is that names are made up fresh, and that a name that is not
to be used any more never comes back.
-/
import OzonSuite.Lib.Machine

namespace Lib

/-- The names that have been made up, and those of them that can still be used. -/
structure Register (κ : Type*) where
  issued : Set κ
  usable : Set κ

namespace Register

variable {κ : Type*} {r r' r'' : Register κ} {k : κ}

/-- Every name that can be used has been made up. -/
def Sound (r : Register κ) : Prop := ∀ k ∈ r.usable, k ∈ r.issued

/-- No name comes back: what can be used now could be used before, or was made up since. -/
structure Follows (r r' : Register κ) : Prop where
  issued : ∀ k ∈ r.issued, k ∈ r'.issued
  sound : r'.Sound
  fresh : ∀ k ∈ r'.usable, k ∈ r.usable ∨ k ∉ r.issued

/-- The name has been made up, and cannot be used any more. -/
def Spent (r : Register κ) (k : κ) : Prop := k ∈ r.issued ∧ k ∉ r.usable

lemma Follows.refl (h : r.Sound) : r.Follows r := ⟨fun _ hk => hk, h, fun _ hk => .inl hk⟩

/-- Names are taken out. -/
lemma Follows.of_subset (h : r.Sound) (hissued : ∀ j, j ∈ r'.issued ↔ j ∈ r.issued)
    (husable : ∀ j ∈ r'.usable, j ∈ r.usable) : r.Follows r' :=
  ⟨fun j hj => (hissued j).mpr hj, fun j hj => (hissued j).mpr (h j (husable j hj)),
    fun j hj => .inl (husable j hj)⟩

/-- A name is made up. -/
lemma Follows.of_fresh (h : r.Sound) (hk : k ∉ r.issued)
    (hissued : ∀ j, j ∈ r'.issued ↔ j = k ∨ j ∈ r.issued)
    (husable : ∀ j ∈ r'.usable, j = k ∨ j ∈ r.usable) : r.Follows r' := by
  refine ⟨fun j hj => (hissued j).mpr (.inr hj), fun j hj => (hissued j).mpr ?_, fun j hj => ?_⟩
  · exact (husable j hj).imp_right (h j)
  · rcases husable j hj with rfl | hj
    · exact .inr hk
    · exact .inl hj

/-- A name that is spent stays spent. -/
lemma Spent.follows (h : r.Spent k) (hr : r.Follows r') : r'.Spent k :=
  ⟨hr.issued k h.1, fun hk => (hr.fresh k hk).elim h.2 fun hfresh => hfresh h.1⟩

end Register

section Runs

variable {σ ℓ ρ κ : Type*} {M : Machine σ ℓ ρ} {s s' : σ} {tr : List (ℓ × ρ)} {I : σ → Prop}
  {view : σ → Register κ} {k : κ}

/-- A name that is spent stays spent all along a run. -/
lemma Machine.Run.spent_stays (hstep : ∀ s l, I s → M.enabled s l → I (M.step s l).2)
    (hfollows : ∀ s l, I s → M.enabled s l → (view s).Follows (view (M.step s l).2))
    (h : M.Run s tr s') (h₀ : I s) (hk : (view s).Spent k) : (view s').Spent k := by
  have hboth : ∀ m l, I m ∧ (view m).Spent k → M.enabled m l →
      I (M.step m l).2 ∧ (view (M.step m l).2).Spent k :=
    fun m l hm hen => ⟨hstep m l hm.1 hen, hm.2.follows (hfollows m l hm.1 hen)⟩
  exact (h.invariant (I := fun m => I m ∧ (view m).Spent k) hboth ⟨h₀, hk⟩).2

/-- **Used once.**  If no step brings a name back, and a use needs a name that can be used and
spends it, then the name is used at most once in a run. -/
theorem Machine.Run.used_once {used : ℓ × ρ → Bool}
    (hstep : ∀ s l, I s → M.enabled s l → I (M.step s l).2)
    (hsound : ∀ s, I s → (view s).Sound)
    (hfollows : ∀ s l, I s → M.enabled s l → (view s).Follows (view (M.step s l).2))
    (huse : ∀ s l, I s → M.enabled s l → used (l, (M.step s l).1) = true →
      k ∈ (view s).usable ∧ k ∉ (view (M.step s l).2).usable)
    (h : M.Run s tr s') (h₀ : I s) : tr.countP used ≤ 1 := by
  have hspends : ∀ s l, I s → M.enabled s l → used (l, (M.step s l).1) = true →
      ¬ (view s).Spent k ∧ (view (M.step s l).2).Spent k := by
    intro m l hm hen hl
    obtain ⟨hbefore, hafter⟩ := huse m l hm hen hl
    exact ⟨fun hm => hm.2 hbefore,
      (hfollows m l hm hen).issued k (hsound m hm k hbefore), hafter⟩
  have hkeep : ∀ s l, I s → M.enabled s l → (view s).Spent k → (view (M.step s l).2).Spent k :=
    fun m l hm hen hk => hk.follows (hfollows m l hm hen)
  exact (h.countP_le_one hstep hkeep hspends h₀).1

/-! ## What a name was made up for -/

section Origins

variable {ν : Type*}

/-- **Origin rule.**  If a step leaves what was there, and what it brings, then whatever is there at
the end of a run has been brought. -/
theorem Machine.Run.brought (there : σ → ν → Prop) (brings : ν → ℓ → ρ → σ → Prop)
    (hstep : ∀ s l, M.enabled s l → ∀ v, there (M.step s l).2 v →
      there s v ∨ brings v l (M.step s l).1 s) (h : M.Run s tr s') (h₀ : ∀ v, ¬ there s v) :
    ∀ v, there s' v → M.Happened s tr (brings v) := by
  induction h with
  | nil => exact fun v hv => absurd hv (h₀ v)
  | snoc hrun hen ih =>
    intro v hv
    rcases hstep _ _ hen v hv with hv | hv
    · exact (ih v hv).snoc _
    · exact .last hrun hen hv

variable {issues : κ → ν → ℓ → ρ → σ → Prop} {issued : σ → Set κ} {v v' : ν}

/-- A name that has been made up stays so. -/
lemma Machine.Run.issued_of_happened
    (hgrow : ∀ s l, M.enabled s l → ∀ k ∈ issued s, k ∈ issued (M.step s l).2)
    (hissue : ∀ s l v, M.enabled s l → issues k v l (M.step s l).1 s →
      k ∉ issued s ∧ k ∈ issued (M.step s l).2)
    (h : M.Run s tr s') (hk : M.Happened s tr (issues k v)) : k ∈ issued s' := by
  induction h with
  | nil =>
    obtain ⟨pre, l, post, m, htr, -⟩ := hk
    simp at htr
  | snoc hrun hen ih =>
    rcases hk.of_snoc hrun with hk | hk
    · exact hgrow _ _ hen k (ih hk)
    · exact (hissue _ _ v hen hk).2

/-- **Made up once.**  A name that is a new one when it is made up has been made up for one
thing. -/
theorem Machine.Run.issued_unique
    (hgrow : ∀ s l, M.enabled s l → ∀ k ∈ issued s, k ∈ issued (M.step s l).2)
    (hissue : ∀ s l v, M.enabled s l → issues k v l (M.step s l).1 s →
      k ∉ issued s ∧ k ∈ issued (M.step s l).2)
    (hone : ∀ s l a v v', issues k v l a s → issues k v' l a s → v = v')
    (h : M.Run s tr s') (hv : M.Happened s tr (issues k v)) (hv' : M.Happened s tr (issues k v')) :
    v = v' := by
  induction h with
  | nil =>
    obtain ⟨pre, l, post, m, htr, -⟩ := hv
    simp at htr
  | @snoc tr m l hrun hen ih =>
    -- a name that has been made up is not a new one
    have hnot : ∀ w w', M.Happened s tr (issues k w) → ¬ issues k w' l (M.step m l).1 m :=
      fun w w' hw hw' => (hissue _ _ w' hen hw').1 (hrun.issued_of_happened hgrow hissue hw)
    rcases hv.of_snoc hrun with hv | hv
    · rcases hv'.of_snoc hrun with hv' | hv'
      · exact ih hv hv'
      · exact absurd hv' (hnot v v' hv)
    · rcases hv'.of_snoc hrun with hv' | hv'
      · exact absurd hv (hnot v' v hv')
      · exact hone _ _ _ _ _ hv hv'

end Origins

end Runs

end Lib
