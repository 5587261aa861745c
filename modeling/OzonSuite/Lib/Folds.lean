/-
# Folds and loops

What every step of a fold keeps, the fold keeps; this holds of steps that can fail, too.  And a flag
that every step takes down for its own element is up at the end if no element has taken it down.  A
loop that only checks has succeeded if every check has, and one that collects has collected one
value for every round.
-/
import OzonSuite.Lib.Effects

namespace Lib

variable {σ α ε : Type}

/-- **Flag rule.**  Each element has a say in whether the flag stays up. -/
theorem foldl_flag_iff {f : σ → α → σ} {flag : σ → Bool} {P : α → Prop}
    (hstep : ∀ s a, flag (f s a) = true ↔ flag s = true ∧ P a) (l : List α) (s : σ) :
    flag (l.foldl f s) = true ↔ flag s = true ∧ ∀ a ∈ l, P a := by
  induction l generalizing s with
  | nil => simp
  | cons a l ih =>
    rw [List.foldl_cons, ih, hstep, List.forall_mem_cons, and_assoc]

section Fallible

variable {f : σ → α → Except ε σ} {l : List α} {s s' : σ}

lemma foldlM_cons_eq_ok {a : α} :
    (a :: l).foldlM f s = .ok s' ↔ ∃ m, f s a = .ok m ∧ l.foldlM f m = .ok s' := by
  rw [List.foldlM_cons, Except.bind_eq_ok]

lemma foldlM_nil_eq_ok : ([] : List α).foldlM f s = .ok s' ↔ s = s' := by
  rw [List.foldlM_nil]
  exact ⟨Except.ok.inj, congrArg Except.ok⟩

/-- **Invariant rule for folds.** -/
theorem foldlM_invariant {I : σ → Prop}
    (hstep : ∀ s a s', a ∈ l → I s → f s a = .ok s' → I s') (h : l.foldlM f s = .ok s')
    (h₀ : I s) : I s' := by
  induction l generalizing s with
  | nil => exact foldlM_nil_eq_ok.mp h ▸ h₀
  | cons a l ih =>
    obtain ⟨m, hm, hrest⟩ := foldlM_cons_eq_ok.mp h
    exact ih (fun t b t' hb => hstep t b t' (List.mem_cons_of_mem a hb)) hrest
      (hstep s a m List.mem_cons_self h₀ hm)

/-- **Flag rule for folds that can fail.**  Each element has a say in whether the flag stays up. -/
theorem foldlM_flag_iff {flag : σ → Bool} {P : α → Prop}
    (hstep : ∀ s a s', a ∈ l → f s a = .ok s' → (flag s' = true ↔ flag s = true ∧ P a))
    (h : l.foldlM f s = .ok s') : flag s' = true ↔ flag s = true ∧ ∀ a ∈ l, P a := by
  induction l generalizing s with
  | nil =>
    obtain rfl := foldlM_nil_eq_ok.mp h
    simp
  | cons a l ih =>
    obtain ⟨m, hm, hrest⟩ := foldlM_cons_eq_ok.mp h
    rw [ih (fun t b t' hb => hstep t b t' (List.mem_cons_of_mem a hb)) hrest,
      hstep s a m List.mem_cons_self hm, List.forall_mem_cons, and_assoc]

/-- **Whether a fold fails.**  If it is the element that decides whether a step fails, then the fold
fails exactly if the step of one of its elements does. -/
theorem foldlM_isOk_iff {Q : α → Prop} (hstep : ∀ s, ∀ a ∈ l, (∃ s', f s a = .ok s') ↔ Q a) :
    (∃ s', l.foldlM f s = .ok s') ↔ ∀ a ∈ l, Q a := by
  induction l generalizing s with
  | nil => exact iff_of_true ⟨s, rfl⟩ fun a ha => absurd ha List.not_mem_nil
  | cons a l ih =>
    have hrest := fun m => @ih m fun t b hb => hstep t b (List.mem_cons_of_mem a hb)
    simp only [foldlM_cons_eq_ok, List.forall_mem_cons, ← hstep s a List.mem_cons_self]
    constructor
    · rintro ⟨s', m, hm, h⟩
      exact ⟨⟨m, hm⟩, (hrest m).mp ⟨s', h⟩⟩
    · rintro ⟨⟨m, hm⟩, hall⟩
      obtain ⟨s', h⟩ := (hrest m).mpr hall
      exact ⟨s', m, hm, h⟩

/-- **Relation rule for folds.**  A preorder that contains every step relates the two ends. -/
theorem foldlM_relation {R : σ → σ → Prop} (hrefl : ∀ s, R s s)
    (htrans : ∀ a b c, R a b → R b c → R a c)
    (hstep : ∀ s a s', a ∈ l → f s a = .ok s' → R s s') (h : l.foldlM f s = .ok s') : R s s' :=
  foldlM_invariant (I := R s) (fun _ _ _ ha hR hf => htrans _ _ _ hR (hstep _ _ _ ha hf)) h
    (hrefl s)

/-- **Inside a fold.**  Every element has its step, and what a preorder that contains the steps
says of the two ends it says of the parts before and behind that step. -/
theorem foldlM_step_of_mem {R : σ → σ → Prop} (hrefl : ∀ s, R s s)
    (htrans : ∀ a b c, R a b → R b c → R a c)
    (hstep : ∀ s a s', a ∈ l → f s a = .ok s' → R s s') (h : l.foldlM f s = .ok s') {a : α}
    (ha : a ∈ l) : ∃ m m', R s m ∧ f m a = .ok m' ∧ R m' s' := by
  obtain ⟨before, behind, rfl⟩ := List.append_of_mem ha
  rw [List.foldlM_append] at h
  obtain ⟨m, hm, h⟩ := Except.bind_eq_ok.mp h
  obtain ⟨m', hm', hrest⟩ := foldlM_cons_eq_ok.mp h
  refine ⟨m, m', foldlM_relation hrefl htrans (fun s b s' hb => hstep s b s' ?_) hm, hm',
    foldlM_relation hrefl htrans (fun s b s' hb => hstep s b s' ?_) hrest⟩
  · exact List.mem_append_left _ hb
  · exact List.mem_append_right _ (List.mem_cons_of_mem _ hb)

end Fallible

/-! ## Loops that check or collect -/

/-- A loop over numbered rows, where the round for each of them succeeds. -/
lemma mapM_zipIdx {β : Type} {f : ℕ → Except ε β} {R : α × ℕ → β → Prop} {rows : List α}
    {start k : ℕ}
    (h : ∀ i a, rows[i]? = some a → ∃ b, f (start + (k + i)) = .ok b ∧ R (a, k + i) b) :
    ∃ bs, (List.range' (start + k) rows.length).mapM f = .ok bs ∧
      List.Forall₂ R (rows.zipIdx k) bs := by
  induction rows generalizing k with
  | nil => exact ⟨[], rfl, .nil⟩
  | cons a rows ih =>
    obtain ⟨b, hb, hR⟩ := h 0 a rfl
    obtain ⟨bs, hbs, hall⟩ := ih (k := k + 1) fun i a' ha' => by
      have hnext := h (i + 1) a' ha'
      rwa [show k + (i + 1) = k + 1 + i by omega] at hnext
    refine ⟨b :: bs, ?_, .cons hR hall⟩
    rw [List.length_cons, List.range'_succ, List.mapM_cons,
      show start + k = start + (k + 0) from rfl, hb,
      show start + (k + 0) + 1 = start + (k + 1) by omega, hbs]
    rfl

end Lib
