/-
# Machines that answer requests, and their runs

A service that handles one request at a time, each of them to completion, is a transition
function on its state together with the answer it gives.  Concurrent clients of such a service
see some serial order of their requests, so a statement about *every run* is a statement about
every interleaving.  The choices a request does not make itself (a random identifier, the time
of day, the answer of a remote party) are part of the label of the step; what is known about
them is the guard `enabled`.

The rules of this file are the ways in which facts about one step become facts about runs.
-/
import Mathlib

namespace Lib

/-- A machine with states `σ`, labels `ℓ` (a request with the choices made for it) and answers
`ρ`. -/
structure Machine (σ ℓ ρ : Type*) where
  /-- The states a run may start in. -/
  init : σ → Prop
  /-- What is assumed of the choices made for a step. -/
  enabled : σ → ℓ → Prop
  /-- The answer and the next state. -/
  step : σ → ℓ → ρ × σ

namespace Machine

variable {σ ℓ ρ : Type*} {M : Machine σ ℓ ρ}

/-- `M.Run s tr s'`: from `s` the machine can reach `s'`, and `tr` lists the steps taken, each
with its answer, the earliest first. -/
inductive Run (M : Machine σ ℓ ρ) (s : σ) : List (ℓ × ρ) → σ → Prop
  | nil : Run M s [] s
  | snoc {tr s' l} : Run M s tr s' → M.enabled s' l →
      Run M s (tr ++ [(l, (M.step s' l).1)]) (M.step s' l).2

/-- The states that some run from an initial state ends in. -/
def Reachable (M : Machine σ ℓ ρ) (s : σ) : Prop :=
  ∃ s₀ tr, M.init s₀ ∧ M.Run s₀ tr s

namespace Run

variable {s s' s'' : σ} {tr tr' : List (ℓ × ρ)} {l : ℓ}

lemma single (h : M.enabled s l) : M.Run s [(l, (M.step s l).1)] (M.step s l).2 :=
  (show M.Run s [] s from .nil).snoc h

lemma append (h : M.Run s tr s') (h' : M.Run s' tr' s'') : M.Run s (tr ++ tr') s'' := by
  induction h' with
  | nil => simpa using h
  | snoc _ hen ih =>
    rw [← List.append_assoc]
    exact ih.snoc hen

lemma eq_of_nil (h : M.Run s [] s') : s' = s := by
  generalize hw : ([] : List (ℓ × ρ)) = w at h
  cases h with
  | nil => rfl
  | snoc _ _ => simp at hw

/-- The last step of a run. -/
lemma snoc_inv {e : ℓ × ρ} (h : M.Run s (tr ++ [e]) s') :
    ∃ m, M.Run s tr m ∧ M.enabled m e.1 ∧ e.2 = (M.step m e.1).1 ∧ s' = (M.step m e.1).2 := by
  generalize hw : tr ++ [e] = w at h
  cases h with
  | nil => simp at hw
  | @snoc t m l hrun hen =>
    obtain ⟨rfl, he⟩ := List.append_inj' hw rfl
    obtain rfl : e = (l, (M.step m l).1) := by simpa using he
    exact ⟨m, hrun, hen, rfl, rfl⟩

/-- The trace determines the state that is reached. -/
lemma unique (h : M.Run s tr s') (h' : M.Run s tr s'') : s' = s'' := by
  induction h generalizing s'' with
  | nil => exact h'.eq_of_nil.symm
  | snoc _ _ ih =>
    obtain ⟨m, hm, -, -, rfl⟩ := h'.snoc_inv
    rw [ih hm]

/-- A run can be cut at any point of its trace. -/
lemma split (h : M.Run s (tr ++ tr') s') : ∃ m, M.Run s tr m ∧ M.Run m tr' s' := by
  generalize heq : tr ++ tr' = t at h
  induction h generalizing tr' with
  | nil =>
    obtain ⟨rfl, rfl⟩ := List.append_eq_nil_iff.mp heq
    exact ⟨s, .nil, .nil⟩
  | @snoc t m l hrun hen ih =>
    rcases List.eq_nil_or_concat tr' with rfl | ⟨tr₁, e, rfl⟩
    · refine ⟨_, ?_, .nil⟩
      rw [List.append_nil] at heq
      exact heq ▸ hrun.snoc hen
    · rw [List.concat_eq_append, ← List.append_assoc] at heq
      obtain ⟨ht, he⟩ := List.append_inj' heq rfl
      obtain ⟨m', h₁, h₂⟩ := ih ht
      obtain rfl : e = (l, (M.step m l).1) := by simpa using he
      refine ⟨m', h₁, ?_⟩
      rw [List.concat_eq_append]
      exact h₂.snoc hen

/-- The state in which the step at a given point of the trace was taken. -/
lemma cut {pre post : List (ℓ × ρ)} {e : ℓ × ρ} (h : M.Run s (pre ++ e :: post) s') :
    ∃ m, M.Run s pre m ∧ M.enabled m e.1 ∧ e.2 = (M.step m e.1).1 ∧
      M.Run (M.step m e.1).2 post s' := by
  obtain ⟨m, h₁, h₂⟩ := h.split
  obtain ⟨m', h₃, h₄⟩ := (show M.Run m ([e] ++ post) s' from h₂).split
  obtain ⟨n, h₅, hen, hans, rfl⟩ := (show M.Run m ([] ++ [e]) m' from h₃).snoc_inv
  obtain rfl := h₅.eq_of_nil
  exact ⟨n, h₁, hen, hans, h₄⟩

/-- A state in which a step of the trace was taken. -/
lemma of_mem {e : ℓ × ρ} (h : M.Run s tr s') (he : e ∈ tr) :
    ∃ pre post m, tr = pre ++ e :: post ∧ M.Run s pre m ∧ M.enabled m e.1 ∧
      e.2 = (M.step m e.1).1 ∧ M.Run (M.step m e.1).2 post s' := by
  obtain ⟨pre, post, rfl⟩ := List.append_of_mem he
  obtain ⟨m, hm⟩ := h.cut
  exact ⟨pre, post, m, rfl, hm⟩

/-- **Invariant rule.**  What every step keeps, every run keeps. -/
theorem invariant {I : σ → Prop} (hstep : ∀ s l, I s → M.enabled s l → I (M.step s l).2)
    (h : M.Run s tr s') (h₀ : I s) : I s' := by
  induction h with
  | nil => exact h₀
  | snoc _ hen ih => exact hstep _ _ ih hen

/-- **Relation rule.**  A preorder that contains every step taken under an invariant relates
the two ends of every run. -/
theorem relation {I : σ → Prop} {R : σ → σ → Prop}
    (hstep : ∀ s l, I s → M.enabled s l → I (M.step s l).2) (hrefl : ∀ s, R s s)
    (htrans : ∀ a b c, R a b → R b c → R a c)
    (hR : ∀ s l, I s → M.enabled s l → R s (M.step s l).2)
    (h : M.Run s tr s') (h₀ : I s) : R s s' := by
  induction h with
  | nil => exact hrefl s
  | snoc hrun hen ih =>
    exact htrans _ _ _ ih (hR _ _ (hrun.invariant hstep h₀) hen)

/-- **History rule.**  A relation between the steps taken and the state reached, kept by every
step, holds of every run. -/
theorem history {P : List (ℓ × ρ) → σ → Prop} (h₀ : P [] s)
    (hstep : ∀ tr m l, M.Run s tr m → P tr m → M.enabled m l →
      P (tr ++ [(l, (M.step m l).1)]) (M.step m l).2)
    (h : M.Run s tr s') : P tr s' := by
  induction h with
  | nil => exact h₀
  | snoc hrun hen ih => exact hstep _ _ _ hrun ih hen

/-- **At most once.**  An event that needs a flag to be down and raises it, where no step takes
the flag down, occurs at most once in a run, and not at all when the flag was up before. -/
theorem countP_le_one {I flag : σ → Prop} {fired : ℓ × ρ → Bool}
    (hstep : ∀ s l, I s → M.enabled s l → I (M.step s l).2)
    (hkeep : ∀ s l, I s → M.enabled s l → flag s → flag (M.step s l).2)
    (hfire : ∀ s l, I s → M.enabled s l → fired (l, (M.step s l).1) = true →
      ¬ flag s ∧ flag (M.step s l).2)
    (h : M.Run s tr s') (h₀ : I s) :
    tr.countP fired ≤ 1 ∧ (0 < tr.countP fired → flag s') ∧
      (flag s → tr.countP fired = 0 ∧ flag s') := by
  induction h with
  | nil => simp
  | @snoc tr m l hrun hen ih =>
    obtain ⟨hle, hpos, hzero⟩ := ih
    have hm : I m := hrun.invariant hstep h₀
    rw [List.countP_append, List.countP_singleton]
    by_cases hf : fired (l, (M.step m l).1) = true
    · -- the event fires now, so it has not fired before
      obtain ⟨hdown, hup⟩ := hfire m l hm hen hf
      have hno : tr.countP fired = 0 := by
        by_contra hne
        exact hdown (hpos (Nat.pos_of_ne_zero hne))
      exact ⟨by simp [hf, hno], fun _ => hup, fun hs => absurd (hzero hs).2 hdown⟩
    · refine ⟨by simpa [hf] using hle, fun hp => ?_, fun hs => ?_⟩
      · exact hkeep m l hm hen (hpos (by simpa [hf] using hp))
      · exact ⟨by simpa [hf] using (hzero hs).1, hkeep m l hm hen (hzero hs).2⟩

end Run

/-! ## Fewer steps -/

/-- The machine whose steps all meet a condition on the state before them. -/
def restrict (M : Machine σ ℓ ρ) (P : σ → ℓ → Prop) : Machine σ ℓ ρ :=
  { M with enabled := fun s l => M.enabled s l ∧ P s l }

instance {P : σ → ℓ → Prop} [∀ s l, Decidable (M.enabled s l)] [∀ s l, Decidable (P s l)] (s : σ)
    (l : ℓ) : Decidable ((M.restrict P).enabled s l) :=
  inferInstanceAs (Decidable (M.enabled s l ∧ P s l))

/-- A run whose steps meet a condition is a run. -/
lemma Run.of_restrict {P : σ → ℓ → Prop} {s s' : σ} {tr : List (ℓ × ρ)}
    (h : (M.restrict P).Run s tr s') : M.Run s tr s' := by
  induction h with
  | nil => exact .nil
  | snoc _ hen ih => exact ih.snoc hen.1

/-- The runs whose steps all meet a condition, with the steps spelled out. -/
lemma Run.restrict_iff {P : σ → ℓ → Prop} {s s' : σ} {tr : List (ℓ × ρ)} (h : M.Run s tr s') :
    (M.restrict P).Run s tr s' ↔
      ∀ before l a after m, tr = before ++ (l, a) :: after → M.Run s before m → P m l := by
  constructor
  · intro hrun before l a after m htr hm
    subst htr
    obtain ⟨n, hn, hen, -⟩ := hrun.cut
    obtain rfl := hn.of_restrict.unique hm
    exact hen.2
  · intro hall
    induction h with
    | nil => exact .nil
    | @snoc tr m l hrun hen ih =>
      have hbefore : (M.restrict P).Run s tr m := by
        refine ih fun before l' a after n htr hn => ?_
        exact hall before l' a (after ++ [(l, (M.step m l).1)]) n (by simp [htr]) hn
      exact Run.snoc (M := M.restrict P) hbefore ⟨hen, hall tr l _ [] m rfl hrun⟩

/-- **Exact condition rule.**  If a step that meets the condition keeps an invariant of good states,
and one that does not leaves a state that is not good, then the states of a run are all good exactly
if all of its steps meet the condition. -/
theorem Run.forall_good_iff {P : σ → ℓ → Prop} {I good : σ → Prop} {s s' : σ} {tr : List (ℓ × ρ)}
    (hgood : ∀ s, I s → good s)
    (hstep : ∀ s l, I s → M.enabled s l → P s l → I (M.step s l).2)
    (hexact : ∀ s l, I s → M.enabled s l → ¬ P s l → ¬ good (M.step s l).2)
    (h : M.Run s tr s') (h₀ : I s) :
    (∀ before after m, tr = before ++ after → M.Run s before m → good m) ↔
      (M.restrict P).Run s tr s' := by
  have hstep' : ∀ m l, I m → (M.restrict P).enabled m l → I ((M.restrict P).step m l).2 :=
    fun m l hm hen => hstep m l hm hen.1 hen.2
  have hinv : ∀ {tr m}, (M.restrict P).Run s tr m → I m := fun hrun => hrun.invariant hstep' h₀
  constructor
  · intro hall
    induction h with
    | nil => exact .nil
    | @snoc tr m l hrun hen ih =>
      have hbefore : (M.restrict P).Run s tr m := by
        refine ih fun before after n htr hn => hall before (after ++ [(l, (M.step m l).1)]) n ?_ hn
        rw [htr, List.append_assoc]
      have hlast : good (M.step m l).2 := hall _ [] _ (List.append_nil _).symm (hrun.snoc hen)
      have hP : P m l := by
        by_contra hP
        exact hexact m l (hinv hbefore) hen hP hlast
      exact Run.snoc (M := M.restrict P) hbefore ⟨hen, hP⟩
  · intro hrun before after m htr hm
    subst htr
    obtain ⟨n, hn, -⟩ := hrun.split
    obtain rfl := hn.of_restrict.unique hm
    exact hgood n (hinv hn)

/-! ## What has happened -/

/-- Some step of the trace `tr`, taken in the state `m`, had the property `P`. -/
def Happened (M : Machine σ ℓ ρ) (s : σ) (tr : List (ℓ × ρ)) (P : ℓ → ρ → σ → Prop) : Prop :=
  ∃ pre l post m, tr = pre ++ (l, (M.step m l).1) :: post ∧ M.Run s pre m ∧ M.enabled m l ∧
    P l (M.step m l).1 m

namespace Happened

variable {s m : σ} {tr : List (ℓ × ρ)} {l : ℓ} {P Q : ℓ → ρ → σ → Prop}

/-- What has happened stays so. -/
lemma snoc (h : M.Happened s tr P) (e : ℓ × ρ) : M.Happened s (tr ++ [e]) P := by
  obtain ⟨pre, l, post, m, rfl, hrun, hen, hP⟩ := h
  exact ⟨pre, l, post ++ [e], m, by simp, hrun, hen, hP⟩

/-- What has happened by now had happened before, or has just happened. -/
lemma of_snoc {e : ℓ × ρ} (hrun : M.Run s tr m) (h : M.Happened s (tr ++ [e]) P) :
    M.Happened s tr P ∨ P e.1 e.2 m := by
  obtain ⟨pre, l, post, n, htr, hn, hen, hP⟩ := h
  rcases List.eq_nil_or_concat post with rfl | ⟨post, e', rfl⟩
  · obtain ⟨rfl, he⟩ := List.append_inj' htr rfl
    obtain rfl : e = (l, (M.step n l).1) := by simpa using he
    obtain rfl := hn.unique hrun
    exact .inr hP
  · rw [List.concat_eq_append, ← List.cons_append, ← List.append_assoc] at htr
    obtain ⟨rfl, -⟩ := List.append_inj' htr rfl
    exact .inl ⟨pre, l, post, n, rfl, hn, hen, hP⟩

lemma append (h : M.Happened s tr P) (tr' : List (ℓ × ρ)) : M.Happened s (tr ++ tr') P := by
  obtain ⟨pre, l, post, m, rfl, hrun, hen, hP⟩ := h
  exact ⟨pre, l, post ++ tr', m, by simp, hrun, hen, hP⟩

/-- What the last step did has happened. -/
lemma last (hrun : M.Run s tr m) (hen : M.enabled m l) (hP : P l (M.step m l).1 m) :
    M.Happened s (tr ++ [(l, (M.step m l).1)]) P :=
  ⟨tr, l, [], m, rfl, hrun, hen, hP⟩

/-- The same, with the answer of the step given. -/
lemma last_of_answer {a : ρ} (hrun : M.Run s tr m) (hen : M.enabled m l) (ha : (M.step m l).1 = a)
    (hP : P l a m) : M.Happened s (tr ++ [(l, a)]) P := by
  subst ha
  exact last hrun hen hP

lemma mono (h : M.Happened s tr P) (hPQ : ∀ l a m, P l a m → Q l a m) : M.Happened s tr Q := by
  obtain ⟨pre, l, post, m, htr, hrun, hen, hP⟩ := h
  exact ⟨pre, l, post, m, htr, hrun, hen, hPQ _ _ _ hP⟩

end Happened

/-! ## Executing a list of labels -/

/-- The trace and the final state of taking the given steps one after the other. -/
def exec (M : Machine σ ℓ ρ) (s : σ) : List ℓ → List (ℓ × ρ) × σ
  | [] => ([], s)
  | l :: ls =>
    let rest := M.exec (M.step s l).2 ls
    ((l, (M.step s l).1) :: rest.1, rest.2)

/-- Every one of the given steps is enabled when it is taken. -/
def Allows (M : Machine σ ℓ ρ) (s : σ) : List ℓ → Prop
  | [] => True
  | l :: ls => M.enabled s l ∧ M.Allows (M.step s l).2 ls

instance Allows.decidable [∀ s l, Decidable (M.enabled s l)] :
    (s : σ) → (ls : List ℓ) → Decidable (M.Allows s ls)
  | _, [] => inferInstanceAs (Decidable True)
  | s, l :: ls =>
    have := Allows.decidable (M.step s l).2 ls
    inferInstanceAs (Decidable (M.enabled s l ∧ M.Allows (M.step s l).2 ls))

/-- Taking enabled steps gives a run. -/
lemma run_exec {s : σ} {ls : List ℓ} (h : M.Allows s ls) :
    M.Run s (M.exec s ls).1 (M.exec s ls).2 := by
  induction ls generalizing s with
  | nil => exact .nil
  | cons l ls ih => exact (Run.single h.1).append (ih h.2)

lemma exec_append (s : σ) (ls ls' : List ℓ) :
    M.exec s (ls ++ ls') = ((M.exec s ls).1 ++ (M.exec (M.exec s ls).2 ls').1,
      (M.exec (M.exec s ls).2 ls').2) := by
  induction ls generalizing s with
  | nil => rfl
  | cons l ls ih =>
    simp only [List.cons_append, exec, ih]

lemma exec_labels (s : σ) (ls : List ℓ) : (M.exec s ls).1.map Prod.fst = ls := by
  induction ls generalizing s with
  | nil => rfl
  | cons l ls ih => rw [exec, List.map_cons, ih]

/-- A run is what comes of taking its steps. -/
lemma Run.exec_eq {s s' : σ} {tr : List (ℓ × ρ)} (h : M.Run s tr s') :
    M.exec s (tr.map Prod.fst) = (tr, s') := by
  induction h with
  | nil => rfl
  | snoc _ _ ih =>
    rw [List.map_append, exec_append, ih]
    rfl

/-- What one of the steps does has happened when they have all been taken. -/
lemma happened_exec {s : σ} {ls ls' : List ℓ} {l : ℓ} {P : ℓ → ρ → σ → Prop}
    (h : M.Allows s ls) (hen : M.enabled (M.exec s ls).2 l)
    (hP : P l (M.step (M.exec s ls).2 l).1 (M.exec s ls).2) :
    M.Happened s (M.exec s (ls ++ l :: ls')).1 P := by
  rw [exec_append]
  exact ⟨_, l, _, _, rfl, run_exec h, hen, hP⟩

lemma exec_restrict (P : σ → ℓ → Prop) (s : σ) (ls : List ℓ) :
    (M.restrict P).exec s ls = M.exec s ls := by
  induction ls generalizing s with
  | nil => rfl
  | cons l ls ih =>
    simp only [exec]
    rw [ih]
    rfl

/-! ## History variables

What has been said by whom is often not to be seen in the state of a machine any more.  A history
variable stands beside the state, and every step adds to it; no step depends on it, so the machine
with the history has the runs of the machine without. -/

section History

variable {η : Type*}

/-- The machine with a history; `note` says what a step adds to it. -/
def withHistory (M : Machine σ ℓ ρ) (note : η → σ → ℓ → η) (start : η) : Machine (σ × η) ℓ ρ where
  init s := M.init s.1 ∧ s.2 = start
  enabled s l := M.enabled s.1 l
  step s l := ((M.step s.1 l).1, (M.step s.1 l).2, note s.2 s.1 l)

variable {note : η → σ → ℓ → η} {start : η}

instance [∀ s l, Decidable (M.enabled s l)] (s : σ × η) (l : ℓ) :
    Decidable ((M.withHistory note start).enabled s l) :=
  inferInstanceAs (Decidable (M.enabled s.1 l))

/-- The history can be forgotten. -/
lemma Run.forget {s s' : σ × η} {tr : List (ℓ × ρ)}
    (h : (M.withHistory note start).Run s tr s') : M.Run s.1 tr s'.1 := by
  induction h with
  | nil => exact .nil
  | snoc _ hen ih => exact ih.snoc hen

/-- Every run has a history. -/
lemma Run.exists_history {s s' : σ} {tr : List (ℓ × ρ)} (h : M.Run s tr s') (past : η) :
    ∃ past', (M.withHistory note start).Run (s, past) tr (s', past') := by
  induction h with
  | nil => exact ⟨past, .nil⟩
  | @snoc tr m l _ hen ih =>
    obtain ⟨past', hrun⟩ := ih
    exact ⟨note past' m l, hrun.snoc (M := M.withHistory note start) hen⟩

end History

end Machine

end Lib
