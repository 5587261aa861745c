/-
# Procedures that run beside each other

Procedures are invoked at any time, and each of their calls takes effect at once; which procedure
makes its next call is left open.  An order on invocations respects real time if none of them comes
after one that was invoked only when it had returned.  Such orders are found by listing the
invocations as each of them makes a chosen call.
-/
import OzonSuite.Lib.Calls
import OzonSuite.Lib.Machine

namespace Lib

section Defs

variable (σ ι κ : Type) (ρ : κ → Type) (α : Type)

/-- A procedure under way: the request that it serves, the calls that it has still to make, and
when it was invoked and has returned. -/
structure Invocation where
  request : ι
  rest : Calls κ ρ α
  invokedAt : ℕ
  returnedAt : Option ℕ

/-- Procedures on a shared state, in the order of their invocation.  The clock counts the steps. -/
structure Concurrent where
  shared : σ
  invocations : List (Invocation ι κ ρ α)
  clock : ℕ

/-- What happens next: a new request, the next call of an invocation, or its return. -/
inductive Turn
  | invoke (request : ι)
  | advance (i : ℕ)
  | respond (i : ℕ)
deriving DecidableEq

end Defs

variable {σ ι κ : Type} {ρ : κ → Type} {α : Type}

namespace Concurrent

/-- The turns that can be taken. -/
def CanTake (s : Concurrent σ ι κ ρ α) : Turn ι → Prop
  | .invoke _ => True
  | .advance i => ∃ p ∈ s.invocations[i]?, p.rest.head?.isSome
  | .respond i => ∃ p ∈ s.invocations[i]?, p.rest.head?.isNone ∧ p.returnedAt.isNone

instance (s : Concurrent σ ι κ ρ α) : DecidablePred s.CanTake
  | .invoke _ => inferInstanceAs (Decidable True)
  | .advance i =>
    inferInstanceAs (Decidable (∃ p ∈ s.invocations[i]?, p.rest.head?.isSome))
  | .respond i =>
    inferInstanceAs
      (Decidable (∃ p ∈ s.invocations[i]?, p.rest.head?.isNone ∧ p.returnedAt.isNone))

/-- What a turn does. -/
def take (serve : ι → Calls κ ρ α) (handle : (c : κ) → σ → ρ c × σ) (s : Concurrent σ ι κ ρ α) :
    Turn ι → Concurrent σ ι κ ρ α
  | .invoke request =>
    ⟨s.shared, s.invocations ++ [⟨request, serve request, s.clock, none⟩], s.clock + 1⟩
  | .advance i =>
    match s.invocations[i]? with
    | some ⟨request, .call c next, invokedAt, returnedAt⟩ =>
      ⟨(handle c s.shared).2,
        s.invocations.set i ⟨request, next (handle c s.shared).1, invokedAt, returnedAt⟩,
        s.clock + 1⟩
    | _ => s
  | .respond i =>
    match s.invocations[i]? with
    | some p => ⟨s.shared, s.invocations.set i { p with returnedAt := some s.clock }, s.clock + 1⟩
    | none => s

end Concurrent

/-- Procedures that run beside each other. -/
def interleaving (serve : ι → Calls κ ρ α) (handle : (c : κ) → σ → ρ c × σ) :
    Machine (Concurrent σ ι κ ρ α) (Turn ι) Unit where
  init s := s.invocations = [] ∧ s.clock = 0
  enabled := Concurrent.CanTake
  step s turn := ((), s.take serve handle turn)

namespace Concurrent

section Turns

variable (serve : ι → Calls κ ρ α) (handle : (c : κ) → σ → ρ c × σ)

/-- What a turn can do, and what is known when it can be taken. -/
lemma take_cases {s : Concurrent σ ι κ ρ α} {turn : Turn ι} (h : s.CanTake turn) :
    (∃ request, turn = .invoke request ∧ s.take serve handle turn =
      ⟨s.shared, s.invocations ++ [⟨request, serve request, s.clock, none⟩], s.clock + 1⟩) ∨
    (∃ i p c next, turn = .advance i ∧ s.invocations[i]? = some p ∧ p.rest = .call c next ∧
      s.take serve handle turn = ⟨(handle c s.shared).2,
        s.invocations.set i { p with rest := next (handle c s.shared).1 }, s.clock + 1⟩) ∨
    (∃ i p a, turn = .respond i ∧ s.invocations[i]? = some p ∧ p.rest = .done a ∧
      p.returnedAt = none ∧ s.take serve handle turn =
        ⟨s.shared, s.invocations.set i { p with returnedAt := some s.clock }, s.clock + 1⟩) := by
  cases turn with
  | invoke request => exact .inl ⟨request, rfl, rfl⟩
  | advance i =>
    obtain ⟨⟨request, rest, invokedAt, returnedAt⟩, hi, hhead⟩ := h
    rw [Option.mem_def] at hi
    cases rest with
    | done a => cases hhead
    | call c next => exact .inr (.inl ⟨i, _, c, next, rfl, hi, rfl, by simp [take, hi]⟩)
  | respond i =>
    obtain ⟨⟨request, rest, invokedAt, returnedAt⟩, hi, hhead, hret⟩ := h
    rw [Option.mem_def] at hi
    cases rest with
    | done a =>
      refine .inr (.inr ⟨i, _, a, rfl, hi, rfl, Option.isNone_iff_eq_none.mp hret, ?_⟩)
      simp [take, hi]
    | call c next => cases hhead

/-! ## Real time -/

/-- The one invocation had returned when the other was made. -/
def Precedes (s : Concurrent σ ι κ ρ α) (i j : ℕ) : Prop :=
  ∃ p q t, s.invocations[i]? = some p ∧ s.invocations[j]? = some q ∧ p.returnedAt = some t ∧
    t < q.invokedAt

/-- No invocation is listed twice, and none after one that it precedes. -/
def Respects (s : Concurrent σ ι κ ρ α) (order : List ℕ) : Prop :=
  order.Nodup ∧ order.Pairwise fun i j => ¬ s.Precedes j i

/-- The times noted lie in the past, and what has returned makes no more calls. -/
def Timed (s : Concurrent σ ι κ ρ α) : Prop :=
  ∀ p ∈ s.invocations, p.invokedAt < s.clock ∧
    (p.returnedAt ≠ none → ∃ a, p.rest = .done a)

lemma timed_take {s : Concurrent σ ι κ ρ α} {turn : Turn ι} (hs : s.Timed)
    (h : s.CanTake turn) : (s.take serve handle turn).Timed := by
  rcases take_cases serve handle h with
    ⟨request, -, he⟩ | ⟨i, p, c, next, -, hi, hrest, he⟩ | ⟨i, p, a, -, hi, hrest, -, he⟩
  · rw [he]
    intro q hq
    rcases List.mem_append.mp hq with hq | hq
    · exact ⟨Nat.lt_succ_of_lt (hs q hq).1, (hs q hq).2⟩
    · obtain rfl := List.mem_singleton.mp hq
      exact ⟨Nat.lt_succ_self _, fun hne => absurd rfl hne⟩
  · rw [he]
    have hp := hs p (List.mem_of_getElem? hi)
    intro q hq
    rcases List.mem_or_eq_of_mem_set hq with hq | rfl
    · exact ⟨Nat.lt_succ_of_lt (hs q hq).1, (hs q hq).2⟩
    · refine ⟨Nat.lt_succ_of_lt hp.1, fun hne => ?_⟩
      obtain ⟨a, ha⟩ := hp.2 hne
      rw [hrest] at ha
      cases ha
  · rw [he]
    intro q hq
    rcases List.mem_or_eq_of_mem_set hq with hq | rfl
    · exact ⟨Nat.lt_succ_of_lt (hs q hq).1, (hs q hq).2⟩
    · exact ⟨Nat.lt_succ_of_lt (hs p (List.mem_of_getElem? hi)).1, fun _ => ⟨a, hrest⟩⟩

/-- An invocation after a turn is one that was there before, and may have returned just now, or it
is new. -/
lemma getElem?_take {s : Concurrent σ ι κ ρ α} {turn : Turn ι} (h : s.CanTake turn) {j : ℕ}
    {q : Invocation ι κ ρ α} (hq : (s.take serve handle turn).invocations[j]? = some q) :
    (∃ p, s.invocations[j]? = some p ∧ q.request = p.request ∧ q.invokedAt = p.invokedAt ∧
      (q.returnedAt = p.returnedAt ∨ q.returnedAt = some s.clock)) ∨
    (j = s.invocations.length ∧ q.returnedAt = none) := by
  rcases take_cases serve handle h with
    ⟨request, -, he⟩ | ⟨i, p, c, next, -, hi, -, he⟩ | ⟨i, p, a, -, hi, -, -, he⟩
  · rw [he, List.getElem?_append] at hq
    split at hq
    · exact .inl ⟨q, hq, rfl, rfl, .inl rfl⟩
    · have hlen := List.getElem?_eq_some_iff.mp hq
      obtain ⟨hlt, rfl⟩ := hlen
      simp only [List.length_singleton] at hlt
      exact .inr ⟨by omega, by simp⟩
  · rw [he, List.getElem?_set] at hq
    split at hq
    · next hij =>
      subst hij
      split at hq
      · obtain rfl := Option.some.inj hq
        exact .inl ⟨p, hi, rfl, rfl, .inl rfl⟩
      · cases hq
    · exact .inl ⟨q, hq, rfl, rfl, .inl rfl⟩
  · rw [he, List.getElem?_set] at hq
    split at hq
    · next hij =>
      subst hij
      split at hq
      · obtain rfl := Option.some.inj hq
        exact .inl ⟨p, hi, rfl, rfl, .inr rfl⟩
      · cases hq
    · exact .inl ⟨q, hq, rfl, rfl, .inl rfl⟩

/-- Invocations stay, with their requests. -/
lemma request_take {s : Concurrent σ ι κ ρ α} {turn : Turn ι} (h : s.CanTake turn) {j : ℕ}
    {p : Invocation ι κ ρ α} (hp : s.invocations[j]? = some p) :
    ∃ q, (s.take serve handle turn).invocations[j]? = some q ∧ q.request = p.request := by
  have hlt : j < s.invocations.length := (List.getElem?_eq_some_iff.mp hp).1
  have hlen : j < (s.take serve handle turn).invocations.length := by
    rcases take_cases serve handle h with
      ⟨request, -, he⟩ | ⟨i, p, c, next, -, hi, -, he⟩ | ⟨i, p, a, -, hi, -, -, he⟩ <;>
    · rw [he]
      simp
      omega
  refine ⟨_, List.getElem?_eq_getElem hlen, ?_⟩
  have hbefore := getElem?_take serve handle h (List.getElem?_eq_getElem hlen)
  rcases hbefore with ⟨p', hp', hr, -⟩ | ⟨rfl, -⟩
  · rw [hp] at hp'
    obtain rfl := Option.some.inj hp'
    exact hr
  · exact absurd hlt (Nat.lt_irrefl _)

/-- No turn makes one invocation precede another that was there before. -/
lemma precedes_take {s : Concurrent σ ι κ ρ α} {turn : Turn ι} (hs : s.Timed)
    (h : s.CanTake turn) {i j : ℕ} (hi : i < s.invocations.length)
    (hji : (s.take serve handle turn).Precedes j i) : s.Precedes j i := by
  obtain ⟨q, r, t, hq, hr, ht, hlt⟩ := hji
  rcases getElem?_take serve handle h hr with ⟨r', hr', -, hinv, -⟩ | ⟨rfl, -⟩
  · have hpast : r'.invokedAt < s.clock := (hs r' (List.mem_of_getElem? hr')).1
    rcases getElem?_take serve handle h hq with ⟨q', hq', -, -, hret | hret⟩ | ⟨-, hret⟩
    · exact ⟨q', r', t, hq', hr', hret ▸ ht, hinv ▸ hlt⟩
    · -- it returns now, and the other was invoked before
      rw [hret] at ht
      obtain rfl := Option.some.inj ht
      omega
    · rw [hret] at ht
      cases ht
  · exact absurd hi (Nat.lt_irrefl _)

/-- **Real time is kept.**  An order that respects real time does so after every turn. -/
theorem respects_take {s : Concurrent σ ι κ ρ α} {turn : Turn ι} (hs : s.Timed)
    (h : s.CanTake turn) {order : List ℕ} (hlt : ∀ i ∈ order, i < s.invocations.length)
    (horder : s.Respects order) : (s.take serve handle turn).Respects order := by
  refine ⟨horder.1, horder.2.imp_of_mem fun {i j} hi _ hij hji => hij ?_⟩
  exact precedes_take serve handle hs h (hlt i hi) hji

end Turns

/-- **The next in the order.**  An invocation that has not returned can come last. -/
theorem Respects.snoc {s : Concurrent σ ι κ ρ α} {order : List ℕ} (h : s.Respects order) {i : ℕ}
    {p : Invocation ι κ ρ α} (hi : i ∉ order) (hp : s.invocations[i]? = some p)
    (hret : p.returnedAt = none) : s.Respects (order ++ [i]) := by
  refine ⟨?_, List.pairwise_append.mpr ⟨h.2, List.pairwise_singleton _ _, ?_⟩⟩
  · rw [List.nodup_append]
    refine ⟨h.1, List.nodup_singleton i, fun a ha b hb hab => hi ?_⟩
    rwa [← List.mem_singleton.mp hb, ← hab]
  · intro a _ b hb
    obtain rfl := List.mem_singleton.mp hb
    rintro ⟨p', q, t, hp', -, ht, -⟩
    rw [hp] at hp'
    obtain rfl := Option.some.inj hp'
    rw [hret] at ht
    cases ht

/-- Whether some invocation has a property does not change with one for which it does not. -/
lemma exists_set (Q : Invocation ι κ ρ α → Prop) {l : List (Invocation ι κ ρ α)} {i : ℕ}
    {p : Invocation ι κ ρ α} (p' : Invocation ι κ ρ α) (hi : l[i]? = some p) (h : Q p' ↔ Q p) :
    (∃ q ∈ l.set i p', Q q) ↔ ∃ q ∈ l, Q q := by
  have hlt : i < l.length := (List.getElem?_eq_some_iff.mp hi).1
  constructor
  · rintro ⟨q, hq, hQ⟩
    rcases List.mem_or_eq_of_mem_set hq with hq | rfl
    · exact ⟨q, hq, hQ⟩
    · exact ⟨p, List.mem_of_getElem? hi, h.mp hQ⟩
  · rintro ⟨q, hq, hQ⟩
    obtain ⟨j, hj⟩ := List.mem_iff_getElem?.mp hq
    by_cases hij : i = j
    · subst hij
      rw [hi] at hj
      obtain rfl := Option.some.inj hj
      exact ⟨p', List.mem_set hlt _, h.mpr hQ⟩
    · exact ⟨q, List.mem_of_getElem? (List.getElem?_set_ne hij ▸ hj), hQ⟩

end Concurrent

end Lib
