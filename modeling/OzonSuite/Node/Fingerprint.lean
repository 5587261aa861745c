/-
# One fingerprint for the machine

Where the hardware gives no fingerprint, the node reads a stored one and makes a new one when it
finds none.  The store has two layers and each call to one of them is a step of its own, so other
requests, and restarts, come in between, and the keyring may fail at any of its calls.  A machine
keeps its first fingerprint as long as nobody writes another one over it or beside it.
-/
import OzonSuite.Lib.Machine
import OzonSuite.Node.Lease
import OzonSuite.SecretStore.Layered

namespace OzonSuite

open Lib

/-! ## The calls -/

/-- A node that finds or makes its fingerprint. -/
abbrev FingerprintCalls := LayerCalls (Except ApiError String)

/-- Store a new fingerprint. -/
def mintFingerprint (id : Uuid) : FingerprintCalls := do
  let value := mintedFingerprint id
  match ← LayeredSecretStore.put secretDeviceFingerprint value with
  | .ok () => return .ok value
  | .error _ => return .error (.internal "failed to persist device fingerprint")

/-- What is done with the stored value. -/
def useFingerprint (id : Uuid) : Except SecretStoreError (Option String) → FingerprintCalls
  | .error _ => return .error (.internal "secret store unavailable")
  | .ok existing =>
    match existing.map trim with
    | some value => if isDeviceFingerprint value then return .ok value else mintFingerprint id
    | none => mintFingerprint id

/-- The fingerprint of the machine; `id` is the identifier that is drawn when one is made. -/
def fingerprintCalls (stable : Option String) (id : Uuid) : FingerprintCalls :=
  match stable with
  | some stable => return .ok stable
  | none => do useFingerprint id (← LayeredSecretStore.get secretDeviceFingerprint)

/-- A read alone, with a keyring that works, answers what is stored. -/
lemma run_get_working (s : Layers) (name : SecretName) :
    ((LayeredSecretStore.get name).run (Layers.handle .working) s).1 = .ok (s.stored name) := by
  cases hp : s.primary name <;> cases hf : s.fallback name <;>
    simp [LayeredSecretStore.get, Layers.handle, Keyring.response, Layers.stored, hp, hf]

/-- With a keyring that works and no other request, the calls answer what the handlers of a node
see. -/
lemma run_fingerprintCalls {w : NodeWorld} {n : LocalState} {s : Layers}
    (hget : w.getFails secretDeviceFingerprint = false)
    (hput : w.putFails secretDeviceFingerprint = false)
    (hstored : s.stored secretDeviceFingerprint = n.secrets.lookup secretDeviceFingerprint) :
    ((fingerprintCalls w.stableMachineFingerprint (w.uuid 0)).run (Layers.handle .working) s).1 =
      outcome (loadOrCreateDeviceFingerprint w n) := by
  cases hstable : w.stableMachineFingerprint with
  | some stable =>
    rw [loadOrCreateDeviceFingerprint, hstable]
    rfl
  | none =>
    have hmint : ∀ s', ((mintFingerprint (w.uuid 0)).run (Layers.handle .working) s').1 =
        outcome (loadOrCreateDeviceFingerprint.mint w n) := by
      intro s'
      simp only [loadOrCreateDeviceFingerprint.mint, putSecret, refuseIf, hput]
      rfl
    have hread : getSecret w secretDeviceFingerprint n =
        .ok (n.secrets.lookup secretDeviceFingerprint) n := getSecret_eq_ok.mpr ⟨hget, rfl, rfl⟩
    rw [fingerprintCalls, Calls.run_bind, run_get_working, hstored, loadOrCreateDeviceFingerprint,
      hstable]
    simp only [bind_of_ok hread, useFingerprint]
    cases (n.secrets.lookup secretDeviceFingerprint).map trim with
    | none => exact hmint _
    | some value =>
      simp only
      split
      · rfl
      · exact hmint _

/-! ## Requests, restarts and the keyring -/

/-- The layers of the store, and what remains of the requests that were made since the last
start. -/
structure FingerprintStore where
  layers : Layers
  calls : List FingerprintCalls

/-- A step: a request for the fingerprint, or the next call of the `i`-th one. -/
inductive FingerprintLabel
  | request (id : Uuid)
  | advance (i : ℕ) (keyring : Keyring)
  | restart
deriving DecidableEq

/-- The answer of a request that has no more calls to make. -/
def answerOf : FingerprintCalls → Option (Except ApiError String)
  | .done a => some a
  | .call _ _ => none

lemma answerOf_eq_some {p : FingerprintCalls} {a : Except ApiError String} :
    answerOf p = some a ↔ p = .done a := by
  cases p <;> simp [answerOf]

namespace FingerprintStore

/-- The next call of the `i`-th request, and its answer when this was the last. -/
def advance (s : FingerprintStore) (i : ℕ) (keyring : Keyring) :
    Option (Except ApiError String) × FingerprintStore :=
  match s.calls[i]? with
  | some (.call c next) =>
    let (r, layers) := Layers.handle keyring c s.layers
    (answerOf (next r), { layers := layers, calls := s.calls.set i (next r) })
  | _ => (none, s)

/-- Nothing has ever been stored under the name. -/
def Fresh (s : FingerprintStore) : Prop :=
  s.layers.primary secretDeviceFingerprint = none ∧
    s.layers.fallback secretDeviceFingerprint = none ∧ s.calls = []

end FingerprintStore

/-- The store of a machine without a hardware fingerprint, from its installation on. -/
def fingerprintMachine :
    Machine FingerprintStore FingerprintLabel (Option (Except ApiError String)) where
  init := FingerprintStore.Fresh
  enabled _ _ := True
  step s
    | .request id => (none, { s with calls := s.calls ++ [fingerprintCalls none id] })
    | .advance i keyring => s.advance i keyring
    | .restart => (none, { s with calls := [] })

/-- The value is the only one that the layers hold. -/
def Layers.HoldsOnly (s : Layers) (value : String) : Prop :=
  (∀ u, s.primary secretDeviceFingerprint = some u → u = value) ∧
    ∀ u, s.fallback secretDeviceFingerprint = some u → u = value

/-- A call that writes a fingerprint, to the keyring that takes it or to the file, finds no other
one in either layer. -/
def WritesAlone (s : FingerprintStore) : FingerprintLabel → Prop
  | .advance i keyring =>
    match (s.calls[i]?).bind Calls.head? with
    | some (.primaryPut _ value) => keyring = .working → s.layers.HoldsOnly value
    | some (.fallbackPut _ value) => s.layers.HoldsOnly value
    | _ => True
  | _ => True

instance (s : Layers) (value : String) : Decidable (s.HoldsOnly value) :=
  inferInstanceAs (Decidable ((∀ u ∈ s.primary secretDeviceFingerprint, u = value) ∧
    ∀ u ∈ s.fallback secretDeviceFingerprint, u = value))

instance (s : FingerprintStore) (l : FingerprintLabel) : Decidable (WritesAlone s l) :=
  match l with
  | .advance i keyring =>
    match h : (s.calls[i]?).bind Calls.head? with
    | some (.primaryPut _ value) =>
      decidable_of_iff (keyring = .working → s.layers.HoldsOnly value) (by simp [WritesAlone, h])
    | some (.fallbackPut _ value) =>
      decidable_of_iff (s.layers.HoldsOnly value) (by simp [WritesAlone, h])
    | none | some (.primaryGet _) | some (.primaryDelete _) | some (.fallbackGet _)
    | some (.fallbackDelete _) => .isTrue (by simp [WritesAlone, h])
  | .request _ | .restart => .isTrue trivial

instance (s : FingerprintStore) (l : FingerprintLabel) :
    Decidable (fingerprintMachine.enabled s l) := inferInstanceAs (Decidable True)

/-! ## What can remain of a request -/

/-- The name that a call is about. -/
def LayerCall.name : LayerCall → SecretName
  | .primaryPut name _ | .primaryGet name | .primaryDelete name => name
  | .fallbackPut name _ | .fallbackGet name | .fallbackDelete name => name

/-- The answer of a call when the layers hold no other value than `v`, and no other is written. -/
def AnswersOnly (v : String) : (c : LayerCall) → c.Response → Prop
  | .primaryPut _ u, .completed (.ok ()) => u = v
  | .primaryGet _, .completed (.ok (some u)) => u = v
  | .fallbackPut _ u, _ => u = v
  | .fallbackGet _, .ok (some u) => u = v
  | _, _ => True

/-- The answer of a call after which the keyring holds a value. -/
def Fills : (c : LayerCall) → c.Response → Prop
  | .primaryPut _ _, .completed (.ok ()) => True
  | .primaryGet _, .completed (.ok (some _)) => True
  | _, _ => False

/-- The fallback is about to be cleared. -/
def Clears (p : FingerprintCalls) : Prop := p.head? = some (.fallbackDelete secretDeviceFingerprint)

/-- A value that is read back as the fingerprint that it is. -/
def Usable (v : String) : Prop := trim v = v ∧ isDeviceFingerprint v = true

/-- If the layers hold only `v`, the request returns `v` or fails; it writes nothing that is not
usable, and it clears the fallback only when the keyring holds a value. -/
inductive Returns (v : String) : FingerprintCalls → Prop
  | ok : Returns v (.done (.ok v))
  | error (e : ApiError) : Returns v (.done (.error e))
  | call {c : LayerCall} {next : c.Response → FingerprintCalls}
      (hname : c.name = secretDeviceFingerprint) (hkeeps : ∀ n, c ≠ .primaryDelete n)
      (hwrites : ∀ n u, c = .primaryPut n u ∨ c = .fallbackPut n u → Usable u)
      (hnext : ∀ r, AnswersOnly v c r → Returns v (next r))
      (hclears : ∀ r, Clears (next r) → Fills c r) : Returns v (.call c next)

section Programs

variable {v : String} (id : Uuid)

lemma usable_mintedFingerprint : Usable (mintedFingerprint id) := mintedFingerprint_spec id

/-- Reading and clearing write nothing. -/
lemma usable_of_quiet {c : LayerCall} (hput : ∀ n u, c ≠ .primaryPut n u)
    (hfile : ∀ n u, c ≠ .fallbackPut n u) :
    ∀ n u, c = .primaryPut n u ∨ c = .fallbackPut n u → Usable u := by
  rintro n u (h | h)
  · exact absurd h (hput n u)
  · exact absurd h (hfile n u)

lemma returns_clear {next : Except SecretStoreError Unit → FingerprintCalls}
    (hnext : ∀ r, Returns v (next r)) (hclears : ∀ r, ¬ Clears (next r)) :
    Returns v (.call (.fallbackDelete secretDeviceFingerprint) next) :=
  .call rfl nofun (usable_of_quiet nofun nofun) (fun r _ => hnext r)
    fun r hr => absurd hr (hclears r)

/-- Storing in the file what the keyring has not taken. -/
lemma returns_fallbackPut {u : String} {next : Except SecretStoreError Unit → FingerprintCalls}
    (hu : Usable u) (hok : next (.ok ()) = .done (.ok u))
    (herror : ∀ e, ∃ e', next (.error e) = .done (.error e')) :
    Returns v (.call (.fallbackPut secretDeviceFingerprint u) next) := by
  refine .call rfl nofun ?_ (fun r hr => ?_) fun r hr => ?_
  · rintro n u' (h | h)
    · cases h
    · cases h
      exact hu
  · obtain rfl : u = v := hr
    rcases r with e | _
    · obtain ⟨e', he⟩ := herror e
      exact he ▸ .error e'
    · exact hok ▸ .ok
  · rcases r with e | _
    · obtain ⟨e', he⟩ := herror e
      rw [Clears, he] at hr
      cases hr
    · rw [Clears, hok] at hr
      cases hr

/-- Making a fingerprint, for any `v`: where the layers hold `v`, no other can be written. -/
lemma returns_mintFingerprint : Returns v (mintFingerprint id) := by
  refine .call rfl nofun ?_ (fun r hr => ?_) fun r hr => ?_
  · rintro n u (h | h)
    · cases h
      exact usable_mintedFingerprint id
    · cases h
  · rcases r with (e | u) | _
    · exact returns_fallbackPut (usable_mintedFingerprint id) rfl fun e => ⟨_, rfl⟩
    · obtain rfl : mintedFingerprint id = v := hr
      exact returns_clear (fun _ => .ok) fun _ h => by cases h
    · exact returns_fallbackPut (usable_mintedFingerprint id) rfl fun e => ⟨_, rfl⟩
  · rcases r with (e | u) | _
    · cases hr
    · trivial
    · cases hr

lemma not_clears_mintFingerprint : ¬ Clears (mintFingerprint id) := nofun

/-- Using what the layers hold. -/
lemma returns_useFingerprint (hv : Usable v) {r : Except SecretStoreError (Option String)}
    (h : ∀ u, r = .ok (some u) → u = v) : Returns v (useFingerprint id r) := by
  rcases r with e | _ | u
  · exact .error _
  · exact returns_mintFingerprint id
  · obtain rfl := h u rfl
    simp only [useFingerprint, Option.map_some, hv.1, hv.2, if_true]
    exact .ok

lemma not_clears_useFingerprint {r : Except SecretStoreError (Option String)} :
    ¬ Clears (useFingerprint id r) := by
  rcases r with e | existing
  · exact fun h => by cases h
  · simp only [useFingerprint]
    split
    · split
      · exact fun h => by cases h
      · exact not_clears_mintFingerprint id
    · exact not_clears_mintFingerprint id

/-- Reading the layered store, with what is done with the answer left open. -/
lemma returns_get (hv : Usable v) {f : Except SecretStoreError (Option String) → FingerprintCalls}
    (hf : ∀ r, (∀ u, r = .ok (some u) → u = v) → Returns v (f r)) (hclears : ∀ r, ¬ Clears (f r)) :
    Returns v (LayeredSecretStore.get secretDeviceFingerprint >>= f) := by
  have hfound : ∀ {u : String}, u = v → Returns v (f (.ok (some u))) := fun hu =>
    hf _ fun u' hu' => Option.some.inj (Except.ok.inj hu') ▸ hu
  -- when the keyring cannot be reached, the fallback answers
  have hfailure : Returns v (.call (.fallbackGet secretDeviceFingerprint) fun r => f r) := by
    refine .call rfl nofun (usable_of_quiet nofun nofun) (fun r hr => hf r ?_)
      fun r hr => absurd hr (hclears r)
    rintro u rfl
    exact hr
  refine .call rfl nofun (usable_of_quiet nofun nofun) (fun r hr => ?_) fun r hr => ?_
  · rcases r with (e | _ | u) | _
    · exact hfailure
    · refine .call rfl nofun (usable_of_quiet nofun nofun) (fun r' hr' => ?_) fun r' hr' => ?_
      · rcases r' with e | _ | u
        · exact hf _ nofun
        · exact hf _ nofun
        · -- the fallback's value moves into the keyring
          obtain rfl : u = v := hr'
          refine .call rfl nofun ?_ (fun r'' _ => ?_) fun r'' hr'' => ?_
          · rintro n u' (h | h)
            · cases h
              exact hv
            · cases h
          · rcases r'' with (e | _) | _
            · exact hfound rfl
            · exact returns_clear (fun _ => hfound rfl) fun _ => hclears _
            · exact hfound rfl
          · rcases r'' with (e | _) | _
            · exact absurd hr'' (hclears _)
            · trivial
            · exact absurd hr'' (hclears _)
      · rcases r' with e | _ | u
        · exact absurd hr' (hclears _)
        · exact absurd hr' (hclears _)
        · cases hr'
    · exact returns_clear (fun _ => hfound hr) fun _ => hclears _
    · exact hfailure
  · rcases r with (e | _ | u) | _
    · cases hr
    · cases hr
    · trivial
    · cases hr

/-- A request, for every `v` that can be used. -/
lemma returns_fingerprintCalls (hv : Usable v) : Returns v (fingerprintCalls none id) :=
  returns_get hv (fun _ => returns_useFingerprint id hv) fun _ => not_clears_useFingerprint id

end Programs

/-! ## One identity -/

/-- The layers hold `held` and nothing else; and each request will return it, or whatever comes to
be held, or fail. -/
structure FingerprintStore.Inv (s : FingerprintStore) (held : Option String) : Prop where
  primary : ∀ u, s.layers.primary secretDeviceFingerprint = some u → held = some u
  fallback : ∀ u, s.layers.fallback secretDeviceFingerprint = some u → held = some u
  kept : ∀ v, held = some v → Usable v ∧
    (s.layers.primary secretDeviceFingerprint = some v ∨
      s.layers.fallback secretDeviceFingerprint = some v)
  returns : ∀ p ∈ s.calls, ∀ v, Usable v → (∀ u, held = some u → u = v) → Returns v p
  clears : ∀ p ∈ s.calls, Clears p → s.layers.primary secretDeviceFingerprint ≠ none

/-- Nothing that has come to be held is lost or replaced. -/
def Grows (held held' : Option String) : Prop := ∀ v, held = some v → held' = some v

namespace FingerprintStore

variable {s : FingerprintStore} {held : Option String}

/-- What a call does to the layers and answers, when it writes alone. -/
structure CallDone (s s' : Layers) (c : LayerCall) (r : c.Response) (held held' : Option String) :
    Prop where
  grows : Grows held held'
  primary : ∀ u, s'.primary secretDeviceFingerprint = some u → held' = some u
  fallback : ∀ u, s'.fallback secretDeviceFingerprint = some u → held' = some u
  kept : ∀ v, held' = some v → Usable v ∧
    (s'.primary secretDeviceFingerprint = some v ∨ s'.fallback secretDeviceFingerprint = some v)
  answers : ∀ v, (∀ u, held' = some u → u = v) → AnswersOnly v c r
  fills : Fills c r → s'.primary secretDeviceFingerprint ≠ none
  stays : s.primary secretDeviceFingerprint ≠ none → s'.primary secretDeviceFingerprint ≠ none

/-- A write that finds no other value makes its value the one that is held. -/
lemma held_of_holdsOnly (h : s.Inv held) {u : String} (halone : s.layers.HoldsOnly u) :
    Grows held (some u) := by
  intro v hv
  obtain ⟨-, hp | hf⟩ := h.kept v hv
  · rw [halone.1 v hp]
  · rw [halone.2 v hf]

lemma callDone {c : LayerCall} (h : s.Inv held) (keyring : Keyring)
    (hname : c.name = secretDeviceFingerprint) (hkeeps : ∀ n, c ≠ .primaryDelete n)
    (hwrites : ∀ n u, c = .primaryPut n u ∨ c = .fallbackPut n u → Usable u)
    (hclears : c = .fallbackDelete secretDeviceFingerprint →
      s.layers.primary secretDeviceFingerprint ≠ none)
    (halone : match c with
      | .primaryPut _ u => keyring = .working → s.layers.HoldsOnly u
      | .fallbackPut _ u => s.layers.HoldsOnly u
      | _ => True) :
    ∃ held', CallDone s.layers (Layers.handle keyring c s.layers).2 c
      (Layers.handle keyring c s.layers).1 held held' := by
  have hgrows : Grows held held := fun _ => id
  cases c with
  | primaryPut name u =>
    obtain rfl : name = secretDeviceFingerprint := hname
    cases keyring with
    | working =>
      -- the value is held from now on
      have hu : Usable u := hwrites _ u (.inl rfl)
      have hprimary : (Layers.handle .working (.primaryPut secretDeviceFingerprint u)
          s.layers).2.primary secretDeviceFingerprint = some u := by simp [Layers.handle]
      refine ⟨some u, held_of_holdsOnly h (halone rfl), ?_, ?_, ?_, ?_, ?_, ?_⟩
      · intro u' hu'
        exact hprimary.symm.trans hu'
      · intro u' hu'
        rw [(halone rfl).2 u' hu']
      · intro v hv
        obtain rfl := Option.some.inj hv
        exact ⟨hu, .inl hprimary⟩
      · intro v hv
        exact hv u rfl
      · intro _
        simp [hprimary]
      · intro _
        simp [hprimary]
    | failing e =>
      exact ⟨held, hgrows, h.primary, h.fallback, h.kept, fun _ _ => trivial, nofun, id⟩
    | hanging => exact ⟨held, hgrows, h.primary, h.fallback, h.kept, fun _ _ => trivial, nofun, id⟩
  | primaryGet name =>
    obtain rfl : name = secretDeviceFingerprint := hname
    cases keyring with
    | working =>
      cases hp : s.layers.primary secretDeviceFingerprint with
      | none =>
        refine ⟨held, hgrows, h.primary, h.fallback, h.kept, ?_, ?_, id⟩
        · simp [Layers.handle, Keyring.response, hp, AnswersOnly]
        · simp [Layers.handle, Keyring.response, hp, Fills]
      | some u =>
        refine ⟨held, hgrows, h.primary, h.fallback, h.kept, ?_, ?_, id⟩
        · intro v hv
          simpa [Layers.handle, Keyring.response, hp, AnswersOnly] using hv u (h.primary u hp)
        · intro _
          simp [Layers.handle, hp]
    | failing e =>
      exact ⟨held, hgrows, h.primary, h.fallback, h.kept, fun _ _ => trivial, nofun, id⟩
    | hanging => exact ⟨held, hgrows, h.primary, h.fallback, h.kept, fun _ _ => trivial, nofun, id⟩
  | primaryDelete name => exact absurd rfl (hkeeps name)
  | fallbackPut name u =>
    obtain rfl : name = secretDeviceFingerprint := hname
    have hu : Usable u := hwrites _ u (.inr rfl)
    have hfallback : (Layers.handle keyring (.fallbackPut secretDeviceFingerprint u)
        s.layers).2.fallback secretDeviceFingerprint = some u := by simp [Layers.handle]
    refine ⟨some u, held_of_holdsOnly h halone, ?_, ?_, ?_, ?_, nofun, id⟩
    · intro u' hu'
      rw [halone.1 u' hu']
    · intro u' hu'
      exact hfallback.symm.trans hu'
    · intro v hv
      obtain rfl := Option.some.inj hv
      exact ⟨hu, .inr hfallback⟩
    · intro v hv
      exact hv u rfl
  | fallbackGet name =>
    obtain rfl : name = secretDeviceFingerprint := hname
    refine ⟨held, hgrows, h.primary, h.fallback, h.kept, ?_, nofun, id⟩
    intro v hv
    cases hf : s.layers.fallback secretDeviceFingerprint with
    | none => simp [Layers.handle, hf, AnswersOnly]
    | some u => simpa [Layers.handle, hf, AnswersOnly] using hv u (h.fallback u hf)
  | fallbackDelete name =>
    obtain rfl : name = secretDeviceFingerprint := hname
    refine ⟨held, hgrows, h.primary, ?_, ?_, fun _ _ => trivial, nofun, id⟩
    · intro u hu
      simp [Layers.handle] at hu
    · -- the keyring holds the value, so the file is not needed
      intro v hv
      obtain ⟨u, hu⟩ := Option.ne_none_iff_exists'.mp (hclears rfl)
      have hsame : held = some u := h.primary u hu
      refine ⟨(h.kept v hv).1, .inl ?_⟩
      rw [← hv, hsame]
      exact hu

/-- Two identities are possible before one is held, so no request returns one. -/
lemma Inv.answered (h : s.Inv held) {v : String} (hp : .done (.ok v) ∈ s.calls) :
    held = some v := by
  have hreturns : ∀ u, Usable u → (∀ u', held = some u' → u' = u) → v = u := by
    intro u hu hheld
    have hdone := h.returns _ hp u hu hheld
    cases hdone
    rfl
  cases hheld : held with
  | some u =>
    subst hheld
    rw [hreturns u (h.kept u rfl).1 fun u' hu' => (Option.some.inj hu').symm]
  | none =>
    subst hheld
    have hzero := hreturns _ (usable_mintedFingerprint (.ofNat 0)) nofun
    have hone := hreturns _ (usable_mintedFingerprint (.ofNat 1)) nofun
    exact absurd (hzero.symm.trans hone) (by decide +kernel)

/-- The next call of a request keeps the invariant. -/
lemma Inv.advance (h : s.Inv held) {i : ℕ} {keyring : Keyring}
    (halone : WritesAlone s (.advance i keyring)) :
    ∃ held', Grows held held' ∧ (s.advance i keyring).2.Inv held' ∧
      ∀ v, (s.advance i keyring).1 = some (.ok v) → held' = some v := by
  rw [FingerprintStore.advance]
  cases hi : s.calls[i]? with
  | none => exact ⟨held, fun _ => id, h, nofun⟩
  | some p =>
    have hmem : p ∈ s.calls := List.mem_of_getElem? hi
    cases p with
    | done a => exact ⟨held, fun _ => id, h, nofun⟩
    | call c next =>
      have hlt : i < s.calls.length := (List.getElem?_eq_some_iff.mp hi).1
      -- the fingerprint that is held, or any usable one while there is none
      obtain ⟨v₀, hv₀, hheld₀⟩ : ∃ v, Usable v ∧ ∀ u, held = some u → u = v := by
        cases hheld : held with
        | none => exact ⟨_, usable_mintedFingerprint (.ofNat 0), nofun⟩
        | some v =>
          exact ⟨v, (h.kept v hheld).1, fun u hu => (Option.some.inj hu).symm⟩
      have hdone : ∃ held', CallDone s.layers (Layers.handle keyring c s.layers).2 c
          (Layers.handle keyring c s.layers).1 held held' := by
        cases h.returns _ hmem v₀ hv₀ hheld₀ with
        | call hname hkeeps hwrites hnext hclears =>
          refine callDone h keyring hname hkeeps hwrites (fun hc => h.clears _ hmem ?_) ?_
          · rw [Clears, Calls.head?, hc]
          · simp only [WritesAlone, hi, Option.bind_some, Calls.head?] at halone
            cases c <;> exact halone
      obtain ⟨held', hd⟩ := hdone
      have hinv : (⟨(Layers.handle keyring c s.layers).2,
          s.calls.set i (next (Layers.handle keyring c s.layers).1)⟩ :
            FingerprintStore).Inv held' := by
        refine ⟨hd.primary, hd.fallback, hd.kept, fun q hq v hv hheld => ?_, fun q hq hclear => ?_⟩
        -- a fingerprint that is held stays the one that every request returns
        · have hold : ∀ u, held = some u → u = v := fun u hu => hheld u (hd.grows u hu)
          rcases List.mem_or_eq_of_mem_set hq with hq | rfl
          · exact h.returns q hq v hv hold
          · cases h.returns _ hmem v hv hold with
            | call hname hkeeps hwrites hnext hclears => exact hnext _ (hd.answers v hheld)
        · rcases List.mem_or_eq_of_mem_set hq with hq | rfl
          · exact hd.stays (h.clears q hq hclear)
          · cases h.returns _ hmem v₀ hv₀ hheld₀ with
            | call hname hkeeps hwrites hnext hclears => exact hd.fills (hclears _ hclear)
      refine ⟨held', hd.grows, hinv, fun v hanswer => hinv.answered ?_⟩
      change answerOf (next (Layers.handle keyring c s.layers).1) = some (.ok v) at hanswer
      rw [← answerOf_eq_some.mp hanswer]
      exact List.mem_set hlt _

/-- So does every step. -/
lemma Inv.step (h : s.Inv held) {l : FingerprintLabel} (halone : WritesAlone s l) :
    ∃ held', Grows held held' ∧ (fingerprintMachine.step s l).2.Inv held' ∧
      ∀ v, (fingerprintMachine.step s l).1 = some (.ok v) → held' = some v := by
  cases l with
  | advance i keyring => exact h.advance halone
  | restart => exact ⟨held, fun _ => id, ⟨h.primary, h.fallback, h.kept, nofun, nofun⟩, nofun⟩
  | request id =>
    refine ⟨held, fun _ hv => hv, ⟨h.primary, h.fallback, h.kept, ?_, ?_⟩, nofun⟩
    · intro p hp v hv hheld
      rcases List.mem_append.mp hp with hp | hp
      · exact h.returns p hp v hv hheld
      · rw [List.mem_singleton.mp hp]
        exact returns_fingerprintCalls id hv
    · intro p hp hclears
      rcases List.mem_append.mp hp with hp | hp
      · exact h.clears p hp hclears
      · rw [List.mem_singleton.mp hp] at hclears
        cases hclears

end FingerprintStore

/-- **One fingerprint.**  In every run of requests, restarts and keyring failures from a fresh
installation on, in which a fingerprint is only ever written where no other one is held, all
requests that succeed return the same fingerprint; so a lease that is bound to the first is bound
to all. -/
theorem fingerprint_stable {s₀ s : FingerprintStore}
    {tr : List (FingerprintLabel × Option (Except ApiError String))} (hfresh : s₀.Fresh)
    (h : (fingerprintMachine.restrict WritesAlone).Run s₀ tr s) {first later : String}
    {l l' : FingerprintLabel} (hfirst : (l, some (.ok first)) ∈ tr)
    (hlater : (l', some (.ok later)) ∈ tr) :
    first = later ∧ ∀ (x : NodeCrates) (lease : EntitlementLease),
      ensureLeaseBoundToDevice x lease first = .ok () →
      ensureLeaseBoundToDevice x lease later = .ok () := by
  suffices hone : ∃ held, s.Inv held ∧ ∀ l v, (l, some (.ok v)) ∈ tr → held = some v by
    obtain ⟨held, -, hall⟩ := hone
    have hsame : first = later :=
      Option.some.inj ((hall l first hfirst).symm.trans (hall l' later hlater))
    exact ⟨hsame, fun x lease hbound => hsame ▸ hbound⟩
  clear hfirst hlater
  induction h with
  | nil =>
    obtain ⟨hprimary, hfallback, hcalls⟩ := hfresh
    refine ⟨none, ⟨?_, ?_, nofun, ?_, ?_⟩, nofun⟩
    · simp [hprimary]
    · simp [hfallback]
    · simp [hcalls]
    · simp [hcalls]
  | @snoc tr m l hrun hen ih =>
    obtain ⟨held, hinv, hall⟩ := ih
    obtain ⟨held', hgrows, hinv', hanswer⟩ := hinv.step hen.2
    refine ⟨held', hinv', fun l' v hv => ?_⟩
    rcases List.mem_append.mp hv with hv | hv
    · exact hgrows v (hall l' v hv)
    · obtain ⟨-, hv⟩ := Prod.mk.inj (List.mem_singleton.mp hv)
      exact hanswer v hv.symm

/-! ### The keyring is away once -/

/-- A request, and after a restart another, with the keyring in the given condition. -/
def twoRequests (keyring : Keyring) : List FingerprintLabel :=
  .request (.ofNat 1) :: List.replicate 4 (.advance 0 .working) ++
    [.restart, .request (.ofNat 2)] ++ List.replicate 4 (.advance 0 keyring)

/-- The store of a fresh installation. -/
def freshStore : FingerprintStore := ⟨.empty, []⟩

/-- The keyring works both times, and the second request is given what the first one made. -/
theorem fingerprint_stable_working :
    ∃ later, (fingerprintMachine.exec freshStore (twoRequests .working)).1.filterMap Prod.snd =
        [.ok (mintedFingerprint (.ofNat 1)), .ok later] ∧
      mintedFingerprint (.ofNat 1) = later := by
  have hanswers : (fingerprintMachine.exec freshStore (twoRequests .working)).1.filterMap Prod.snd =
      [.ok (mintedFingerprint (.ofNat 1)), .ok (mintedFingerprint (.ofNat 1))] := by decide +kernel
  have hrun := Machine.run_exec
    (by decide +kernel : (fingerprintMachine.restrict WritesAlone).Allows freshStore
      (twoRequests .working))
  rw [Machine.exec_restrict] at hrun
  have hanswered : ∀ answer ∈ [.ok (mintedFingerprint (.ofNat 1)),
      .ok (mintedFingerprint (.ofNat 1))], ∃ l, (l, some answer) ∈
        (fingerprintMachine.exec freshStore (twoRequests .working)).1 := by
    intro answer hmem
    rw [← hanswers] at hmem
    obtain ⟨⟨l, o⟩, he, ho⟩ := List.mem_filterMap.mp hmem
    exact ⟨l, (show o = some answer from ho) ▸ he⟩
  obtain ⟨l, hfirst⟩ := hanswered _ List.mem_cons_self
  obtain ⟨l', hlater⟩ := hanswered _ (List.mem_cons_of_mem _ List.mem_cons_self)
  exact ⟨_, hanswers, (fingerprint_stable ⟨rfl, rfl, rfl⟩ hrun hfirst hlater).1⟩

/-- The keyring is away at the second request, which makes another fingerprint. -/
theorem fingerprint_minted_again :
    ¬ ∀ (s₀ s : FingerprintStore)
        (tr : List (FingerprintLabel × Option (Except ApiError String))) (first later : String)
        (l l' : FingerprintLabel), s₀.Fresh → fingerprintMachine.Run s₀ tr s →
      (l, some (.ok first)) ∈ tr → (l', some (.ok later)) ∈ tr → first = later := by
  intro h
  have hrun := Machine.run_exec
    (by decide +kernel : fingerprintMachine.Allows freshStore (twoRequests .hanging))
  have hsame := h freshStore _ _ (mintedFingerprint (.ofNat 1)) (mintedFingerprint (.ofNat 2))
    (.advance 0 .working) (.advance 0 .hanging) ⟨rfl, rfl, rfl⟩ hrun (by decide +kernel)
    (by decide +kernel)
  exact absurd hsame (by decide +kernel)

end OzonSuite
