/-
# The layered store under concurrency

Puts, reads and deletes that run beside each other, both layers working, each call to a layer
taking effect at once.  A put and a delete take their place in the order of the writes with their
call to the keyring.  What this order misses is the read that moves the fallback's value into the
keyring: it looked at both layers a while ago.
-/
import OzonSuite.Lib.Interleaving
import OzonSuite.SecretStore.Layered

namespace OzonSuite

open Lib

/-- A request that the layered store is serving. -/
abbrev StoreInvocation := Invocation SecretRequest LayerCall LayerCall.Response SecretReply

/-- The layers, and the requests that the store was asked so far. -/
abbrev ConcurrentStore := Concurrent Layers SecretRequest LayerCall LayerCall.Response SecretReply

/-- The layered store with both layers working. -/
def concurrentStore : Machine ConcurrentStore (Turn SecretRequest) Unit :=
  interleaving SecretRequest.serve (Layers.handle .working)

instance (s : ConcurrentStore) (turn : Turn SecretRequest) :
    Decidable (concurrentStore.enabled s turn) :=
  inferInstanceAs (Decidable (s.CanTake turn))

/-- The request is a put or a delete of the name. -/
def SecretRequest.Writes (name : SecretName) : SecretRequest → Prop
  | .put n _ | .delete n => n = name
  | .get _ => False

/-- What the request, a put or a delete, leaves under its name. -/
def SecretRequest.written : SecretRequest → Option String
  | .put _ value => some value
  | .delete _ | .get _ => none

/-- What the last request of the order leaves, or `initial` if there is none. -/
def lastValue (initial : Option String) (s : ConcurrentStore) (order : List ℕ) : Option String :=
  match order.getLast? with
  | none => initial
  | some i => ((s.invocations[i]?).map Invocation.request).bind SecretRequest.written

/-! ## The stages of an operation -/

/-- What remains is to clear the fallback. -/
def Drops (name : SecretName) (rest : LayerCalls SecretReply) : Prop :=
  ∃ next, rest = .call (.fallbackDelete name) next ∧ ∃ a, next (.ok ()) = .done a

/-- What remains is to move a value into the keyring and to clear the fallback. -/
def Migrates (name : SecretName) (value : String) (rest : LayerCalls SecretReply) : Prop :=
  ∃ next, rest = .call (.primaryPut name value) next ∧ Drops name (next (.completed (.ok ())))

/-- What remains after a miss: a look at the fallback, and moving what it holds. -/
def Misses (name : SecretName) (rest : LayerCalls SecretReply) : Prop :=
  ∃ next, rest = .call (.fallbackGet name) next ∧ (∃ a, next (.ok none) = .done a) ∧
    ∀ value, Migrates name value (next (.ok (some value)))

/-- What can remain of an operation while both layers work. -/
inductive Stage : SecretRequest → LayerCalls SecretReply → Prop
  | fresh (request) : Stage request request.serve
  | drops {request rest} (h : Drops request.name rest) : Stage request rest
  | misses {name rest} (h : Misses name rest) : Stage (.get name) rest
  | migrates {name value rest} (h : Migrates name value rest) : Stage (.get name) rest
  | returned (request a) : Stage request (.done a)

/-- What the next call of an operation does to the layers, and what remains then. -/
inductive CallEffect (s : Layers) (request : SecretRequest) (rest rest' : LayerCalls SecretReply)
    (s' : Layers) : Prop
  | put {name value} (hrequest : request = .put name value) (hrest : rest = request.serve)
      (hrest' : Drops name rest')
      (hs' : s' = { s with primary := Function.update s.primary name (some value) })
  | delete {name} (hrequest : request = .delete name) (hrest : rest = request.serve)
      (hrest' : Drops name rest')
      (hs' : s' = { s with primary := Function.update s.primary name none })
  | hit {name} (hrequest : request = .get name) (hheld : s.primary name ≠ none)
      (hrest' : Drops name rest') (hs' : s' = s)
  | look {name} (hrequest : request = .get name)
      (hrest : ∀ n, rest.head? ≠ some (.fallbackDelete n))
      (hrest' : ∀ n, rest'.head? ≠ some (.fallbackDelete n)) (hs' : s' = s)
  | migrate {name value} (hrequest : request = .get name) (hrest : Migrates name value rest)
      (hrest' : Drops name rest')
      (hs' : s' = { s with primary := Function.update s.primary name (some value) })
  | drop {a} (hrest : Drops request.name rest) (hrest' : rest' = .done a)
      (hs' : s' = { s with fallback := Function.update s.fallback request.name none })

section Heads

variable {name : SecretName} {value : String} {rest : LayerCalls SecretReply}

lemma Drops.head (h : Drops name rest) : rest.head? = some (.fallbackDelete name) := by
  obtain ⟨next, rfl, -⟩ := h
  rfl

lemma Migrates.head (h : Migrates name value rest) :
    rest.head? = some (.primaryPut name value) := by
  obtain ⟨next, rfl, -⟩ := h
  rfl

lemma Misses.head (h : Misses name rest) : rest.head? = some (.fallbackGet name) := by
  obtain ⟨next, rfl, -⟩ := h
  rfl

/-- An operation starts with a call to the keyring. -/
lemma serve_head (request : SecretRequest) (name : SecretName) :
    request.serve.head? ≠ some (.fallbackDelete name) := by
  cases request <;> exact fun h => by cases h

lemma serve_ne_done (request : SecretRequest) {a : SecretReply} : request.serve ≠ .done a := by
  cases request <;> exact fun h => by cases h

end Heads

lemma serve_put (name : SecretName) (value : String) :
    ∃ next, (SecretRequest.put name value).serve = .call (.primaryPut name value) next ∧
      Drops name (next (.completed (.ok ()))) :=
  ⟨_, rfl, _, rfl, _, rfl⟩

lemma serve_delete (name : SecretName) :
    ∃ next, (SecretRequest.delete name).serve = .call (.primaryDelete name) next ∧
      Drops name (next (.completed (.ok ()))) :=
  ⟨_, rfl, _, rfl, _, rfl⟩

lemma serve_get (name : SecretName) :
    ∃ next, (SecretRequest.get name).serve = .call (.primaryGet name) next ∧
      (∀ a, Drops name (next (.completed (.ok (some a))))) ∧
      Misses name (next (.completed (.ok none))) :=
  ⟨_, rfl, fun _ => ⟨_, rfl, _, rfl⟩, _, rfl, ⟨_, rfl⟩, fun _ => ⟨_, rfl, _, rfl, _, rfl⟩⟩

/-- The next call of an operation, by the stage it is in. -/
lemma stage_call {s : Layers} {request : SecretRequest} {c : LayerCall}
    {next : c.Response → LayerCalls SecretReply} (h : Stage request (.call c next)) :
    Stage request (next (Layers.handle .working c s).1) ∧
      CallEffect s request (.call c next) (next (Layers.handle .working c s).1)
        (Layers.handle .working c s).2 := by
  generalize hrest : Calls.call c next = rest at h ⊢
  cases h with
  | fresh =>
    cases request with
    | put name value =>
      obtain ⟨next', he, hdrops⟩ := serve_put name value
      cases hrest.trans he
      exact ⟨.drops hdrops, .put rfl rfl hdrops rfl⟩
    | get name =>
      -- a hit goes on to drop the copy in the fallback, a miss to look there
      obtain ⟨next', he, hhit, hmiss⟩ := serve_get name
      cases hrest.trans he
      cases hp : s.primary name with
      | some a =>
        have hdrops := hhit a
        have hhandle : (Layers.handle .working (.primaryGet name) s).1 =
            .completed (.ok (some a)) := by
          simp [Layers.handle, Keyring.response, hp]
        rw [hhandle]
        exact ⟨.drops hdrops, .hit rfl (by simp [hp]) hdrops rfl⟩
      | none =>
        have hhandle : (Layers.handle .working (.primaryGet name) s).1 =
            .completed (.ok none) := by
          simp [Layers.handle, Keyring.response, hp]
        rw [hhandle]
        exact ⟨.misses hmiss, .look rfl (serve_head _) (fun n => by simp [hmiss.head]) rfl⟩
    | delete name =>
      obtain ⟨next', he, hdrops⟩ := serve_delete name
      cases hrest.trans he
      exact ⟨.drops hdrops, .delete rfl rfl hdrops rfl⟩
  | drops h =>
    have hdrops := h
    obtain ⟨next', he, a, ha⟩ := h
    cases hrest.trans he
    have hdone : next' (Layers.handle .working (.fallbackDelete request.name) s).1 = .done a := ha
    rw [hdone]
    exact ⟨.returned _ a, .drop hdrops rfl rfl⟩
  | @misses name _ h =>
    have hmiss := h
    -- what the fallback has is moved to the keyring
    obtain ⟨next', he, ⟨a, ha⟩, hfound⟩ := h
    cases hrest.trans he
    cases hf : s.fallback name with
    | some value =>
      have hmigrates := hfound value
      have hhandle : (Layers.handle .working (.fallbackGet name) s).1 = .ok (some value) := by
        simp [Layers.handle, hf]
      rw [hhandle]
      exact ⟨.migrates hmigrates,
        .look rfl (fun n => by simp [hmiss.head]) (fun n => by simp [hmigrates.head]) rfl⟩
    | none =>
      have hhandle : (Layers.handle .working (.fallbackGet name) s).1 = .ok none := by
        simp [Layers.handle, hf]
      rw [hhandle, ha]
      exact ⟨.returned _ a,
        .look rfl (fun n => by simp [hmiss.head]) (fun n => by simp [Calls.head?]) rfl⟩
  | @migrates name value _ h =>
    have hmigrates := h
    obtain ⟨next', he, hdrops⟩ := h
    cases hrest.trans he
    exact ⟨.drops hdrops, .migrate rfl hmigrates hdrops rfl⟩
  | returned a => cases hrest

/-! ## What the layers hold -/

/-- A request has the fallback of the name still to clear. -/
def Dropping (name : SecretName) (p : StoreInvocation) : Prop :=
  p.request.name = name ∧ p.rest.head? = some (.fallbackDelete name)

/-- A delete is between its two calls. -/
def HalfDeleted (name : SecretName) (p : StoreInvocation) : Prop :=
  p.request = .delete name ∧ p.rest.head? = some (.fallbackDelete name)

instance (name : SecretName) : DecidablePred (HalfDeleted name) := fun p =>
  inferInstanceAs
    (Decidable (p.request = .delete name ∧ p.rest.head? = some (.fallbackDelete name)))

/-- A request that is a write of the name and has made its first call. -/
def Written (name : SecretName) (p : StoreInvocation) : Prop :=
  p.request.Writes name ∧ p.rest ≠ p.request.serve

/-- What the two layers hold under a name, against the value `l` that was last written: a delete
under way has emptied the keyring first, and nobody clears the fallback that is still needed. -/
structure Settled (primary fallback l : Option String) (halfDeleted dropping : Prop) : Prop where
  held : ∀ a, primary = some a → l = some a
  deleted : primary = none → halfDeleted → l = none
  fallen : primary = none → ¬ halfDeleted → l = fallback
  cleared : dropping → primary = none → ¬ halfDeleted → fallback = none

namespace Settled

variable {primary fallback l : Option String} {halfDeleted dropping halfDeleted' dropping' : Prop}

lemma put (value : String) : Settled (some value) fallback (some value) halfDeleted dropping where
  held _ h := h
  deleted h := by cases h
  fallen h := by cases h
  cleared _ h := by cases h

lemma delete (h : halfDeleted) : Settled none fallback none halfDeleted dropping where
  held _ h' := h'
  deleted _ _ := rfl
  fallen _ h' := absurd h h'
  cleared _ _ h' := absurd h h'

lemma hit (hs : Settled primary fallback l halfDeleted dropping) (h : primary ≠ none) :
    Settled primary fallback l halfDeleted dropping' where
  held := hs.held
  deleted := hs.deleted
  fallen := hs.fallen
  cleared _ h' := absurd h' h

/-- A value moves from the fallback to the keyring without harm if it is the keyring's already, or
if it is still the fallback's and no delete is under way. -/
lemma migrate {value : String} (hs : Settled primary fallback l halfDeleted dropping)
    (h : primary = some value ∨ primary = none ∧ fallback = some value ∧ ¬ halfDeleted) :
    Settled (some value) fallback l halfDeleted' dropping' where
  held a ha := by
    rw [← ha]
    rcases h with h | ⟨hp, hf, hd⟩
    · exact hs.held value h
    · exact (hs.fallen hp hd).trans hf
  deleted h := by cases h
  fallen h := by cases h
  cleared _ h := by cases h

/-- A put or a read clears the fallback. -/
lemma drop (hs : Settled primary fallback l halfDeleted dropping) (h : dropping) :
    Settled primary none l halfDeleted dropping' where
  held := hs.held
  deleted := hs.deleted
  fallen hp hd := (hs.fallen hp hd).trans (hs.cleared h hp hd)
  cleared _ _ _ := rfl

/-- A delete clears the fallback. -/
lemma finishDelete (hs : Settled primary fallback l halfDeleted dropping) (h : halfDeleted) :
    Settled primary none l halfDeleted' dropping' where
  held := hs.held
  deleted hp _ := hs.deleted hp h
  fallen hp _ := hs.deleted hp h
  cleared _ _ _ := rfl

/-- When nothing is under way, the store holds what was last written. -/
lemma stored (hs : Settled primary fallback l halfDeleted dropping) (h : ¬ halfDeleted) :
    primary.or fallback = l := by
  cases primary with
  | some a => exact (hs.held a rfl).symm
  | none => exact (hs.fallen rfl h).symm

end Settled

/-- The invariant: `order` lists the writes that have reached the keyring, as they reached it. -/
structure Linearized (name : SecretName) (initial : Option String) (s : ConcurrentStore)
    (order : List ℕ) : Prop where
  stages : ∀ p ∈ s.invocations, Stage p.request p.rest
  timed : s.Timed
  respects : s.Respects order
  listed : ∀ i, i ∈ order ↔ ∃ p, s.invocations[i]? = some p ∧ Written name p
  settled : Settled (s.shared.primary name) (s.shared.fallback name) (lastValue initial s order)
    (∃ p ∈ s.invocations, HalfDeleted name p) (∃ p ∈ s.invocations, Dropping name p)

/-- The value that a call is about to write to the keyring. -/
def LayerCall.intoPrimary : LayerCall → Option String
  | .primaryPut _ value => some value
  | _ => none

/-- The condition on a step of a read that moves a value into the keyring: the keyring holds it
already, or it holds nothing, the fallback still holds the value, and no delete is between its
calls. -/
def HarmlessMigration (s : ConcurrentStore) : Turn SecretRequest → Prop
  | .invoke _ | .respond _ => True
  | .advance i => ∀ p ∈ s.invocations[i]?, p.request = .get p.request.name →
    ∀ value ∈ p.rest.head?.bind LayerCall.intoPrimary,
      s.shared.primary p.request.name = some value ∨
        (s.shared.primary p.request.name = none ∧ s.shared.fallback p.request.name = some value ∧
          ¬ ∃ q ∈ s.invocations, HalfDeleted p.request.name q)

instance (s : ConcurrentStore) : (turn : Turn SecretRequest) → Decidable (HarmlessMigration s turn)
  | .invoke _ | .respond _ => inferInstanceAs (Decidable True)
  | .advance i => inferInstanceAs (Decidable (∀ p ∈ s.invocations[i]?,
    p.request = .get p.request.name → ∀ value ∈ p.rest.head?.bind LayerCall.intoPrimary,
      s.shared.primary p.request.name = some value ∨
        (s.shared.primary p.request.name = none ∧ s.shared.fallback p.request.name = some value ∧
          ¬ ∃ q ∈ s.invocations, HalfDeleted p.request.name q)))

/-- The value last written does not change when the order does not. -/
lemma lastValue_congr {initial : Option String} {s s' : ConcurrentStore} {order : List ℕ}
    (h : ∀ i ∈ order, (s'.invocations[i]?).map Invocation.request =
      (s.invocations[i]?).map Invocation.request) :
    lastValue initial s' order = lastValue initial s order := by
  unfold lastValue
  cases ho : order.getLast? with
  | none => rfl
  | some i =>
    simp only
    rw [h i (List.mem_of_getLast? ho)]

lemma lastValue_snoc {initial : Option String} {s : ConcurrentStore} {order : List ℕ} {i : ℕ}
    {p : StoreInvocation} (h : s.invocations[i]? = some p) :
    lastValue initial s (order ++ [i]) = p.request.written := by
  simp [lastValue, h]

section Steps

variable {name : SecretName} {initial : Option String} {s : ConcurrentStore} {order : List ℕ}

lemma Linearized.lt_length (h : Linearized name initial s order) :
    ∀ i ∈ order, i < s.invocations.length := by
  intro i hi
  obtain ⟨p, hp, -⟩ := (h.listed i).mp hi
  exact (List.getElem?_eq_some_iff.mp hp).1

lemma lastValue_take (h : Linearized name initial s order) {turn : Turn SecretRequest}
    (hturn : s.CanTake turn) :
    lastValue initial (s.take SecretRequest.serve (Layers.handle .working) turn) order =
      lastValue initial s order := by
  refine lastValue_congr fun i hi => ?_
  obtain ⟨p, hp, -⟩ := (h.listed i).mp hi
  obtain ⟨q, hq, hr⟩ := Concurrent.request_take _ _ hturn hp
  rw [hp, hq]
  exact congrArg some hr

lemma linearized_invoke (h : Linearized name initial s order) (request : SecretRequest) :
    Linearized name initial
      (s.take SecretRequest.serve (Layers.handle .working) (.invoke request)) order := by
  have hturn : s.CanTake (.invoke request) := trivial
  have hnew : ∀ Q : StoreInvocation → Prop, ¬ Q ⟨request, request.serve, s.clock, none⟩ →
      ((∃ p ∈ s.invocations ++ [⟨request, request.serve, s.clock, none⟩], Q p) ↔
        ∃ p ∈ s.invocations, Q p) := by
    intro Q hQ
    simp [or_and_right, exists_or, hQ]
  refine ⟨?_, Concurrent.timed_take _ _ h.timed hturn,
    Concurrent.respects_take _ _ h.timed hturn h.lt_length h.respects, ?_, ?_⟩
  · intro p hp
    rcases List.mem_append.mp hp with hp | hp
    · exact h.stages p hp
    · obtain rfl := List.mem_singleton.mp hp
      exact .fresh request
  · intro i
    rw [h.listed i]
    constructor
    · rintro ⟨p, hp, hw⟩
      exact ⟨p, List.getElem?_append_left (List.getElem?_eq_some_iff.mp hp).1 ▸ hp, hw⟩
    · rintro ⟨p, hp, hw⟩
      replace hp : (s.invocations ++ [⟨request, request.serve, s.clock, none⟩])[i]? = some p := hp
      rw [List.getElem?_append] at hp
      split at hp
      · exact ⟨p, hp, hw⟩
      · obtain rfl := List.mem_singleton.mp (List.mem_of_getElem? hp)
        exact absurd rfl hw.2
  · rw [lastValue_take h hturn]
    have hs := h.settled
    rw [← hnew _ fun hq => serve_head request name hq.2,
      ← hnew (Dropping name) fun hq => serve_head request name hq.2] at hs
    exact hs

/-- Which writes are under way, after one invocation has gone on. -/
lemma listed_set {order' : List ℕ} {i : ℕ} {p p' : StoreInvocation}
    (h : Linearized name initial s order) (hi : s.invocations[i]? = some p)
    (horder : ∀ j, j ∈ order' ↔ (j ∈ order ∧ j ≠ i) ∨ (j = i ∧ Written name p')) (j : ℕ) :
    j ∈ order' ↔ ∃ q, (s.invocations.set i p')[j]? = some q ∧ Written name q := by
  have hlt : i < s.invocations.length := (List.getElem?_eq_some_iff.mp hi).1
  rw [horder j]
  by_cases hij : j = i
  · subst hij
    simp [List.getElem?_set_self hlt]
  · rw [List.getElem?_set_ne (Ne.symm hij), h.listed j]
    simp [hij]

lemma stages_set {i : ℕ} {p' : StoreInvocation} (h : Linearized name initial s order)
    (hp' : Stage p'.request p'.rest) : ∀ q ∈ s.invocations.set i p', Stage q.request q.rest := by
  intro q hq
  rcases List.mem_or_eq_of_mem_set hq with hq | rfl
  · exact h.stages q hq
  · exact hp'

/-- The order stays when an invocation goes on that neither becomes nor stops being a write under
way. -/
lemma listed_keep {i : ℕ} {p p' : StoreInvocation} (h : Linearized name initial s order)
    (hi : s.invocations[i]? = some p) (hw : Written name p' ↔ Written name p) (j : ℕ) :
    j ∈ order ↔ ∃ q, (s.invocations.set i p')[j]? = some q ∧ Written name q := by
  refine listed_set h hi (fun j => ?_) j
  by_cases hij : j = i
  · subst hij
    rw [h.listed j, hi]
    simp [hw]
  · simp [hij]

/-- A write that makes its first call comes next in the order. -/
lemma listed_push {i : ℕ} {p p' : StoreInvocation} (h : Linearized name initial s order)
    (hi : s.invocations[i]? = some p) (hw' : Written name p') (j : ℕ) :
    j ∈ order ++ [i] ↔ ∃ q, (s.invocations.set i p')[j]? = some q ∧ Written name q := by
  refine listed_set h hi (fun j => ?_) j
  by_cases hij : j = i <;> simp [hij, hw']

lemma linearized_respond (h : Linearized name initial s order) {i : ℕ}
    (hturn : s.CanTake (.respond i)) :
    Linearized name initial
      (s.take SecretRequest.serve (Layers.handle .working) (.respond i)) order := by
  have htimed := Concurrent.timed_take SecretRequest.serve (Layers.handle .working) h.timed hturn
  have hrespects := Concurrent.respects_take SecretRequest.serve (Layers.handle .working) h.timed
    hturn h.lt_length h.respects
  have hlast := lastValue_take h hturn
  rcases Concurrent.take_cases SecretRequest.serve (Layers.handle .working) hturn with
    ⟨request, he, -⟩ | ⟨j, p, c, next, he, -⟩ | ⟨j, p, a, he, hi, hrest, -, htake⟩
  · cases he
  · cases he
  · rw [htake] at htimed hrespects hlast ⊢
    refine ⟨stages_set h (h.stages p (List.mem_of_getElem? hi)), htimed, hrespects,
      listed_keep h hi Iff.rfl, ?_⟩
    rw [hlast]
    have hs := h.settled
    rwa [← Concurrent.exists_set (HalfDeleted name) { p with returnedAt := some s.clock } hi
        Iff.rfl,
      ← Concurrent.exists_set (Dropping name) { p with returnedAt := some s.clock } hi
        Iff.rfl] at hs

/-- An operation goes on, and it is not a put or a delete that reaches the keyring. -/
lemma linearized_keep {i : ℕ} {p p' : StoreInvocation} {t : ConcurrentStore}
    (h : Linearized name initial s order) (hturn : s.CanTake (.advance i))
    (ht : s.take SecretRequest.serve (Layers.handle .working) (.advance i) = t)
    (hinv : t.invocations = s.invocations.set i p') (hi : s.invocations[i]? = some p)
    (hstage : Stage p'.request p'.rest) (hw : Written name p' ↔ Written name p)
    (hs : Settled (t.shared.primary name) (t.shared.fallback name) (lastValue initial s order)
      (∃ q ∈ s.invocations.set i p', HalfDeleted name q)
      (∃ q ∈ s.invocations.set i p', Dropping name q)) :
    Linearized name initial t order := by
  subst ht
  refine ⟨?_, Concurrent.timed_take _ _ h.timed hturn,
    Concurrent.respects_take _ _ h.timed hturn h.lt_length h.respects, ?_, ?_⟩
  · rw [hinv]
    exact stages_set h hstage
  · rw [hinv]
    exact listed_keep h hi hw
  · rw [lastValue_take h hturn, hinv]
    exact hs

/-- A put or a delete reaches the keyring. -/
lemma linearized_push {i : ℕ} {p p' : StoreInvocation} {t : ConcurrentStore}
    (h : Linearized name initial s order) (hturn : s.CanTake (.advance i))
    (ht : s.take SecretRequest.serve (Layers.handle .working) (.advance i) = t)
    (hinv : t.invocations = s.invocations.set i p') (hi : s.invocations[i]? = some p)
    (hstage : Stage p'.request p'.rest) (hret : p'.returnedAt = none)
    (hw : ¬ Written name p) (hw' : Written name p')
    (hs : Settled (t.shared.primary name) (t.shared.fallback name) p'.request.written
      (∃ q ∈ s.invocations.set i p', HalfDeleted name q)
      (∃ q ∈ s.invocations.set i p', Dropping name q)) :
    Linearized name initial t (order ++ [i]) := by
  subst ht
  have hlt : i < s.invocations.length := (List.getElem?_eq_some_iff.mp hi).1
  have hi' : (s.invocations.set i p')[i]? = some p' := List.getElem?_set_self hlt
  have hnot : i ∉ order := by
    intro hmem
    obtain ⟨q, hq, hqw⟩ := (h.listed i).mp hmem
    rw [hi] at hq
    obtain rfl := Option.some.inj hq
    exact hw hqw
  rw [← hinv] at hi'
  refine ⟨?_, Concurrent.timed_take _ _ h.timed hturn,
    (Concurrent.respects_take _ _ h.timed hturn h.lt_length h.respects).snoc hnot hi' hret, ?_, ?_⟩
  · rw [hinv]
    exact stages_set h hstage
  · rw [hinv]
    exact listed_push h hi hw'
  · rw [lastValue_snoc hi', hinv]
    exact hs

lemma written_get {n : SecretName} {p : StoreInvocation} (h : p.request = .get n) :
    ¬ Written name p := by
  rintro ⟨hw, -⟩
  rw [h] at hw
  exact hw

lemma written_name {p : StoreInvocation} (h : Written name p) : p.request.name = name := by
  obtain ⟨hw, -⟩ := h
  cases hr : p.request with
  | put n value => exact (hr ▸ hw : SecretRequest.Writes name (.put n value))
  | get n => exact (hr ▸ hw : SecretRequest.Writes name (.get n)).elim
  | delete n => exact (hr ▸ hw : SecretRequest.Writes name (.delete n))

lemma halfDeleted_name {p : StoreInvocation} (h : HalfDeleted name p) : p.request.name = name := by
  rw [h.1]
  rfl

/-- A call for another name changes nothing that is held under this one. -/
lemma CallEffect.other {s s' : Layers} {request : SecretRequest}
    {rest rest' : LayerCalls SecretReply} (h : CallEffect s request rest rest' s')
    (hname : request.name ≠ name) :
    s'.primary name = s.primary name ∧ s'.fallback name = s.fallback name := by
  have hne : name ≠ request.name := fun he => hname he.symm
  cases h with
  | put hrequest _ _ hs' =>
    subst hrequest hs'
    exact ⟨Function.update_of_ne hne _ _, rfl⟩
  | delete hrequest _ _ hs' =>
    subst hrequest hs'
    exact ⟨Function.update_of_ne hne _ _, rfl⟩
  | hit _ _ _ hs' =>
    subst hs'
    exact ⟨rfl, rfl⟩
  | look _ _ _ hs' =>
    subst hs'
    exact ⟨rfl, rfl⟩
  | migrate hrequest _ _ hs' =>
    subst hrequest hs'
    exact ⟨Function.update_of_ne hne _ _, rfl⟩
  | drop _ _ hs' =>
    subst hs'
    exact ⟨rfl, Function.update_of_ne hne _ _⟩

lemma harmless_migrates {i : ℕ} {p : StoreInvocation} {n : SecretName} {value : String}
    (hharmless : HarmlessMigration s (.advance i)) (hi : s.invocations[i]? = some p)
    (hrequest : p.request = .get n) (hrest : Migrates n value p.rest) :
    s.shared.primary n = some value ∨ (s.shared.primary n = none ∧
      s.shared.fallback n = some value ∧ ¬ ∃ q ∈ s.invocations, HalfDeleted n q) := by
  have h := hharmless p hi (by rw [hrequest]; rfl) value (by rw [hrest.head]; rfl)
  rw [hrequest] at h
  exact h

/-- The next call of an operation on the name. -/
lemma linearized_effect (h : Linearized name initial s order) {i : ℕ}
    (hturn : s.CanTake (.advance i)) (hharmless : HarmlessMigration s (.advance i))
    {p : StoreInvocation} {rest' : LayerCalls SecretReply} {shared' : Layers}
    (hi : s.invocations[i]? = some p) (hname : p.request.name = name)
    (hret : p.returnedAt = none) (hstage : Stage p.request rest')
    (heffect : CallEffect s.shared p.request p.rest rest' shared')
    (htake : s.take SecretRequest.serve (Layers.handle .working) (.advance i) =
      ⟨shared', s.invocations.set i { p with rest := rest' }, s.clock + 1⟩) :
    ∃ order', Linearized name initial
      (s.take SecretRequest.serve (Layers.handle .working) (.advance i)) order' := by
  have hlt : i < s.invocations.length := (List.getElem?_eq_some_iff.mp hi).1
  have hmem := List.mem_of_getElem? hi
  have hs := h.settled
  -- an operation that has something to drop has begun
  have hbegun : ∀ n, Drops n rest' → rest' ≠ p.request.serve := by
    intro n hd he
    exact serve_head p.request n (he ▸ hd.head)
  cases heffect with
  | @put n value hrequest hrest hrest' hs' =>
    obtain rfl : n = name := by rw [← hname, hrequest]; rfl
    refine ⟨_, linearized_push h hturn rfl (congrArg _ htake) hi hstage hret
      (fun hw => hw.2 hrest) ⟨?_, hbegun n hrest'⟩ ?_⟩
    · rw [hrequest]
      rfl
    · rw [htake, hs', hrequest]
      simp only [Function.update_self, SecretRequest.written]
      exact .put value
  | @delete n hrequest hrest hrest' hs' =>
    obtain rfl : n = name := by rw [← hname, hrequest]; rfl
    refine ⟨_, linearized_push h hturn rfl (congrArg _ htake) hi hstage hret
      (fun hw => hw.2 hrest) ⟨?_, hbegun n hrest'⟩ ?_⟩
    · rw [hrequest]
      rfl
    · rw [htake, hs', hrequest]
      simp only [Function.update_self, SecretRequest.written]
      exact .delete ⟨_, List.mem_set hlt _, rfl, hrest'.head⟩
  | @hit n hrequest hheld hrest' hs' =>
    obtain rfl : n = name := by rw [← hname, hrequest]; rfl
    have hhalf := Concurrent.exists_set (HalfDeleted n) { p with rest := rest' } hi
      ⟨fun hq => absurd hq.1 (by simp [hrequest]), fun hq => absurd hq.1 (by simp [hrequest])⟩
    refine ⟨_, linearized_keep h hturn rfl (congrArg _ htake) hi hstage
      ⟨fun hw => absurd hw (written_get hrequest), fun hw => absurd hw (written_get hrequest)⟩ ?_⟩
    rw [htake, hs', hhalf]
    exact hs.hit hheld
  | @look n hrequest hrest hrest' hs' =>
    have hhalf := Concurrent.exists_set (HalfDeleted name) { p with rest := rest' } hi
      ⟨fun hq => absurd hq.1 (by simp [hrequest]), fun hq => absurd hq.1 (by simp [hrequest])⟩
    have hdrop := Concurrent.exists_set (Dropping name) { p with rest := rest' } hi
      ⟨fun hq => absurd hq.2 (hrest' name), fun hq => absurd hq.2 (hrest name)⟩
    refine ⟨_, linearized_keep h hturn rfl (congrArg _ htake) hi hstage
      ⟨fun hw => absurd hw (written_get hrequest), fun hw => absurd hw (written_get hrequest)⟩ ?_⟩
    rw [htake, hs', hhalf, hdrop]
    exact hs
  | @migrate n value hrequest hrest hrest' hs' =>
    obtain rfl : n = name := by rw [← hname, hrequest]; rfl
    refine ⟨_, linearized_keep h hturn rfl (congrArg _ htake) hi hstage
      ⟨fun hw => absurd hw (written_get hrequest), fun hw => absurd hw (written_get hrequest)⟩ ?_⟩
    rw [htake, hs']
    simp only [Function.update_self]
    exact hs.migrate (harmless_migrates hharmless hi hrequest hrest)
  | @drop a hrest hrest' hs' =>
    have hw : Written name { p with rest := rest' } ↔ Written name p :=
      ⟨fun hw => ⟨hw.1, fun he => serve_head p.request _ (he ▸ hrest.head)⟩,
        fun hw => ⟨hw.1, by rw [hrest']; exact (serve_ne_done p.request).symm⟩⟩
    refine ⟨_, linearized_keep h hturn rfl (congrArg _ htake) hi hstage hw ?_⟩
    rw [htake, hs', hname]
    simp only [Function.update_self]
    have hhead := hrest.head
    rw [hname] at hhead
    by_cases hdelete : p.request = .delete name
    · exact hs.finishDelete ⟨p, hmem, hdelete, hhead⟩
    · rw [Concurrent.exists_set (HalfDeleted name) { p with rest := rest' } hi
        ⟨fun hq => absurd hq.1 hdelete, fun hq => absurd hq.1 hdelete⟩]
      exact hs.drop ⟨p, hmem, hname, hhead⟩

lemma linearized_advance (h : Linearized name initial s order) {i : ℕ}
    (hturn : s.CanTake (.advance i)) (hharmless : HarmlessMigration s (.advance i)) :
    ∃ order', Linearized name initial
      (s.take SecretRequest.serve (Layers.handle .working) (.advance i)) order' := by
  rcases Concurrent.take_cases SecretRequest.serve (Layers.handle .working) hturn with
    ⟨request, he, -⟩ | ⟨j, p, c, next, he, hi, hrest, htake⟩ | ⟨j, p, a, he, -⟩
  · cases he
  · cases he
    have hmem := List.mem_of_getElem? hi
    obtain ⟨hstage, heffect⟩ := stage_call (s := s.shared) (hrest ▸ h.stages p hmem)
    have hret : p.returnedAt = none := by
      by_contra hne
      obtain ⟨a, ha⟩ := (h.timed p hmem).2 hne
      rw [hrest] at ha
      cases ha
    rw [← hrest] at heffect
    by_cases hname : p.request.name = name
    · exact linearized_effect h hturn hharmless hi hname hret hstage heffect htake
    · -- the call is for another name
      obtain ⟨hp, hf⟩ := heffect.other hname
      have hs := h.settled
      rw [← hp, ← hf, ← Concurrent.exists_set (HalfDeleted name)
          { p with rest := next (Layers.handle .working c s.shared).1 } hi
          ⟨fun hq => absurd (halfDeleted_name hq) hname,
            fun hq => absurd (halfDeleted_name hq) hname⟩,
        ← Concurrent.exists_set (Dropping name)
          { p with rest := next (Layers.handle .working c s.shared).1 } hi
          ⟨fun hq => absurd hq.1 hname, fun hq => absurd hq.1 hname⟩] at hs
      refine ⟨order, linearized_keep h hturn rfl (congrArg _ htake) hi hstage
        ⟨fun hq => absurd (written_name hq) hname, fun hq => absurd (written_name hq) hname⟩ ?_⟩
      rw [htake]
      exact hs
  · cases he

end Steps

/-! ## Every interleaving -/

/-- Some order of the puts and deletes of the name, consistent with real time, has as its last
value what the store holds. -/
def LastWriteStored (name : SecretName) (initial : Option String) (s : ConcurrentStore) : Prop :=
  ∃ order : List ℕ, s.Respects order ∧
    (∀ i, i ∈ order ↔ ∃ p, s.invocations[i]? = some p ∧ p.request.Writes name) ∧
    s.shared.stored name = lastValue initial s order

section Runs

variable {start s : ConcurrentStore} {tr : List (Turn SecretRequest × Unit)} {name : SecretName}

lemma linearized_start (hstart : concurrentStore.init start) :
    Linearized name (start.shared.stored name) start [] := by
  obtain ⟨hnil, -⟩ := hstart
  refine ⟨by simp [hnil], fun p hp => by simp [hnil] at hp, ⟨List.nodup_nil, .nil⟩,
    by simp [hnil], ?_⟩
  refine ⟨fun a ha => by simp [lastValue, Layers.stored, ha], fun _ h => ?_,
    fun hp _ => by simp [lastValue, Layers.stored, hp], fun h => ?_⟩
  · simp [hnil] at h
  · simp [hnil] at h

lemma linearized_run (hstart : concurrentStore.init start)
    (hrun : (concurrentStore.restrict HarmlessMigration).Run start tr s) :
    ∃ order, Linearized name (start.shared.stored name) s order := by
  refine Machine.Run.invariant (I := fun m => ∃ order, Linearized name _ m order)
    (fun m turn hm hen => ?_) hrun ⟨[], linearized_start hstart⟩
  obtain ⟨order, h⟩ := hm
  obtain ⟨hturn, hharmless⟩ := hen
  cases turn with
  | invoke request => exact ⟨order, linearized_invoke h request⟩
  | advance i => exact linearized_advance h hturn hharmless
  | respond i => exact ⟨order, linearized_respond h hturn⟩

/-- **Concurrent operations.**  Whatever the order in which puts, reads and deletes make their
calls, as long as values are moved into the keyring without harm: once all of them have returned,
the store holds, under every name, what the last of its puts and deletes left, in some order that
is consistent with real time, or what it held at first if there is none. -/
theorem layered_store_linearizes (hstart : concurrentStore.init start)
    (hrun : (concurrentStore.restrict HarmlessMigration).Run start tr s)
    (hreturned : ∀ p ∈ s.invocations, p.returnedAt ≠ none) (name : SecretName) :
    LastWriteStored name (start.shared.stored name) s := by
  obtain ⟨order, h⟩ : ∃ order, Linearized name _ s order := linearized_run hstart hrun
  have hdone : ∀ p ∈ s.invocations, ∃ a, p.rest = .done a := fun p hp =>
    (h.timed p hp).2 (hreturned p hp)
  have hquiet : ¬ ∃ p ∈ s.invocations, HalfDeleted name p := by
    rintro ⟨p, hp, -, hhead⟩
    obtain ⟨a, ha⟩ := hdone p hp
    rw [ha] at hhead
    cases hhead
  refine ⟨order, h.respects, fun i => ?_, h.settled.stored hquiet⟩
  rw [h.listed i]
  constructor
  · rintro ⟨p, hp, hw⟩
    exact ⟨p, hp, hw.1⟩
  · rintro ⟨p, hp, hw⟩
    obtain ⟨a, ha⟩ := hdone p (List.mem_of_getElem? hp)
    exact ⟨p, hp, hw, by rw [ha]; exact (serve_ne_done p.request).symm⟩

end Runs

/-! ### A legacy value in the fallback -/

/-- A store that was started over a file with a value. -/
def legacyStore : ConcurrentStore :=
  ⟨⟨fun _ => none, Function.update (fun _ => none) "ozon_config" (some "K")⟩, [], 0⟩

/-- A read moves the value into the keyring beside a put. -/
theorem layered_store_linearizes_legacy :
    LastWriteStored "ozon_config" (some "K")
      (concurrentStore.exec legacyStore
        [.invoke (.get "ozon_config"), .invoke (.put "ozon_config" "N"), .advance 0, .advance 0,
          .advance 0, .advance 1, .advance 0, .advance 1, .respond 0, .respond 1]).2 := by
  rw [← Machine.exec_restrict HarmlessMigration]
  exact @layered_store_linearizes legacyStore _ _ ⟨rfl, rfl⟩
    (Machine.run_exec (by decide +kernel)) (by decide +kernel) _

/-- A read looks at both layers, a delete is made and returns, and then the read moves the value
into the keyring: the deleted value is back. -/
theorem layered_store_resurrects :
    ¬ ∀ start tr s name, concurrentStore.init start → concurrentStore.Run start tr s →
      (∀ p ∈ s.invocations, p.returnedAt ≠ none) →
      LastWriteStored name (start.shared.stored name) s := by
  intro h
  let turns : List (Turn SecretRequest) :=
    [.invoke (.get "ozon_config"), .advance 0, .advance 0, .invoke (.delete "ozon_config"),
      .advance 1, .advance 1, .respond 1, .advance 0, .advance 0, .respond 0]
  have hrun : concurrentStore.Run legacyStore (concurrentStore.exec legacyStore turns).1 _ :=
    Machine.run_exec (by decide +kernel)
  have hrequests : (concurrentStore.exec legacyStore turns).2.invocations.map Invocation.request =
    [.get "ozon_config", .delete "ozon_config"] := by decide +kernel
  have hreturned : ∀ p ∈ (concurrentStore.exec legacyStore turns).2.invocations,
    p.returnedAt ≠ none := by decide +kernel
  have hheld : (concurrentStore.exec legacyStore turns).2.shared.stored "ozon_config" =
    some "K" := by decide +kernel
  generalize (concurrentStore.exec legacyStore turns).2 = s at hrun hrequests hreturned hheld
  obtain ⟨order, -, hlisted, hstored⟩ := h _ _ _ "ozon_config" ⟨rfl, rfl⟩ hrun hreturned
  have hrequest : ∀ i : ℕ, (s.invocations[i]?).map Invocation.request =
      [SecretRequest.get "ozon_config", .delete "ozon_config"][i]? := by
    intro i
    rw [← hrequests, List.getElem?_map]
  have hone : 1 ∈ order := by
    obtain ⟨p, hp, hr⟩ := Option.map_eq_some_iff.mp (hrequest 1)
    exact (hlisted 1).mpr ⟨p, hp, by rw [hr]; rfl⟩
  rw [hheld] at hstored
  unfold lastValue at hstored
  cases ho : order.getLast? with
  | none => simp [List.getLast?_eq_none_iff.mp ho] at hone
  | some i =>
    rw [ho] at hstored
    simp only [hrequest] at hstored
    rcases i with _ | _ | i <;> simp [SecretRequest.written] at hstored

end OzonSuite
