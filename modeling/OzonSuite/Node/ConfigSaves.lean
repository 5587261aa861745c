/-
# Saves that cross

The marketplace credentials, the OpenAI configuration, the registry of providers and the lease are
each saved in two steps, the secret store first and then the cache.  Requests that save run
concurrently, so between the two steps of one of them others may take theirs.  This file follows
the stored texts and the caches through every interleaving of such requests.
-/
import OzonSuite.Lib.WriteThrough
import OzonSuite.Node.ModelRegistry

namespace OzonSuite

open Lib

/-! ## What is saved -/

/-- Which of the configurations. -/
inductive ConfigKind
  | ozon
  | openai
  | registry
  | lease
deriving DecidableEq

/-- The name that a configuration is kept under. -/
def ConfigKind.secret : ConfigKind → SecretName
  | .ozon => secretOzonConfig
  | .openai => secretOpenaiConfig
  | .registry => secretModelRegistry
  | .lease => secretCloudLease

/-- A configuration that is saved. -/
inductive SavedConfig
  | ozon (config : StoredOzonConfig)
  | openai (config : StoredOpenAiConfig)
  | registry (registry : StoredModelRegistry)
  | lease (lease : EntitlementLease)
deriving DecidableEq

/-- Which configuration it is. -/
def SavedConfig.kind : SavedConfig → ConfigKind
  | .ozon _ => .ozon
  | .openai _ => .openai
  | .registry _ => .registry
  | .lease _ => .lease

/-- The text that is put into the store. -/
def SavedConfig.text (x : NodeCrates) : SavedConfig → String
  | .ozon config => x.ozonConfigText config
  | .openai config => x.openaiConfigText config
  | .registry entries => x.registryText entries
  | .lease portal => x.leaseText portal

namespace LocalState

/-- What the cache has of a configuration. -/
def cached (n : LocalState) : ConfigKind → Option SavedConfig
  | .ozon => n.ozonConfigCache.map .ozon
  | .openai => n.openaiConfigCache.map .openai
  | .registry => n.modelRegistryCache.map .registry
  | .lease => n.cloudLeaseCache.map .lease

/-- The node with a configuration in its cache. -/
def writeCache (n : LocalState) : SavedConfig → LocalState
  | .ozon config => { n with ozonConfigCache := some config }
  | .openai config => { n with openaiConfigCache := some config }
  | .registry registry => { n with modelRegistryCache := some registry }
  | .lease lease => { n with cloudLeaseCache := some lease }

/-- The cache has nothing of a configuration, or exactly what the store has. -/
def CacheAgrees (x : NodeCrates) (n : LocalState) (k : ConfigKind) : Prop :=
  ∀ config, n.cached k = some config → n.secrets.lookup k.secret = some (config.text x)

end LocalState

/-! ## The requests -/

/-- A request to save a configuration. -/
inductive SaveRequest
  | ozon (headers : TokenHeaders) (input : OzonConfigRequest)
  | openai (headers : TokenHeaders) (input : OpenAiConfigRequest)
  | registry (headers : TokenHeaders) (input : StoredModelRegistry)
  | lease (lease : EntitlementLease)

/-- The first part of saving a lease. -/
def putPortalLease (x : NodeCrates) (w : NodeWorld) (lease : EntitlementLease) :
    NodeM EntitlementLease := do
  ofExcept (validateCloudLeaseWithFeature x w (← get).config lease .ozonRead)
  let deviceFingerprint ← loadOrCreateDeviceFingerprint w
  ofExcept (ensureLeaseBoundToDevice x lease deviceFingerprint)
  putSecret w secretCloudLease (x.leaseText lease) "failed to save cloud lease"
  return lease

namespace SaveRequest

/-- The first step of a request: everything up to the put. -/
def put (x : NodeCrates) (w : NodeWorld) : SaveRequest → NodeM SavedConfig
  | .ozon headers input => .ozon <$> putOzonConfig x w headers input
  | .openai headers input => .openai <$> putOpenaiConfig x w headers input
  | .registry headers input => .registry <$> putModelRegistry x w headers input
  | .lease portal => .lease <$> putPortalLease x w portal

/-- The state in which the handler of the request ends. -/
def handled (x : NodeCrates) (w : NodeWorld) (n : LocalState) : SaveRequest → LocalState
  | .ozon headers input => finalState (Handlers.saveOzonConfig x w headers input n)
  | .openai headers input => finalState (Handlers.saveOpenaiConfig x w headers input n)
  | .registry headers input => finalState (Handlers.saveModelRegistry x w headers input n)
  | .lease portal => finalState (savePortalLease x w portal n)

/-- A handler that nothing interrupts is its first step and then the write of the cache. -/
lemma handled_eq {x : NodeCrates} {w : NodeWorld} {n : LocalState} (request : SaveRequest) :
    request.handled x w n =
      match request.put x w n with
      | .ok config n' => n'.writeCache config
      | .error _ n' => n' := by
  cases request with
  | ozon headers input =>
    simp only [handled, put, Handlers.saveOzonConfig, finalState_bind]
    simp only [Functor.map, EStateM.map]
    cases putOzonConfig x w headers input n <;> rfl
  | openai headers input =>
    simp only [handled, put, Handlers.saveOpenaiConfig, finalState_bind]
    simp only [Functor.map, EStateM.map]
    cases putOpenaiConfig x w headers input n <;> rfl
  | registry headers input =>
    simp only [handled, put, Handlers.saveModelRegistry, finalState_bind]
    simp only [Functor.map, EStateM.map]
    cases putModelRegistry x w headers input n <;> rfl
  | lease portal =>
    -- the lease is checked and bound first; where that fails, nothing is put
    have hget : (get : NodeM LocalState) n = .ok n n := rfl
    simp only [handled, put, Functor.map, EStateM.map]
    rw [savePortalLease, putPortalLease, finalState_bind_ok hget, bind_of_ok hget]
    cases hvalid : (ofExcept (validateCloudLeaseWithFeature x w n.config portal .ozonRead) :
        NodeM Unit) n with
    | error e n' => rw [finalState_bind_error hvalid, bind_of_error hvalid]
    | ok u n' =>
      rw [finalState_bind_ok hvalid, bind_of_ok hvalid]
      cases hprint : loadOrCreateDeviceFingerprint w n' with
      | error e n'' => rw [finalState_bind_error hprint, bind_of_error hprint]
      | ok fingerprint n'' =>
        rw [finalState_bind_ok hprint, bind_of_ok hprint]
        cases hbound : (ofExcept (ensureLeaseBoundToDevice x portal fingerprint) : NodeM Unit) n''
          with
        | error e m => rw [finalState_bind_error hbound, bind_of_error hbound]
        | ok u m =>
          rw [finalState_bind_ok hbound, bind_of_ok hbound]
          cases hput : putSecret w secretCloudLease (x.leaseText portal)
              "failed to save cloud lease" m with
          | error e m' => rw [finalState_bind_error hput, bind_of_error hput]
          | ok u m' =>
            rw [finalState_bind_ok hput, bind_of_ok hput]
            rfl

end SaveRequest

/-! ## The steps -/

/-- A node with the requests that have put their configuration and not written the cache yet. -/
structure SavingNode where
  node : LocalState
  pending : List SavedConfig

/-- A step: a request puts its configuration into the store, or the `i`-th one that has done so
writes the cache. -/
inductive SaveLabel
  | put (request : SaveRequest) (w : NodeWorld)
  | writeCache (i : ℕ)

namespace SavingNode

/-- The first step of a request.  A request that fails is over. -/
def put (x : NodeCrates) (w : NodeWorld) (request : SaveRequest) (s : SavingNode) :
    Except ApiError SavedConfig × SavingNode :=
  match request.put x w s.node with
  | .ok config node => (.ok config, { node := node, pending := s.pending ++ [config] })
  | .error e node => (.error e, { s with node := node })

/-- The second step of the `i`-th request under way. -/
def writeCache (s : SavingNode) (i : ℕ) : SavingNode :=
  match s.pending[i]? with
  | none => s
  | some config =>
    { node := s.node.writeCache config, pending := s.pending.eraseIdx i }

/-- Both steps of a request, one after the other, are its handler. -/
lemma node_put_writeCache {x : NodeCrates} {w : NodeWorld} {request : SaveRequest}
    {n : LocalState} :
    ((((⟨n, []⟩ : SavingNode).put x w request).2).writeCache 0).node = request.handled x w n := by
  rw [request.handled_eq, put]
  cases request.put x w n <;> rfl

end SavingNode

/-- The requests that save, in any interleaving of their steps. -/
def saveMachine (x : NodeCrates) :
    Machine SavingNode SaveLabel (Option (Except ApiError SavedConfig)) where
  init s := s.pending = [] ∧ ∀ k, s.node.CacheAgrees x k
  enabled _ _ := True
  step s
    | .put request w => (some (s.put x w request).1, (s.put x w request).2)
    | .writeCache i => (none, s.writeCache i)

/-- The request that writes the cache is the one that has put its kind of configuration first. -/
def CacheInOrder (s : SavingNode) : SaveLabel → Prop
  | .put _ _ => True
  | .writeCache i => OldestAt SavedConfig.kind s.pending i

instance (s : SavingNode) (l : SaveLabel) : Decidable (CacheInOrder s l) :=
  match l with
  | .put _ _ => inferInstanceAs (Decidable True)
  | .writeCache i => inferInstanceAs (Decidable (OldestAt SavedConfig.kind s.pending i))

/-! ## What a request puts -/

/-- The caches and the stored configurations are as they were. -/
structure SameConfigs (n n' : LocalState) : Prop where
  stored : ∀ k : ConfigKind, n'.secrets.lookup k.secret = n.secrets.lookup k.secret
  cached : ∀ k : ConfigKind, n'.cached k = n.cached k

lemma SameConfigs.refl (n : LocalState) : SameConfigs n n := ⟨fun _ => rfl, fun _ => rfl⟩

lemma SameConfigs.trans (a b c : LocalState) (h : SameConfigs a b) (h' : SameConfigs b c) :
    SameConfigs a c :=
  ⟨fun k => (h'.stored k).trans (h.stored k), fun k => (h'.cached k).trans (h.cached k)⟩

lemma sameConfigs_of_eq {α : Type} {m : NodeM α} (h : Moves Eq m) : Moves SameConfigs m :=
  fun n => h n ▸ SameConfigs.refl n

/-- What a step leaves behind that puts one configuration, or fails before that. -/
def PutsOne (x : NodeCrates) {α : Type} (saved : α → SavedConfig) (n : LocalState)
    (r : EStateM.Result ApiError LocalState α) : Prop :=
  ∃ m, SameConfigs n m ∧ ((∃ e, r = .error e m) ∨ ∃ a, r = .ok a { m with
    secrets := m.secrets.insert (saved a).kind.secret ((saved a).text x) })

section Puts

variable {x : NodeCrates} {w : NodeWorld} {headers : TokenHeaders}

lemma PutsOne.bind {α β : Type} {saved : β → SavedConfig} {m : NodeM α} {f : α → NodeM β}
    (hm : Moves SameConfigs m) (hf : ∀ a n, PutsOne x saved n (f a n)) (n : LocalState) :
    PutsOne x saved n ((m >>= f) n) := by
  have hn := hm n
  cases h : m n with
  | error e n' =>
    rw [h] at hn
    exact ⟨n', hn, .inl ⟨e, bind_of_error h⟩⟩
  | ok a n' =>
    rw [h] at hn
    obtain ⟨n'', hsame, hr⟩ := hf a n'
    rw [bind_of_ok h]
    exact ⟨n'', hn.trans _ _ _ hsame, hr⟩

lemma PutsOne.putSecret {α : Type} {saved : α → SavedConfig} {a : α} {name : SecretName}
    {value failure : String} (hname : (saved a).kind.secret = name)
    (hvalue : (saved a).text x = value) (n : LocalState) :
    PutsOne x saved n ((OzonSuite.putSecret w name value failure >>= fun _ => pure a) n) := by
  subst hname hvalue
  refine ⟨n, .refl n, ?_⟩
  by_cases hput : w.putFails (saved a).kind.secret = true
  · refine .inl ⟨.internal failure, ?_⟩
    simp only [OzonSuite.putSecret, refuseIf, hput]
    rfl
  · refine .inr ⟨a, ?_⟩
    simp only [OzonSuite.putSecret, refuseIf, hput]
    rfl

lemma putOzonConfig_putsOne {input : OzonConfigRequest} (n : LocalState) :
    PutsOne x .ozon n (putOzonConfig x w headers input n) := by
  refine PutsOne.bind (sameConfigs_of_eq moves_get) (fun s => ?_) n
  refine PutsOne.bind (sameConfigs_of_eq (.refl_of Eq.refl fun _ => by simp)) fun _ => ?_
  refine PutsOne.bind (sameConfigs_of_eq (.refl_of Eq.refl fun _ => by simp)) fun _ => ?_
  refine PutsOne.bind (sameConfigs_of_eq (.refl_of Eq.refl fun _ => by simp)) fun _ => ?_
  exact PutsOne.putSecret rfl rfl

lemma moves_openaiKeyToSave {input : OpenAiConfigRequest} :
    Moves Eq (openaiKeyToSave x w input) := by
  rw [openaiKeyToSave]
  split
  · refine .bind_eq moves_loadPersistedOpenaiConfig.attempt fun stored => ?_
    cases stored with
    | ok stored => exact .refl_of Eq.refl fun _ => rfl
    | error e => exact .refl_of Eq.refl fun _ => rfl
  · exact .refl_of Eq.refl fun _ => rfl

lemma putOpenaiConfig_putsOne {input : OpenAiConfigRequest} (n : LocalState) :
    PutsOne x .openai n (putOpenaiConfig x w headers input n) := by
  refine PutsOne.bind (sameConfigs_of_eq moves_get) (fun s => ?_) n
  refine PutsOne.bind (sameConfigs_of_eq (.refl_of Eq.refl fun _ => by simp)) fun _ => ?_
  refine PutsOne.bind (sameConfigs_of_eq moves_openaiKeyToSave) fun apiKey => ?_
  refine PutsOne.bind (sameConfigs_of_eq (.refl_of Eq.refl fun _ => by simp)) fun baseUrl => ?_
  exact PutsOne.putSecret rfl rfl

lemma putModelRegistry_putsOne {input : StoredModelRegistry} (n : LocalState) :
    PutsOne x .registry n (putModelRegistry x w headers input n) := by
  refine PutsOne.bind (sameConfigs_of_eq moves_get) (fun s => ?_) n
  refine PutsOne.bind (sameConfigs_of_eq (.refl_of Eq.refl fun _ => by simp)) fun _ => ?_
  refine PutsOne.bind (sameConfigs_of_eq moves_validateModelRegistry) fun validated => ?_
  exact PutsOne.putSecret rfl rfl

/-- A fingerprint may be stored, under a name of its own. -/
lemma loadOrCreateDeviceFingerprint_sameConfigs :
    Moves SameConfigs (loadOrCreateDeviceFingerprint w) := by
  refine moves_loadOrCreateDeviceFingerprint .refl SameConfigs.trans fun n value =>
    ⟨fun k => ?_, fun k => by cases k <;> rfl⟩
  refine Finmap.lookup_insert_of_ne _ ?_
  cases k <;> decide

lemma putPortalLease_putsOne {portal : EntitlementLease} (n : LocalState) :
    PutsOne x .lease n (putPortalLease x w portal n) := by
  refine PutsOne.bind (sameConfigs_of_eq moves_get) (fun s => ?_) n
  refine PutsOne.bind (sameConfigs_of_eq (.refl_of Eq.refl fun _ => by simp)) fun _ => ?_
  refine PutsOne.bind loadOrCreateDeviceFingerprint_sameConfigs fun fingerprint => ?_
  refine PutsOne.bind (sameConfigs_of_eq (.refl_of Eq.refl fun _ => by simp)) fun _ => ?_
  exact PutsOne.putSecret rfl rfl

lemma PutsOne.map {α : Type} {saved : α → SavedConfig} {m : NodeM α} {n : LocalState}
    (h : PutsOne x saved n (m n)) : PutsOne x id n ((saved <$> m) n) := by
  obtain ⟨n', hsame, ⟨e, he⟩ | ⟨a, ha⟩⟩ := h
  · refine ⟨n', hsame, .inl ⟨e, ?_⟩⟩
    simp only [Functor.map, EStateM.map, he]
  · refine ⟨n', hsame, .inr ⟨saved a, ?_⟩⟩
    simp only [Functor.map, EStateM.map, ha]
    rfl

/-- Every request puts one configuration, or fails and leaves them all as they are. -/
lemma SaveRequest.put_putsOne (request : SaveRequest) (n : LocalState) :
    PutsOne x id n (request.put x w n) := by
  cases request with
  | ozon headers input => exact (putOzonConfig_putsOne n).map
  | openai headers input => exact (putOpenaiConfig_putsOne n).map
  | registry headers input => exact (putModelRegistry_putsOne n).map
  | lease portal => exact (putPortalLease_putsOne n).map

end Puts

/-! ## The store and the caches -/

/-- The node as a store and a cache of texts, by kinds of configuration. -/
def SavingNode.view (x : NodeCrates) (s : SavingNode) :
    WriteThrough ConfigKind (ConfigKind × String) where
  store k := (s.node.secrets.lookup k.secret).map (k, ·)
  cache k := (s.node.cached k).map fun config => (k, config.text x)
  pending := s.pending.map fun config => (config.kind, config.text x)

section View

variable {x : NodeCrates} {w : NodeWorld} {s : SavingNode} {n : LocalState}

lemma ConfigKind.secret_injective : Function.Injective ConfigKind.secret := by
  intro k k' h
  cases k <;> cases k' <;> first | rfl | (revert h; decide)

lemma LocalState.cached_writeCache (config : SavedConfig) :
    (n.writeCache config).cached = Function.update n.cached config.kind (some config) := by
  funext k
  cases config <;> cases k <;> rfl

lemma view_of_sameConfigs {m : LocalState} {pending : List SavedConfig} (h : SameConfigs n m) :
    (⟨m, pending⟩ : SavingNode).view x = (⟨n, pending⟩ : SavingNode).view x := by
  ext1
  · funext k
    simp only [SavingNode.view, h.stored k]
  · funext k
    simp only [SavingNode.view, h.cached k]
  · rfl

/-- A put at the node is a put. -/
lemma view_put {config : SavedConfig} :
    (⟨{ n with secrets := n.secrets.insert config.kind.secret (config.text x) },
        s.pending ++ [config]⟩ : SavingNode).view x =
      ((⟨n, s.pending⟩ : SavingNode).view x).put Prod.fst (config.kind, config.text x) := by
  ext1
  · funext k
    simp only [SavingNode.view, WriteThrough.put]
    by_cases hk : k = config.kind
    · subst hk
      rw [Finmap.lookup_insert, Function.update_self]
      rfl
    · have hne : k.secret ≠ config.kind.secret := fun h => hk (ConfigKind.secret_injective h)
      rw [Finmap.lookup_insert_of_ne _ hne, Function.update_of_ne hk]
  · funext k
    cases k <;> rfl
  · simp only [SavingNode.view, WriteThrough.put, List.map_append, List.map_cons, List.map_nil]

/-- Writing a cache of the node is a flush. -/
lemma view_writeCache (i : ℕ) : (s.writeCache i).view x = (s.view x).flush Prod.fst i := by
  have hpending : (s.view x).pending[i]? =
      (s.pending[i]?).map fun config => (config.kind, config.text x) := List.getElem?_map ..
  rw [SavingNode.writeCache, WriteThrough.flush, hpending]
  cases s.pending[i]? with
  | none => rfl
  | some config =>
    simp only [Option.map_some]
    ext1
    · cases config <;> rfl
    · funext k
      simp only [SavingNode.view, LocalState.cached_writeCache]
      by_cases hk : k = config.kind
      · subst hk
        rw [Function.update_self, Function.update_self]
        rfl
      · rw [Function.update_of_ne hk, Function.update_of_ne hk]
    · exact (List.eraseIdx_map ..).symm

/-- The node keeps what a store and its cache keep. -/
lemma saveMachine_inv {l : SaveLabel} (h : (s.view x).Inv Prod.fst) (hl : CacheInOrder s l) :
    (((saveMachine x).step s l).2.view x).Inv Prod.fst := by
  cases l with
  | put request w =>
    change (((s.put x w request).2).view x).Inv Prod.fst
    obtain ⟨m, hsame, ⟨e, he⟩ | ⟨config, hconfig⟩⟩ := request.put_putsOne (x := x) (w := w) s.node
    · rw [SavingNode.put, he]
      simp only [view_of_sameConfigs hsame]
      exact h
    · rw [SavingNode.put, hconfig]
      simp only [id, view_put, view_of_sameConfigs hsame]
      exact h.put _
  | writeCache i =>
    change ((s.writeCache i).view x).Inv Prod.fst
    rw [view_writeCache]
    exact h.flush (oldestAt_map _ hl)

/-- Where nothing is under way, the caches agree with the store. -/
lemma cacheAgrees_of_inv (h : (s.view x).Inv Prod.fst) (hquiet : s.pending = []) (k : ConfigKind) :
    s.node.CacheAgrees x k := by
  intro config hcached
  have hpending : (s.view x).pending = [] := by
    rw [SavingNode.view, hquiet]
    rfl
  have hcache : (s.view x).cache k = some (k, config.text x) := by
    simp only [SavingNode.view, hcached, Option.map_some]
  rcases h.agrees hpending k with hnone | hsame
  · rw [hcache] at hnone
    cases hnone
  · rw [hcache] at hsame
    obtain ⟨text, htext, heq⟩ := Option.map_eq_some_iff.mp hsame.symm
    rw [htext, (Prod.mk.inj heq).2]

lemma inv_of_init (h : (saveMachine x).init s) : (s.view x).Inv Prod.fst := by
  obtain ⟨hquiet, hagrees⟩ := h
  intro k
  have hpending : (s.view x).pending = [] := by
    rw [SavingNode.view, hquiet]
    rfl
  rw [hpending]
  change (s.view x).Agrees k
  cases hcached : s.node.cached k with
  | none => exact .inl (by simp only [SavingNode.view, hcached, Option.map_none])
  | some config =>
    exact .inr (by simp only [SavingNode.view, hcached, hagrees k config hcached, Option.map_some])

/-- A configuration that has been put is on its way to the cache, or the cache has one of its
kind. -/
def Reached (s : SavingNode) (k : ConfigKind) : Prop :=
  (∃ config ∈ s.pending, config.kind = k) ∨ (s.node.cached k).isSome

lemma Reached.step {k : ConfigKind} {l : SaveLabel} (h : Reached s k) :
    Reached ((saveMachine x).step s l).2 k := by
  cases l with
  | put request w =>
    change Reached (s.put x w request).2 k
    obtain ⟨m, hsame, ⟨e, he⟩ | ⟨config, hconfig⟩⟩ := request.put_putsOne (x := x) (w := w) s.node
    · rw [SavingNode.put, he]
      exact h.imp id fun hcached => (hsame.cached k).symm ▸ hcached
    · rw [SavingNode.put, hconfig]
      refine h.imp (fun ⟨c, hc, hk⟩ => ⟨c, List.mem_append_left _ hc, hk⟩) fun hcached => ?_
      have hsame' := hsame.cached k
      cases k <;> exact hsame' ▸ hcached
  | writeCache i =>
    change Reached (s.writeCache i) k
    rw [SavingNode.writeCache]
    cases hi : s.pending[i]? with
    | none => exact h
    | some config =>
      have hcached := LocalState.cached_writeCache (n := s.node) config
      by_cases hk : config.kind = k
      · refine .inr ?_
        rw [hcached, hk, Function.update_self]
        rfl
      · rcases h with ⟨c, hc, hck⟩ | hsome
        · -- another request of this kind is under way
          refine .inl ⟨c, ?_, hck⟩
          have hne : c ≠ config := fun heq => hk (heq ▸ hck)
          obtain ⟨j, hj⟩ := List.mem_iff_getElem?.mp hc
          refine List.mem_eraseIdx_iff_getElem?.mpr ⟨j, fun hji => ?_, hj⟩
          rw [hji, hi] at hj
          exact hne (Option.some.inj hj).symm
        · refine .inr ?_
          rw [hcached, Function.update_of_ne (Ne.symm hk)]
          exact hsome

/-- What has just been put is on its way. -/
lemma reached_of_put {l : SaveLabel} {config : SavedConfig}
    (h : ((saveMachine x).step s l).1 = some (.ok config)) :
    Reached ((saveMachine x).step s l).2 config.kind := by
  cases l with
  | writeCache i => cases h
  | put request w =>
    change some (s.put x w request).1 = some (.ok config) at h
    change Reached (s.put x w request).2 config.kind
    rw [SavingNode.put] at h ⊢
    cases hput : request.put x w s.node with
    | error e n =>
      rw [hput] at h
      cases h
    | ok config' n =>
      rw [hput] at h
      obtain rfl : config' = config := by simpa using h
      exact .inl ⟨config', List.mem_append_right _ (List.mem_singleton_self _), rfl⟩

end View

/-- **The caches and the store.**  In every interleaving of requests that save, where the requests
for each configuration write the cache in the order in which they have put it: when every request
has returned, each cache has exactly what the store has, and each configuration that a request has
put is cached. -/
theorem caches_agree {x : NodeCrates} {s₀ s : SavingNode}
    {tr : List (SaveLabel × Option (Except ApiError SavedConfig))} (hinit : (saveMachine x).init s₀)
    (h : ((saveMachine x).restrict CacheInOrder).Run s₀ tr s) (hquiet : s.pending = [])
    (k : ConfigKind) :
    s.node.CacheAgrees x k ∧
      ∀ e ∈ tr, ∀ config, e.2 = some (.ok config) → config.kind = k →
        (s.node.cached k).isSome := by
  have hstep : ∀ s l, (SavingNode.view x s).Inv Prod.fst →
      ((saveMachine x).restrict CacheInOrder).enabled s l →
      (SavingNode.view x (((saveMachine x).restrict CacheInOrder).step s l).2).Inv Prod.fst :=
    fun s l hs hen => saveMachine_inv hs hen.2
  have hinv : (s.view x).Inv Prod.fst :=
    h.invariant (I := fun s => (SavingNode.view x s).Inv Prod.fst) hstep (inv_of_init hinit)
  have hreached : ∀ e ∈ tr, ∀ config, e.2 = some (.ok config) → Reached s config.kind := by
    clear hquiet hinv
    induction h with
    | nil => exact fun _ he => by cases he
    | @snoc tr m l _ _ ih =>
      intro e he config hconfig
      rcases List.mem_append.mp he with he | he
      · exact (ih e he config hconfig).step (x := x)
      · rw [List.mem_singleton.mp he] at hconfig
        exact reached_of_put (x := x) hconfig
  refine ⟨cacheAgrees_of_inv hinv hquiet k, fun e he config hconfig hk => ?_⟩
  rcases hreached e he config hconfig with ⟨c, hc, -⟩ | hsome
  · rw [hquiet] at hc
    cases hc
  · exact hk ▸ hsome

/-! ### Two saves of the marketplace credentials -/

/-- The save of credentials with the given key. -/
def ozonSave (apiKey : String) : SaveLabel :=
  .put (.ozon operatorHeaders ⟨"client", apiKey⟩) laptopWorld

/-- A node without configurations. -/
def savingNode : SavingNode := ⟨LocalState.new nodeConfig ∅, []⟩

lemma savingNode_init : (saveMachine leaseCrates).init savingNode :=
  ⟨rfl, fun k config h => by cases k <;> cases h⟩

/-- Both have put their credentials before the first writes the cache. -/
theorem caches_agree_in_order :
    LocalState.CacheAgrees leaseCrates ((saveMachine leaseCrates).exec savingNode
      [ozonSave "key-1", ozonSave "key-2", .writeCache 0, .writeCache 0]).2.node .ozon := by
  have hallows : ((saveMachine leaseCrates).restrict CacheInOrder).Allows savingNode
      [ozonSave "key-1", ozonSave "key-2", .writeCache 0, .writeCache 0] :=
    ⟨⟨trivial, trivial⟩, ⟨trivial, trivial⟩, ⟨trivial, by decide +kernel⟩,
      ⟨trivial, by decide +kernel⟩, trivial⟩
  have hrun := Machine.run_exec hallows
  rw [Machine.exec_restrict] at hrun
  exact (caches_agree savingNode_init hrun (by decide +kernel) .ozon).1

/-- The second writes the cache first, and then the first: the store has the credentials of the
second and the cache those of the first. -/
theorem crossing_saves_disagree :
    ¬ ∀ (x : NodeCrates) (s₀ s : SavingNode)
        (tr : List (SaveLabel × Option (Except ApiError SavedConfig))) (k : ConfigKind),
      (saveMachine x).init s₀ → (saveMachine x).Run s₀ tr s → s.pending = [] →
      s.node.CacheAgrees x k := by
  intro h
  have hallows : (saveMachine leaseCrates).Allows savingNode
      [ozonSave "key-1", ozonSave "key-2", .writeCache 1, .writeCache 0] :=
    ⟨trivial, trivial, trivial, trivial, trivial⟩
  have hagrees := h leaseCrates savingNode _ _ .ozon savingNode_init (Machine.run_exec hallows)
    (by decide +kernel)
  have htext := hagrees (.ozon ⟨"client", "key-1"⟩) (by decide +kernel)
  revert htext
  decide +kernel

end OzonSuite
