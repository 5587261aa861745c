/-
# Where keys are sent

A key goes to the base URL that is kept beside it, so that URL should be one over which nobody
listens: it uses https, or it is a URL of the machine itself.  Base URLs come with the requests that
save, from the configuration of the node, from the environment, and from the store, into which an
operator may put secrets under names of his own.  This file follows the base URLs that are stored,
cached and under way through every run of such requests.
-/
import OzonSuite.Node.Capabilities
import OzonSuite.Node.ConfigSaves

namespace OzonSuite

open Lib

/-! ## Secrets of the operator -/

/-- The names of the node's own configurations. -/
def reservedSecretNames : List SecretName :=
  [secretOzonConfig, secretOpenaiConfig, secretModelRegistry, secretCloudLease,
    secretDeviceFingerprint]

/-- A request to save the key of a provider. -/
structure SecretSaveRequest where
  name : String
  value : String
deriving DecidableEq

/-- The answer, with the fingerprint of the key. -/
structure SecretSaveResponse where
  name : String
  fingerprint : String
  savedAt : Time
deriving DecidableEq

/-- The characters of the name of a secret. -/
def isSecretNameChar (c : Char) : Bool :=
  ('a' ≤ c && c ≤ 'z') || ('0' ≤ c && c ≤ '9') || c == '_'

/-- Save the key of a provider. -/
def Handlers.saveSecret (x : NodeCrates) (w : NodeWorld) (headers : TokenHeaders)
    (input : SecretSaveRequest) : NodeM SecretSaveResponse := do
  ofExcept (requireOperatorToken (← get).config headers)
  let name := trim input.name
  refuseIf (name = "") (ApiError.badRequest "secret name is required")
  refuseIf (!name.toList.all isSecretNameChar) (ApiError.badRequest
    "secret name must match [a-z0-9_]+ (lowercase letters, digits, underscore)")
  refuseIf (name ∈ reservedSecretNames)
    (ApiError.badRequest s!"'{name}' is a reserved secret name and cannot be set here")
  refuseIf (input.value = "") (ApiError.badRequest "secret value is required")
  putSecret w name input.value "failed to save secret"
  return { name := name, fingerprint := fingerprintSecret x input.value, savedAt := w.now }

/-! ## Safe URLs -/

/-- The host is `localhost`, or an IP address of the machine itself, with brackets or without. -/
def IsLoopbackHost (x : NodeCrates) (host : String) : Prop :=
  toAsciiLowercase host = "localhost" ∨
    x.isLoopbackAddr
      (trimTextEnd (· = ']') (String.ofList (host.toList.dropWhile (· = '[')))) = true

/-- A URL over which a key is not sent in clear text to another machine. -/
def KeepsKeys (x : NodeCrates) (baseUrl : String) : Prop :=
  ∃ scheme host, x.parseUrl baseUrl = some (scheme, host) ∧
    (scheme = "https" ∨ scheme = "http" ∧ IsLoopbackHost x host)

namespace SavedConfig

/-- The base URLs of a configuration all keep keys. -/
def Safe (x : NodeCrates) : SavedConfig → Prop
  | .openai config => KeepsKeys x config.baseUrl
  | .registry entries =>
    ∀ capability, ∀ entry ∈ entries.entries capability, KeepsKeys x entry.baseUrl
  | .ozon _ | .lease _ => True

/-- A stored text, read back. -/
def parse (x : NodeCrates) : ConfigKind → String → Option SavedConfig
  | .ozon, text => (x.parseOzonConfig text).map .ozon
  | .openai, text => (x.parseOpenaiConfig text).map .openai
  | .registry, text => (x.parseRegistry text).map .registry
  | .lease, text => (x.parseLease text).map .lease

end SavedConfig

/-- What the JSON library and the URL library are relied on for: a base URL that has been written is
the one that is read, and the default URL uses https. -/
structure ReadsBaseUrls (x : NodeCrates) : Prop where
  openai : ∀ config config', x.parseOpenaiConfig (x.openaiConfigText config) = some config' →
    config'.baseUrl = config.baseUrl
  registry : ∀ registry registry', x.parseRegistry (x.registryText registry) = some registry' →
    ∀ capability, (registry'.entries capability).map (·.baseUrl) =
      (registry.entries capability).map (·.baseUrl)
  default : x.parseUrl defaultOpenaiBaseUrl = some ("https", "api.openai.com")

/-! ## The requests -/

/-- A step of the node, as far as its keys are concerned. -/
inductive KeyLabel
  /-- A step of a request that saves a configuration. -/
  | save (l : SaveLabel)
  | saveSecret (headers : TokenHeaders) (input : SecretSaveRequest) (w : NodeWorld)
  /-- A request makes up the fingerprint of the device. -/
  | deviceFingerprint (w : NodeWorld)
  /-- A request has found no registry in the cache and reads the stored one. -/
  | readRegistry (w : NodeWorld)
  | loadOpenaiConfig (w : NodeWorld)
  | resolveCapability (w : NodeWorld) (capability : Capability)
  /-- The process ends, and starts again in an environment of its own. -/
  | restart (config : LocalConfig)

/-- The address that a key is sent to. -/
def ResolvedProvider.baseUrl : ResolvedProvider → Option String
  | .openAiImage config => some config.baseUrl
  | .generic provider => some provider.baseUrl
  | .notConfigured _ _ => none

/-- Everything that a node does with the configurations it keeps, in any order and with the saves
interleaved; a step answers with the base URL that it hands out. -/
def keyMachine (x : NodeCrates) : Machine SavingNode KeyLabel (Option String) where
  init s := ∃ config secrets, s = ⟨LocalState.new config secrets, []⟩ ∧
    secrets.lookup secretOpenaiConfig = none ∧ secrets.lookup secretModelRegistry = none
  enabled _ _ := True
  step s
    | .save l => (none, ((saveMachine x).step s l).2)
    | .saveSecret headers input w =>
      (none, { s with node := finalState (Handlers.saveSecret x w headers input s.node) })
    | .deviceFingerprint w =>
      (none, { s with node := finalState (loadOrCreateDeviceFingerprint w s.node) })
    | .readRegistry w =>
      (none, if s.node.modelRegistryCache.isSome then s
        else { s with pending := s.pending ++ [.registry (readModelRegistry x w s.node)] })
    | .loadOpenaiConfig w =>
      ((outcome (loadOpenaiConfig x w s.node)).toOption.map (·.baseUrl),
        { s with node := finalState (loadOpenaiConfig x w s.node) })
    | .resolveCapability w capability =>
      ((outcome (resolveCapability x w capability s.node)).toOption.bind (·.baseUrl),
        { s with node := finalState (resolveCapability x w capability s.node) })
    | .restart config => (none, ⟨LocalState.new config s.node.secrets, []⟩)

/-- Every configuration that is under way, cached or stored is safe. -/
structure SavingNode.Safe (x : NodeCrates) (s : SavingNode) : Prop where
  pending : ∀ config ∈ s.pending, config.Safe x
  cached : ∀ k config, s.node.cached k = some config → config.Safe x
  stored : ∀ k bundle config, s.node.secrets.lookup k.secret = some bundle →
    SavedConfig.parse x k bundle = some config → config.Safe x

/-! ## What is saved is safe -/

section Saved

variable {x : NodeCrates} {w : NodeWorld} {headers : TokenHeaders} {n n' : LocalState}

/-- What the check of a URL accepts keeps keys. -/
lemma normalizeOpenaiBaseUrl_keepsKeys (hx : ReadsBaseUrls x) {value baseUrl : String}
    (h : normalizeOpenaiBaseUrl x value = .ok baseUrl) : KeepsKeys x baseUrl := by
  simp only [normalizeOpenaiBaseUrl] at h
  split at h
  · -- nothing is given
    obtain rfl : defaultOpenaiBaseUrl = baseUrl := Except.ok.inj h
    exact ⟨_, _, hx.default, .inl rfl⟩
  · obtain ⟨⟨scheme, host⟩, hparse, h⟩ := Except.bind_eq_ok.mp h
    rw [Except.okOr_eq_ok] at hparse
    dsimp only at h
    split at h
    · next hscheme =>
      obtain rfl := Except.ok.inj h
      exact ⟨scheme, host, hparse, .inl hscheme⟩
    · simp only [Except.bind_eq_ok, Except.refuseIf_eq_ok] at h
      obtain ⟨_, hscheme, _, hhost, h⟩ := h
      obtain rfl := Except.ok.inj h
      have hlocal : toAsciiLowercase "localhost" = "localhost" := by decide
      rw [hlocal, not_and_or, not_not, Bool.not_eq_false] at hhost
      exact ⟨scheme, host, hparse, .inr ⟨not_not.mp hscheme, hhost⟩⟩

lemma putOpenaiConfig_safe (hx : ReadsBaseUrls x) {input : OpenAiConfigRequest}
    {config : StoredOpenAiConfig} (h : putOpenaiConfig x w headers input n = .ok config n') :
    KeepsKeys x config.baseUrl := by
  simp only [putOpenaiConfig, bind_eq_ok, get_eq_ok, ofExcept_eq_ok, pure_eq_ok] at h
  obtain ⟨_, _, -, _, _, -, apiKey, _, -, baseUrl, _, ⟨hurl, -⟩, _, _, -, rfl, -⟩ := h
  exact normalizeOpenaiBaseUrl_keepsKeys hx hurl

lemma validateProviderEntry_safe (hx : ReadsBaseUrls x) {entry entry' : ProviderEntry}
    (h : validateProviderEntry x w entry n = .ok entry' n') : KeepsKeys x entry'.baseUrl := by
  simp only [validateProviderEntry, bind_eq_ok, ofExcept_eq_ok, pure_eq_ok] at h
  obtain ⟨_, _, -, apiKey, _, -, baseUrl, _, ⟨hurl, -⟩, rfl, -⟩ := h
  exact normalizeOpenaiBaseUrl_keepsKeys hx hurl

lemma putModelRegistry_safe (hx : ReadsBaseUrls x) {input registry : StoredModelRegistry}
    (h : putModelRegistry x w headers input n = .ok registry n') :
    (SavedConfig.registry registry).Safe x := by
  simp only [putModelRegistry, validateModelRegistry, bind_eq_ok, pure_eq_ok] at h
  obtain ⟨_, _, -, _, _, -, registry, _, ⟨imageGen, _, himage, textGen, _, htext, videoGen, _,
    hvideo, rfl, -⟩, _, _, -, rfl, -⟩ := h
  have hentries : ∀ {l l' : List ProviderEntry} {m m' : LocalState},
      l.mapM (validateProviderEntry x w) m = .ok l' m' → ∀ entry ∈ l', KeepsKeys x entry.baseUrl :=
    mapM_eq_ok fun _ _ _ _ _ => validateProviderEntry_safe hx
  rintro (_ | _ | _)
  · exact hentries himage
  · exact hentries htext
  · exact hentries hvideo

/-- A request that saves, saves what is safe. -/
lemma SaveRequest.put_safe (hx : ReadsBaseUrls x) {request : SaveRequest} {config : SavedConfig}
    (h : request.put x w n = .ok config n') : config.Safe x := by
  have hmap : ∀ {α : Type} {m : NodeM α} {f : α → SavedConfig}, (f <$> m) n = .ok config n' →
      ∃ a, m n = .ok a n' ∧ f a = config := by
    intro α m f hf
    simp only [map_eq_pure_bind, bind_eq_ok, pure_eq_ok] at hf
    obtain ⟨a, m', ha, rfl, rfl⟩ := hf
    exact ⟨a, ha, rfl⟩
  cases request with
  | ozon headers input =>
    obtain ⟨_, -, rfl⟩ := hmap h
    trivial
  | openai headers input =>
    obtain ⟨_, hput, rfl⟩ := hmap h
    exact putOpenaiConfig_safe hx hput
  | registry headers input =>
    obtain ⟨_, hput, rfl⟩ := hmap h
    exact putModelRegistry_safe hx hput
  | lease portal =>
    obtain ⟨_, -, rfl⟩ := hmap h
    trivial

/-- What is stored safely is read back safely. -/
lemma SavedConfig.safe_of_parse (hx : ReadsBaseUrls x) {config config' : SavedConfig}
    (hsafe : config.Safe x) (h : parse x config.kind (config.text x) = some config') :
    config'.Safe x := by
  cases config with
  | ozon config =>
    obtain ⟨_, -, rfl⟩ := Option.map_eq_some_iff.mp h
    trivial
  | openai config =>
    obtain ⟨config', hparse, rfl⟩ := Option.map_eq_some_iff.mp h
    change KeepsKeys x config'.baseUrl
    rw [hx.openai config config' hparse]
    exact hsafe
  | registry entries =>
    obtain ⟨entries', hparse, rfl⟩ := Option.map_eq_some_iff.mp h
    intro capability entry hentry
    have hurl : entry.baseUrl ∈ (entries'.entries capability).map (·.baseUrl) :=
      List.mem_map_of_mem hentry
    rw [hx.registry entries entries' hparse] at hurl
    obtain ⟨saved, hsaved, heq⟩ := List.mem_map.mp hurl
    exact heq ▸ hsafe capability saved hsaved
  | lease portal =>
    obtain ⟨_, -, rfl⟩ := Option.map_eq_some_iff.mp h
    trivial

lemma finalState_refuseIf_bind {α : Type} {c : Prop} [Decidable c] {e : ApiError}
    {f : Unit → NodeM α} :
    finalState ((refuseIf c e >>= f) n) = if c then n else finalState (f () n) := by
  by_cases hc : c
  · rw [if_pos hc, refuseIf, if_pos hc]
    rfl
  · rw [if_neg hc, refuseIf, if_neg hc]
    rfl

/-- A secret of the operator is none of the node's own. -/
lemma saveSecret_sameConfigs {input : SecretSaveRequest} :
    SameConfigs n (finalState (Handlers.saveSecret x w headers input n)) := by
  have hget : (get : NodeM LocalState) n = .ok n n := rfl
  rw [Handlers.saveSecret, bind_of_ok hget]
  cases hoperator : requireOperatorToken n.config headers with
  | error e => exact .refl n
  | ok u =>
    have hpass : (ofExcept (.ok u : Except ApiError Unit) : NodeM Unit) n = .ok u n := rfl
    rw [bind_of_ok hpass]
    simp only [putSecret, bind_assoc, finalState_refuseIf_bind]
    split_ifs with hblank hshape hreserved hvalue hput
    all_goals first
      | exact .refl n
      | refine ⟨fun k => Finmap.lookup_insert_of_ne _ fun hname => hreserved ?_,
          fun k => by cases k <;> rfl⟩
    rw [← hname]
    cases k <;> decide

end Saved

/-! ## What is read is safe -/

section Read

variable {x : NodeCrates} {w : NodeWorld} {s : SavingNode}

lemma SavingNode.Safe.sameConfigs (h : s.Safe x) {n : LocalState} (hsame : SameConfigs s.node n) :
    ({ s with node := n } : SavingNode).Safe x where
  pending := h.pending
  cached k config hcached := h.cached k config ((hsame.cached k).symm.trans hcached)
  stored k bundle config hstored :=
    h.stored k bundle config ((hsame.stored k).symm.trans hstored)

/-- The registry in use is safe. -/
lemma SavingNode.Safe.readModelRegistry (h : s.Safe x) :
    (SavedConfig.registry (readModelRegistry x w s.node)).Safe x := by
  have hdefault : (SavedConfig.registry .default).Safe x := by
    rintro (_ | _ | _) entry hentry <;> cases hentry
  rw [OzonSuite.readModelRegistry, getSecretForStatus]
  split
  · next bundle hread =>
    split at hread
    · cases hread
    · have hstored := Except.ok.inj hread
      cases hparse : x.parseRegistry bundle with
      | none => exact hdefault
      | some registry =>
        exact h.stored .registry bundle _ hstored (by rw [SavedConfig.parse, hparse]; rfl)
  · exact hdefault

lemma SavingNode.Safe.registry (h : s.Safe x) :
    (SavedConfig.registry (s.node.registry x w)).Safe x := by
  rw [LocalState.registry]
  cases hcache : s.node.modelRegistryCache with
  | none => exact h.readModelRegistry
  | some registry => exact h.cached .registry _ (by rw [LocalState.cached, hcache]; rfl)

/-- The OpenAI configuration that is loaded is safe, from whichever source it comes. -/
lemma SavingNode.Safe.loadOpenaiConfig (hx : ReadsBaseUrls x) (h : s.Safe x)
    {config : StoredOpenAiConfig} (hload : outcome (loadOpenaiConfig x w s.node) = .ok config) :
    KeepsKeys x config.baseUrl := by
  rw [outcome_loadOpenaiConfig] at hload
  cases hcache : s.node.openaiConfigCache with
  | some stored =>
    obtain rfl : stored = config := by simpa [hcache] using hload
    exact h.cached .openai (.openai stored) (by rw [LocalState.cached, hcache]; rfl)
  | none =>
    simp only [hcache] at hload
    cases henv : loadOpenaiEnvConfig x w with
    | ok envConfig =>
      -- the environment has a key, and its URL is checked
      obtain rfl : envConfig = config := by simpa [henv] using hload
      simp only [loadOpenaiEnvConfig, Except.bind_eq_ok] at henv
      obtain ⟨apiKey, -, baseUrl, hurl, henv⟩ := henv
      obtain rfl := Except.ok.inj henv
      exact normalizeOpenaiBaseUrl_keepsKeys hx hurl
    | error e =>
      simp only [henv] at hload
      cases hread : getSecretForStatus w s.node secretOpenaiConfig with
      | error u => simp [hread] at hload
      | ok stored =>
        cases stored with
        | none =>
          simp only [hread, openaiConfigFromEnv, Except.bind_eq_ok] at hload
          obtain ⟨apiKey, -, baseUrl, hurl, hload⟩ := hload
          obtain rfl := Except.ok.inj hload
          exact normalizeOpenaiBaseUrl_keepsKeys hx hurl
        | some bundle =>
          simp only [hread, Except.okOr_eq_ok] at hload
          refine h.stored .openai bundle (.openai config) ?_ (by rw [SavedConfig.parse, hload]; rfl)
          rw [getSecretForStatus] at hread
          split at hread
          · cases hread
          · exact Except.ok.inj hread

lemma SavingNode.Safe.resolveCapability (hx : ReadsBaseUrls x) (h : s.Safe x)
    {capability : Capability} {resolved : ResolvedProvider} {baseUrl : String}
    (hresolve : outcome (resolveCapability x w capability s.node) = .ok resolved)
    (hurl : resolved.baseUrl = some baseUrl) : KeepsKeys x baseUrl := by
  have hentry : ∀ entry, (s.node.registry x w).first capability = some entry →
      KeepsKeys x entry.baseUrl := fun entry hfirst =>
    h.registry capability entry (List.mem_of_find?_eq_some hfirst)
  rw [OzonSuite.resolveCapability, bind_of_ok loadPersistedModelRegistry_registry] at hresolve
  have hkeyed : ∀ {entry : ProviderEntry} {f : String → ResolvedProvider},
      outcome ((do let apiKey ← resolveSecretRef x w entry.secretRef; return f apiKey :
        NodeM ResolvedProvider) (s.node.registryCached x w)) = .ok resolved →
      ∃ apiKey, f apiKey = resolved := by
    intro entry f hok
    rw [outcome_resolveSecretRef_bind] at hok
    cases hkey : s.node.entryKey x w entry with
    | error e =>
      rw [hkey] at hok
      cases hok
    | ok apiKey =>
      rw [hkey] at hok
      exact ⟨apiKey, Except.ok.inj hok⟩
  cases hfirst : (s.node.registry x w).first capability with
  | some entry =>
    -- the URL of the entry
    have hsafe := hentry entry hfirst
    cases capability with
    | imageGen | textGen | videoGen =>
      simp only [hfirst] at hresolve
      obtain ⟨apiKey, rfl⟩ := hkeyed hresolve
      obtain rfl : entry.baseUrl = baseUrl := Option.some.inj hurl
      exact hsafe
  | none =>
    cases capability with
    | imageGen =>
      simp only [hfirst] at hresolve
      rw [outcome_bind_of_moves moves_loadOpenaiConfig, outcome_loadOpenaiConfig_registryCached]
        at hresolve
      obtain ⟨config, hload, hresolve⟩ := Except.bind_eq_ok.mp hresolve
      obtain rfl := Except.ok.inj hresolve
      obtain rfl : config.baseUrl = baseUrl := Option.some.inj hurl
      exact h.loadOpenaiConfig hx hload
    | textGen | videoGen =>
      simp only [hfirst] at hresolve
      obtain rfl := Except.ok.inj hresolve
      cases hurl

/-- Loading a configuration or resolving a capability changes the cached registry at most. -/
lemma finalState_resolveCapability {capability : Capability} :
    finalState (resolveCapability x w capability s.node) = s.node.registryCached x w := by
  rw [OzonSuite.resolveCapability, bind_of_ok loadPersistedModelRegistry_registry]
  have hkeyed : ∀ (entry : ProviderEntry) (f : String → ResolvedProvider),
      Moves Eq (do let apiKey ← resolveSecretRef x w entry.secretRef; return f apiKey :
        NodeM ResolvedProvider) := fun entry f =>
    .bind_eq moves_resolveSecretRef fun _ => .refl_of Eq.refl fun _ => rfl
  cases capability with
  | imageGen =>
    cases (s.node.registry x w).first .imageGen with
    | some entry => exact (hkeyed entry _ _).symm
    | none => exact ((moves_loadOpenaiConfig.bind_eq fun _ => .refl_of Eq.refl fun _ => rfl) _).symm
  | textGen | videoGen =>
    cases (s.node.registry x w).first _ with
    | some entry => exact (hkeyed entry _ _).symm
    | none => rfl

end Read

/-! ## Runs -/

section Runs

variable {x : NodeCrates} {s s' : SavingNode}

lemma SavingNode.Safe.save (hx : ReadsBaseUrls x) (h : s.Safe x) (l : SaveLabel) :
    ((saveMachine x).step s l).2.Safe x := by
  cases l with
  | put request w =>
    change (s.put x w request).2.Safe x
    obtain ⟨m, hsame, ⟨e, he⟩ | ⟨config, hconfig⟩⟩ := request.put_putsOne (x := x) (w := w) s.node
    · rw [SavingNode.put, he]
      exact h.sameConfigs hsame
    -- the put has written one configuration, and it was checked before
    · have hsafe : config.Safe x := SaveRequest.put_safe hx hconfig
      have hm := h.sameConfigs hsame
      rw [SavingNode.put, hconfig]
      refine ⟨fun config' hmem => ?_, fun k config' hcached => ?_,
        fun k bundle config' hstored hparse => ?_⟩
      · rcases List.mem_append.mp hmem with hmem | hmem
        · exact h.pending config' hmem
        · exact List.mem_singleton.mp hmem ▸ hsafe
      · refine hm.cached k config' (hcached ▸ ?_)
        cases k <;> rfl
      · by_cases hk : k = config.kind
        · subst hk
          obtain rfl : config.text x = bundle := by simpa using hstored
          exact SavedConfig.safe_of_parse hx hsafe hparse
        · have hne : k.secret ≠ config.kind.secret :=
            fun heq => hk (ConfigKind.secret_injective heq)
          exact hm.stored k bundle config' (by simpa [hne] using hstored) hparse
  | writeCache i =>
    change (s.writeCache i).Safe x
    rw [SavingNode.writeCache]
    cases hi : s.pending[i]? with
    | none => exact h
    | some config =>
      -- what goes into the cache was put before
      have hsafe : config.Safe x := h.pending config (List.mem_of_getElem? hi)
      refine ⟨fun config' hmem => h.pending config' (List.mem_of_mem_eraseIdx hmem),
        fun k config' hcached => ?_, fun k bundle config' hstored hparse => ?_⟩
      · rw [LocalState.cached_writeCache] at hcached
        by_cases hk : k = config.kind
        · subst hk
          rw [Function.update_self, Option.some.injEq] at hcached
          exact hcached ▸ hsafe
        · rw [Function.update_of_ne hk] at hcached
          exact h.cached k config' hcached
      · refine h.stored k bundle config' ?_ hparse
        cases config <;> exact hstored

/-- A step keeps the configurations safe, and what it hands out is safe. -/
lemma SavingNode.Safe.step (hx : ReadsBaseUrls x) (h : s.Safe x) (l : KeyLabel) :
    ((keyMachine x).step s l).2.Safe x ∧
      ∀ baseUrl, ((keyMachine x).step s l).1 = some baseUrl → KeepsKeys x baseUrl := by
  cases l with
  | save l => exact ⟨h.save hx l, nofun⟩
  | saveSecret headers input w => exact ⟨h.sameConfigs saveSecret_sameConfigs, nofun⟩
  | deviceFingerprint w =>
    exact ⟨h.sameConfigs (loadOrCreateDeviceFingerprint_sameConfigs s.node), nofun⟩
  | readRegistry w =>
    refine ⟨?_, nofun⟩
    -- a registry that is read is one to be cached
    change (ite _ _ _ : SavingNode).Safe x
    split_ifs
    · exact h
    · refine ⟨fun config hmem => ?_, h.cached, h.stored⟩
      rcases List.mem_append.mp hmem with hmem | hmem
      · exact h.pending config hmem
      · exact List.mem_singleton.mp hmem ▸ h.readModelRegistry
  | loadOpenaiConfig w =>
    refine ⟨h.sameConfigs (sameConfigs_of_eq moves_loadOpenaiConfig s.node), fun baseUrl hurl => ?_⟩
    change (outcome (OzonSuite.loadOpenaiConfig x w s.node)).toOption.map _ = _ at hurl
    cases hload : outcome (OzonSuite.loadOpenaiConfig x w s.node) with
    | error e => simp [hload, Except.toOption] at hurl
    | ok config =>
      obtain rfl : config.baseUrl = baseUrl := by simpa [hload, Except.toOption] using hurl
      exact h.loadOpenaiConfig hx hload
  | resolveCapability w capability =>
    constructor
    · change SavingNode.Safe x { s with node := _ }
      rw [finalState_resolveCapability]
      refine ⟨h.pending, fun k config hcached => ?_, h.stored⟩
      cases k with
      | registry =>
        obtain rfl : .registry (s.node.registry x w) = config := Option.some.inj hcached
        exact h.registry
      | ozon => exact h.cached .ozon config hcached
      | openai => exact h.cached .openai config hcached
      | lease => exact h.cached .lease config hcached
    · intro baseUrl hurl
      change (outcome (OzonSuite.resolveCapability x w capability s.node)).toOption.bind _ = _
        at hurl
      cases hresolve : outcome (OzonSuite.resolveCapability x w capability s.node) with
      | error e => simp [hresolve, Except.toOption] at hurl
      | ok resolved =>
        refine h.resolveCapability hx hresolve ?_
        simpa [hresolve, Except.toOption] using hurl
  | restart config =>
    refine ⟨⟨fun _ hmem => (List.not_mem_nil hmem).elim, fun k config hcached => ?_, h.stored⟩,
      nofun⟩
    -- a restarted node has nothing in its caches
    cases k <;> cases hcached

end Runs

/-- **No key over plaintext.**  In every run of a node that starts with a store without providers,
whatever is saved, in whatever environment and however the saves cross, each base URL that is handed
out for a key uses https, or is one of the machine itself. -/
theorem no_key_over_plaintext {x : NodeCrates} (hx : ReadsBaseUrls x) {s₀ s : SavingNode}
    {tr : List (KeyLabel × Option String)} (hinit : (keyMachine x).init s₀)
    (h : (keyMachine x).Run s₀ tr s) {e : KeyLabel × Option String} (he : e ∈ tr) {baseUrl : String}
    (hurl : e.2 = some baseUrl) : KeepsKeys x baseUrl := by
  obtain ⟨config, secrets, rfl, hopenai, hregistry⟩ := hinit
  have hfresh : SavingNode.Safe x ⟨LocalState.new config secrets, []⟩ := by
    refine ⟨fun _ hmem => (List.not_mem_nil hmem).elim, fun k config hcached => ?_,
      fun k bundle config hstored hparse => ?_⟩
    · cases k <;> cases hcached
    · cases k with
      | openai => cases hopenai.symm.trans hstored
      | registry => cases hregistry.symm.trans hstored
      | ozon =>
        obtain ⟨_, -, rfl⟩ := Option.map_eq_some_iff.mp hparse
        trivial
      | lease =>
        obtain ⟨_, -, rfl⟩ := Option.map_eq_some_iff.mp hparse
        trivial
  obtain ⟨before, after, m, -, hrun, -, hanswer, -⟩ := h.of_mem he
  have hm : m.Safe x := hrun.invariant (fun _ l hs _ => (hs.step hx l).1) hfresh
  exact (hm.step hx e.1).2 baseUrl (hanswer.symm.trans hurl)

/-! ### A model on the machine itself -/

/-- A model on this machine that is called over plain HTTP. -/
def localModelConfig : StoredOpenAiConfig :=
  { apiKey := "sk-key", baseUrl := "http://localhost:11434", imageModel := "gpt-image-1" }

/-- That configuration as it is stored. -/
def localModelText : String :=
  r#"{"api_key":"sk-key","base_url":"http://localhost:11434","# ++
    r#""image_model":"gpt-image-1"}"#

/-- Libraries that read that text. -/
def localModelCrates : NodeCrates :=
  { leaseCrates with
    openaiConfigText := fun config => if config = localModelConfig then localModelText else ""
    parseOpenaiConfig := fun text => if text = localModelText then some localModelConfig else none
    parseUrl := fun url =>
      if url = "http://localhost:11434" then some ("http", "localhost")
      else if url = "https://api.openai.com" then some ("https", "api.openai.com")
      else none }

lemma localModelCrates_reads : ReadsBaseUrls localModelCrates where
  openai config config' h := by
    simp only [localModelCrates] at h
    by_cases hconfig : config = localModelConfig
    · rw [if_pos hconfig, if_pos rfl] at h
      rw [← Option.some.inj h, hconfig]
    · rw [if_neg hconfig, if_neg (by decide)] at h
      cases h
  registry _ _ h := by cases h
  default := rfl

/-- The URL of a model on this machine is saved, an operator tries to put another one in its place,
and the node is started again. -/
def localModelSteps : List KeyLabel :=
  [.save (.put (.openai operatorHeaders ⟨"sk-key", some "http://localhost:11434/", none⟩)
      laptopWorld),
    .save (.writeCache 0),
    .saveSecret operatorHeaders ⟨"openai_config", "http://example.com"⟩ laptopWorld,
    .restart nodeConfig, .loadOpenaiConfig laptopWorld]

theorem no_key_over_plaintext_localhost :
    ((keyMachine localModelCrates).exec ⟨LocalState.new nodeConfig ∅, []⟩ localModelSteps).1.map
        Prod.snd = [none, none, none, none, some "http://localhost:11434"] ∧
      KeepsKeys localModelCrates "http://localhost:11434" := by
  have hanswers : ((keyMachine localModelCrates).exec ⟨LocalState.new nodeConfig ∅, []⟩
      localModelSteps).1.map Prod.snd =
        [none, none, none, none, some "http://localhost:11434"] := by
    decide +kernel
  have hmem : some "http://localhost:11434" ∈ ((keyMachine localModelCrates).exec
      ⟨LocalState.new nodeConfig ∅, []⟩ localModelSteps).1.map Prod.snd := by
    rw [hanswers]
    decide
  obtain ⟨e, he, hurl⟩ := List.mem_map.mp hmem
  have hallows : (keyMachine localModelCrates).Allows ⟨LocalState.new nodeConfig ∅, []⟩
      localModelSteps := ⟨trivial, trivial, trivial, trivial, trivial, trivial⟩
  exact ⟨hanswers, no_key_over_plaintext localModelCrates_reads
    ⟨nodeConfig, ∅, rfl, by decide, by decide⟩ (Machine.run_exec hallows) he hurl⟩

end OzonSuite
