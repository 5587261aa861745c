/-
# Capabilities and their status

The images, the texts and the videos of a node are made by the provider that the registry names
first for the capability; for images there is the OpenAI configuration to fall back on.  The status
says of each capability whether it is ready.  This file follows a capability from the registry to
the request that is sent, and compares the status with it.
-/
import OzonSuite.Node.Status
import OzonSuite.Node.VideoDialects

namespace OzonSuite

open Lib

/-! ## Resolving a capability -/

/-- What a model is needed for. -/
inductive Capability
  | imageGen
  | textGen
  | videoGen
deriving DecidableEq

/-- The entries for a capability, in their order. -/
def StoredModelRegistry.entries (registry : StoredModelRegistry) : Capability → List ProviderEntry
  | .imageGen => registry.imageGen
  | .textGen => registry.textGen
  | .videoGen => registry.videoGen

/-- The first entry for a capability that is enabled. -/
def StoredModelRegistry.first (registry : StoredModelRegistry) (capability : Capability) :
    Option ProviderEntry :=
  (registry.entries capability).find? (·.enabled)

/-- A provider with its key. -/
structure GenericProvider where
  kind : ProviderKind
  baseUrl : String
  model : String
  apiKey : String
  auth : AuthStyle
  videoDialect : VideoDialect
  extra : Extra
deriving DecidableEq

/-- What a capability has been resolved to. -/
inductive ResolvedProvider
  | openAiImage (config : StoredOpenAiConfig)
  | generic (provider : GenericProvider)
  | notConfigured (capability reason : String)

/-- An entry with its key. -/
def ProviderEntry.generic (entry : ProviderEntry) (apiKey : String) : GenericProvider :=
  { kind := entry.kind
    baseUrl := entry.baseUrl
    model := entry.model
    apiKey := apiKey
    auth := entry.auth
    videoDialect := entry.videoDialect
    extra := entry.extra }

/-- The configuration of images that an entry of the registry gives. -/
def StoredOpenAiConfig.forRegistry (apiKey baseUrl imageModel : String) : StoredOpenAiConfig :=
  { apiKey := apiKey, baseUrl := baseUrl, imageModel := imageModel }

/-- The provider of a capability: that of its entry, and for images without an entry the one that is
configured. -/
def resolveCapability (x : NodeCrates) (w : NodeWorld) (capability : Capability) :
    NodeM ResolvedProvider := do
  let registry ← loadPersistedModelRegistry x w
  match capability, registry.first capability with
  | .imageGen, some entry => do
    let apiKey ← resolveSecretRef x w entry.secretRef
    return .openAiImage (.forRegistry apiKey entry.baseUrl entry.model)
  | .imageGen, none => do
    let config ← loadOpenaiConfig x w
    return .openAiImage config
  | _, some entry => do
    let apiKey ← resolveSecretRef x w entry.secretRef
    return .generic (entry.generic apiKey)
  | .textGen, none => return .notConfigured "text_gen" "no text provider configured"
  | .videoGen, none => return .notConfigured "video_gen" "no video provider configured"

/-! ## The providers of the three codecs -/

/-- The configuration, if images are made with it. -/
def ResolvedProvider.expectOpenaiImage : ResolvedProvider → Except ApiError StoredOpenAiConfig
  | .openAiImage config => .ok config
  | .notConfigured _ reason => .error (.badRequest reason)
  | .generic _ => .error (.badRequest "resolved provider is not an OpenAI image provider")

/-- What `generate_poster_background` asks first. -/
def posterProvider (x : NodeCrates) (w : NodeWorld) : NodeM StoredOpenAiConfig := do
  let provider ← resolveCapability x w .imageGen
  ofExcept provider.expectOpenaiImage

/-- A codec that takes one kind of entry. -/
def ResolvedProvider.expectGeneric (kind : ProviderKind) (wrongKind notConfigured : String) :
    ResolvedProvider → Except ApiError GenericProvider
  | .generic provider =>
    if provider.kind = kind then .ok provider else .error (.badRequest wrongKind)
  | .notConfigured _ reason => .error (.badRequest (notConfigured ++ ": " ++ reason))
  | .openAiImage _ => .error (.badRequest notConfigured)

/-- The provider, if it is one for texts. -/
def ResolvedProvider.expectChat : ResolvedProvider → Except ApiError GenericProvider :=
  expectGeneric .openAiCompatChat
    "configured text/vision provider is not an OpenAI-compatible chat provider"
    "text/vision provider is not configured"

/-- What `chat_completion` asks first. -/
def chatProvider (x : NodeCrates) (w : NodeWorld) : NodeM GenericProvider := do
  let provider ← resolveCapability x w .textGen
  ofExcept provider.expectChat

/-- The provider, if it is one for videos. -/
def ResolvedProvider.expectCloudVideo : ResolvedProvider → Except ApiError GenericProvider :=
  expectGeneric .cloudVideo "configured video provider is not a cloud_video provider"
    "video provider is not configured"

/-- The provider of videos. -/
def resolveCloudVideo (x : NodeCrates) (w : NodeWorld) : NodeM GenericProvider := do
  let provider ← resolveCapability x w .videoGen
  ofExcept provider.expectCloudVideo

/-! ## The requests -/

/-- The address that images are made at. -/
def openaiImagesEndpoint (baseUrl : String) : String :=
  let base := trimBase baseUrl
  if endsWithV1 base then base ++ "/images/generations" else base ++ "/v1/images/generations"

/-- A request for the background of a poster, before the key is put on it. -/
def posterBody (baseUrl imageModel prompt : String) : OutboundRequest :=
  { method := .post
    url := openaiImagesEndpoint baseUrl
    headers := []
    body := some (.object [("model", .string imageModel), ("prompt", .string prompt),
      ("size", .string "1024x1536")])
    query := [] }

/-- The key always goes out as a bearer token. -/
def posterRequest (openai : StoredOpenAiConfig) (prompt : String) : OutboundRequest :=
  applyAuth (posterBody openai.baseUrl openai.imageModel prompt) .bearer openai.apiKey

/-- A request for a chat completion, before the key is put on it. -/
def chatBody (baseUrl model : String) (messages : Json) : OutboundRequest :=
  { method := .post
    url := endpointFor .openAiCompatChat baseUrl
    headers := []
    body := some (.object [("model", .string model), ("messages", messages),
      ("temperature", .number "0.2"), ("max_tokens", .number "2048")])
    query := [] }

/-- The request that a chat sends. -/
def chatRequest (provider : GenericProvider) (messages : Json) : OutboundRequest :=
  applyAuth (chatBody provider.baseUrl provider.model messages) provider.auth provider.apiKey

/-- A clip: what the user asks for, and how long it is to be. -/
structure Clip where
  prompt : String
  firstFrameUrl : String
  lastFrameUrl : Option String
  durationSeconds : ℕ

/-- A clip, with where it goes and what the provider needs. -/
def Clip.inputs (clip : Clip) (baseUrl model apiKey : String) (extra : Extra) : CreateInputs :=
  { baseUrl := baseUrl
    model := model
    apiKey := apiKey
    prompt := clip.prompt
    firstFrameUrl := clip.firstFrameUrl
    lastFrameUrl := clip.lastFrameUrl
    durationSeconds := clip.durationSeconds
    extra := extra }

/-- The request that a video is made with. -/
def videoRequest (v : VideoCrates) (provider : GenericProvider) (clip : Clip) (now : ℤ) :
    OutboundRequest :=
  videoCreateRequest v provider.videoDialect provider.auth
    (clip.inputs provider.baseUrl provider.model provider.apiKey provider.extra) now

/-! ## The status -/

/-- Whether a capability is ready, and why not. -/
structure CapabilityStatus where
  capability : String
  ready : Bool
  providerKind : Option String
  baseUrl : Option String
  model : Option String
  secretPresent : Bool
  issue : Option String
deriving DecidableEq

/-- The kind of a provider, as the status names it. -/
def providerKindLabel : ProviderKind → String
  | .openAiImages => "openai_images"
  | .openAiImagesEdit => "openai_images_edit"
  | .openAiCompatChat => "openai_compat_chat"
  | .cloudVideo => "cloud_video"

/-- The status of a capability that has an entry. -/
def CapabilityStatus.ofEntry (capability : String) (entry : ProviderEntry) (secretPresent : Bool) :
    CapabilityStatus :=
  { capability := capability
    ready := secretPresent
    providerKind := some (providerKindLabel entry.kind)
    baseUrl := some entry.baseUrl
    model := some entry.model
    secretPresent := secretPresent
    issue := if secretPresent then none else some "provider secret is not available" }

/-- Whether the key of an entry can be had. -/
def secretPresent (x : NodeCrates) (w : NodeWorld) (entry : ProviderEntry) : NodeM Bool := do
  let key ← attempt (resolveSecretRef x w entry.secretRef)
  return key.isOk

/-- The status of texts or videos. -/
def genericCapabilityStatus (x : NodeCrates) (w : NodeWorld) (capability : String)
    (entries : List ProviderEntry) : NodeM CapabilityStatus :=
  match entries.find? (·.enabled) with
  | some entry => do
    let present ← secretPresent x w entry
    return .ofEntry capability entry present
  | none => return {
      capability := capability
      ready := false
      providerKind := none
      baseUrl := none
      model := none
      secretPresent := false
      issue := some "not configured" }

/-- The status of a capability that falls back on the OpenAI configuration. -/
def CapabilityStatus.ofOpenai (status : OpenAiCredentialStatus) : CapabilityStatus :=
  { capability := "image_gen"
    ready := status.configured
    providerKind := some "openai_images"
    baseUrl := some status.baseUrl
    model := some status.imageModel
    secretPresent := status.apiKeyFingerprint.isSome
    issue := status.issue }

/-- The status of images. -/
def inspectImageCapability (x : NodeCrates) (w : NodeWorld) (entries : List ProviderEntry) :
    NodeM CapabilityStatus :=
  match entries.find? (·.enabled) with
  | some entry => do
    let present ← secretPresent x w entry
    return .ofEntry "image_gen" entry present
  | none => do
    let s ← get
    return .ofOpenai (inspectOpenaiConfig x w s)

/-- The status of every capability. -/
def inspectCapabilities (x : NodeCrates) (w : NodeWorld) : NodeM (List CapabilityStatus) := do
  let registry ← loadPersistedModelRegistry x w
  let image ← inspectImageCapability x w registry.imageGen
  let text ← genericCapabilityStatus x w "text_gen" registry.textGen
  let video ← genericCapabilityStatus x w "video_gen" registry.videoGen
  return [image, text, video]

/-! ## What is resolved -/

section Resolving

variable {x : NodeCrates} {w : NodeWorld} {s : LocalState}

/-- The registry that is in use. -/
def LocalState.registry (x : NodeCrates) (w : NodeWorld) (s : LocalState) : StoredModelRegistry :=
  s.modelRegistryCache.getD (readModelRegistry x w s)

/-- The node, with its registry in the cache. -/
def LocalState.registryCached (x : NodeCrates) (w : NodeWorld) (s : LocalState) : LocalState :=
  { s with modelRegistryCache := some (s.registry x w) }

/-- The key of an entry, as it can be had now. -/
def LocalState.entryKey (x : NodeCrates) (w : NodeWorld) (s : LocalState) (entry : ProviderEntry) :
    Except ApiError String :=
  outcome (resolveSecretRef x w entry.secretRef s)

lemma outcome_bind {α β : Type} {m : NodeM α} {f : α → NodeM β} :
    outcome ((m >>= f) s) =
      match m s with
      | .ok a s' => outcome (f a s')
      | .error e _ => .error e := by
  cases h : m s with
  | ok a s' => rw [bind_of_ok h]
  | error e s' => rw [bind_of_error h]; rfl

/-- What follows a call that changes nothing is answered from what the call answers. -/
lemma outcome_bind_of_moves {α β : Type} {m : NodeM α} {f : α → NodeM β} (hm : Moves Eq m) :
    outcome ((m >>= f) s) = (outcome (m s)).bind fun a => outcome (f a s) := by
  have hstate := hm s
  rw [outcome_bind]
  cases h : m s with
  | ok a s' =>
    rw [h] at hstate
    obtain rfl : s = s' := hstate
    rfl
  | error e s' => rfl

lemma outcome_loadOpenaiConfig_registryCached :
    outcome (loadOpenaiConfig x w (s.registryCached x w)) = outcome (loadOpenaiConfig x w s) := by
  rw [outcome_loadOpenaiConfig, outcome_loadOpenaiConfig]
  rfl

/-- The key of an entry does not depend on the cached registry. -/
lemma entryKey_registryCached {entry : ProviderEntry} :
    (s.registryCached x w).entryKey x w entry = s.entryKey x w entry := by
  simp only [LocalState.entryKey, resolveSecretRef]
  split
  · rw [outcome_bind_of_moves moves_loadOpenaiConfig, outcome_bind_of_moves moves_loadOpenaiConfig,
      outcome_loadOpenaiConfig_registryCached]
    rfl
  · rw [outcome_bind_of_moves moves_getSecret, outcome_bind_of_moves moves_getSecret]
    have hread : outcome (getSecret w entry.secretRef (s.registryCached x w)) =
        outcome (getSecret w entry.secretRef s) := by
      cases hstatus : getSecretForStatus w s entry.secretRef with
      | ok value =>
        rw [getSecret_of_ok hstatus, getSecret_of_ok (s := s.registryCached x w) hstatus]
        rfl
      | error u =>
        rw [getSecret_of_error hstatus, getSecret_of_error (s := s.registryCached x w) hstatus]
        rfl
    rw [hread]
    simp only [outcome_okOr]

lemma loadPersistedModelRegistry_registry :
    loadPersistedModelRegistry x w s = .ok (s.registry x w) (s.registryCached x w) :=
  loadPersistedModelRegistry_eq

/-- An entry is resolved as soon as its key can be had. -/
lemma outcome_resolveSecretRef_bind {α : Type} {entry : ProviderEntry} (f : String → α) :
    outcome ((do let apiKey ← resolveSecretRef x w entry.secretRef; return f apiKey : NodeM α)
      (s.registryCached x w)) = (s.entryKey x w entry).map f := by
  rw [outcome_bind_of_moves moves_resolveSecretRef]
  change ((s.registryCached x w).entryKey x w entry).bind _ = _
  rw [entryKey_registryCached]
  cases s.entryKey x w entry <;> rfl

/-- A codec asks for the provider and takes it apart. -/
lemma outcome_codec {α : Type} {capability : Capability}
    (expect : ResolvedProvider → Except ApiError α) :
    outcome ((do
        let resolved ← resolveCapability x w capability
        ofExcept (expect resolved) : NodeM α) s) =
      (outcome (resolveCapability x w capability s)).bind expect := by
  rw [outcome_bind]
  cases resolveCapability x w capability s with
  | ok resolved s' => exact outcome_ofExcept _
  | error e s' => rfl

lemma outcome_posterProvider :
    outcome (posterProvider x w s) =
      match (s.registry x w).first .imageGen with
      | some entry => (s.entryKey x w entry).map fun apiKey =>
          .forRegistry apiKey entry.baseUrl entry.model
      | none => outcome (loadOpenaiConfig x w s) := by
  rw [posterProvider, outcome_codec, resolveCapability,
    bind_of_ok loadPersistedModelRegistry_registry]
  cases (s.registry x w).first .imageGen with
  | some entry =>
    simp only [outcome_resolveSecretRef_bind]
    cases s.entryKey x w entry <;> rfl
  | none =>
    simp only [outcome_bind_of_moves moves_loadOpenaiConfig,
      outcome_loadOpenaiConfig_registryCached]
    cases outcome (loadOpenaiConfig x w s) <;> rfl

lemma expectGeneric_eq_ok {kind : ProviderKind} {wrongKind notConfigured : String}
    (resolved : ResolvedProvider) (provider : GenericProvider) :
    resolved.expectGeneric kind wrongKind notConfigured = .ok provider ↔
      resolved = .generic provider ∧ provider.kind = kind := by
  cases resolved with
  | generic other =>
    simp only [ResolvedProvider.expectGeneric, ResolvedProvider.generic.injEq]
    split
    · next hkind =>
      rw [Except.ok.injEq]
      exact ⟨fun h => ⟨h, h ▸ hkind⟩, And.left⟩
    · next hkind => exact ⟨nofun, fun h => absurd (h.1 ▸ h.2) hkind⟩
  | openAiImage config => simp [ResolvedProvider.expectGeneric]
  | notConfigured name reason => simp [ResolvedProvider.expectGeneric]

/-- A codec that takes one kind of entry: it obtains the first entry that is enabled, with its key,
if that is of its kind. -/
lemma generic_provider_iff {capability : Capability} (hcapability : capability ≠ .imageGen)
    {kind : ProviderKind} {expect : ResolvedProvider → Except ApiError GenericProvider}
    (hexpect : ∀ resolved provider, expect resolved = .ok provider ↔
      resolved = .generic provider ∧ provider.kind = kind) {provider : GenericProvider} :
    outcome ((do
        let resolved ← resolveCapability x w capability
        ofExcept (expect resolved) : NodeM GenericProvider) s) = .ok provider ↔
      ∃ entry apiKey, (s.registry x w).first capability = some entry ∧ entry.kind = kind ∧
        s.entryKey x w entry = .ok apiKey ∧ provider = entry.generic apiKey := by
  have hresolved : outcome (resolveCapability x w capability s) =
      match (s.registry x w).first capability with
      | some entry => (s.entryKey x w entry).map fun apiKey => .generic (entry.generic apiKey)
      | none => outcome (resolveCapability x w capability s) := by
    rw [resolveCapability, bind_of_ok loadPersistedModelRegistry_registry]
    cases capability with
    | imageGen => exact absurd rfl hcapability
    | textGen =>
      cases (s.registry x w).first .textGen with
      | some entry => simp only [outcome_resolveSecretRef_bind]
      | none => rfl
    | videoGen =>
      cases (s.registry x w).first .videoGen with
      | some entry => simp only [outcome_resolveSecretRef_bind]
      | none => rfl
  rw [outcome_codec, hresolved]
  cases hfirst : (s.registry x w).first capability with
  | some entry =>
    dsimp only
    cases hkey : s.entryKey x w entry with
    | ok apiKey =>
      simp only [Except.map, Except.bind, hexpect, ResolvedProvider.generic.injEq,
        Option.some.injEq]
      constructor
      · rintro ⟨rfl, hkind⟩
        exact ⟨entry, apiKey, rfl, hkind, hkey, rfl⟩
      · rintro ⟨_, other, rfl, hkind, hother, rfl⟩
        obtain rfl := Except.ok.inj (hkey.symm.trans hother)
        exact ⟨rfl, hkind⟩
    | error e =>
      simp only [Except.map, Except.bind, reduceCtorEq, Option.some.injEq, false_iff]
      rintro ⟨_, apiKey, rfl, -, hok, -⟩
      rw [hkey] at hok
      cases hok
  | none =>
    -- there is no entry, and what is resolved then is not taken
    simp only [reduceCtorEq, false_and, exists_false, iff_false]
    rw [resolveCapability, bind_of_ok loadPersistedModelRegistry_registry]
    intro h
    obtain ⟨resolved, hok, htaken⟩ := Except.bind_eq_ok.mp h
    obtain ⟨rfl, -⟩ := (hexpect resolved provider).mp htaken
    cases capability with
    | imageGen => exact hcapability rfl
    | textGen =>
      simp only [hfirst] at hok
      cases hok
    | videoGen =>
      simp only [hfirst] at hok
      cases hok

/-! ## What is shown -/

lemma secretPresent_eq {entry : ProviderEntry} :
    secretPresent x w entry (s.registryCached x w) =
      .ok (s.entryKey x w entry).isOk (s.registryCached x w) := by
  have hattempt : (attempt (resolveSecretRef x w entry.secretRef) :
      NodeM (Except ApiError String)) (s.registryCached x w) =
        .ok (s.entryKey x w entry) (s.registryCached x w) := by
    have hstate : s.registryCached x w =
        finalState (resolveSecretRef x w entry.secretRef (s.registryCached x w)) :=
      moves_resolveSecretRef _
    have hkey : outcome (resolveSecretRef x w entry.secretRef (s.registryCached x w)) =
        s.entryKey x w entry := entryKey_registryCached
    rw [attempt, ← hkey]
    cases h : resolveSecretRef x w entry.secretRef (s.registryCached x w) with
    | ok apiKey s' =>
      rw [h] at hstate
      exact congrArg _ hstate.symm
    | error e s' =>
      rw [h] at hstate
      exact congrArg _ hstate.symm
  rw [secretPresent, bind_of_ok hattempt]
  rfl

lemma genericCapabilityStatus_eq (name : String) (entries : List ProviderEntry) :
    ∃ status, genericCapabilityStatus x w name entries (s.registryCached x w) =
        .ok status (s.registryCached x w) ∧
      (status.ready = true ↔ ∃ entry apiKey, entries.find? (·.enabled) = some entry ∧
        s.entryKey x w entry = .ok apiKey) := by
  rw [genericCapabilityStatus]
  cases hfirst : entries.find? (·.enabled) with
  | some entry =>
    refine ⟨_, bind_of_ok secretPresent_eq, ?_⟩
    cases hkey : s.entryKey x w entry <;> simp [CapabilityStatus.ofEntry, hkey, Except.isOk,
      Except.toBool]
  | none => exact ⟨_, rfl, by simp⟩

lemma inspectImageCapability_eq (entries : List ProviderEntry) :
    ∃ status, inspectImageCapability x w entries (s.registryCached x w) =
        .ok status (s.registryCached x w) ∧
      (status.ready = true ↔ (∃ entry apiKey, entries.find? (·.enabled) = some entry ∧
          s.entryKey x w entry = .ok apiKey) ∨
        entries.find? (·.enabled) = none ∧ (inspectOpenaiConfig x w s).configured = true) := by
  rw [inspectImageCapability]
  cases hfirst : entries.find? (·.enabled) with
  | some entry =>
    refine ⟨_, bind_of_ok secretPresent_eq, ?_⟩
    cases hkey : s.entryKey x w entry <;> simp [CapabilityStatus.ofEntry, hkey, Except.isOk,
      Except.toBool]
  | none => exact ⟨_, rfl, by simp [CapabilityStatus.ofOpenai]; rfl⟩

/-- The status of the three capabilities. -/
lemma inspectCapabilities_eq :
    ∃ image text video,
      inspectCapabilities x w s = .ok [image, text, video] (s.registryCached x w) ∧
      (image.ready = true ↔ (∃ entry apiKey, (s.registry x w).first .imageGen = some entry ∧
          s.entryKey x w entry = .ok apiKey) ∨
        (s.registry x w).first .imageGen = none ∧
          (inspectOpenaiConfig x w s).configured = true) ∧
      (text.ready = true ↔ ∃ entry apiKey, (s.registry x w).first .textGen = some entry ∧
        s.entryKey x w entry = .ok apiKey) ∧
      (video.ready = true ↔ ∃ entry apiKey, (s.registry x w).first .videoGen = some entry ∧
        s.entryKey x w entry = .ok apiKey) := by
  obtain ⟨image, himage, himageReady⟩ :=
    inspectImageCapability_eq (x := x) (w := w) (s := s) (s.registry x w).imageGen
  obtain ⟨text, htext, htextReady⟩ :=
    genericCapabilityStatus_eq (x := x) (w := w) (s := s) "text_gen" (s.registry x w).textGen
  obtain ⟨video, hvideo, hvideoReady⟩ :=
    genericCapabilityStatus_eq (x := x) (w := w) (s := s) "video_gen" (s.registry x w).videoGen
  refine ⟨image, text, video, ?_, himageReady, htextReady, hvideoReady⟩
  rw [inspectCapabilities, bind_of_ok loadPersistedModelRegistry_registry, bind_of_ok himage,
    bind_of_ok htext, bind_of_ok hvideo]
  rfl

/-- A codec that takes one kind of entry, and a status that looks at the key alone, agree where the
entry is of that kind. -/
lemma agrees_generic {capability : Capability} {kind : ProviderKind} {ready : Bool}
    {provider : Except ApiError GenericProvider}
    (hready : ready = true ↔ ∃ entry apiKey, (s.registry x w).first capability = some entry ∧
      s.entryKey x w entry = .ok apiKey)
    (hprovider : ∀ p, provider = .ok p ↔
      ∃ entry apiKey, (s.registry x w).first capability = some entry ∧ entry.kind = kind ∧
        s.entryKey x w entry = .ok apiKey ∧ p = entry.generic apiKey)
    (hkind : ∀ entry ∈ (s.registry x w).first capability, entry.kind = kind) :
    Agrees ready (fun p => ∃ entry apiKey, (s.registry x w).first capability = some entry ∧
      s.entryKey x w entry = .ok apiKey ∧ p = entry.generic apiKey) provider := by
  refine agrees_iff.mpr ⟨hready.trans ⟨?_, ?_⟩, ?_⟩
  · rintro ⟨entry, apiKey, hfirst, hkey⟩
    exact ⟨_, (hprovider _).mpr ⟨entry, apiKey, hfirst, hkind entry hfirst, hkey, rfl⟩⟩
  · rintro ⟨p, hp⟩
    obtain ⟨entry, apiKey, hfirst, -, hkey, -⟩ := (hprovider p).mp hp
    exact ⟨entry, apiKey, hfirst, hkey⟩
  · intro p hp
    obtain ⟨entry, apiKey, hfirst, -, hkey, rfl⟩ := (hprovider p).mp hp
    exact ⟨entry, apiKey, hfirst, hkey, rfl⟩

end Resolving

/-- **The status of a capability agrees with its codec.**  For images: ready just when there is a
configuration to send a poster with, which is the first enabled entry with its key, or else the
loaded OpenAI configuration; the entry aside, this leaves out the key of the environment that only
loading takes.  For texts and for videos: ready just when the codec obtains its provider, if the
first enabled entry is of the kind that the codec takes.  The request goes to the URL of the entry,
with its model and its key: that of a poster as a bearer token, that of a chat in the style of the
entry, and that of a video in the dialect of the entry, the default one in its style. -/
theorem capability_status_agrees (v : VideoCrates) (x : NodeCrates) (w : NodeWorld)
    (s : LocalState) :
    ∃ image text video s', inspectCapabilities x w s = .ok [image, text, video] s' ∧
      (((s.registry x w).first .imageGen = none → ¬ s.BareEnvKey x w) →
        Agrees image.ready
          (fun config => ∀ prompt,
            (∃ entry apiKey, (s.registry x w).first .imageGen = some entry ∧
              s.entryKey x w entry = .ok apiKey ∧
              posterRequest config prompt =
                applyAuth (posterBody entry.baseUrl entry.model prompt) .bearer apiKey) ∨
            ∃ loaded, (s.registry x w).first .imageGen = none ∧
              outcome (loadOpenaiConfig x w s) = .ok loaded ∧
              posterRequest config prompt =
                applyAuth (posterBody loaded.baseUrl loaded.imageModel prompt) .bearer
                  loaded.apiKey)
          (outcome (posterProvider x w s))) ∧
      ((∀ entry ∈ (s.registry x w).first .textGen, entry.kind = .openAiCompatChat) →
        Agrees text.ready
          (fun provider => ∀ messages, ∃ entry apiKey,
            (s.registry x w).first .textGen = some entry ∧ s.entryKey x w entry = .ok apiKey ∧
            chatRequest provider messages =
              applyAuth (chatBody entry.baseUrl entry.model messages) entry.auth apiKey)
          (outcome (chatProvider x w s))) ∧
      ((∀ entry ∈ (s.registry x w).first .videoGen, entry.kind = .cloudVideo) →
        Agrees video.ready
          (fun provider => ∀ clip now, ∃ entry apiKey,
            (s.registry x w).first .videoGen = some entry ∧ s.entryKey x w entry = .ok apiKey ∧
            videoRequest v provider clip now =
              videoCreateRequest v entry.videoDialect entry.auth
                (clip.inputs entry.baseUrl entry.model apiKey entry.extra) now)
          (outcome (resolveCloudVideo x w s))) := by
  obtain ⟨image, text, video, hstatus, himage, htext, hvideo⟩ :=
    inspectCapabilities_eq (x := x) (w := w) (s := s)
  refine ⟨image, text, video, _, hstatus, fun hbare => ?_, fun hkind => ?_, fun hkind => ?_⟩
  · rw [outcome_posterProvider]
    cases hfirst : (s.registry x w).first .imageGen with
    | some entry =>
      dsimp only
      simp only [hfirst, reduceCtorEq, false_and, or_false, Option.some.injEq] at himage
      cases hkey : s.entryKey x w entry with
      | ok apiKey =>
        exact ⟨himage.mpr ⟨entry, apiKey, rfl, hkey⟩,
          fun prompt => .inl ⟨entry, apiKey, rfl, hkey, rfl⟩⟩
      | error e =>
        refine Bool.eq_false_iff.mpr fun hready => ?_
        obtain ⟨_, apiKey, rfl, hok⟩ := himage.mp hready
        rw [hkey] at hok
        cases hok
    | none =>
      dsimp only
      simp only [hfirst, reduceCtorEq, false_and, exists_false, false_or, true_and] at himage
      -- without an entry the status of the OpenAI configuration stands in
      have hagree := (agrees_inspectOpenaiConfig_iff x w s).mpr (hbare hfirst)
      rw [← Bool.eq_iff_iff] at himage
      rw [himage]
      refine agrees_iff.mpr ⟨(agrees_iff.mp hagree).1, fun loaded hloaded prompt => ?_⟩
      exact .inr ⟨loaded, rfl, hloaded, rfl⟩
  · refine agrees_mono (agrees_generic htext (fun p => ?_) hkind) ?_
    · exact generic_provider_iff (by decide) expectGeneric_eq_ok
    · rintro _ ⟨entry, apiKey, hfirst, hkey, rfl⟩ messages
      exact ⟨entry, apiKey, hfirst, hkey, rfl⟩
  · refine agrees_mono (agrees_generic hvideo (fun p => ?_) hkind) ?_
    · exact generic_provider_iff (by decide) expectGeneric_eq_ok
    · rintro _ ⟨entry, apiKey, hfirst, hkey, rfl⟩ clip now
      exact ⟨entry, apiKey, hfirst, hkey, rfl⟩

/-- A provider of images that wants the key in a header of its own. -/
def headerProvider : ProviderEntry :=
  { imageProvider "gpt-image-1" with auth := .header "x-api-key" }

/-- The provider is saved, and the poster goes out with the key as a bearer token. -/
theorem poster_ignores_auth_style :
    ¬ ∀ (x : NodeCrates) (w : NodeWorld) (headers : TokenHeaders) (input : StoredModelRegistry)
      (response : ModelRegistryResponse) (s s' : LocalState) (config : StoredOpenAiConfig)
      (entry : ProviderEntry) (apiKey prompt : String),
      Handlers.saveModelRegistry x w headers input s = .ok response s' →
      outcome (posterProvider x w s') = .ok config →
      (s'.registry x w).first .imageGen = some entry → s'.entryKey x w entry = .ok apiKey →
      posterRequest config prompt =
        applyAuth (posterBody entry.baseUrl entry.model prompt) entry.auth apiKey := by
  intro h
  have hposter := h registryCrates (registryWorld false) operatorHeaders
    { imageGen := [headerProvider], textGen := [], videoGen := [] }
    { ok := true, imageGenEntries := 1, textGenEntries := 0, videoGenEntries := 0
      savedAt := laptopWorld.now }
    laptopNode _ ⟨"sk-key", "https://api.openai.com", "gpt-image-1"⟩ headerProvider "sk-key"
    "a quiet table" rfl rfl rfl rfl
  have hheaders : [bearer "sk-key"] = [("x-api-key", "sk-key")] :=
    congrArg (fun request : OutboundRequest => request.headers) hposter
  revert hheaders
  decide

end OzonSuite
