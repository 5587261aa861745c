/-
# The configuration that a node keeps

The marketplace credentials, the OpenAI configuration and the registry of model providers are kept
in the secret store, and a cache holds what was last saved.  A handler that saves one of them
checks what it is given, puts it into the store, and then writes the cache; so each of them is
here its first part, up to the put, followed by the write of the cache.
-/
import OzonSuite.Lib.AsciiText
import OzonSuite.Node.Portal
import OzonSuite.Node.Proposals

namespace OzonSuite

open Lib

/-- The model that images are made with by default. -/
def defaultOpenaiImageModel : String := "gpt-image-1"

/-- The address of images by default. -/
def defaultOpenaiBaseUrl : String := "https://api.openai.com"

/-! ## Checks -/

/-- The check of the operator's token. -/
def requireOperatorToken (config : LocalConfig) (headers : TokenHeaders) :
    Except ApiError Unit := do
  let token ← okOr headers.localToken (ApiError.unauthorized "missing x-local-token")
  refuseIf (token ≠ config.operatorToken) (ApiError.unauthorized "invalid x-local-token")

/-- The base URL of a provider; the key goes out in clear text to the machine itself alone. -/
def normalizeOpenaiBaseUrl (x : NodeCrates) (value : String) : Except ApiError String := do
  let trimmed := trimTextEnd (· = '/') (trim value)
  if trimmed = "" then
    return defaultOpenaiBaseUrl
  let (scheme, host) ← okOr (x.parseUrl trimmed)
    (ApiError.badRequest "OpenAI base URL must be a valid URL")
  if scheme = "https" then
    return trimmed
  refuseIf (scheme ≠ "http") (ApiError.badRequest "OpenAI base URL must use http or https")
  let hostAddr := trimTextEnd (· = ']') (String.ofList (host.toList.dropWhile (· = '[')))
  refuseIf
    (toAsciiLowercase host ≠ toAsciiLowercase "localhost" ∧ x.isLoopbackAddr hostAddr = false)
    (ApiError.badRequest "OpenAI base URL must use https (http is only allowed for loopback hosts)")
  return trimmed

/-- The address of a provider, normalized. -/
def normalizeProviderBaseUrl (x : NodeCrates) (value : String) : Except ApiError String :=
  normalizeOpenaiBaseUrl x value

/-- A variable of the environment that is not blank. -/
def optionalEnv (w : NodeWorld) (name : String) : Option String :=
  (w.env name).filter fun value => trim value ≠ ""

/-! ## The OpenAI configuration -/

/-- The configuration in the environment. -/
def loadOpenaiEnvConfig (x : NodeCrates) (w : NodeWorld) : Except ApiError StoredOpenAiConfig := do
  let apiKey ← okOr (optionalEnv w "OPENAI_API_KEY")
    (ApiError.badRequest "OpenAI API key is not configured for poster generation")
  let baseUrl ← normalizeOpenaiBaseUrl x (((optionalEnv w "OPENAI_BASE_URL").or
    (optionalEnv w "OPENAI_API_BASE_URL")).getD defaultOpenaiBaseUrl)
  return {
    apiKey := apiKey
    baseUrl := baseUrl
    imageModel := (optionalEnv w "OPENAI_IMAGE_MODEL").getD defaultOpenaiImageModel }

/-- The key of the environment, with the URL and the model of the node's own configuration. -/
def openaiConfigFromEnv (x : NodeCrates) (w : NodeWorld) (config : LocalConfig) :
    Except ApiError StoredOpenAiConfig := do
  let apiKey ← okOr (w.env "OPENAI_API_KEY")
    (ApiError.badRequest "OpenAI API key is not configured for poster generation")
  let baseUrl ← normalizeOpenaiBaseUrl x config.openaiBaseUrl
  return { apiKey := apiKey, baseUrl := baseUrl, imageModel := config.openaiImageModel }

/-- What the store has, or else the key of the environment. -/
def loadStoredOpenaiConfig (x : NodeCrates) (w : NodeWorld) : NodeM StoredOpenAiConfig := do
  match ← getSecret w secretOpenaiConfig with
  | some bundle =>
    okOr (x.parseOpenaiConfig bundle) (ApiError.internal "stored OpenAI config is invalid")
  | none => ofExcept (openaiConfigFromEnv x w (← get).config)

/-- The configuration: from the cache, the environment or the store. -/
def loadOpenaiConfig (x : NodeCrates) (w : NodeWorld) : NodeM StoredOpenAiConfig := do
  match (← get).openaiConfigCache with
  | some stored => return stored
  | none =>
    match loadOpenaiEnvConfig x w with
    | .ok envConfig => return envConfig
    | .error _ => loadStoredOpenaiConfig x w

/-- The configuration that was saved. -/
def loadPersistedOpenaiConfig (x : NodeCrates) (w : NodeWorld) : NodeM StoredOpenAiConfig := do
  match (← get).openaiConfigCache with
  | some stored => return stored
  | none =>
    let bundle ← okOr (← getSecret w secretOpenaiConfig)
      (ApiError.badRequest "OpenAI API key is not stored in this app")
    okOr (x.parseOpenaiConfig bundle) (ApiError.internal "stored OpenAI config is invalid")

/-! ## The registry of providers -/

/-- The registry in use: the cached one, or the stored one, or an empty one.  The cache is filled
in every case. -/
def loadPersistedModelRegistry (x : NodeCrates) (w : NodeWorld) : NodeM StoredModelRegistry := do
  let s ← get
  match s.modelRegistryCache with
  | some cached => return cached
  | none =>
    let registry :=
      match getSecretForStatus w s secretModelRegistry with
      | .ok (some bundle) => (x.parseRegistry bundle).getD .default
      | _ => .default
    modify fun s => { s with modelRegistryCache := some registry }
    return registry

/-- The key that an entry refers to. -/
def resolveSecretRef (x : NodeCrates) (w : NodeWorld) (secretRef : String) : NodeM String :=
  if secretRef = secretOpenaiConfig then do
    let config ← loadOpenaiConfig x w
    return config.apiKey
  else do
    okOr (← getSecret w secretRef)
      (ApiError.badRequest s!"secret_ref '{secretRef}' is not configured")

/-- An entry that has been checked, with its URL in normal form. -/
def validateProviderEntry (x : NodeCrates) (w : NodeWorld) (entry : ProviderEntry) :
    NodeM ProviderEntry := do
  let secretRef := trim entry.secretRef
  refuseIf (secretRef = "") (ApiError.badRequest "provider secret_ref must not be empty")
  let _ ← resolveSecretRef x w secretRef
  let baseUrl ← ofExcept (normalizeProviderBaseUrl x entry.baseUrl)
  return { entry with baseUrl := baseUrl, secretRef := secretRef }

/-- The check of the entries of a registry. -/
def validateModelRegistry (x : NodeCrates) (w : NodeWorld) (input : StoredModelRegistry) :
    NodeM StoredModelRegistry := do
  let imageGen ← input.imageGen.mapM (validateProviderEntry x w)
  let textGen ← input.textGen.mapM (validateProviderEntry x w)
  let videoGen ← input.videoGen.mapM (validateProviderEntry x w)
  return { imageGen, textGen, videoGen }

/-- Show the registry. -/
def Handlers.getModelRegistry (x : NodeCrates) (w : NodeWorld) (headers : TokenHeaders) :
    NodeM StoredModelRegistry := do
  ofExcept (requireOperatorToken (← get).config headers)
  loadPersistedModelRegistry x w

/-! ## Saving -/

/-- A request to save the credentials of a seller. -/
structure OzonConfigRequest where
  clientId : String
  apiKey : String
deriving DecidableEq

/-- The answer, with the key redacted. -/
structure OzonConfigResponse where
  clientId : String
  apiKey : String
  savedAt : Time
deriving DecidableEq

/-- A request to save the configuration of images. -/
structure OpenAiConfigRequest where
  apiKey : String
  baseUrl : Option String
  imageModel : Option String
deriving DecidableEq

/-- The answer, with the fingerprint of the key. -/
structure OpenAiConfigResponse where
  baseUrl : String
  imageModel : String
  apiKeyFingerprint : String
  savedAt : Time
deriving DecidableEq

/-- The answer, with the numbers of the entries. -/
structure ModelRegistryResponse where
  ok : Bool
  imageGenEntries : ℕ
  textGenEntries : ℕ
  videoGenEntries : ℕ
  savedAt : Time
deriving DecidableEq

/-- The ends of a text, without its middle. -/
def redact (input : String) : String :=
  let chars := input.toList
  if chars.length ≤ 8 then "********"
  else String.ofList (chars.take 4 ++ '…' :: chars.drop (chars.length - 4))

/-- What is shown of a secret. -/
def fingerprintSecret (x : NodeCrates) (secret : String) : String :=
  String.ofList ((x.sha256Hex secret).toList.take 12)

/-- The credentials are those of a mock. -/
def isDebugOzonConfig (clientId apiKey : String) : Bool :=
  toAsciiLowercase clientId = "mock-client-id" || toAsciiLowercase apiKey = "mock-api-key" ||
    toAsciiLowercase clientId = "debug-local-client-id" ||
    toAsciiLowercase apiKey = "debug-local-api-key"

/-- The first part of saving the marketplace credentials. -/
def putOzonConfig (x : NodeCrates) (w : NodeWorld) (headers : TokenHeaders)
    (input : OzonConfigRequest) : NodeM StoredOzonConfig := do
  ofExcept (requireOperatorToken (← get).config headers)
  let clientId := trim input.clientId
  let apiKey := trim input.apiKey
  refuseIf (clientId = "" ∨ apiKey = "")
    (ApiError.badRequest "Ozon Client ID and API Key are required")
  refuseIf (isDebugOzonConfig clientId apiKey)
    (ApiError.badRequest "debug mock Ozon credentials cannot be saved")
  let bundle := { clientId := clientId, apiKey := apiKey : StoredOzonConfig }
  putSecret w secretOzonConfig (x.ozonConfigText bundle) "failed to save Ozon config"
  return bundle

/-- The key that an OpenAI configuration is saved with: the given one, or the stored one. -/
def openaiKeyToSave (x : NodeCrates) (w : NodeWorld) (input : OpenAiConfigRequest) :
    NodeM String := do
  if trim input.apiKey = "" then
    match ← attempt (loadPersistedOpenaiConfig x w) with
    | .ok stored => return stored.apiKey
    | .error _ => throw (ApiError.badRequest
        "OpenAI API key is required the first time you save this config")
  else return trim input.apiKey

/-- The first part of saving the OpenAI configuration. -/
def putOpenaiConfig (x : NodeCrates) (w : NodeWorld) (headers : TokenHeaders)
    (input : OpenAiConfigRequest) : NodeM StoredOpenAiConfig := do
  let config := (← get).config
  ofExcept (requireOperatorToken config headers)
  let apiKey ← openaiKeyToSave x w input
  let baseUrl ← ofExcept (normalizeOpenaiBaseUrl x (input.baseUrl.getD config.openaiBaseUrl))
  let imageModel := ((input.imageModel.map trim).filter (· ≠ "")).getD config.openaiImageModel
  let bundle : StoredOpenAiConfig :=
    { apiKey := apiKey, baseUrl := baseUrl, imageModel := imageModel }
  putSecret w secretOpenaiConfig (x.openaiConfigText bundle) "failed to save OpenAI config"
  return bundle

/-- The first part of saving the registry. -/
def putModelRegistry (x : NodeCrates) (w : NodeWorld) (headers : TokenHeaders)
    (input : StoredModelRegistry) : NodeM StoredModelRegistry := do
  ofExcept (requireOperatorToken (← get).config headers)
  let validated ← validateModelRegistry x w input
  putSecret w secretModelRegistry (x.registryText validated) "failed to save model registry"
  return validated

/-- Save the credentials of a seller. -/
def Handlers.saveOzonConfig (x : NodeCrates) (w : NodeWorld) (headers : TokenHeaders)
    (input : OzonConfigRequest) : NodeM OzonConfigResponse := do
  let bundle ← putOzonConfig x w headers input
  modify fun s => { s with ozonConfigCache := some bundle }
  return { clientId := redact bundle.clientId, apiKey := redact bundle.apiKey, savedAt := w.now }

/-- Save the configuration of images. -/
def Handlers.saveOpenaiConfig (x : NodeCrates) (w : NodeWorld) (headers : TokenHeaders)
    (input : OpenAiConfigRequest) : NodeM OpenAiConfigResponse := do
  let bundle ← putOpenaiConfig x w headers input
  modify fun s => { s with openaiConfigCache := some bundle }
  return {
    baseUrl := bundle.baseUrl
    imageModel := bundle.imageModel
    apiKeyFingerprint := fingerprintSecret x bundle.apiKey
    savedAt := w.now }

/-- Save the registry. -/
def Handlers.saveModelRegistry (x : NodeCrates) (w : NodeWorld) (headers : TokenHeaders)
    (input : StoredModelRegistry) : NodeM ModelRegistryResponse := do
  let validated ← putModelRegistry x w headers input
  modify fun s => { s with modelRegistryCache := some validated }
  return {
    ok := true
    imageGenEntries := validated.imageGen.length
    textGenEntries := validated.textGen.length
    videoGenEntries := validated.videoGen.length
    savedAt := w.now }

/-! ## What the handlers do -/

section Specs

variable {x : NodeCrates} {w : NodeWorld} {headers : TokenHeaders} {s s' : LocalState}

/-- The registry that is read when nothing is cached. -/
def readModelRegistry (x : NodeCrates) (w : NodeWorld) (s : LocalState) : StoredModelRegistry :=
  match getSecretForStatus w s secretModelRegistry with
  | .ok (some bundle) => (x.parseRegistry bundle).getD .default
  | _ => .default

/-- Loading the registry never fails, and leaves it in the cache. -/
lemma loadPersistedModelRegistry_eq :
    loadPersistedModelRegistry x w s =
      .ok (s.modelRegistryCache.getD (readModelRegistry x w s)) { s with
        modelRegistryCache := some (s.modelRegistryCache.getD (readModelRegistry x w s)) } := by
  have hget : (get : NodeM LocalState) s = .ok s s := rfl
  rw [loadPersistedModelRegistry, bind_of_ok hget]
  cases hcache : s.modelRegistryCache with
  | some cached =>
    simp only [Option.getD_some]
    rw [← hcache]
    rfl
  | none => rfl

lemma moves_getSecret {name : SecretName} : Moves Eq (getSecret w name) :=
  .refl_of Eq.refl fun _ => finalState_getSecret

lemma moves_get : Moves Eq (get : NodeM LocalState) := .refl_of Eq.refl fun _ => rfl

lemma moves_loadStoredOpenaiConfig : Moves Eq (loadStoredOpenaiConfig x w) := by
  refine .bind_eq moves_getSecret fun bundle => ?_
  cases bundle with
  | some bundle => exact .refl_of Eq.refl fun _ => by simp
  | none => exact .bind_eq moves_get fun _ => .refl_of Eq.refl fun _ => by simp

lemma moves_loadOpenaiConfig : Moves Eq (loadOpenaiConfig x w) := by
  refine .bind_eq moves_get fun s => ?_
  cases s.openaiConfigCache with
  | some stored => exact .refl_of Eq.refl fun _ => rfl
  | none =>
    cases loadOpenaiEnvConfig x w with
    | ok envConfig => exact .refl_of Eq.refl fun _ => rfl
    | error e => exact moves_loadStoredOpenaiConfig

lemma moves_loadPersistedOpenaiConfig : Moves Eq (loadPersistedOpenaiConfig x w) := by
  refine .bind_eq moves_get fun s => ?_
  cases s.openaiConfigCache with
  | some stored => exact .refl_of Eq.refl fun _ => rfl
  | none =>
    refine .bind_eq moves_getSecret fun bundle => ?_
    refine .bind_eq (.refl_of Eq.refl fun _ => by simp) fun bundle => ?_
    exact .refl_of Eq.refl fun _ => by simp

/-- Finding the key of an entry changes nothing. -/
lemma moves_resolveSecretRef {secretRef : String} : Moves Eq (resolveSecretRef x w secretRef) := by
  rw [resolveSecretRef]
  split
  · exact .bind_eq moves_loadOpenaiConfig fun config => .refl_of Eq.refl fun _ => rfl
  · exact .bind_eq moves_getSecret fun bundle => .refl_of Eq.refl fun _ => by simp

lemma moves_validateProviderEntry {entry : ProviderEntry} :
    Moves Eq (validateProviderEntry x w entry) := by
  refine .bind_eq (.refl_of Eq.refl fun _ => by simp) fun _ => ?_
  refine .bind_eq moves_resolveSecretRef fun _ => ?_
  exact .bind_eq (.refl_of Eq.refl fun _ => by simp) fun _ => .refl_of Eq.refl fun _ => rfl

/-- Nor does checking a registry. -/
lemma moves_validateModelRegistry {input : StoredModelRegistry} :
    Moves Eq (validateModelRegistry x w input) := by
  have hentries : ∀ l : List ProviderEntry, Moves Eq (l.mapM (validateProviderEntry x w)) :=
    fun l => .mapM Eq.refl (fun _ _ _ => Eq.trans) fun _ _ => moves_validateProviderEntry
  refine .bind_eq (hentries _) fun imageGen => .bind_eq (hentries _) fun textGen => ?_
  exact .bind_eq (hentries _) fun videoGen => .refl_of Eq.refl fun _ => rfl

end Specs

end OzonSuite
