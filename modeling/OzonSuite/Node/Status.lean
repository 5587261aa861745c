/-
# What the node shows of its configuration

The status of a node says of the marketplace credentials, of the OpenAI configuration and of the
lease whether the node has them.  Each of the three is looked for by a function of its own, which
goes through the same sources as the function that loads the thing and changes nothing.  This file
puts each of the two functions beside the other.
-/
import OzonSuite.Node.ModelRegistry
import OzonSuite.Node.Portal
import OzonSuite.Node.Schedule

namespace OzonSuite

open Lib

/-! ## Agreement -/

section Agreement

variable {ε α : Type}

/-- A status agrees with a call that may fail: it says yes just when the call succeeds, and then
what it shows is right for the answer. -/
def Agrees (yes : Bool) (Shown : α → Prop) : Except ε α → Prop
  | .ok a => yes = true ∧ Shown a
  | .error _ => yes = false

variable {yes : Bool} {Shown : α → Prop} {r : Except ε α}

lemma agrees_iff :
    Agrees yes Shown r ↔ (yes = true ↔ ∃ a, r = .ok a) ∧ ∀ a, r = .ok a → Shown a := by
  cases r with
  | ok a => simp [Agrees]
  | error e => simp [Agrees]

lemma agrees_mono {Shown' : α → Prop} (h : Agrees yes Shown r) (hshown : ∀ a, Shown a → Shown' a) :
    Agrees yes Shown' r := by
  cases r with
  | ok a => exact ⟨h.1, hshown a h.2⟩
  | error e => exact h

end Agreement

/-! ## The marketplace credentials -/

/-- What is shown of the credentials of a seller. -/
structure InspectedOzonCredentials where
  configured : Bool
  source : String
  clientId : Option String
  apiKeyFingerprint : Option String
  secretStoreAvailable : Bool
  issue : Option String
deriving DecidableEq

namespace InspectedOzonCredentials

/-- Credentials that were found in a source, with their secret parts hidden. -/
def found (x : NodeCrates) (source clientId apiKey : String) : InspectedOzonCredentials :=
  { configured := true
    source := source
    clientId := some (redact clientId)
    apiKeyFingerprint := some (fingerprintSecret x apiKey)
    secretStoreAvailable := true
    issue := none }

/-- A source that has none. -/
def missing (source : String) (secretStoreAvailable : Bool) (issue : Option String) :
    InspectedOzonCredentials :=
  { configured := false
    source := source
    clientId := none
    apiKeyFingerprint := none
    secretStoreAvailable := secretStoreAvailable
    issue := issue }

end InspectedOzonCredentials

/-- What is shown of credentials in the environment. -/
def inspectOzonEnvCredentials (x : NodeCrates) (w : NodeWorld) : Option InspectedOzonCredentials :=
  let clientId := (optionalEnv w "OZON_CLIENT_ID").or (optionalEnv w "OZON_SELLER_CLIENT_ID")
  let apiKey := (optionalEnv w "OZON_API_KEY").or (optionalEnv w "OZON_SELLER_API_KEY")
  match clientId, apiKey with
  | some clientId, some apiKey => some (.found x "env" clientId apiKey)
  | some _, none | none, some _ => some (.missing "env" true
    (some "OZON_CLIENT_ID/OZON_API_KEY environment credentials are incomplete"))
  | none, none => none

/-- The credentials in their old form, under a name each. -/
def inspectLegacyOzonCredentials (x : NodeCrates) (w : NodeWorld) (s : LocalState) :
    InspectedOzonCredentials :=
  match getSecretForStatus w s "ozon_client_id" with
  | .error () => .missing "legacy_split_keys" false (some "secret store unavailable")
  | .ok clientId =>
    match getSecretForStatus w s "ozon_api_key" with
    | .error () => .missing "legacy_split_keys" false (some "secret store unavailable")
    | .ok apiKey =>
      match clientId, apiKey with
      | some clientId, some apiKey => .found x "legacy_split_keys" clientId apiKey
      | none, none => .missing (if s.config.useRealOzon then "missing" else "debug_mock_connector")
        true (if s.config.useRealOzon then some "Ozon credentials are not configured" else none)
      | _, _ => .missing "legacy_split_keys" true (some "legacy Ozon credentials are incomplete")

/-- What is shown of the credentials that are loaded. -/
def inspectOzonCredentials (x : NodeCrates) (w : NodeWorld) (s : LocalState) :
    InspectedOzonCredentials :=
  match s.ozonConfigCache with
  | some stored => .found x "ozon_config_cache" stored.clientId stored.apiKey
  | none =>
    match inspectOzonEnvCredentials x w with
    | some envCredentials => envCredentials
    | none =>
      match getSecretForStatus w s secretOzonConfig with
      | .ok (some bundle) =>
        match x.parseOzonConfig bundle with
        | some stored => .found x "ozon_config" stored.clientId stored.apiKey
        | none => .missing "ozon_config" true (some "stored Ozon config is invalid")
      | .ok none => inspectLegacyOzonCredentials x w s
      | .error () => .missing "unavailable" false (some "secret store unavailable")

/-! ## The OpenAI configuration -/

/-- What is shown of the configuration of images. -/
structure OpenAiCredentialStatus where
  configured : Bool
  source : String
  baseUrl : String
  imageModel : String
  apiKeyFingerprint : Option String
  issue : Option String
deriving DecidableEq

namespace OpenAiCredentialStatus

/-- A configuration that was found in a source. -/
def found (x : NodeCrates) (source : String) (stored : StoredOpenAiConfig) :
    OpenAiCredentialStatus :=
  { configured := true
    source := source
    baseUrl := stored.baseUrl
    imageModel := stored.imageModel
    apiKeyFingerprint := some (fingerprintSecret x stored.apiKey)
    issue := none }

/-- A source that has none; what is shown is the node's own configuration. -/
def missing (config : LocalConfig) (source issue : String) : OpenAiCredentialStatus :=
  { configured := false
    source := source
    baseUrl := config.openaiBaseUrl
    imageModel := config.openaiImageModel
    apiKeyFingerprint := none
    issue := some issue }

end OpenAiCredentialStatus

/-- What is shown of the configuration that is loaded. -/
def inspectOpenaiConfig (x : NodeCrates) (w : NodeWorld) (s : LocalState) :
    OpenAiCredentialStatus :=
  match s.openaiConfigCache with
  | some stored => .found x "openai_config_cache" stored
  | none =>
    match loadOpenaiEnvConfig x w with
    | .ok envConfig => .found x "env" envConfig
    | .error _ =>
      match getSecretForStatus w s secretOpenaiConfig with
      | .ok (some bundle) =>
        match x.parseOpenaiConfig bundle with
        | some stored => .found x "openai_config" stored
        | none => .missing s.config "openai_config" "stored OpenAI config is invalid"
      | .ok none => .missing s.config "missing" "OpenAI API key is not configured"
      | .error () =>
        match loadOpenaiEnvConfig x w with
        | .ok envConfig => .found x "env" envConfig
        | .error _ => .missing s.config "unavailable" "secret store unavailable"

/-! ## The lease -/

/-- There is no lease that can be read. -/
def LeaseStatus.missing (issue : String) : LeaseStatus :=
  { configured := false
    valid := false
    leaseId := none
    deviceId := none
    features := []
    expiresAt := none
    issue := some issue }

/-- What is shown of the lease. -/
def inspectCloudLease (x : NodeCrates) (w : NodeWorld) (s : LocalState) : LeaseStatus :=
  match s.cloudLeaseCache with
  | some lease => leaseStatus x w s.config lease
  | none =>
    match getSecretForStatus w s secretCloudLease with
    | .ok (some bundle) =>
      match x.parseLease bundle with
      | some lease => leaseStatus x w s.config lease
      | none => .missing "stored cloud lease is invalid"
    | .ok none => .missing "cloud lease is not installed"
    | .error () => .missing "secret store unavailable"

/-! ## What is loaded -/

section Loading

variable {x : NodeCrates} {w : NodeWorld} {s : LocalState}

/-- A secret is read as a status reads it. -/
lemma getSecret_of_ok {name : SecretName} {value : Option String}
    (h : getSecretForStatus w s name = .ok value) : getSecret w name s = .ok value s := by
  rw [getSecretForStatus] at h
  split at h
  · cases h
  · next hget =>
    exact getSecret_eq_ok.mpr ⟨by simpa using hget, Except.ok.inj h, rfl⟩

lemma getSecret_of_error {name : SecretName} {u : Unit}
    (h : getSecretForStatus w s name = .error u) :
    getSecret w name s = .error (ApiError.internal "secret store unavailable") s := by
  rw [getSecretForStatus] at h
  split at h
  · next hget =>
    have hrefused : (refuseIf (w.getFails name) (ApiError.internal "secret store unavailable") :
        NodeM Unit) s = .error (ApiError.internal "secret store unavailable") s := by
      rw [refuseIf, if_pos hget]
      rfl
    exact bind_of_error hrefused
  · cases h

lemma outcome_ofExcept {α : Type} (r : Except ApiError α) :
    outcome ((ofExcept r : NodeM α) s) = r := by
  cases r <;> rfl

lemma outcome_okOr {α : Type} (o : Option α) (e : ApiError) :
    outcome ((okOr o e : NodeM α) s) = okOr o e := by
  cases o <;> rfl

/-- The sources of the OpenAI configuration, in the order in which they are tried. -/
lemma outcome_loadOpenaiConfig :
    outcome (loadOpenaiConfig x w s) =
      match s.openaiConfigCache with
      | some stored => .ok stored
      | none =>
        match loadOpenaiEnvConfig x w with
        | .ok envConfig => .ok envConfig
        | .error _ =>
          match getSecretForStatus w s secretOpenaiConfig with
          | .ok (some bundle) => okOr (x.parseOpenaiConfig bundle)
            (ApiError.internal "stored OpenAI config is invalid")
          | .ok none => openaiConfigFromEnv x w s.config
          | .error () => .error (ApiError.internal "secret store unavailable") := by
  have hget : (get : NodeM LocalState) s = .ok s s := rfl
  rw [loadOpenaiConfig, bind_of_ok hget]
  cases s.openaiConfigCache with
  | some stored => rfl
  | none =>
    cases loadOpenaiEnvConfig x w with
    | ok envConfig => rfl
    | error e =>
      simp only [loadStoredOpenaiConfig]
      cases hread : getSecretForStatus w s secretOpenaiConfig with
      | error u => rw [bind_of_error (getSecret_of_error hread)]; rfl
      | ok value =>
        rw [bind_of_ok (getSecret_of_ok hread)]
        cases value with
        | some bundle => exact outcome_okOr _ _
        | none =>
          dsimp only
          rw [bind_of_ok hget, outcome_ofExcept]

/-- The sources of the stored credentials. -/
lemma outcome_loadStoredOzonCredentials :
    outcome (loadStoredOzonCredentials x w s) =
      match getSecretForStatus w s secretOzonConfig with
      | .ok (some bundle) => okOr
        ((x.parseOzonConfig bundle).map fun stored => ⟨stored.clientId, stored.apiKey⟩)
        (ApiError.internal "stored Ozon config is invalid")
      | .ok none =>
        match getSecretForStatus w s "ozon_client_id", getSecretForStatus w s "ozon_api_key" with
        | .ok (some clientId), .ok (some apiKey) => .ok ⟨clientId, apiKey⟩
        | .ok _, .ok _ => .error (ApiError.badRequest "Ozon credentials are not configured")
        | _, _ => .error (ApiError.internal "secret store unavailable")
      | .error () => .error (ApiError.internal "secret store unavailable") := by
  rw [loadStoredOzonCredentials]
  cases hread : getSecretForStatus w s secretOzonConfig with
  | error u => rw [bind_of_error (getSecret_of_error hread)]; rfl
  | ok value =>
    rw [bind_of_ok (getSecret_of_ok hread)]
    cases value with
    | some bundle =>
      dsimp only
      cases x.parseOzonConfig bundle <;> rfl
    | none =>
      dsimp only
      cases hid : getSecretForStatus w s "ozon_client_id" with
      | error u => rw [bind_of_error (getSecret_of_error hid)]; rfl
      | ok clientId =>
        rw [bind_of_ok (getSecret_of_ok hid)]
        cases hkey : getSecretForStatus w s "ozon_api_key" with
        | error u => rw [bind_of_error (getSecret_of_error hkey)]; cases clientId <;> rfl
        | ok apiKey =>
          rw [bind_of_ok (getSecret_of_ok hkey)]
          cases clientId <;> cases apiKey <;> rfl

/-- The sources of the credentials of a node that is connected to the marketplace. -/
lemma outcome_loadOzonCredentials (hreal : s.config.useRealOzon = true) :
    outcome (loadOzonCredentials x w s) =
      match s.ozonConfigCache with
      | some stored => .ok ⟨stored.clientId, stored.apiKey⟩
      | none =>
        match loadOzonEnvCredentials w with
        | .ok (some credentials) => .ok credentials
        | .ok none => outcome (loadStoredOzonCredentials x w s)
        | .error e => .error e := by
  have hget : (get : NodeM LocalState) s = .ok s s := rfl
  rw [loadOzonCredentials, bind_of_ok hget]
  simp only [hreal, Bool.not_true, Bool.false_eq_true, ite_false]
  cases s.ozonConfigCache with
  | some stored => rfl
  | none =>
    cases henv : loadOzonEnvCredentials w with
    | error e => rfl
    | ok credentials => cases credentials <;> rfl

/-! ## The status and what is loaded -/

lemma agrees_inspectLegacyOzonCredentials
    (hread : getSecretForStatus w s secretOzonConfig = .ok none) :
    Agrees (inspectLegacyOzonCredentials x w s).configured
      (fun credentials : OzonCredentials =>
        (inspectLegacyOzonCredentials x w s).clientId = some (redact credentials.clientId) ∧
        (inspectLegacyOzonCredentials x w s).apiKeyFingerprint =
          some (fingerprintSecret x credentials.apiKey))
      (outcome (loadStoredOzonCredentials x w s)) := by
  rw [outcome_loadStoredOzonCredentials, hread]
  simp only [inspectLegacyOzonCredentials]
  cases getSecretForStatus w s "ozon_client_id" with
  | error u => exact rfl
  | ok clientId =>
    cases getSecretForStatus w s "ozon_api_key" with
    | error u => cases clientId <;> exact rfl
    | ok apiKey =>
      cases clientId with
      | none => cases apiKey <;> exact rfl
      | some clientId =>
        cases apiKey with
        | none => exact rfl
        | some apiKey => exact ⟨rfl, rfl, rfl⟩

/-- The two halves of the environment are looked at alike. -/
lemma inspectOzonEnvCredentials_cases :
    (inspectOzonEnvCredentials x w = none ∧ loadOzonEnvCredentials w = .ok none) ∨
    (∃ credentials : OzonCredentials, loadOzonEnvCredentials w = .ok (some credentials) ∧
      inspectOzonEnvCredentials x w =
        some (.found x "env" credentials.clientId credentials.apiKey)) ∨
    ∃ e issue, loadOzonEnvCredentials w = .error e ∧
      inspectOzonEnvCredentials x w = some (.missing "env" true issue) := by
  simp only [inspectOzonEnvCredentials, loadOzonEnvCredentials]
  cases (optionalEnv w "OZON_CLIENT_ID").or (optionalEnv w "OZON_SELLER_CLIENT_ID") with
  | none =>
    cases (optionalEnv w "OZON_API_KEY").or (optionalEnv w "OZON_SELLER_API_KEY") with
    | none => exact .inl ⟨rfl, rfl⟩
    | some apiKey => exact .inr (.inr ⟨_, _, rfl, rfl⟩)
  | some clientId =>
    cases (optionalEnv w "OZON_API_KEY").or (optionalEnv w "OZON_SELLER_API_KEY") with
    | none => exact .inr (.inr ⟨_, _, rfl, rfl⟩)
    | some apiKey => exact .inr (.inl ⟨⟨clientId, apiKey⟩, rfl, rfl⟩)

variable (x w s)

/-- **The status of the credentials agrees with loading them.**  A node that is connected to the
marketplace shows itself configured just when it finds credentials, and the client and the
fingerprint that it shows are theirs. -/
theorem ozon_status_agrees (hreal : s.config.useRealOzon = true) :
    ((inspectOzonCredentials x w s).configured = true ↔
      ∃ credentials, outcome (loadOzonCredentials x w s) = .ok credentials) ∧
    ∀ credentials, outcome (loadOzonCredentials x w s) = .ok credentials →
      (inspectOzonCredentials x w s).clientId = some (redact credentials.clientId) ∧
      (inspectOzonCredentials x w s).apiKeyFingerprint =
        some (fingerprintSecret x credentials.apiKey) := by
  rw [← agrees_iff, outcome_loadOzonCredentials hreal]
  simp only [inspectOzonCredentials]
  cases s.ozonConfigCache with
  | some stored => exact ⟨rfl, rfl, rfl⟩
  | none =>
    rcases inspectOzonEnvCredentials_cases (x := x) (w := w) with
      ⟨hshown, hloaded⟩ | ⟨credentials, hloaded, hshown⟩ | ⟨e, issue, hloaded, hshown⟩
    · -- the environment has neither half, so the store decides
      simp only [hshown, hloaded]
      cases hread : getSecretForStatus w s secretOzonConfig with
      | error u =>
        rw [outcome_loadStoredOzonCredentials, hread]
        exact rfl
      | ok value =>
        cases value with
        | none => exact agrees_inspectLegacyOzonCredentials hread
        | some bundle =>
          rw [outcome_loadStoredOzonCredentials, hread]
          dsimp only
          cases x.parseOzonConfig bundle with
          | none => exact rfl
          | some stored => exact ⟨rfl, rfl, rfl⟩
    · simp only [hshown, hloaded]
      exact ⟨rfl, rfl, rfl⟩
    · simp only [hshown, hloaded]
      exact rfl

/-- A shop has saved its credentials. -/
theorem ozon_status_agrees_saved :
    let shop : LocalState := { laptopNode with ozonConfigCache := some ⟨"4417290", "key-1"⟩ }
    (inspectOzonCredentials leaseCrates laptopWorld shop).configured = true ∧
      (inspectOzonCredentials leaseCrates laptopWorld shop).clientId = some "********" := by
  intro shop
  obtain ⟨hconfigured, hshown⟩ := ozon_status_agrees leaseCrates laptopWorld shop rfl
  exact ⟨hconfigured.mpr ⟨⟨"4417290", "key-1"⟩, rfl⟩, (hshown ⟨"4417290", "key-1"⟩ rfl).1⟩

/-- The URL of the provider that the environment names. -/
def envOpenaiBaseUrl (w : NodeWorld) : String :=
  ((optionalEnv w "OPENAI_BASE_URL").or (optionalEnv w "OPENAI_API_BASE_URL")).getD
    defaultOpenaiBaseUrl

/-- The environment has a key and is no configuration by itself, because the key is blank or the
URL beside it cannot be used; nothing is cached and nothing is stored; and the node's own URL can be
used.  Then the key is loaded, blank or not, with the node's own URL. -/
structure LocalState.BareEnvKey (x : NodeCrates) (w : NodeWorld) (s : LocalState) : Prop where
  uncached : s.openaiConfigCache = none
  answers : w.getFails secretOpenaiConfig = false
  unstored : s.secrets.lookup secretOpenaiConfig = none
  set : ∃ apiKey, w.env "OPENAI_API_KEY" = some apiKey
  unusable : optionalEnv w "OPENAI_API_KEY" = none ∨
    ∀ baseUrl, normalizeOpenaiBaseUrl x (envOpenaiBaseUrl w) ≠ .ok baseUrl
  ownUrl : ∃ baseUrl, normalizeOpenaiBaseUrl x s.config.openaiBaseUrl = .ok baseUrl

variable {x w s}

/-- The environment is a configuration by itself: its key is not blank and its URL can be used. -/
lemma loadOpenaiEnvConfig_eq_ok :
    (∃ envConfig, loadOpenaiEnvConfig x w = .ok envConfig) ↔
      optionalEnv w "OPENAI_API_KEY" ≠ none ∧
      ∃ baseUrl, normalizeOpenaiBaseUrl x (envOpenaiBaseUrl w) = .ok baseUrl := by
  simp only [loadOpenaiEnvConfig, Except.bind_eq_ok, Except.okOr_eq_ok, envOpenaiBaseUrl]
  constructor
  · rintro ⟨_, apiKey, hkey, baseUrl, hurl, -⟩
    exact ⟨by rw [hkey]; exact Option.some_ne_none apiKey, baseUrl, hurl⟩
  · rintro ⟨hkey, baseUrl, hurl⟩
    obtain ⟨apiKey, hkey⟩ := Option.ne_none_iff_exists'.mp hkey
    exact ⟨_, apiKey, hkey, baseUrl, hurl, rfl⟩

/-- The key of the environment is loaded just when it is set and the node's own URL can be used. -/
lemma openaiConfigFromEnv_eq_ok {config : LocalConfig} :
    (∃ stored, openaiConfigFromEnv x w config = .ok stored) ↔
      (∃ apiKey, w.env "OPENAI_API_KEY" = some apiKey) ∧
      ∃ baseUrl, normalizeOpenaiBaseUrl x config.openaiBaseUrl = .ok baseUrl := by
  simp only [openaiConfigFromEnv, Except.bind_eq_ok, Except.okOr_eq_ok]
  constructor
  · rintro ⟨_, apiKey, hkey, baseUrl, hurl, -⟩
    exact ⟨⟨apiKey, hkey⟩, baseUrl, hurl⟩
  · rintro ⟨⟨apiKey, hkey⟩, baseUrl, hurl⟩
    exact ⟨_, apiKey, hkey, baseUrl, hurl, rfl⟩

/-- The environment alone is loaded where the status says that nothing is there. -/
lemma bareEnvKey_iff (hcache : s.openaiConfigCache = none) {e : ApiError}
    (henv : loadOpenaiEnvConfig x w = .error e)
    (hread : getSecretForStatus w s secretOpenaiConfig = .ok none) :
    s.BareEnvKey x w ↔ ∃ stored, openaiConfigFromEnv x w s.config = .ok stored := by
  obtain ⟨hanswers, hunstored, -⟩ := getSecret_eq_ok.mp (getSecret_of_ok hread)
  have hunusable : ¬ ∃ envConfig, loadOpenaiEnvConfig x w = .ok envConfig := by
    simp [henv]
  rw [loadOpenaiEnvConfig_eq_ok] at hunusable
  rw [openaiConfigFromEnv_eq_ok]
  constructor
  · intro h
    exact ⟨h.set, h.ownUrl⟩
  · rintro ⟨hset, hown⟩
    refine ⟨hcache, hanswers, hunstored, hset, ?_, hown⟩
    by_contra hboth
    push Not at hboth
    exact hunusable hboth

variable (x w s)

/-- The two walks through the sources of the OpenAI configuration part in one case. -/
lemma agrees_inspectOpenaiConfig_iff :
    Agrees (inspectOpenaiConfig x w s).configured
        (fun config : StoredOpenAiConfig =>
          (inspectOpenaiConfig x w s).apiKeyFingerprint = some (fingerprintSecret x config.apiKey) ∧
          (inspectOpenaiConfig x w s).baseUrl = config.baseUrl ∧
          (inspectOpenaiConfig x w s).imageModel = config.imageModel)
        (outcome (loadOpenaiConfig x w s)) ↔
      ¬ s.BareEnvKey x w := by
  rw [outcome_loadOpenaiConfig]
  simp only [inspectOpenaiConfig]
  cases hcache : s.openaiConfigCache with
  | some stored =>
    refine iff_of_true ⟨rfl, rfl, rfl, rfl⟩ fun h => ?_
    exact absurd (hcache.symm.trans h.uncached) (Option.some_ne_none stored)
  | none =>
    cases henv : loadOpenaiEnvConfig x w with
    | ok envConfig =>
      refine iff_of_true ⟨rfl, rfl, rfl, rfl⟩ fun h => ?_
      obtain ⟨hkey, hurl⟩ := loadOpenaiEnvConfig_eq_ok.mp ⟨envConfig, henv⟩
      rcases h.unusable with hblank | hbad
      · exact hkey hblank
      · obtain ⟨baseUrl, hurl⟩ := hurl
        exact hbad baseUrl hurl
    | error e =>
      cases hread : getSecretForStatus w s secretOpenaiConfig with
      -- without an answer of the store neither walk gets anywhere
      | error u =>
        refine iff_of_true rfl fun h => ?_
        simp [getSecretForStatus, h.answers] at hread
      | ok value =>
        cases value with
        | some bundle =>
          have hbare : ¬ s.BareEnvKey x w := fun h => by
            obtain ⟨-, hstored, -⟩ := getSecret_eq_ok.mp (getSecret_of_ok hread)
            exact absurd (h.unstored.symm.trans hstored) (Option.some_ne_none bundle).symm
          refine iff_of_true ?_ hbare
          dsimp only
          cases x.parseOpenaiConfig bundle with
          | none => exact rfl
          | some stored => exact ⟨rfl, rfl, rfl, rfl⟩
        | none =>
          -- only here loading tries the key of the environment once more
          rw [bareEnvKey_iff hcache henv hread]
          dsimp only
          cases openaiConfigFromEnv x w s.config with
          | ok stored => simp [Agrees, OpenAiCredentialStatus.missing]
          | error e => simp [Agrees, OpenAiCredentialStatus.missing]

/-- **When the status of the OpenAI configuration agrees with loading it.**  The node shows itself
configured just when a configuration is loaded, and the fingerprint, the URL and the model that it
shows are those of what is loaded, unless the environment has a key that is no configuration by
itself and that is loaded all the same. -/
theorem openai_status_agrees_iff :
    (((inspectOpenaiConfig x w s).configured = true ↔
        ∃ config, outcome (loadOpenaiConfig x w s) = .ok config) ∧
      ∀ config, outcome (loadOpenaiConfig x w s) = .ok config →
        (inspectOpenaiConfig x w s).apiKeyFingerprint = some (fingerprintSecret x config.apiKey) ∧
        (inspectOpenaiConfig x w s).baseUrl = config.baseUrl ∧
        (inspectOpenaiConfig x w s).imageModel = config.imageModel) ↔
      ¬ s.BareEnvKey x w := by
  rw [← agrees_iff]
  exact agrees_inspectOpenaiConfig_iff x w s

/-- The key of the environment is blank: the status shows that none is configured, and the blank
key is loaded. -/
theorem blank_key_status_differs :
    ¬ ∀ (x : NodeCrates) (w : NodeWorld) (s : LocalState),
      ((inspectOpenaiConfig x w s).configured = true ↔
        ∃ config, outcome (loadOpenaiConfig x w s) = .ok config) ∧
      ∀ config, outcome (loadOpenaiConfig x w s) = .ok config →
        (inspectOpenaiConfig x w s).apiKeyFingerprint = some (fingerprintSecret x config.apiKey) ∧
        (inspectOpenaiConfig x w s).baseUrl = config.baseUrl ∧
        (inspectOpenaiConfig x w s).imageModel = config.imageModel := by
  intro h
  let blankWorld : NodeWorld :=
    { laptopWorld with env := fun name => if name = "OPENAI_API_KEY" then some " " else none }
  obtain ⟨hconfigured, -⟩ := h registryCrates blankWorld laptopNode
  have hloaded : outcome (loadOpenaiConfig registryCrates blankWorld laptopNode) =
      .ok ⟨" ", "https://api.openai.com", "gpt-image-1"⟩ := rfl
  have hshown : (inspectOpenaiConfig registryCrates blankWorld laptopNode).configured = false := rfl
  rw [hshown] at hconfigured
  exact Bool.false_ne_true (hconfigured.mpr ⟨_, hloaded⟩)

variable {x w s}

/-! ## The lease and the gate -/

/-- The fingerprint that the gate compares a lease with: that of the hardware, or else the stored
one, or else a new one that can be stored. -/
def LocalState.GateFingerprint (w : NodeWorld) (s : LocalState) (fingerprint : String) : Prop :=
  w.stableMachineFingerprint = some fingerprint ∨
    w.stableMachineFingerprint = none ∧ w.getFails secretDeviceFingerprint = false ∧
      (s.Fingerprint w fingerprint ∨
        s.MintsFingerprint w ∧ fingerprint = mintedFingerprint (w.uuid 0))

lemma exists_loadOrCreateDeviceFingerprint_eq_ok {fingerprint : String} :
    (∃ s', loadOrCreateDeviceFingerprint w s = .ok fingerprint s') ↔
      s.GateFingerprint w fingerprint := by
  rw [LocalState.GateFingerprint]
  cases hstable : w.stableMachineFingerprint with
  | some stable => simp [loadOrCreateDeviceFingerprint, hstable]
  | none =>
    simp only [loadOrCreateDeviceFingerprint, hstable, bind_eq_ok, getSecret_eq_ok, reduceCtorEq,
      false_or, true_and, LocalState.Fingerprint, LocalState.MintsFingerprint]
    -- a new fingerprint is handed out only after it has been put
    have hmint : (∃ s', loadOrCreateDeviceFingerprint.mint w s = .ok fingerprint s') ↔
        w.putFails secretDeviceFingerprint = false ∧
          fingerprint = mintedFingerprint (w.uuid 0) := by
      simp only [loadOrCreateDeviceFingerprint.mint, bind_eq_ok, putSecret_eq_ok, pure_eq_ok]
      constructor
      · rintro ⟨_, _, _, ⟨hput, rfl⟩, rfl, rfl⟩
        exact ⟨hput, rfl⟩
      · rintro ⟨hput, rfl⟩
        exact ⟨_, (), _, ⟨hput, rfl⟩, rfl, rfl⟩
    constructor
    · rintro ⟨s', _, _, ⟨hget, rfl, rfl⟩, h⟩
      refine ⟨hget, ?_⟩
      cases hstored : (s.secrets.lookup secretDeviceFingerprint).map trim with
      | none =>
        simp only [hstored] at h
        obtain ⟨hput, rfl⟩ := hmint.mp ⟨s', h⟩
        exact .inr ⟨⟨hget, hput, fun other hother => by cases hother⟩, rfl⟩
      | some value =>
        simp only [hstored] at h
        split at h
        · next hvalid =>
          obtain ⟨rfl, -⟩ := pure_eq_ok.mp h
          exact .inl ⟨rfl, hvalid⟩
        · next hinvalid =>
          obtain ⟨hput, rfl⟩ := hmint.mp ⟨s', h⟩
          refine .inr ⟨⟨hget, hput, fun other hother => ?_⟩, rfl⟩
          rw [← Option.some.inj hother]
          exact Bool.eq_false_iff.mpr hinvalid
    · rintro ⟨hget, ⟨hstored, hvalid⟩ | ⟨⟨-, hput, hinvalid⟩, hminted⟩⟩
      · refine ⟨s, _, s, ⟨hget, rfl, rfl⟩, ?_⟩
        simp only [hstored, hvalid, ite_true, pure_eq_ok, and_self]
      · obtain ⟨s', h⟩ := hmint.mpr ⟨hput, hminted⟩
        refine ⟨s', _, s, ⟨hget, rfl, rfl⟩, ?_⟩
        cases hstored : (s.secrets.lookup secretDeviceFingerprint).map trim with
        | none => exact h
        | some value =>
          simp only [hinvalid value hstored, Bool.false_eq_true, ite_false]
          exact h

/-- One lease is installed at most. -/
lemma LocalState.Installed.unique {lease other : EntitlementLease} (h : s.Installed x lease)
    (hother : s.Installed x other) : lease = other := by
  rcases h with hcached | ⟨hcache, bundle, hstored, hparsed⟩ <;>
    rcases hother with hcached' | ⟨hcache', bundle', hstored', hparsed'⟩
  · exact Option.some.inj (hcached.symm.trans hcached')
  · exact absurd (hcached.symm.trans hcache') (Option.some_ne_none lease)
  · exact absurd (hcached'.symm.trans hcache) (Option.some_ne_none other)
  · obtain rfl := Option.some.inj (hstored.symm.trans hstored')
    exact Option.some.inj (hparsed.symm.trans hparsed')

/-- What the gate needs of the lease that is installed. -/
lemma requireValidLeaseWithFeature_real (hreal : s.config.useRealOzon = true) {feature : Feature} :
    (∃ s', requireValidLeaseWithFeature x w feature s = .ok () s') ↔
      ∃ lease fingerprint, s.Installed x lease ∧
        (s.cloudLeaseCache = none → w.getFails secretCloudLease = false) ∧
        validateCloudLeaseWithFeature x w s.config lease feature = .ok () ∧
        s.GateFingerprint w fingerprint ∧
        lease.deviceId = deviceIdFor x.newV5 lease.userId fingerprint := by
  -- caching the lease does not change what the fingerprint is read from
  have hfingerprint : ∀ (lease : EntitlementLease) (fingerprint : String),
      (∃ s', loadOrCreateDeviceFingerprint w { s with cloudLeaseCache := some lease } =
        .ok fingerprint s') ↔ s.GateFingerprint w fingerprint :=
    fun _ _ => exists_loadOrCreateDeviceFingerprint_eq_ok
  simp only [requireValidLeaseWithFeature, bind_eq_ok, get_eq_ok]
  constructor
  · rintro ⟨s', _, _, ⟨rfl, rfl⟩, h⟩
    simp only [hreal, Bool.not_true, Bool.false_and, Bool.false_eq_true, ite_false, bind_eq_ok,
      ofExcept_eq_ok, ensureLeaseBoundToDevice_ok, loadCloudLease_eq_ok] at h
    obtain ⟨lease, _, ⟨hinstalled, hget, rfl⟩, _, _, ⟨hvalid, rfl⟩, fingerprint, _, hload, hbound,
      rfl⟩ := h
    exact ⟨lease, fingerprint, hinstalled, hget, hvalid, (hfingerprint _ _).mp ⟨_, hload⟩, hbound⟩
  · rintro ⟨lease, fingerprint, hinstalled, hget, hvalid, hgate, hbound⟩
    obtain ⟨s', hload⟩ := (hfingerprint lease fingerprint).mpr hgate
    refine ⟨s', s, s, ⟨rfl, rfl⟩, ?_⟩
    simp only [hreal, Bool.not_true, Bool.false_and, Bool.false_eq_true, ite_false, bind_eq_ok,
      ofExcept_eq_ok, ensureLeaseBoundToDevice_ok, loadCloudLease_eq_ok]
    exact ⟨lease, _, ⟨hinstalled, hget, rfl⟩, (), _, ⟨hvalid, rfl⟩, fingerprint, s', hload, hbound,
      rfl⟩

/-- The lease that the status shows as valid. -/
lemma inspectCloudLease_valid :
    (inspectCloudLease x w s).valid = true ↔
      ∃ lease, s.Installed x lease ∧
        (s.cloudLeaseCache = none → w.getFails secretCloudLease = false) ∧
        validateCloudLeaseWithFeature x w s.config lease .ozonRead = .ok () := by
  have hstatus : ∀ lease : EntitlementLease, (leaseStatus x w s.config lease).valid = true ↔
      validateCloudLeaseWithFeature x w s.config lease .ozonRead = .ok () := by
    intro lease
    simp only [leaseStatus]
    cases validateCloudLeaseWithFeature x w s.config lease .ozonRead <;> simp [Except.isOk,
      Except.toBool]
  simp only [inspectCloudLease, LocalState.Installed]
  cases s.cloudLeaseCache with
  | some lease => simp [hstatus]
  | none =>
    cases hread : getSecretForStatus w s secretCloudLease with
    | error u =>
      have hfails : w.getFails secretCloudLease = true := by
        by_contra hget
        simp [getSecretForStatus, hget] at hread
      simp [LeaseStatus.missing, hfails]
    | ok value =>
      obtain ⟨hget, hlookup, -⟩ := getSecret_eq_ok.mp (getSecret_of_ok hread)
      cases value with
      | none => simp [LeaseStatus.missing, hlookup]
      | some bundle =>
        dsimp only
        cases hparse : x.parseLease bundle with
        | none => simp [LeaseStatus.missing, hlookup, hparse]
        | some lease => simp [hstatus, hlookup, hget, hparse]

variable (x w s)

/-- **When the status of the lease agrees with the gate.**  On a node that is connected to the
marketplace the lease is shown as valid just when the gate for reading is open, if and only if an
installed lease that passes the checks names this machine under its user: of the device the status
looks at nothing. -/
theorem lease_status_agrees_iff (hreal : s.config.useRealOzon = true) :
    ((inspectCloudLease x w s).valid = true ↔
        ∃ s', requireValidLeaseWithFeature x w .ozonRead s = .ok () s') ↔
      ∀ lease, s.Installed x lease →
        (s.cloudLeaseCache = none → w.getFails secretCloudLease = false) →
        validateCloudLeaseWithFeature x w s.config lease .ozonRead = .ok () →
        ∃ fingerprint, s.GateFingerprint w fingerprint ∧
          lease.deviceId = deviceIdFor x.newV5 lease.userId fingerprint := by
  rw [inspectCloudLease_valid, requireValidLeaseWithFeature_real hreal]
  constructor
  · intro hagree lease hinstalled hget hvalid
    obtain ⟨other, fingerprint, hother, -, -, hgate, hbound⟩ :=
      hagree.mp ⟨lease, hinstalled, hget, hvalid⟩
    obtain rfl := hinstalled.unique hother
    exact ⟨fingerprint, hgate, hbound⟩
  · intro hbound
    constructor
    · rintro ⟨lease, hinstalled, hget, hvalid⟩
      obtain ⟨fingerprint, hgate, hdevice⟩ := hbound lease hinstalled hget hvalid
      exact ⟨lease, fingerprint, hinstalled, hget, hvalid, hgate, hdevice⟩
    · rintro ⟨lease, -, hinstalled, hget, hvalid, -⟩
      exact ⟨lease, hinstalled, hget, hvalid⟩

/-- The laptop has a lease of its own, which is shown as valid. -/
theorem lease_status_agrees_laptop :
    (inspectCloudLease leaseCrates laptopWorld laptopNode).valid = true := by
  refine ((lease_status_agrees_iff leaseCrates laptopWorld laptopNode rfl).mpr ?_).mpr
    ⟨laptopNode, laptop_gate⟩
  intro lease hinstalled _ _
  obtain rfl := hinstalled.unique (.inl rfl : laptopNode.Installed leaseCrates laptopLease)
  exact ⟨laptopFingerprint, .inl rfl, rfl⟩

/-- How a device is named from its fingerprint is no part of what is checked of a lease itself. -/
lemma validateCloudLeaseWithFeature_newV5 {x : NodeCrates} {w : NodeWorld} {config : LocalConfig}
    {lease : EntitlementLease} {feature : Feature} (newV5 : Uuid → String → Uuid) :
    validateCloudLeaseWithFeature { x with newV5 := newV5 } w config lease feature =
      validateCloudLeaseWithFeature x w config lease feature := rfl

/-- The lease of the laptop on another machine: it is shown as valid, and the gate is shut. -/
theorem foreign_lease_shown_valid :
    ¬ ∀ (x : NodeCrates) (w : NodeWorld) (s : LocalState), s.config.useRealOzon = true →
      ((inspectCloudLease x w s).valid = true ↔
        ∃ s', requireValidLeaseWithFeature x w .ozonRead s = .ok () s') := by
  intro h
  let otherCrates : NodeCrates :=
    { leaseCrates with
      newV5 := fun _ name =>
        if name.toList.getLast? = some 'x' then .ofNat 0x1234 else laptopId.uuid }
  let otherWorld : NodeWorld := { laptopWorld with stableMachineFingerprint := some "machine-x" }
  have hvalid : (inspectCloudLease otherCrates otherWorld laptopNode).valid = true := by
    obtain ⟨lease, fingerprint, hinstalled, -, hchecked, -⟩ :=
      (requireValidLeaseWithFeature_real rfl).mp ⟨laptopNode, laptop_gate⟩
    obtain rfl := hinstalled.unique (.inl rfl : laptopNode.Installed leaseCrates laptopLease)
    exact inspectCloudLease_valid.mpr ⟨laptopLease, .inl rfl, nofun,
      (validateCloudLeaseWithFeature_newV5 _).trans hchecked⟩
  obtain ⟨lease, fingerprint, hinstalled, -, -, hgate, hbound⟩ :=
    (requireValidLeaseWithFeature_real rfl).mp ((h otherCrates otherWorld laptopNode rfl).mp hvalid)
  obtain rfl := hinstalled.unique (.inl rfl : laptopNode.Installed otherCrates laptopLease)
  obtain rfl : "machine-x" = fingerprint := by
    rcases hgate with hstable | ⟨hnone, -⟩
    · exact Option.some.inj hstable
    · cases hnone
  revert hbound
  decide

end Loading

end OzonSuite
