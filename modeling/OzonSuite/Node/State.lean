/-
# The local node

The configuration and the state of a local node, and what a request finds outside of it: the
clock, the secret store's condition, the environment of the process, the marketplace and the other
remote services.  A handler runs on the state; it can fail, and what it had changed before stays
changed.
-/
import OzonSuite.Cloud.Service
import OzonSuite.Lib.Effects
import OzonSuite.Node.Connector
import OzonSuite.TaskEngine.Store

namespace OzonSuite

open Lib

/-! ## Configuration -/

/-- The configuration of a node. -/
structure LocalConfig where
  operatorToken : String
  openclawToken : String
  useRealOzon : Bool
  openaiBaseUrl : String
  openaiImageModel : String
  defaultEcommerceIntervalSecs : ℕ
  defaultEcommerceLimit : ℕ
  leasePublicKeyPem : Option String
  leaseIssuer : String
  leaseAudience : String
  allowUnsignedLease : Bool
deriving DecidableEq

/-- The credentials of a seller, as they are stored. -/
structure StoredOzonConfig where
  clientId : String
  apiKey : String
deriving DecidableEq

/-- The configuration of images, as it is stored. -/
structure StoredOpenAiConfig where
  apiKey : String
  baseUrl : String
  imageModel : String
deriving DecidableEq

/-- What a provider does. -/
inductive ProviderKind
  | openAiImages
  | openAiImagesEdit
  | openAiCompatChat
  | cloudVideo
deriving DecidableEq

/-- How a request carries its key. -/
inductive AuthStyle
  | bearer
  | header (name : String)
  | query (name : String)
deriving DecidableEq

/-- How a provider of videos is spoken to. -/
inductive VideoDialect
  | openAiCompat
  | kling
  | miniMax
  | vidu
  | runway
  | jimeng
deriving DecidableEq

/-- An entry of the registry. -/
structure ProviderEntry where
  kind : ProviderKind
  baseUrl : String
  model : String
  secretRef : String
  auth : AuthStyle
  enabled : Bool
  videoDialect : VideoDialect
  extra : List (String × String)
deriving DecidableEq

/-- The registry of models. -/
structure StoredModelRegistry where
  imageGen : List ProviderEntry
  textGen : List ProviderEntry
  videoGen : List ProviderEntry
deriving DecidableEq

/-- The registry without entries. -/
def StoredModelRegistry.default : StoredModelRegistry :=
  { imageGen := [], textGen := [], videoGen := [] }

/-- What may be stored under a name by the secret store. -/
abbrev SecretName := String

/-- The name of the credentials of a seller. -/
def secretOzonConfig : SecretName := "ozon_config"

/-- The name of the configuration of images. -/
def secretOpenaiConfig : SecretName := "openai_config"

/-- The name of the registry. -/
def secretModelRegistry : SecretName := "model_registry"

/-- The name of the lease. -/
def secretCloudLease : SecretName := "cloud_lease"

/-- The name of the fingerprint of the device. -/
def secretDeviceFingerprint : SecretName := "device_fingerprint"

/-! ## State -/

/-- An entry of the audit log of the schedule. -/
structure ScheduleAuditEvent where
  at' : Time
  actor : String
  action : String
  summary : String
deriving DecidableEq

/-- A run of the schedule. -/
structure EcommerceReadRun where
  startedAt : Time
  completedAt : Time
  connectorMode : String
  productCount : ℕ
  sampleSize : ℕ
  nextLastId : Option String
  products : List OzonProductSummary
  total : ℕ
deriving DecidableEq

/-- The schedule of the read-only polling; of its worker, the number under which it was spawned. -/
structure EcommerceReadSchedule where
  enabled : Bool
  intervalSecs : ℕ
  limit : ℕ
  lastRun : Option EcommerceReadRun
  lastError : Option String
  audit : List ScheduleAuditEvent
  worker : Option ℕ
deriving DecidableEq

/-- A pairing that has been started. -/
structure OpenClawPairing where
  expiresAt : Time
  expiresAtText : String
deriving DecidableEq

/-- How far a video is. -/
inductive VideoStatus
  | queued
  | running
  | succeeded
  | failed
deriving DecidableEq

/-- A video that is being made. -/
structure VideoJob where
  id : Uuid
  status : VideoStatus
  providerJobId : Option String
  videoUrl : Option String
  error : Option String
  createdAt : Time
  updatedAt : Time
  firstFrameUrl : String
  lastFrameUrl : Option String
  prompt : String
  durationSeconds : ℕ
deriving DecidableEq

/-- The state of a node.  `writes` lists the calls it has made to the operations of the write
connector that change the shop. -/
structure LocalState where
  config : LocalConfig
  tasks : TaskStore
  secrets : Finmap (fun _ : SecretName => String)
  ozonConfigCache : Option StoredOzonConfig
  openaiConfigCache : Option StoredOpenAiConfig
  modelRegistryCache : Option StoredModelRegistry
  cloudLeaseCache : Option EntitlementLease
  schedules : EcommerceReadSchedule
  openclawPairings : List (String × OpenClawPairing)
  videoJobs : Finmap (fun _ : Uuid => VideoJob)
  writes : List OzonWrite

/-- A node that has just been started. -/
def LocalState.new (config : LocalConfig) (secrets : Finmap (fun _ : SecretName => String)) :
    LocalState :=
  { config := config
    tasks := .new
    secrets := secrets
    ozonConfigCache := none
    openaiConfigCache := none
    modelRegistryCache := none
    cloudLeaseCache := none
    schedules :=
      { enabled := false
        intervalSecs := max 60 (min config.defaultEcommerceIntervalSecs (24 * 60 * 60))
        limit := max 1 (min config.defaultEcommerceLimit 100)
        lastRun := none
        lastError := none
        audit := []
        worker := none }
    openclawPairings := []
    videoJobs := ∅
    writes := [] }

/-! ## What a request finds outside -/

/-- The functions that the node takes from its libraries; with the cloud it shares the ones that
make device identifiers and write times. -/
structure NodeCrates extends Crates where
  /-- Whether a text is the PEM of an RSA public key. -/
  rsaPublicKey : (pem : String) → Bool
  base64Decode : String → Option (List UInt8)
  /-- Whether bytes have the form of an RSA signature. -/
  rsaSignature : List UInt8 → Bool
  /-- Whether a signature of a text verifies under a public key. -/
  rsaVerify : (pem payload : String) → (signature : List UInt8) → Bool
  leaseText : EntitlementLease → String
  parseLease : String → Option EntitlementLease
  ozonConfigText : StoredOzonConfig → String
  parseOzonConfig : String → Option StoredOzonConfig
  openaiConfigText : StoredOpenAiConfig → String
  parseOpenaiConfig : String → Option StoredOpenAiConfig
  registryText : StoredModelRegistry → String
  parseRegistry : String → Option StoredModelRegistry
  /-- The scheme and the host of a URL. -/
  parseUrl : String → Option (String × String)
  /-- Whether a text is an IP address of the machine itself. -/
  isLoopbackAddr : String → Bool
  toLowercase : String → String
  /-- The `Debug` form of a text. -/
  debugText : String → String

/-- A call of a remote service, or of the engine, that has no effect on the state of the node.  A
batch numbers its items, and an item its attempts. -/
inductive RemoteCall
  | downloadImage (item : ℕ) (url : String)
  | editImage (item attempt : ℕ) (config : StoredOpenAiConfig) (source prompt : String)
  | generateImage (config : StoredOpenAiConfig)
  | uploadImage (item attempt host : ℕ) (filename image : String)
  | chat (item : ℕ) (entry : ProviderEntry) (apiKey : String)
  | createVideo (entry : ProviderEntry) (apiKey prompt firstFrame : String)
      (lastFrame : Option String) (duration : ℕ)
  | pollVideo (entry : ProviderEntry) (apiKey providerJobId : String)
  | exportWorkbook (template config : String)
  | extractWorkbook (template config : String) (sheet : Option String)
deriving DecidableEq

/-- What a request finds.  An operation of a connector is asked once by every item of a batch, so
its answer may depend on the item. -/
structure NodeWorld where
  now : Time
  uuid : ℕ → Uuid
  /-- The fingerprint that is made from the hardware, where there is one. -/
  stableMachineFingerprint : Option String
  /-- The secret store does not answer. -/
  getFails : SecretName → Bool
  putFails : SecretName → Bool
  /-- A variable of the environment of the process. -/
  env : String → Option String
  isFile : String → Bool
  validateCredentials : OzonCredentials → Except OzonConnectorError Unit
  productCount : OzonCredentials → Except OzonConnectorError ℕ
  productListPage : OzonCredentials → ℕ → Option String → Option String →
    Except OzonConnectorError OzonProductListPage
  productGet : ℕ → OzonCredentials → OzonProductLookup → Except OzonConnectorError OzonProductDetail
  categoryAttributes : ℕ → OzonCredentials → (categoryId typeId : ℕ) →
    Except OzonConnectorError (List OzonCategoryAttribute)
  categoryAttributeValues : ℕ → OzonCredentials → (categoryId typeId attributeId : ℕ) →
    Except OzonConnectorError (List OzonCategoryAttributeValue)
  picturesImport : ℕ → Except OzonConnectorError OzonPicturesImport
  productUpdateCopy : ℕ → Except OzonConnectorError OzonProductCopyUpdateResult
  remote : RemoteCall → Except ApiError String

/-- A handler. -/
abbrev NodeM := EStateM ApiError LocalState

/-- Note a call that changes the shop. -/
def recordWrite {ε : Type} (call : OzonWrite) : EStateM ε LocalState Unit :=
  modify fun s => { s with writes := s.writes ++ [call] }

/-! ## The secret store -/

/-- Read a secret; the store may be unavailable. -/
def getSecret (w : NodeWorld) (name : SecretName) : NodeM (Option String) := do
  refuseIf (w.getFails name) (ApiError.internal "secret store unavailable")
  return (← get).secrets.lookup name

/-- Write a secret, or fail with the message of the caller. -/
def putSecret (w : NodeWorld) (name : SecretName) (value failure : String) : NodeM Unit := do
  refuseIf (w.putFails name) (ApiError.internal failure)
  modify fun s => { s with secrets := s.secrets.insert name value }

section Secrets

variable {w : NodeWorld} {name : SecretName} {s s' : LocalState}

lemma getSecret_eq_ok {value : Option String} :
    getSecret w name s = .ok value s' ↔
      w.getFails name = false ∧ s.secrets.lookup name = value ∧ s = s' := by
  simp only [getSecret, bind_eq_ok, refuseIf_eq_ok, get_eq_ok, pure_eq_ok, Bool.not_eq_true]
  constructor
  · rintro ⟨_, _, ⟨hget, rfl⟩, _, _, ⟨rfl, rfl⟩, rfl, rfl⟩
    exact ⟨hget, rfl, rfl⟩
  · rintro ⟨hget, rfl, rfl⟩
    exact ⟨(), s, ⟨hget, rfl⟩, s, s, ⟨rfl, rfl⟩, rfl, rfl⟩

@[simp] lemma finalState_getSecret : finalState (getSecret w name s) = s := by
  rw [getSecret, finalState_bind]
  by_cases h : w.getFails name = true <;> simp [refuseIf, h]
  all_goals rfl

lemma putSecret_eq_ok {value failure : String} {u : Unit} :
    putSecret w name value failure s = .ok u s' ↔
      w.putFails name = false ∧ { s with secrets := s.secrets.insert name value } = s' := by
  simp only [putSecret, bind_eq_ok, refuseIf_eq_ok, modify_eq_ok, Bool.not_eq_true]
  constructor
  · rintro ⟨_, _, ⟨hput, rfl⟩, rfl⟩
    exact ⟨hput, rfl⟩
  · rintro ⟨hput, rfl⟩
    exact ⟨(), s, ⟨hput, rfl⟩, rfl⟩

end Secrets

/-- What a status shows of a secret: a store that does not answer counts as an error. -/
def getSecretForStatus (w : NodeWorld) (s : LocalState) (name : SecretName) :
    Except Unit (Option String) :=
  if w.getFails name then .error () else .ok (s.secrets.lookup name)

end OzonSuite
