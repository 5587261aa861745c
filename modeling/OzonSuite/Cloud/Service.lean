/-
# What the handlers of the cloud service share

The third-party functions the service calls, its configuration, the values a request draws, and
the making of card keys and audit events.
-/
import OzonSuite.Cloud.Queries

namespace OzonSuite

open Lib

/-- The functions that the service takes from its libraries. -/
structure Crates where
  /-- SHA-256 of the UTF-8 bytes of a text, in lower-case hexadecimal. -/
  sha256Hex : String → String
  /-- The Argon2 hash of a secret, made with a salt. -/
  hashPassword : (salt secret : String) → Option String
  /-- Whether a secret fits an Argon2 hash. -/
  verifyPassword : (hash secret : String) → Bool
  /-- Upper case, by the Unicode tables. -/
  toUppercase : String → String
  parseUuid : String → Option Uuid
  parseRfc3339 : String → Option Time
  newV5 : Uuid → String → Uuid
  /-- The RFC 3339 text of an instant, as it is serialized. -/
  timeText : Time → String
  /-- The RSA signature of a text, in base 64; none when the key cannot be read. -/
  rsaSign : (pem payload randomness : String) → Option String

/-- The values a request draws, each in the order in which they are drawn. -/
structure Draw where
  /-- The clock. -/
  clock : ℕ → Time
  /-- Random identifiers. -/
  uuid : ℕ → Uuid
  /-- The 24 random characters of a card key. -/
  random : ℕ → String
  salt : ℕ → String
  /-- Which of several rows of the same rank a query returns first. -/
  tie : ℕ → ℕ

/-- The provider that the configuration names. -/
inductive ConfiguredPaymentProvider
  | manual
  | stripe
  | alipay
  | wechatPay
  | unknown (name : String)
deriving DecidableEq

/-- The configuration, as far as the handlers read it. -/
structure AppConfig where
  paymentProvider : ConfiguredPaymentProvider
  stripeStandardAmountMinor : ℤ
  stripeCurrency : String
  wechatStandardAmountMinor : ℤ
  wechatCurrency : String
  wechatAppId : Option String
  wechatMchId : Option String
  testFullAccessIdentities : List String
  testFullAccessDurationDays : UInt16
  testFullAccessMaxDevices : UInt8
  leaseSigningPrivateKeyPem : Option String
  leaseSigningKeyId : String
  leaseIssuer : String
  leaseAudience : String

/-- Who sent a request, by its verified bearer token. -/
structure AuthClaims where
  sub : UserId
  tenantId : TenantId
deriving DecidableEq

/-- The features of every entitlement. -/
def defaultFeatures : List Feature :=
  [.ozonRead, .ozonWriteMock, .draftImport1688Mock, .openClawBridge, .localApproval]

/-- The provider of an order as a text of the database. -/
def paymentProviderToDb : PaymentProvider → String
  | .manual => "manual"
  | .stripe => "stripe"
  | .alipay => "alipay"
  | .wechatPay => "wechat_pay"

/-- The derived `Debug` form of an identifier. -/
def debugId (name : String) (id : Uuid) : String := s!"{name}({id})"

/-- An audit event, made from the `i`-th identifier and time drawn. -/
def audit (draw : Draw) (i : ℕ) (tenantId : Option TenantId)
    (actor action target summary : String) : AuditEvent :=
  { id := ⟨draw.uuid i⟩, tenantId := tenantId, actor := actor, action := action,
    target := target, summary := summary, createdAt := draw.clock i }

/-! ## Card keys -/

/-- A new card key with its code in plain. -/
structure GeneratedCardKey where
  cardKey : CardKey
  plainCode : String
deriving DecidableEq

/-- What a card key is looked up by. -/
def cardKeyFingerprint (x : Crates) (code : String) : String := x.sha256Hex code

/-- What a device is looked up by. -/
def hashFingerprint (x : Crates) (value : String) : String := x.sha256Hex value

/-- A card key lasts for a day at least, and for one device at least. -/
def validateCardKeyLimits (durationDays : UInt16) (maxDevices : UInt8) : DbM Unit := do
  if durationDays = 0 then
    throw (.badRequest "duration_days must be greater than 0")
  if maxDevices = 0 then
    throw (.badRequest "max_devices must be greater than 0")

/-- A new card key, made from the `i`-th values drawn. -/
def generateCardKey (x : Crates) (draw : Draw) (i : ℕ) (planCode : PlanCode) (tenantId : TenantId)
    (durationDays : UInt16) (maxDevices : UInt8) : DbM GeneratedCardKey := do
  let plainCode := s!"ORS-{x.toUppercase planCode.code}-{draw.random i}"
  match x.hashPassword (draw.salt i) plainCode with
  | none => throw (.internal "failed to hash secret")
  | some codeHash =>
    return {
      cardKey := {
        id := ⟨draw.uuid i⟩
        tenantId := tenantId
        planCode := planCode
        codeHash := codeHash
        codeFingerprint := cardKeyFingerprint x plainCode
        durationDays := durationDays
        maxDevices := maxDevices
        status := .available
        redeemedBy := none
        redeemedAt := none
        createdAt := draw.clock i }
      plainCode := plainCode }

/-- An entitlement on everything, paid for with a card key. -/
def newEntitlement (id : Uuid) (tenantId : TenantId) (userId : UserId) (planCode : PlanCode)
    (sourceCardKeyId : CardKeyId) (redeemedAt : Time) (durationDays : UInt16) : Entitlement :=
  { id := ⟨id⟩
    tenantId := tenantId
    userId := userId
    planCode := planCode
    sourceCardKeyId := sourceCardKeyId
    features := defaultFeatures
    expiresAt := redeemedAt + Time.days durationDays.toNat
    revokedAt := none }

/-! ## Test access -/

/-- The identifiers of a user that the allow-list is searched for: of an address and a number, those
that are verified. -/
def testFullAccessCandidates (user : User) : List String :=
  [toAsciiLowercase user.id.uuid.toString, toAsciiLowercase user.nebulaId] ++
    (if user.emailVerifiedAt.isSome then user.email.toList.map toAsciiLowercase else []) ++
    (if user.phoneVerifiedAt.isSome then user.phone.toList.map toAsciiLowercase else []) ++
    user.skybridgeUserId.toList.map fun id => toAsciiLowercase id.toString

/-- A user of SkyBridge is on the allow-list. -/
def testFullAccessMatches (config : AppConfig) (user : User) : Bool :=
  if config.testFullAccessIdentities.isEmpty || user.nebulaSource != .skybridge then false
  else (testFullAccessCandidates user).any fun candidate =>
    config.testFullAccessIdentities.contains candidate

/-- Which identifiers these are. -/
lemma mem_testFullAccessCandidates {user : User} {identity : String} :
    identity ∈ testFullAccessCandidates user ↔
      identity = toAsciiLowercase user.id.uuid.toString ∨
      identity = toAsciiLowercase user.nebulaId ∨
      (user.emailVerifiedAt.isSome ∧ ∃ email, user.email = some email ∧
        toAsciiLowercase email = identity) ∨
      (user.phoneVerifiedAt.isSome ∧ ∃ phone, user.phone = some phone ∧
        toAsciiLowercase phone = identity) ∨
      ∃ id, user.skybridgeUserId = some id ∧ toAsciiLowercase id.toString = identity := by
  simp only [testFullAccessCandidates, List.mem_append, List.mem_cons, List.not_mem_nil, or_false,
    List.mem_ite_nil_right, List.mem_map, Option.mem_toList, or_assoc]

/-- **Who is on the allow-list.**  A user of SkyBridge is, if one of the identifiers is listed. -/
lemma testFullAccessMatches_iff {config : AppConfig} {user : User} :
    testFullAccessMatches config user = true ↔ user.nebulaSource = .skybridge ∧
      ∃ identity ∈ testFullAccessCandidates user, identity ∈ config.testFullAccessIdentities := by
  by_cases hsource : user.nebulaSource = .skybridge
  · cases hlist : config.testFullAccessIdentities with
    | nil => simp [testFullAccessMatches, hlist]
    | cons first rest =>
      simp only [testFullAccessMatches, hlist, hsource, List.isEmpty_cons, bne_self_eq_false,
        Bool.or_self, Bool.false_eq_true, if_false, List.any_eq_true, List.contains_iff_mem,
        true_and]
  · simp [testFullAccessMatches, hsource]

/-- How the audit log names the user. -/
def testFullAccessActor (user : User) : String := user.email.getD user.nebulaId

/-- Whether the user has an unexpired entitlement on everything with enough devices. -/
def hasActiveFullAccessEntitlement (userId : UserId) (minMaxDevices : UInt8) (now : Time) :
    DbM Bool := do
  return ((← get).activeEntitlements userId now).any fun row =>
    row.1.planCode == .standard30d && decide (minMaxDevices ≤ row.2.maxDevices) &&
      defaultFeatures.all fun f => row.1.features.contains f

/-- The transaction that gives a listed user an entitlement without an order. -/
def grantTestFullAccess (x : Crates) (config : AppConfig) (user : User) (draw : Draw) :
    DbM Unit := do
  lockUserForUpdate user.id
  if ← hasActiveFullAccessEntitlement user.id config.testFullAccessMaxDevices (draw.clock 0) then
    return
  let durationDays := config.testFullAccessDurationDays
  let generated ← generateCardKey x draw 1 .standard30d user.tenantId durationDays
    config.testFullAccessMaxDevices
  insertCardKey (fun _ => dbInternal) generated.cardKey none
  let redeemedAt := draw.clock 2
  markCardKeyRedeemed generated.cardKey.id user.id redeemedAt
  let entitlement := newEntitlement (draw.uuid 2) user.tenantId user.id .standard30d
    generated.cardKey.id redeemedAt durationDays
  insertEntitlement (fun _ => dbInternal) entitlement
  insertAudit (audit draw 3 (some user.tenantId) (testFullAccessActor user)
    "test_entitlement.granted" (debugId "EntitlementId" entitlement.id.uuid)
    "test full-access entitlement granted from allowlist")

/-- Grant full access to a user on the allow-list. -/
def ensureTestFullAccessEntitlement (x : Crates) (config : AppConfig) (user : User) (draw : Draw)
    (db : Db) : Except ApiError Unit × Db :=
  if testFullAccessMatches config user then atomically (grantTestFullAccess x config user draw) db
  else (.ok (), db)

/-- The same, for the user who is signed in. -/
def ensureTestFullAccessForUserId (x : Crates) (config : AppConfig) (userId : UserId)
    (draw : Draw) (db : Db) : Except ApiError Unit × Db :=
  if config.testFullAccessIdentities.isEmpty then (.ok (), db)
  else match db.users.rows.find? (·.id == userId) with
    | none => (.error (.unauthorized "user not found"), db)
    | some user => ensureTestFullAccessEntitlement x config user draw db

end OzonSuite
