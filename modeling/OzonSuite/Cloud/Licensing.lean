/-
# Card keys, devices and leases

The redemption of a card key is one transaction.  The activation of a device and the making of a
lease send several statements that other transactions may run between: they are given here as
the states between two statements and the step from one to the next.  The activation holds the
lock on the row of its user from its first statement on; its only write is the last statement
before the commit, so its effect on the database is that of one step.
-/
import OzonSuite.Cloud.Service

namespace OzonSuite

open Lib

/-! ## Card keys -/

/-- A request for card keys. -/
structure CreateCardKeysRequest where
  count : UInt16
  planCode : Option String
  durationDays : Option UInt16
  maxDevices : Option UInt8
deriving DecidableEq

/-- Generate and store `n` card keys, from the `i`-th values drawn on. -/
def insertCardKeys (x : Crates) (draw : Draw) (planCode : PlanCode) (tenantId : TenantId)
    (durationDays : UInt16) (maxDevices : UInt8) : (n i : ℕ) → DbM (List String)
  | 0, _ => return []
  | n + 1, i => do
    let generated ← generateCardKey x draw i planCode tenantId durationDays maxDevices
    insertCardKey (fun _ => dbInternal) generated.cardKey none
    return generated.plainCode ::
      (← insertCardKeys x draw planCode tenantId durationDays maxDevices n (i + 1))

/-- An administrator makes card keys, fifty at most. -/
def createCardKeys (x : Crates) (input : CreateCardKeysRequest) (draw : Draw) (db : Db) :
    Except ApiError (List String) × Db :=
  let count := max 1 (min 50 input.count.toNat)
  let planCode : PlanCode := ⟨input.planCode.getD "standard_30d"⟩
  let durationDays := input.durationDays.getD 30
  let maxDevices := input.maxDevices.getD 1
  db |> atomically (do
    validateCardKeyLimits durationDays maxDevices
    let tenantId : TenantId := ⟨draw.uuid 0⟩
    insertTenant tenantId
    let plainCodes ← insertCardKeys x draw planCode tenantId durationDays maxDevices count 2
    insertAudit (audit draw 1 (some tenantId) "admin" "card_keys.created" "card_keys"
      s!"{count} card keys created")
    return plainCodes)

/-- The transaction of `redeem_card_key`. -/
def redeemCardKeyTx (x : Crates) (claims : AuthClaims) (code : String) (draw : Draw) :
    DbM Entitlement := do
  match ← findCardKeyByFingerprintForUpdate (cardKeyFingerprint x code) with
  | none => throw (.notFound "card key not found")
  | some card =>
    if card.status ≠ .available then
      throw (.conflict "card key is not available")
    if x.verifyPassword card.codeHash code = false then
      throw (.unauthorized "invalid credentials")
    let redeemedAt := draw.clock 0
    let entitlement := newEntitlement (draw.uuid 0) claims.tenantId claims.sub card.planCode
      card.id redeemedAt card.durationDays
    markCardKeyRedeemed card.id claims.sub redeemedAt
    insertEntitlement (mapUniqueConflict "uq_entitlements_source_card_key"
      "card key is already redeemed") entitlement
    insertAudit (audit draw 1 (some claims.tenantId) (debugId "UserId" claims.sub.uuid)
      "card_key.redeemed" (debugId "CardKeyId" card.id.uuid) "card key redeemed")
    return entitlement

/-- A user redeems a card key. -/
def redeemCardKey (x : Crates) (claims : AuthClaims) (code : String) (draw : Draw) (db : Db) :
    Except ApiError Entitlement × Db :=
  atomically (redeemCardKeyTx x claims code draw) db

/-- An administrator revokes an entitlement. -/
def revokeEntitlement (entitlementId : EntitlementId) (draw : Draw) (db : Db) :
    Except ApiError Entitlement × Db :=
  db |> atomically (do
    match ← revokeEntitlementById entitlementId (draw.clock 0) with
    | none => throw (.notFound "entitlement not found")
    | some entitlement =>
      insertAudit (audit draw 1 (some entitlement.tenantId) "admin" "entitlement.revoked"
        (debugId "EntitlementId" entitlement.id.uuid) "entitlement revoked")
      return entitlement)

/-! ## Activating a device -/

/-- A request to activate a device. -/
structure ActivateDeviceRequest where
  name : String
  fingerprint : String
deriving DecidableEq

/-- How far the activation of a device has come. -/
inductive ActivationPhase
  /-- The request has been checked and waits for the lock on its user. -/
  | waiting
  /-- The lock is held. -/
  | locked
  /-- The device limit of the best active entitlement has been read. -/
  | limited (maxDevices : UInt8)
  /-- The device with the fingerprint has been looked up. -/
  | lookedUp (maxDevices : UInt8) (existing : Option Device)
  /-- The limit allows the activation. -/
  | admitted (maxDevices : UInt8) (existing : Option Device)
deriving DecidableEq

/-- An activation under way. -/
structure Activation where
  claims : AuthClaims
  input : ActivateDeviceRequest
  /-- When the request was checked. -/
  now : Time
  phase : ActivationPhase
deriving DecidableEq

/-- Whether the activation holds the lock on the row of its user. -/
def Activation.holdsLock (a : Activation) : Bool := a.phase != .waiting

/-- There is room for one more device. -/
def deviceLimitAllowsNewActivation (activeCount : ℕ) (maxDevices : UInt8) : Bool :=
  decide (activeCount < maxDevices.toNat)

/-- The active devices are within the limit. -/
def deviceLimitAllowsActiveFleet (activeCount : ℕ) (maxDevices : UInt8) : Bool :=
  decide (activeCount ≤ maxDevices.toNat)

/-- Whether the device that was looked up is there and active. -/
def isActive (existing : Option Device) : Bool :=
  existing.any fun device => device.status == .active

/-- `activate_device` up to the start of its transaction. -/
def activateDevice (x : Crates) (config : AppConfig) (claims : AuthClaims)
    (input : ActivateDeviceRequest) (draw : Draw) (db : Db) : Except ApiError Activation × Db :=
  match ensureTestFullAccessForUserId x config claims.sub draw db with
  | (.error e, db) => (.error e, db)
  | (.ok _, db) =>
    if trim input.name = "" then (.error (.badRequest "device name is required"), db)
    else if trim input.fingerprint = "" then
      (.error (.badRequest "device fingerprint is required"), db)
    else (.ok { claims := claims, input := input, now := draw.clock 4, phase := .waiting }, db)

/-- The error of an activation beyond the limit. -/
def deviceLimitReached (activeCount : ℕ) (maxDevices : UInt8) : ApiError :=
  .forbidden s!"device limit reached for this entitlement ({activeCount}/{maxDevices})"

/-- The device that an activation stores. -/
def Activation.device (x : Crates) (a : Activation) : Device :=
  { id := deviceIdFor x.newV5 a.claims.sub a.input.fingerprint
    tenantId := a.claims.tenantId
    userId := a.claims.sub
    name := a.input.name
    fingerprintHash := hashFingerprint x a.input.fingerprint
    status := .active
    activatedAt := a.now
    lastSeenAt := some a.now }

/-- The last part of an activation, up to the commit. -/
def Activation.store (x : Crates) (a : Activation) (draw : Draw) : DbM Device := do
  let device ← upsertDevice (a.device x)
  insertAudit (audit draw 0 (some device.tenantId) (debugId "UserId" device.userId.uuid)
    "device.activated" (debugId "DeviceId" device.id.uuid) "device activated")
  return device

/-- The next statement of an activation: it has a next phase, or comes to its end. -/
def Activation.next (x : Crates) (a : Activation) (draw : Draw) : DbM (Activation ⊕ Device) :=
  match a.phase with
  | .waiting => do
    lockUserForUpdate a.claims.sub
    return .inl { a with phase := .locked }
  | .locked => do
    match ← findActiveEntitlementWithCardLimitForUser a.claims.sub (draw.clock 0) (draw.tie 0) with
    | none => throw (.forbidden "no active entitlement")
    | some maxDevices => return .inl { a with phase := .limited maxDevices }
  | .limited maxDevices => do
    let existing ← findDeviceByFingerprint a.claims.sub (hashFingerprint x a.input.fingerprint)
    return .inl { a with phase := .lookedUp maxDevices existing }
  | .lookedUp maxDevices existing => do
    if !isActive existing then
      let activeCount ← countActiveDevicesForUser a.claims.sub
      if !deviceLimitAllowsNewActivation activeCount maxDevices then
        throw (deviceLimitReached activeCount maxDevices)
    return .inl { a with phase := .admitted maxDevices existing }
  | .admitted _ _ => do
    return .inr (← a.store x draw)

/-! ## Making a lease -/

/-- How far the making of a lease has come. -/
inductive IssuancePhase
  | started
  | deviceFound (device : Device)
  | selected (device : Device) (entitlement : Entitlement)
  /-- The device limit has been read. -/
  | limited (device : Device) (entitlement : Entitlement) (maxDevices : UInt8)
  /-- The active devices have been counted, and the limit allows them. -/
  | checked (device : Device) (entitlement : Entitlement) (maxDevices : UInt8) (activeCount : ℕ)
  /-- The transaction has been committed. -/
  | committed (device : Device) (entitlement : Entitlement) (maxDevices : UInt8) (activeCount : ℕ)
deriving DecidableEq

/-- A lease in the making. -/
structure Issuance where
  claims : AuthClaims
  deviceId : DeviceId
  phase : IssuancePhase
deriving DecidableEq

/-- `issue_lease` up to the start of its transaction. -/
def issueLease (x : Crates) (config : AppConfig) (claims : AuthClaims) (deviceId : DeviceId)
    (draw : Draw) (db : Db) : Except ApiError Issuance × Db :=
  match ensureTestFullAccessForUserId x config claims.sub draw db with
  | (.error e, db) => (.error e, db)
  | (.ok _, db) => (.ok { claims := claims, deviceId := deviceId, phase := .started }, db)

/-- The next statement of `issue_lease`; after the commit the lease is signed by `sign`. -/
def Issuance.next (sign : EntitlementLease → Except ApiError EntitlementLease) (i : Issuance)
    (draw : Draw) : DbM (Issuance ⊕ EntitlementLease) :=
  match i.phase with
  | .started => do
    match ← findActiveDevice i.deviceId i.claims.sub with
    | none => throw (.notFound "active device not found")
    | some device => return .inl { i with phase := .deviceFound device }
  | .deviceFound device => do
    match ← findActiveEntitlementForUser i.claims.sub (draw.clock 0) (draw.tie 0) with
    | none => throw (.forbidden "no active entitlement")
    | some entitlement => return .inl { i with phase := .selected device entitlement }
  | .selected device entitlement => do
    match ← findActiveEntitlementWithCardLimitForUser i.claims.sub (draw.clock 0) (draw.tie 0) with
    | none => throw (.forbidden "no active entitlement")
    | some maxDevices => return .inl { i with phase := .limited device entitlement maxDevices }
  | .limited device entitlement maxDevices => do
    let activeCount ← countActiveDevicesForUser i.claims.sub
    if deviceLimitAllowsActiveFleet activeCount maxDevices then
      return .inl { i with phase := .checked device entitlement maxDevices activeCount }
    throw (.forbidden
      s!"device limit exceeded for this entitlement ({activeCount}/{maxDevices})")
  | .checked device entitlement maxDevices activeCount => do
    touchDeviceLastSeen device.id (draw.clock 0)
    return .inl { i with phase := .committed device entitlement maxDevices activeCount }
  | .committed device entitlement _ _ =>
    match sign (.new i.claims.tenantId i.claims.sub device.id entitlement (draw.uuid 0)
      (draw.clock 0)) with
    | .ok lease => return .inr lease
    | .error e => throw e

end OzonSuite
