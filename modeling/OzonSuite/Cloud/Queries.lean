/-
# The statements of the cloud service

Each function of the service that sends one statement to the database, as a step of a
transaction.  A statement that violates a constraint or refers to a row that does not exist fails
the transaction; which error the client sees is decided by the caller where the source does so.
-/
import OzonSuite.Cloud.Schema
import OzonSuite.Lib.Transaction
import OzonSuite.Services

namespace OzonSuite

open Lib

/-! ## Errors of a statement -/

/-- The error of a failed statement. -/
def dbInternal : ApiError := .internal "database operation failed"

/-- The error of a failed insertion, where one constraint stands for a conflict. -/
def mapUniqueConflict (constraint message : String) (violated : String) : ApiError :=
  if violated = constraint then .conflict message else dbInternal

/-! ## The three kinds of statement -/

/-- The body of a transaction of the service. -/
abbrev DbM := Tx Db ApiError

section Statements

variable {ρ : Type} {S : Schema ρ}

/-- `INSERT`: the constraints of the table come first, then the foreign keys. -/
def insertRow (table : Db → Table S) (store : Db → Table S → Db) (references : Db → Bool)
    (onError : String → ApiError) (row : ρ) : DbM Unit := fun db =>
  match (table db).insert row with
  | .error violated => .error (onError violated)
  | .ok rows => if references db then .ok ((), store db rows) else .error dbInternal

/-- `UPDATE ... WHERE ... RETURNING`. -/
def updateRows (table : Db → Table S) (store : Db → Table S → Db) (p : ρ → Bool) (f : ρ → ρ) :
    DbM (List ρ) := fun db =>
  match (table db).update p f with
  | none => .error dbInternal
  | some rows => .ok (((table db).rows.filter p).map f, store db rows)

/-- `SELECT ... WHERE ...`, of at most one row. -/
def fetchOptional (table : Db → Table S) (p : ρ → Bool) : DbM (Option ρ) := do
  return (table (← get)).rows.find? p

variable {table : Db → Table S} {store : Db → Table S → Db} {db db' : Db}

lemma insertRow_eq_ok {references : Db → Bool} {onError : String → ApiError} {row : ρ} {u : Unit} :
    insertRow table store references onError row db = .ok (u, db') ↔
      ∃ t, (table db).insert row = .ok t ∧ references db = true ∧ db' = store db t := by
  simp only [insertRow]
  cases (table db).insert row with
  | error violated => simp
  | ok t =>
    cases hr : references db
    · simp
    · simp [eq_comm]

lemma updateRows_eq_ok {p : ρ → Bool} {f : ρ → ρ} {rows : List ρ} :
    updateRows table store p f db = .ok (rows, db') ↔
      ∃ t, (table db).update p f = some t ∧ rows = ((table db).rows.filter p).map f ∧
        db' = store db t := by
  simp only [updateRows]
  cases (table db).update p f with
  | none => simp
  | some t => simp [eq_comm]

lemma fetchOptional_eq_ok {p : ρ → Bool} {row : Option ρ} :
    fetchOptional table p db = .ok (row, db') ↔ row = (table db).rows.find? p ∧ db' = db := by
  simp only [fetchOptional, Tx.bind_eq_ok, Tx.get_eq_ok, Tx.pure_eq_ok]
  constructor
  · rintro ⟨_, _, ⟨rfl, rfl⟩, rfl, rfl⟩
    exact ⟨rfl, rfl⟩
  · rintro ⟨rfl, rfl⟩
    exact ⟨_, _, ⟨rfl, rfl⟩, rfl, rfl⟩

lemma insertRow_error {references : Db → Bool} {onError : String → ApiError} {row : ρ}
    {e : ApiError} (h : insertRow table store references onError row db = .error e) :
    (∃ violated, e = onError violated) ∨ e = dbInternal := by
  rw [insertRow] at h
  split at h
  · next violated _ => exact .inl ⟨violated, (Except.error.inj h).symm⟩
  · split at h
    · cases h
    · exact .inr (Except.error.inj h).symm

lemma updateRows_error {p : ρ → Bool} {f : ρ → ρ} {e : ApiError}
    (h : updateRows table store p f db = .error e) : e = dbInternal := by
  rw [updateRows] at h
  split at h
  · exact (Except.error.inj h).symm
  · cases h

lemma fetchOptional_ne_error {p : ρ → Bool} {e : ApiError} :
    fetchOptional table p db ≠ .error e := by
  simp only [fetchOptional, ne_eq, Tx.bind_eq_error, Tx.get_ne_error, Tx.pure_ne_error, and_false,
    exists_false, or_false, not_false_eq_true]

end Statements

/-! ## Which rows exist -/

/-- There is a user with the identifier. -/
def Db.hasUser (db : Db) (id : UserId) : Bool := db.users.rows.any fun u => u.id == id

/-- There is an order with the identifier. -/
def Db.hasOrder (db : Db) (id : OrderId) : Bool := db.orders.rows.any fun o => o.id == id

/-- There is a card key with the identifier. -/
def Db.hasCardKey (db : Db) (id : CardKeyId) : Bool := db.cardKeys.rows.any fun c => c.id == id

/-! ## Accounts -/

/-- Insert a tenant, unless it is there already. -/
def insertTenant (id : TenantId) : DbM Unit := fun db =>
  .ok ((), if id ∈ db.tenants then db else { db with tenants := db.tenants ++ [id] })

/-- Insert a user, who belongs to a tenant. -/
def insertUser (onError : String → ApiError) (user : User) : DbM Unit :=
  insertRow Db.users (fun db t => { db with users := t }) (fun db => user.tenantId ∈ db.tenants)
    onError user

/-- Find a user by the identifier. -/
def findUserById (id : UserId) : DbM (Option User) := fetchOptional Db.users (·.id == id)

/-- Take the lock of the row of a user. -/
def lockUserForUpdate (id : UserId) : DbM Unit := do
  if (← findUserById id).isNone then
    throw (.unauthorized "user not found")

/-! ## Orders -/

/-- Insert an order of a user. -/
def insertOrder (order : Order) : DbM Unit :=
  insertRow Db.orders (fun db t => { db with orders := t })
    (fun db => order.tenantId ∈ db.tenants && db.hasUser order.userId) (fun _ => dbInternal) order

/-- The update by which an administrator confirms a manual order. -/
def confirmManually (now : Time) (order : Order) : Order :=
  { order with status := .confirmed, paidAt := some now, confirmedAt := some now }

/-- Confirm the pending manual order selected by `p`, or say why there is none. -/
def confirmPendingOrderWhere (p : Order → Bool) (now : Time) : DbM Order := do
  let rows ← updateRows Db.orders (fun db t => { db with orders := t })
    (fun o => p o && o.status == .pendingManualPayment) (confirmManually now)
  match rows.head? with
  | some order => return order
  | none =>
    if (← fetchOptional Db.orders p).isSome then
      throw (.conflict "order is not pending manual payment")
    throw (.notFound "order not found")

/-- Confirm an order that waits for a manual payment, by its identifier. -/
def confirmPendingOrder (orderId : OrderId) (now : Time) : DbM Order :=
  confirmPendingOrderWhere (·.id == orderId) now

/-- Confirm an order that waits for a manual payment, by its reference. -/
def confirmPendingOrderByReference (paymentReference : String) (now : Time) : DbM Order :=
  confirmPendingOrderWhere (·.paymentReference == paymentReference) now

/-- The update by which an order gets its checkout session. -/
def attachSession (session : String) (order : Order) : Order :=
  { order with checkoutSessionId := some session, paymentReference := session }

/-- Note the checkout session that was made for an order. -/
def attachCheckoutSession (orderId : OrderId) (checkoutSessionId : String) : DbM Order := do
  let rows ← updateRows Db.orders (fun db t => { db with orders := t })
    (fun o => o.id == orderId && o.status == .pendingProviderPayment)
    (attachSession checkoutSessionId)
  match rows.head? with
  | some order => return order
  | none => throw (.conflict "order cannot attach checkout session")

/-- Find an order by its identifier and take its lock. -/
def findOrderByIdForUpdate (orderId : OrderId) : DbM (Option Order) :=
  fetchOptional Db.orders (·.id == orderId)

/-- Find an order by its provider and reference and take its lock. -/
def findProviderOrderByReferenceForUpdate (provider : PaymentProvider)
    (paymentReference : String) : DbM (Option Order) :=
  fetchOptional Db.orders fun o =>
    o.paymentProvider == provider && o.paymentReference == paymentReference

/-- The update by which a payment confirms the order. -/
def confirmPaid (paymentIntentId : Option String) (paidAt : Time) (order : Order) : Order :=
  { order with
    status := .confirmed
    paymentIntentId := paymentIntentId
    paidAt := some paidAt
    confirmedAt := some paidAt }

/-- Confirm an order that waits for its provider, with the payment that was made. -/
def confirmProviderOrder (orderId : OrderId) (paymentIntentId : Option String) (paidAt : Time) :
    DbM Order := do
  let rows ← updateRows Db.orders (fun db t => { db with orders := t })
    (fun o => o.id == orderId && o.status == .pendingProviderPayment)
    (confirmPaid paymentIntentId paidAt)
  match rows.head? with
  | some order => return order
  | none => throw (.conflict "order is not pending provider payment")

/-- Mark an event as dealt with; `false` when it had been before. -/
def insertPaymentEvent (provider : PaymentProvider) (eventId eventType : String)
    (orderId : Option OrderId) (payloadHash : String) (now : Time) : DbM Bool := do
  if (← get).paymentEvents.rows.any fun e => e.provider == provider && e.eventId == eventId then
    return false
  insertRow Db.paymentEvents (fun db t => { db with paymentEvents := t })
    (fun db => orderId.all db.hasOrder) (fun _ => dbInternal)
    { provider := provider, eventId := eventId, eventType := eventType, orderId := orderId,
      payloadHash := payloadHash, receivedAt := now }
  return true

/-! ## Card keys and entitlements -/

/-- Insert a card key, for an order or by itself. -/
def insertCardKey (onError : String → ApiError) (cardKey : CardKey) (orderId : Option OrderId) :
    DbM Unit :=
  insertRow Db.cardKeys (fun db t => { db with cardKeys := t })
    (fun db => cardKey.tenantId ∈ db.tenants && orderId.all db.hasOrder &&
      cardKey.redeemedBy.all db.hasUser)
    onError { cardKey with orderId := orderId }

/-- Find a card key by the fingerprint of its code and take its lock. -/
def findCardKeyByFingerprintForUpdate (fingerprint : String) : DbM (Option CardKeyRow) :=
  fetchOptional Db.cardKeys (·.codeFingerprint == fingerprint)

/-- The update by which a card key is redeemed. -/
def redeemBy (userId : UserId) (redeemedAt : Time) (card : CardKeyRow) : CardKeyRow :=
  { card with status := .redeemed, redeemedBy := some userId, redeemedAt := some redeemedAt }

/-- Mark an available card key as redeemed by a user. -/
def markCardKeyRedeemed (cardKeyId : CardKeyId) (userId : UserId) (redeemedAt : Time) :
    DbM Unit := do
  let rows ← updateRows Db.cardKeys (fun db t => { db with cardKeys := t })
    (fun c => c.id == cardKeyId && c.status == .available) (redeemBy userId redeemedAt)
  -- the foreign key on `redeemed_by` is tested when a row has changed
  if !rows.isEmpty && !(← get).hasUser userId then
    throw dbInternal
  if rows.isEmpty then
    throw (.conflict "card key is not available")

/-- Insert an entitlement that comes from a card key. -/
def insertEntitlement (onError : String → ApiError) (entitlement : Entitlement) : DbM Unit :=
  insertRow Db.entitlements (fun db t => { db with entitlements := t })
    (fun db => entitlement.tenantId ∈ db.tenants && db.hasUser entitlement.userId &&
      db.hasCardKey entitlement.sourceCardKeyId)
    onError entitlement

/-- The update by which an entitlement is revoked. -/
def revokeAt (now : Time) (entitlement : Entitlement) : Entitlement :=
  { entitlement with revokedAt := some now }

/-- Revoke an entitlement. -/
def revokeEntitlementById (entitlementId : EntitlementId) (now : Time) :
    DbM (Option Entitlement) := do
  let rows ← updateRows Db.entitlements (fun db t => { db with entitlements := t })
    (·.id == entitlementId) (revokeAt now)
  return rows.head?

/-- The unexpired and unrevoked entitlements of a user, each with its card key. -/
def Db.activeEntitlements (db : Db) (userId : UserId) (now : Time) :
    List (Entitlement × CardKeyRow) :=
  (db.entitlements.rows.filter fun e =>
      e.userId == userId && e.revokedAt.isNone && decide (now < e.expiresAt)).flatMap fun e =>
    (db.cardKeys.rows.filter (·.id == e.sourceCardKeyId)).map fun c => (e, c)

/-- The order `cardinality(features) DESC, max_devices DESC, expires_at DESC`: whether `a` has to
come before `b`. -/
def outranks (a b : Entitlement × CardKeyRow) : Bool :=
  decide (b.1.features.length < a.1.features.length) ||
    (a.1.features.length == b.1.features.length &&
      (decide (b.2.maxDevices < a.2.maxDevices) ||
        (a.2.maxDevices == b.2.maxDevices && decide (b.1.expiresAt < a.1.expiresAt))))

/-- The first row in that order; `tie` decides between rows of the same rank. -/
def firstByRank (tie : ℕ) (rows : List (Entitlement × CardKeyRow)) :
    Option (Entitlement × CardKeyRow) :=
  let first := rows.filter fun a => !rows.any fun b => outranks b a
  first[tie % first.length]?

/-- The active entitlement of a user that ranks first; a choice among equals is left open. -/
def findActiveEntitlementForUser (userId : UserId) (now : Time) (tie : ℕ) :
    DbM (Option Entitlement) := do
  return (firstByRank tie ((← get).activeEntitlements userId now)).map (·.1)

/-- The device limit of the entitlement that is selected. -/
def findActiveEntitlementWithCardLimitForUser (userId : UserId) (now : Time) (tie : ℕ) :
    DbM (Option UInt8) := do
  return (firstByRank tie ((← get).activeEntitlements userId now)).map (·.2.maxDevices)

/-! ## Devices -/

/-- Insert a device, or bring the one with the same fingerprint up to date. -/
def upsertDevice (device : Device) : DbM Device := do
  let same : Device → Bool := fun d =>
    d.userId == device.userId && d.fingerprintHash == device.fingerprintHash
  if (← get).devices.rows.any same then
    let rows ← updateRows Db.devices (fun db t => { db with devices := t }) same fun d =>
      { d with name := device.name, status := .active, lastSeenAt := device.lastSeenAt }
    match rows.head? with
    | some stored => return stored
    | none => throw dbInternal
  else
    insertRow Db.devices (fun db t => { db with devices := t })
      (fun db => device.tenantId ∈ db.tenants && db.hasUser device.userId) (fun _ => dbInternal)
      device
    return device

/-- Find a device of a user by its fingerprint. -/
def findDeviceByFingerprint (userId : UserId) (fingerprintHash : String) : DbM (Option Device) :=
  fetchOptional Db.devices fun d => d.userId == userId && d.fingerprintHash == fingerprintHash

/-- Find an active device of a user by its identifier. -/
def findActiveDevice (deviceId : DeviceId) (userId : UserId) : DbM (Option Device) :=
  fetchOptional Db.devices fun d => d.id == deviceId && d.userId == userId && d.status == .active

/-- How many devices of the user are active. -/
def Db.activeDevices (db : Db) (userId : UserId) : ℕ :=
  db.devices.rows.countP fun d => d.userId == userId && d.status == .active

/-- How many active devices a user has. -/
def countActiveDevicesForUser (userId : UserId) : DbM ℕ := do
  return (← get).activeDevices userId

/-- Note when a device was seen last. -/
def touchDeviceLastSeen (deviceId : DeviceId) (seenAt : Time) : DbM Unit := do
  let _ ← updateRows Db.devices (fun db t => { db with devices := t }) (·.id == deviceId)
    (fun d => { d with lastSeenAt := some seenAt })

/-! ## The audit log -/

/-- Add an event to the audit log. -/
def insertAudit (event : AuditEvent) : DbM Unit :=
  insertRow Db.auditEvents (fun db t => { db with auditEvents := t })
    (fun db => event.tenantId.all (· ∈ db.tenants)) (fun _ => dbInternal) event

end OzonSuite
