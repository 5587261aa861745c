/-
# The cloud service as a machine

Every request that changes the database is a label; requests that are one transaction are one
step, since transactions are atomic.  Activations and leases take a step for each statement, so
that other requests run in between; the creation of a Stripe order takes a second step when the
checkout session has been made.  The configuration is part of the label, as the service may be
restarted with another one.
-/
import OzonSuite.Cloud.Licensing
import OzonSuite.Cloud.Payments
import OzonSuite.Cloud.Signing
import OzonSuite.Lib.Lookups
import OzonSuite.Lib.Machine

namespace OzonSuite

open Lib

/-- The database, and the requests of more than one step: all that there have been, in the order
in which they came; one that has come to its end is `none`. -/
structure Cloud where
  db : Db
  /-- Stripe orders whose checkout session is being made. -/
  checkouts : List (Option OrderId)
  activations : List (Option Activation)
  issuances : List (Option Issuance)

/-- The service before its first request. -/
def Cloud.start (db : Db) : Cloud :=
  { db := db, checkouts := [], activations := [], issuances := [] }

/-- A database in which nothing has been sold yet: it may hold users, devices, orders that have
not been confirmed and card keys that have not been redeemed. -/
structure Db.Unsold (db : Db) : Prop where
  orders : ∀ o ∈ db.orders.rows, o.status ≠ .confirmed ∧
    (o.status = .pendingManualPayment → o.paymentProvider = .manual) ∧
    (o.status = .pendingProviderPayment → o.paymentProvider ≠ .manual)
  cardKeys : ∀ k ∈ db.cardKeys.rows, k.orderId = none ∧ k.status ≠ .redeemed
  entitlements : db.entitlements.rows = []
  paymentEvents : db.paymentEvents.rows = []

/-- The requests that have passed authentication, or whose signature has been verified. -/
inductive CloudRequest
  /-- `register`, or the first sign-in with SkyBridge. -/
  | register (user : User)
  /-- A later sign-in with SkyBridge, with the fields it updates. -/
  | syncSkybridge (userId : UserId) (profile : User)
  | me (userId : UserId)
  | createOrder (claims : AuthClaims) (planCode : Option String)
  /-- The answer of Stripe to the `i`-th checkout: the session, if one was made. -/
  | checkoutSession (i : ℕ) (session : Option String)
  | stripeWebhook (event : StripeWebhookEvent) (payloadHash : String)
  | wechatpayWebhook (event : WechatPayWebhookEvent) (transaction : WechatPayTransaction)
      (payloadHash : String)
  | confirmOrder (id : Uuid)
  | confirmOrderByReference (paymentReference : String)
  | createCardKeys (input : CreateCardKeysRequest)
  | redeemCardKey (claims : AuthClaims) (code : String)
  | revokeEntitlement (id : EntitlementId)
  | activateDevice (claims : AuthClaims) (input : ActivateDeviceRequest)
  /-- The next statement of the `i`-th activation. -/
  | activation (i : ℕ)
  | issueLease (claims : AuthClaims) (deviceId : DeviceId)
  /-- The next statement of the `i`-th request for a lease. -/
  | issuance (i : ℕ)
deriving DecidableEq

/-- A request with the configuration it meets and the values drawn for it.  When the connection
to the database is lost, its transaction is rolled back. -/
structure CloudLabel where
  config : AppConfig
  request : CloudRequest
  draw : Draw
  connected : Bool

/-- What the service answers a request with. -/
inductive CloudAnswer
  | refused (error : ApiError)
  /-- The request goes on, or there was nothing to do. -/
  | accepted
  | order (order : Order)
  /-- A webhook was acknowledged; whether it fulfilled an order. -/
  | acknowledged (processed : Bool)
  | confirmed (response : ConfirmOrderResponse)
  | cardKeys (plainCodes : List String)
  | entitlement (entitlement : Entitlement)
  | device (device : Device)
  | lease (lease : EntitlementLease)
deriving DecidableEq

/-- The answer to a request that has come to its end. -/
def CloudAnswer.of {α : Type} (done : α → CloudAnswer) : Except ApiError α → CloudAnswer
  | .ok a => done a
  | .error e => .refused e

/-- The transaction that stores a new user. -/
def registerTx (user : User) (draw : Draw) : DbM Unit := do
  insertTenant user.tenantId
  insertUser (fun _ => dbInternal) user
  insertAudit (audit draw 0 (some user.tenantId) "anonymous" "auth.register" user.nebulaId
    "user registered")

/-- The update of a user by the profile of SkyBridge. -/
def updateSkybridgeUser (userId : UserId) (profile : User) (now : Time) : DbM Unit := do
  let _ ← updateRows Db.users (fun db t => { db with users := t }) (·.id == userId) fun u =>
    { u with
      nebulaId := profile.nebulaId
      nebulaSource := .skybridge
      skybridgeUserId := profile.skybridgeUserId
      email := profile.email
      phone := profile.phone
      emailVerifiedAt := u.emailVerifiedAt.or (some now) }

/-- A user asks for the own account, and gets full access on the way. -/
def me (x : Crates) (config : AppConfig) (userId : UserId) (draw : Draw) (db : Db) :
    Except ApiError Unit × Db :=
  match db.users.rows.find? (·.id == userId) with
  | none => (.error (.unauthorized "user not found"), db)
  | some user => ensureTestFullAccessEntitlement x config user draw db

namespace Cloud

variable (x : Crates)

/-- Another activation holds the lock on the user. -/
def lockedBy (s : Cloud) (userId : UserId) : Bool :=
  s.activations.any fun a => a.any fun a => a.holdsLock && a.claims.sub == userId

/-- Take the answer and the database of a request that is one transaction. -/
def commit {α : Type} (s : Cloud) (done : α → CloudAnswer) (r : Except ApiError α × Db) :
    CloudAnswer × Cloud :=
  (.of done r.1, { s with db := r.2 })

/-- Create an order; a Stripe order then waits for its checkout session. -/
def stepCreateOrder (s : Cloud) (config : AppConfig) (claims : AuthClaims)
    (planCode : Option String) (draw : Draw) : CloudAnswer × Cloud :=
  match createOrder config claims planCode draw s.db with
  | (.error e, db) => (.refused e, { s with db := db })
  | (.ok order, db) =>
    let checkouts := if order.paymentProvider = .stripe then s.checkouts ++ [some order.id]
      else s.checkouts
    (.order order, { s with db := db, checkouts := checkouts })

/-- Stripe has answered the `i`-th checkout. -/
def stepCheckoutSession (s : Cloud) (i : ℕ) (session : Option String) : CloudAnswer × Cloud :=
  match slot s.checkouts i with
  | none => (.accepted, s)
  | some orderId =>
    let s := { s with checkouts := s.checkouts.set i none }
    match session with
    | none => (.refused ⟨.badGateway, "Stripe checkout is temporarily unavailable"⟩, s)
    | some session => s.commit .order (atomically (attachCheckoutSession orderId session) s.db)

/-- A device is activated, but for the lease that comes with it. -/
def stepActivateDevice (s : Cloud) (config : AppConfig) (claims : AuthClaims)
    (input : ActivateDeviceRequest) (draw : Draw) : CloudAnswer × Cloud :=
  match activateDevice x config claims input draw s.db with
  | (.error e, db) => (.refused e, { s with db := db })
  | (.ok a, db) => (.accepted, { s with db := db, activations := s.activations ++ [some a] })

/-- Run the next statement of the `i`-th activation. -/
def stepActivation (s : Cloud) (i : ℕ) (draw : Draw) : CloudAnswer × Cloud :=
  match slot s.activations i with
  | none => (.accepted, s)
  | some a =>
    match atomically (a.next x draw) s.db with
    | (.error e, db) => (.refused e, { s with db := db, activations := s.activations.set i none })
    | (.ok (.inl a), db) =>
      (.accepted, { s with db := db, activations := s.activations.set i (some a) })
    | (.ok (.inr device), db) =>
      (.device device, { s with db := db, activations := s.activations.set i none })

/-- A lease is asked for, but for its signature. -/
def stepIssueLease (s : Cloud) (config : AppConfig) (claims : AuthClaims) (deviceId : DeviceId)
    (draw : Draw) : CloudAnswer × Cloud :=
  match issueLease x config claims deviceId draw s.db with
  | (.error e, db) => (.refused e, { s with db := db })
  | (.ok issuance, db) =>
    (.accepted, { s with db := db, issuances := s.issuances ++ [some issuance] })

/-- Run the next statement of the `i`-th request for a lease. -/
def stepIssuance (s : Cloud) (config : AppConfig) (i : ℕ) (draw : Draw) : CloudAnswer × Cloud :=
  match slot s.issuances i with
  | none => (.accepted, s)
  | some issuance =>
    match atomically (issuance.next (signEntitlementLease x config draw) draw) s.db with
    | (.error e, db) => (.refused e, { s with db := db, issuances := s.issuances.set i none })
    | (.ok (.inl issuance), db) =>
      (.accepted, { s with db := db, issuances := s.issuances.set i (some issuance) })
    | (.ok (.inr lease), db) =>
      (.lease lease, { s with db := db, issuances := s.issuances.set i none })

/-- A request that is under way and loses its connection is given up. -/
def abort (s : Cloud) : CloudRequest → Cloud
  | .checkoutSession i _ => { s with checkouts := s.checkouts.set i none }
  | .activation i => { s with activations := s.activations.set i none }
  | .issuance i => { s with issuances := s.issuances.set i none }
  | _ => s

/-- One step of the service. -/
def step (s : Cloud) (l : CloudLabel) : CloudAnswer × Cloud :=
  if !l.connected then (.refused dbInternal, s.abort l.request)
  else match l.request with
  | .register user => s.commit (fun _ => .accepted) (atomically (registerTx user l.draw) s.db)
  | .syncSkybridge userId profile =>
    s.commit (fun _ => .accepted)
      (atomically (updateSkybridgeUser userId profile (l.draw.clock 0)) s.db)
  | .me userId => s.commit (fun _ => .accepted) (me x l.config userId l.draw s.db)
  | .createOrder claims planCode => s.stepCreateOrder l.config claims planCode l.draw
  | .checkoutSession i session => s.stepCheckoutSession i session
  | .stripeWebhook event payloadHash =>
    s.commit .acknowledged (stripeWebhook x event payloadHash l.draw s.db)
  | .wechatpayWebhook event transaction payloadHash =>
    s.commit .acknowledged
      (processWechatpayTransaction x l.config event transaction payloadHash l.draw s.db)
  | .confirmOrder id => s.commit .confirmed (confirmOrder x id l.draw s.db)
  | .confirmOrderByReference paymentReference =>
    s.commit .confirmed (confirmOrderByReference x paymentReference l.draw s.db)
  | .createCardKeys input => s.commit .cardKeys (createCardKeys x input l.draw s.db)
  | .redeemCardKey claims code => s.commit .entitlement (redeemCardKey x claims code l.draw s.db)
  | .revokeEntitlement id => s.commit .entitlement (revokeEntitlement id l.draw s.db)
  | .activateDevice claims input => s.stepActivateDevice x l.config claims input l.draw
  | .activation i => s.stepActivation x i l.draw
  | .issueLease claims deviceId => s.stepIssueLease x l.config claims deviceId l.draw
  | .issuance i => s.stepIssuance x l.config i l.draw

/-- A step that has to wait: an activation takes the lock on a user that another one holds. -/
def waits (s : Cloud) (l : CloudLabel) : Bool :=
  match l.request with
  | .activation i => (slot s.activations i).any fun a => !a.holdsLock && s.lockedBy a.claims.sub
  | _ => false

end Cloud

/-- The cloud service, which starts on any database in which nothing has been sold. -/
def cloudMachine (x : Crates) : Machine Cloud CloudLabel CloudAnswer where
  init s := s = .start s.db ∧ s.db.Unsold
  enabled s l := s.waits l = false
  step s l := s.step x l

instance (x : Crates) (s : Cloud) (l : CloudLabel) : Decidable ((cloudMachine x).enabled s l) :=
  inferInstanceAs (Decidable (s.waits l = false))

end OzonSuite
