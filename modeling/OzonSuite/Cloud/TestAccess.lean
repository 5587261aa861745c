/-
# Test access, statement by statement

The requests that look at the entitlements of a user make sure first that a listed user has test
access.  This takes a transaction of its own, and other requests may run between its statements; the
lock on the row of the user is what keeps two of these transactions apart.  Here they run beside the
rest of the service, which goes on as in `cloudMachine`.
-/
import OzonSuite.Cloud.MoreEntitlements

namespace OzonSuite

open Lib

/-! ## Making sure of test access -/

/-- The requests that make sure of it. -/
inductive AccessRequest
  | me
  | activateDevice
  | issueLease
deriving DecidableEq

/-- How far the request has come. -/
inductive AccessPhase
  | called
  /-- The user has been read, and is on the list. -/
  | matched (user : User)
  /-- The lock is held. -/
  | locked (user : User)
  /-- At the given time there has been no entitlement on everything. -/
  | checked (user : User) (now : Time)
deriving DecidableEq

/-- A request that makes sure of test access. -/
structure AccessCall where
  config : AppConfig
  request : AccessRequest
  userId : UserId
  phase : AccessPhase

/-- Whether the request holds the lock on the row of its user. -/
def AccessCall.holdsLock (a : AccessCall) : Bool :=
  match a.phase with
  | .called | .matched _ => false
  | .locked _ | .checked _ _ => true

/-- Whether its next statement takes the lock. -/
def AccessCall.takesLock (a : AccessCall) : Bool :=
  match a.phase with
  | .matched _ => true
  | .called | .locked _ | .checked _ _ => false

/-- What it comes to. -/
inductive AccessOutcome
  /-- The user is not on the list. -/
  | unmatched
  /-- The user has an entitlement already. -/
  | present
  | granted (entitlement : Entitlement)
deriving DecidableEq

section Requests

variable (x : Crates)

/-- The part of `ensure_test_full_access_entitlement` that grants an entitlement. -/
def grantTestEntitlement (config : AppConfig) (user : User) (draw : Draw) : DbM Entitlement := do
  let durationDays := config.testFullAccessDurationDays
  let generated ← generateCardKey x draw 1 .standard30d user.tenantId durationDays
    config.testFullAccessMaxDevices
  insertCardKey (fun _ => dbInternal) generated.cardKey none
  let redeemedAt := draw.clock 2
  markCardKeyRedeemed generated.cardKey.id user.id redeemedAt
  let entitlement := newEntitlement (draw.uuid 2) user.tenantId user.id .standard30d
    generated.cardKey.id redeemedAt durationDays
  insertEntitlement (fun _ => dbInternal) entitlement
  insertAudit (audit draw 3 (some user.tenantId) (testFullAccessActor user)
    "test_entitlement.granted" (debugId "EntitlementId" entitlement.id.uuid)
    "test full-access entitlement granted from allowlist")
  return entitlement

/-- The next statement of the request; what is written is committed with the last one. -/
def AccessCall.next (a : AccessCall) (draw : Draw) : DbM (AccessCall ⊕ AccessOutcome) :=
  match a.phase with
  | .called => do
    if a.request ≠ .me && a.config.testFullAccessIdentities.isEmpty then
      return .inr .unmatched
    match ← findUserById a.userId with
    | none => throw (.unauthorized "user not found")
    | some user =>
      if testFullAccessMatches a.config user then return .inl { a with phase := .matched user }
      else return .inr .unmatched
  | .matched user => do
    lockUserForUpdate user.id
    return .inl { a with phase := .locked user }
  | .locked user => do
    if ← hasActiveFullAccessEntitlement user.id a.config.testFullAccessMaxDevices
        (draw.clock 0) then
      return .inr .present
    return .inl { a with phase := .checked user (draw.clock 0) }
  | .checked user _ => do
    return .inr (.granted (← grantTestEntitlement x a.config user draw))

end Requests

/-- Without anything between its statements, the transaction is that of `grantTestFullAccess`. -/
lemma grantTestFullAccess_eq (x : Crates) (config : AppConfig) (user : User) (draw : Draw) :
    grantTestFullAccess x config user draw = (do
      lockUserForUpdate user.id
      if ← hasActiveFullAccessEntitlement user.id config.testFullAccessMaxDevices
          (draw.clock 0) then
        return
      let _ ← grantTestEntitlement x config user draw
      return) := by
  simp only [grantTestFullAccess, grantTestEntitlement, bind_assoc, pure_bind, bind_pure_unit]

/-! ## The service -/

/-- The service and the requests that make sure of test access, each in a slot of its own. -/
structure AccessCloud where
  cloud : Cloud
  calls : List (Option AccessCall)

/-- A step of the service that grants full access. -/
inductive AccessLabel
  /-- A request comes in. -/
  | ensure (config : AppConfig) (request : AccessRequest) (userId : UserId)
  /-- The next statement of the `i`-th one, or the loss of its connection. -/
  | advance (i : ℕ) (draw : Draw) (connected : Bool)
  /-- A step of the rest of the service. -/
  | rest (l : CloudLabel)

/-- What a step answers. -/
inductive AccessAnswer
  | goesOn
  | refused (error : ApiError)
  | ensured (outcome : AccessOutcome)
  | rest (answer : CloudAnswer)

/-- What is left of a request when test access has been made sure of. -/
def CloudLabel.afterAccess (l : CloudLabel) : CloudLabel :=
  { l with config := { l.config with testFullAccessIdentities := [] } }

namespace AccessCloud

/-- Some request holds the lock on the user, for test access or for an activation. -/
def lockedBy (s : AccessCloud) (userId : UserId) : Bool :=
  s.cloud.lockedBy userId || s.calls.any fun a => a.any fun a => a.holdsLock && a.userId == userId

/-- A step that has to wait for the lock. -/
def waits (s : AccessCloud) : AccessLabel → Bool
  | .ensure _ _ _ => false
  | .advance i _ connected =>
    connected && (slot s.calls i).any fun a => a.takesLock && s.lockedBy a.userId
  | .rest l =>
    match l.request with
    | .activation i =>
      (slot s.cloud.activations i).any fun a => !a.holdsLock && s.lockedBy a.claims.sub
    | _ => false

variable (x : Crates)

/-- Run the next statement of the `i`-th request. -/
def stepCall (s : AccessCloud) (i : ℕ) (draw : Draw) (connected : Bool) :
    AccessAnswer × AccessCloud :=
  match slot s.calls i with
  | none => (.goesOn, s)
  | some a =>
    if !connected then (.refused dbInternal, { s with calls := s.calls.set i none })
    else
      let (answer, db) := atomically (a.next x draw) s.cloud.db
      let s := { s with cloud := { s.cloud with db := db } }
      match answer with
      | .error e => (.refused e, { s with calls := s.calls.set i none })
      | .ok (.inl a) => (.goesOn, { s with calls := s.calls.set i (some a) })
      | .ok (.inr outcome) => (.ensured outcome, { s with calls := s.calls.set i none })

/-- What a step does. -/
def step (s : AccessCloud) : AccessLabel → AccessAnswer × AccessCloud
  | .ensure config request userId =>
    (.goesOn, { s with
      calls := s.calls ++ [some ⟨config, request, userId, .called⟩] })
  | .advance i draw connected => s.stepCall x i draw connected
  | .rest l =>
    let (answer, cloud) := s.cloud.step x l.afterAccess
    (.rest answer, { s with cloud := cloud })

end AccessCloud

/-- The service with test access, on any database in which nothing has been sold. -/
def accessMachine (x : Crates) : Machine AccessCloud AccessLabel AccessAnswer where
  init s := (cloudMachine x).init s.cloud ∧ s.calls = []
  enabled s l := s.waits l = false
  step s l := s.step x l

instance (x : Crates) (s : AccessCloud) (l : AccessLabel) :
    Decidable ((accessMachine x).enabled s l) :=
  inferInstanceAs (Decidable (s.waits l = false))

end OzonSuite
