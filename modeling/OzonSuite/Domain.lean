/-
# The domain types shared by the cloud and the local node

The types of the `ozon-domain` crate: identifiers, tasks and their life cycle, orders, card
keys, devices, entitlements and the leases made from them.  An instant is an integer number of
microseconds since the Unix epoch, the precision of the database columns that store it.
-/
import OzonSuite.Lib.Digits

namespace OzonSuite

open Lib

/-- An instant, in microseconds since the Unix epoch. -/
abbrev Time := ℤ

/-- The length of `hours` hours. -/
def Time.hours (hours : ℕ) : ℤ := hours * 3600000000

/-- The length of `days` days. -/
def Time.days (days : ℕ) : ℤ := days * 86400000000

/-! ## Identifiers -/

/-- A 128-bit identifier. -/
structure Uuid where
  /-- The identifier as a number. -/
  bits : BitVec 128
deriving DecidableEq

/-- The identifier with the given number. -/
def Uuid.ofNat (n : ℕ) : Uuid := ⟨BitVec.ofNat 128 n⟩

/-- The characters of the printed form: 32 hexadecimal digits in five groups. -/
def Uuid.toText (u : Uuid) : List Char :=
  let digits := hexText 32 u.bits.toNat
  digits.take 8 ++ '-' :: ((digits.drop 8).take 4 ++ '-' :: ((digits.drop 12).take 4 ++
    '-' :: ((digits.drop 16).take 4 ++ '-' :: digits.drop 20)))

/-- The hyphenated lower-case form printed by `Display`. -/
def Uuid.toString (u : Uuid) : String := String.ofList u.toText

instance : ToString Uuid := ⟨Uuid.toString⟩

/-- Removing the hyphens of the printed form gives the digits back. -/
lemma Uuid.filter_toText (u : Uuid) :
    u.toText.filter (· ≠ '-') = hexText 32 u.bits.toNat := by
  have hdigits : ∀ c ∈ hexText 32 u.bits.toNat, decide (c ≠ '-') = true := by
    intro c hc
    have hmem := mem_hexText hc
    simp only [decide_eq_true_eq]
    rintro rfl
    exact absurd hmem (by decide)
  simp only [Uuid.toText]
  generalize hexText 32 u.bits.toNat = digits at hdigits
  have htake : ∀ m n, ((digits.drop m).take n).filter (· ≠ '-') = (digits.drop m).take n :=
    fun m n => List.filter_eq_self.mpr fun c hc =>
      hdigits c (List.mem_of_mem_drop (List.mem_of_mem_take hc))
  have hdrop : ∀ m n, (digits.drop m).take n ++ digits.drop (m + n) = digits.drop m := by
    intro m n
    rw [← List.drop_drop, List.take_append_drop]
  have hlast : (digits.drop 20).filter (· ≠ '-') = digits.drop 20 :=
    List.filter_eq_self.mpr fun c hc => hdigits c (List.mem_of_mem_drop hc)
  have hfirst : (digits.take 8).filter (· ≠ '-') = digits.take 8 :=
    List.filter_eq_self.mpr fun c hc => hdigits c (List.mem_of_mem_take hc)
  have hdash : ∀ l : List Char, ('-' :: l).filter (· ≠ '-') = l.filter (· ≠ '-') :=
    fun l => List.filter_cons_of_neg (by decide)
  simp only [List.filter_append, hdash, htake, hlast, hfirst]
  rw [hdrop 16 4, hdrop 12 4, hdrop 8 4, List.take_append_drop]

/-- The printed form determines the identifier. -/
theorem Uuid.toText_injective : Function.Injective Uuid.toText := by
  rintro ⟨u⟩ ⟨v⟩ h
  have hdigits : hexText 32 u.toNat = hexText 32 v.toNat := by
    rw [← Uuid.filter_toText ⟨u⟩, ← Uuid.filter_toText ⟨v⟩, h]
  have hval := hexText_injective (by simpa using u.isLt) (by simpa using v.isLt) hdigits
  rw [BitVec.eq_of_toNat_eq hval]

lemma Uuid.toString_injective : Function.Injective Uuid.toString := by
  intro u v h
  apply Uuid.toText_injective
  have hlist := congrArg String.toList h
  simpa [Uuid.toString] using hlist

/-- The identifier of a tenant. -/
@[ext] structure TenantId where
  uuid : Uuid
deriving DecidableEq

/-- The identifier of a user. -/
@[ext] structure UserId where
  uuid : Uuid
deriving DecidableEq

/-- The identifier of an order. -/
structure OrderId where
  uuid : Uuid
deriving DecidableEq

/-- The identifier of a card key. -/
structure CardKeyId where
  uuid : Uuid
deriving DecidableEq

/-- The identifier of a device. -/
@[ext] structure DeviceId where
  uuid : Uuid
deriving DecidableEq

/-- The identifier of an entitlement. -/
@[ext] structure EntitlementId where
  uuid : Uuid
deriving DecidableEq

/-- The identifier of a task. -/
structure TaskId where
  uuid : Uuid
deriving DecidableEq

/-- The identifier of an approval. -/
structure ApprovalId where
  uuid : Uuid
deriving DecidableEq

/-- The identifier of an audit event. -/
structure AuditEventId where
  uuid : Uuid
deriving DecidableEq

/-- The derived `Debug` form of a task identifier. -/
def TaskId.debug (id : TaskId) : String := s!"TaskId({id.uuid})"

lemma TaskId.debug_injective : Function.Injective TaskId.debug := by
  rintro ⟨u⟩ ⟨v⟩ h
  have htext : "TaskId(" ++ u.toString ++ ")" = "TaskId(" ++ v.toString ++ ")" := h
  have hlist := congrArg String.toList htext
  simp only [String.toList_append] at hlist
  have huuid := String.toList_inj.mp (List.append_cancel_left (List.append_cancel_right hlist))
  rw [Uuid.toString_injective huuid]

/-! ## Tasks -/

/-- Where a task comes from. -/
inductive TaskSource
  | localUi
  | openClaw
  | chromeExtension
  | admin
deriving DecidableEq

/-- What a task is to do. -/
inductive OperationKind
  | ozonProductsCount
  | ozonProductsList
  | ozonProductsGet
  | ozonUpdatePriceMock
  | ozonUpdateInventoryMock
  | ozonJoinPromotionMock
  | draftUploadMock
  | import1688Mock
deriving DecidableEq

namespace OperationKind

/-- Whether the operation changes anything at the marketplace. -/
def isWrite : OperationKind → Bool
  | ozonProductsCount | ozonProductsList | ozonProductsGet => false
  | _ => true

/-- The derived `Debug` form. -/
def debug : OperationKind → String
  | ozonProductsCount => "OzonProductsCount"
  | ozonProductsList => "OzonProductsList"
  | ozonProductsGet => "OzonProductsGet"
  | ozonUpdatePriceMock => "OzonUpdatePriceMock"
  | ozonUpdateInventoryMock => "OzonUpdateInventoryMock"
  | ozonJoinPromotionMock => "OzonJoinPromotionMock"
  | draftUploadMock => "DraftUploadMock"
  | import1688Mock => "Import1688Mock"

end OperationKind

/-- Where a task is in its life cycle. -/
inductive TaskState
  | draft
  | pendingApproval
  | queued
  | running
  | succeeded
  | failed
  | cancelled
deriving DecidableEq

/-- The transitions a task may make. -/
def TaskState.canTransitionTo : TaskState → TaskState → Bool
  | draft, pendingApproval => true
  | draft, queued => true
  | pendingApproval, queued => true
  | pendingApproval, cancelled => true
  | queued, running => true
  | queued, cancelled => true
  | running, succeeded => true
  | running, failed => true
  | running, cancelled => true
  | _, _ => false

/-- How risky an operation is taken to be. -/
inductive RiskLevel
  | low
  | medium
  | high
  | critical
deriving DecidableEq

/-- A change of one field, as a dry run shows it. -/
structure FieldChange where
  objectId : String
  field : String
  before : Option String
  after : Option String
deriving DecidableEq

/-- What a dry run shows before a task is approved. -/
structure DryRunDiff where
  summary : String
  targetCount : UInt32
  changes : List FieldChange
  warnings : List String
deriving DecidableEq

/-- Who approved a task, and when. -/
structure ApprovalRecord where
  id : ApprovalId
  approvedBy : String
  approvedAt : Time
  note : Option String
deriving DecidableEq

/-- What came of the execution of a task. -/
structure ExecutionReceipt where
  externalRequestId : Option String
  executedAt : Time
  resultSummary : String
deriving DecidableEq

/-- A task, with its dry run, its approval and its receipt. -/
structure Task where
  id : TaskId
  tenantId : TenantId
  shopId : String
  source : TaskSource
  operation : OperationKind
  state : TaskState
  dryRun : DryRunDiff
  risk : RiskLevel
  idempotencyKey : String
  approval : Option ApprovalRecord
  receipt : Option ExecutionReceipt
  createdAt : Time
  updatedAt : Time
deriving DecidableEq

/-- An entry of the audit log. -/
structure AuditEvent where
  id : AuditEventId
  tenantId : Option TenantId
  actor : String
  action : String
  target : String
  summary : String
  createdAt : Time
deriving DecidableEq

/-- The errors of the domain crate that the task engine can meet. -/
inductive DomainError
  | invalidTaskTransition (source target : TaskState)
  | writeRequiresApproval
deriving DecidableEq

/-! ## Accounts, orders and card keys -/

/-- What a user is allowed to do. -/
inductive UserRole
  | user
  | admin
deriving DecidableEq

/-- Where the Nebula ID of a user comes from. -/
inductive NebulaSource
  | skybridge
  | localDev
deriving DecidableEq

/-- A user, with the fields that decide about uniqueness and about test access. -/
structure User where
  id : UserId
  tenantId : TenantId
  nebulaId : String
  nebulaSource : NebulaSource
  skybridgeUserId : Option Uuid
  email : Option String
  phone : Option String
  emailVerifiedAt : Option Time
  phoneVerifiedAt : Option Time
deriving DecidableEq

/-- The code of a plan. -/
structure PlanCode where
  code : String
deriving DecidableEq

/-- The plan of thirty days. -/
def PlanCode.standard30d : PlanCode := ⟨"standard_30d"⟩

/-- Where an order is on its way to payment. -/
inductive OrderStatus
  | pendingManualPayment
  | pendingProviderPayment
  | confirmed
  | cancelled
deriving DecidableEq

/-- Who an order is paid through. -/
inductive PaymentProvider
  | manual
  | stripe
  | alipay
  | wechatPay
deriving DecidableEq

/-- An order of a plan. -/
structure Order where
  id : OrderId
  tenantId : TenantId
  userId : UserId
  planCode : PlanCode
  status : OrderStatus
  paymentProvider : PaymentProvider
  paymentReference : String
  amountMinor : ℤ
  currency : String
  checkoutSessionId : Option String
  paymentIntentId : Option String
  paidAt : Option Time
  createdAt : Time
  confirmedAt : Option Time
deriving DecidableEq

/-- Whether a card key can still be redeemed. -/
inductive CardKeyStatus
  | available
  | redeemed
  | revoked
deriving DecidableEq

/-- A card key, known by the hash of its code. -/
structure CardKey where
  id : CardKeyId
  tenantId : TenantId
  planCode : PlanCode
  codeHash : String
  codeFingerprint : String
  durationDays : UInt16
  maxDevices : UInt8
  status : CardKeyStatus
  redeemedBy : Option UserId
  redeemedAt : Option Time
  createdAt : Time
deriving DecidableEq

/-! ## Devices, entitlements and leases -/

/-- Whether a device may be used. -/
inductive DeviceStatus
  | active
  | revoked
deriving DecidableEq

/-- A device that a user has activated. -/
structure Device where
  id : DeviceId
  tenantId : TenantId
  userId : UserId
  name : String
  fingerprintHash : String
  status : DeviceStatus
  activatedAt : Time
  lastSeenAt : Option Time
deriving DecidableEq

/-- A feature that an entitlement grants. -/
inductive Feature
  | ozonRead
  | ozonWriteMock
  | draftImport1688Mock
  | openClawBridge
  | localApproval
deriving DecidableEq

/-- What a redeemed card key entitles its user to. -/
structure Entitlement where
  id : EntitlementId
  tenantId : TenantId
  userId : UserId
  planCode : PlanCode
  sourceCardKeyId : CardKeyId
  features : List Feature
  expiresAt : Time
  revokedAt : Option Time
deriving DecidableEq

/-- The signature of a lease, and what it was made with. -/
structure EntitlementLeaseSignature where
  alg : String
  kid : String
  issuer : String
  audience : String
  value : String
deriving DecidableEq

/-- What the signature of a lease covers. -/
@[ext] structure EntitlementLeaseClaims where
  leaseId : Uuid
  tenantId : TenantId
  userId : UserId
  deviceId : DeviceId
  entitlementId : EntitlementId
  features : List Feature
  issuedAt : Time
  expiresAt : Time
deriving DecidableEq

/-- A lease of an entitlement to one device. -/
structure EntitlementLease where
  leaseId : Uuid
  tenantId : TenantId
  userId : UserId
  deviceId : DeviceId
  entitlementId : EntitlementId
  features : List Feature
  issuedAt : Time
  expiresAt : Time
  signature : Option EntitlementLeaseSignature
deriving DecidableEq

/-- A new lease on an entitlement: for 24 hours, but no longer than the entitlement. -/
def EntitlementLease.new (tenantId : TenantId) (userId : UserId) (deviceId : DeviceId)
    (entitlement : Entitlement) (leaseId : Uuid) (now : Time) : EntitlementLease :=
  { leaseId := leaseId
    tenantId := tenantId
    userId := userId
    deviceId := deviceId
    entitlementId := entitlement.id
    features := entitlement.features
    issuedAt := now
    expiresAt := min (now + Time.hours 24) entitlement.expiresAt
    signature := none }

/-- What is signed of a lease: everything but the signature. -/
def EntitlementLease.claims (lease : EntitlementLease) : EntitlementLeaseClaims :=
  { leaseId := lease.leaseId
    tenantId := lease.tenantId
    userId := lease.userId
    deviceId := lease.deviceId
    entitlementId := lease.entitlementId
    features := lease.features
    issuedAt := lease.issuedAt
    expiresAt := lease.expiresAt }

/-- The namespace of device identifiers. -/
def deviceNamespace : Uuid := ⟨0x6f7a6f6e36365f646576696365_5f6964⟩

/-- The identity of a device, made from the user and the fingerprint of the machine alone;
`newV5` makes a version 5 identifier from a namespace and a name. -/
def deviceIdFor (newV5 : Uuid → String → Uuid) (userId : UserId) (fingerprint : String) :
    DeviceId :=
  ⟨newV5 deviceNamespace s!"{userId.uuid}:{fingerprint}"⟩

end OzonSuite
