/-
# The database of the cloud service

The tables as the migrations leave them, with their primary keys, unique constraints and checks.
The status columns are enumerations here, which is what their checks say.  No statement of the
service deletes a row.
-/
import OzonSuite.Domain
import OzonSuite.Lib.AsciiText
import OzonSuite.Lib.Table

namespace OzonSuite

open Lib

/-- A row of `card_keys`: a card key and the order it was made for. -/
structure CardKeyRow extends CardKey where
  orderId : Option OrderId
deriving DecidableEq

/-- A row of `payment_events`: an event of a payment provider that has been dealt with. -/
structure PaymentEvent where
  provider : PaymentProvider
  eventId : String
  eventType : String
  orderId : Option OrderId
  payloadHash : String
  receivedAt : Time
deriving DecidableEq

/-- The constraints of the table of users. -/
def usersSchema : Schema User where
  checks := [("chk_users_identity_anchor", fun u => match u.nebulaSource with
    | .skybridge => u.skybridgeUserId.isSome
    | .localDev => u.skybridgeUserId.isNone && (u.email.isSome || u.phone.isSome))]
  uniques := [("users_pkey", agreeOn fun u => some u.id),
    ("uq_users_email", agreeOn User.email),
    ("uq_users_nebula_id", agreeOn fun u => some u.nebulaId),
    ("uq_users_phone", agreeOn User.phone),
    ("uq_users_skybridge_user_id", agreeOn User.skybridgeUserId)]

/-- The constraints of the table of orders. -/
def ordersSchema : Schema Order where
  checks := [("orders_amount_minor_check", fun o => decide (0 ≤ o.amountMinor)),
    ("orders_currency_check", fun o =>
      o.currency.toList.length == 3 && o.currency.toList.all fun c => 'a' ≤ c && c ≤ 'z')]
  uniques := [("orders_pkey", agreeOn fun o => some o.id),
    ("uq_orders_payment_reference", agreeOn fun o => some o.paymentReference),
    ("uq_orders_checkout_session_id", agreeOn Order.checkoutSessionId)]

/-- The constraints of the table of card keys. -/
def cardKeysSchema : Schema CardKeyRow where
  checks := [("card_keys_duration_days_check", fun c => decide (0 < c.durationDays)),
    ("card_keys_max_devices_check", fun c => decide (0 < c.maxDevices))]
  uniques := [("card_keys_pkey", agreeOn fun c => some c.id),
    ("uq_card_keys_order_id", agreeOn CardKeyRow.orderId),
    ("uq_card_keys_code_fingerprint", agreeOn fun c => some c.codeFingerprint)]

/-- The constraints of the table of devices. -/
def devicesSchema : Schema Device where
  checks := []
  uniques := [("devices_pkey", agreeOn fun d => some d.id),
    ("uq_devices_user_fingerprint", agreeOn fun d => some (d.userId, d.fingerprintHash))]

/-- The constraints of the table of entitlements. -/
def entitlementsSchema : Schema Entitlement where
  checks := []
  uniques := [("entitlements_pkey", agreeOn fun e => some e.id),
    ("uq_entitlements_source_card_key", agreeOn fun e => some e.sourceCardKeyId)]

/-- The constraints of the table of payment events. -/
def paymentEventsSchema : Schema PaymentEvent where
  checks := [("payment_events_provider_check", fun e => e.provider != .manual)]
  uniques := [("payment_events_pkey", agreeOn fun e => some (e.provider, e.eventId))]

/-- The constraints of the audit log. -/
def auditEventsSchema : Schema AuditEvent where
  checks := []
  uniques := [("audit_events_pkey", agreeOn fun e => some e.id)]

/-- The database. -/
structure Db where
  tenants : List TenantId
  users : Table usersSchema
  orders : Table ordersSchema
  cardKeys : Table cardKeysSchema
  devices : Table devicesSchema
  entitlements : Table entitlementsSchema
  paymentEvents : Table paymentEventsSchema
  auditEvents : Table auditEventsSchema

namespace Db

/-- The database after the migrations. -/
def empty : Db :=
  { tenants := []
    users := .empty _
    orders := .empty _
    cardKeys := .empty _
    devices := .empty _
    entitlements := .empty _
    paymentEvents := .empty _
    auditEvents := .empty _ }

end Db

/-! ## The keys by name -/

lemma orders_pkey :
    ("orders_pkey", agreeOn fun o : Order => some o.id) ∈ ordersSchema.uniques := by
  simp [ordersSchema]

lemma uq_orders_payment_reference :
    ("uq_orders_payment_reference", agreeOn fun o : Order => some o.paymentReference) ∈
      ordersSchema.uniques := by
  simp [ordersSchema]

lemma uq_orders_checkout_session_id :
    ("uq_orders_checkout_session_id", agreeOn Order.checkoutSessionId) ∈
      ordersSchema.uniques := by
  simp [ordersSchema]

lemma card_keys_pkey :
    ("card_keys_pkey", agreeOn fun c : CardKeyRow => some c.id) ∈ cardKeysSchema.uniques := by
  simp [cardKeysSchema]

lemma uq_card_keys_order_id :
    ("uq_card_keys_order_id", agreeOn CardKeyRow.orderId) ∈ cardKeysSchema.uniques := by
  simp [cardKeysSchema]

lemma uq_entitlements_source_card_key :
    ("uq_entitlements_source_card_key", agreeOn fun e : Entitlement => some e.sourceCardKeyId) ∈
      entitlementsSchema.uniques := by
  simp [entitlementsSchema]

lemma uq_devices_user_fingerprint :
    ("uq_devices_user_fingerprint",
      agreeOn fun d : Device => some (d.userId, d.fingerprintHash)) ∈ devicesSchema.uniques := by
  simp [devicesSchema]

lemma payment_events_pkey :
    ("payment_events_pkey", agreeOn fun e : PaymentEvent => some (e.provider, e.eventId)) ∈
      paymentEventsSchema.uniques := by
  simp [paymentEventsSchema]

end OzonSuite
