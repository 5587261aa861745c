/-
# Orders and payments

The creation of orders, the webhooks of the two payment providers from the verified event on, and
the confirmation of manual orders by an administrator.
-/
import OzonSuite.Cloud.Service

namespace OzonSuite

open Lib

/-! ## Creating an order -/

/-- A plan with its price. -/
structure PlanDefinition where
  code : PlanCode
  amountMinor : ℤ
  currency : String
deriving DecidableEq

/-- The plan that is asked for, with the price that is configured for the provider. -/
def planDefinition (config : AppConfig) (requestedCode : Option String) :
    Except ApiError PlanDefinition :=
  let code := ((requestedCode.map trim).filter (· ≠ "")).getD "standard_30d"
  if code = "standard_30d" then
    let (amountMinor, currency) := match config.paymentProvider with
      | .wechatPay =>
        (config.wechatStandardAmountMinor, toAsciiUppercase (trim config.wechatCurrency))
      | _ => (config.stripeStandardAmountMinor, toAsciiLowercase (trim config.stripeCurrency))
    .ok { code := .standard30d, amountMinor := amountMinor, currency := currency }
  else .error (.badRequest "unsupported plan code")

/-- The provider that orders are paid through. -/
def orderPaymentProvider : ConfiguredPaymentProvider → Except ApiError PaymentProvider
  | .manual => .ok .manual
  | .stripe => .ok .stripe
  | .alipay => .error (.serviceUnavailable
      "Alipay is not wired yet; configure Stripe or manual payments")
  | .wechatPay => .ok .wechatPay
  | .unknown provider => .error (.serviceUnavailable s!"unknown payment provider: {provider}")

/-- An identifier without hyphens. -/
def Uuid.simple (u : Uuid) : String := String.ofList (hexText 32 u.bits.toNat)

/-- The number under which WeChat Pay knows an order. -/
def wechatOutTradeNo (orderId : OrderId) : String := orderId.uuid.simple

/-- The order a request creates. -/
def newOrder (claims : AuthClaims) (plan : PlanDefinition) (draw : Draw) :
    PaymentProvider → Except ApiError Order := fun provider => do
  let orderId : OrderId := ⟨draw.uuid 0⟩
  let status ← match provider with
    | .manual => pure OrderStatus.pendingManualPayment
    | .stripe | .wechatPay => pure OrderStatus.pendingProviderPayment
    | .alipay => throw (.serviceUnavailable "selected payment provider is not wired yet")
  return {
    id := orderId
    tenantId := claims.tenantId
    userId := claims.sub
    planCode := plan.code
    status := status
    paymentProvider := provider
    paymentReference := match provider with
      | .manual => s!"OZON-{(draw.uuid 1).simple}"
      | .stripe => s!"stripe:{(draw.uuid 1).simple}"
      | _ => wechatOutTradeNo orderId
    amountMinor := plan.amountMinor
    currency := plan.currency
    checkoutSessionId := none
    paymentIntentId := none
    paidAt := none
    createdAt := draw.clock 0
    confirmedAt := none }

/-- The part of `create_order` up to the point where the order is stored. -/
def createOrder (config : AppConfig) (claims : AuthClaims) (planCode : Option String) (draw : Draw)
    (db : Db) : Except ApiError Order × Db :=
  let made : Except ApiError Order := do
    let plan ← planDefinition config planCode
    let provider ← orderPaymentProvider config.paymentProvider
    newOrder claims plan draw provider
  match made with
  | .error e => (.error e, db)
  | .ok order => db |> atomically (do
      insertOrder order
      insertAudit (audit draw 2 (some order.tenantId) (debugId "UserId" order.userId.uuid)
        "order.created" (debugId "OrderId" order.id.uuid)
        s!"{paymentProviderToDb order.paymentProvider} order created")
      return order)

/-! ## Fulfilment -/

/-- For how many days and how many devices a plan lasts. -/
def fulfillmentTermsForPlan (planCode : PlanCode) : DbM (UInt16 × UInt8) :=
  if planCode.code = "standard_30d" then return (30, 1)
  else throw (.badRequest "unsupported plan code")

/-- What a paid order is fulfilled with: a card key, redeemed at once, and its entitlement. -/
def provisionPaidOrderEntitlement (x : Crates) (order : Order) (actor summary : String)
    (draw : Draw) : DbM Entitlement := do
  let (durationDays, maxDevices) ← fulfillmentTermsForPlan order.planCode
  validateCardKeyLimits durationDays maxDevices
  let generated ← generateCardKey x draw 1 order.planCode order.tenantId durationDays maxDevices
  insertCardKey (mapUniqueConflict "uq_card_keys_order_id" "order already has a card key")
    generated.cardKey (some order.id)
  let redeemedAt := draw.clock 2
  markCardKeyRedeemed generated.cardKey.id order.userId redeemedAt
  let entitlement := newEntitlement (draw.uuid 2) order.tenantId order.userId order.planCode
    generated.cardKey.id redeemedAt durationDays
  insertEntitlement (mapUniqueConflict "uq_entitlements_source_card_key"
    "order entitlement is already active") entitlement
  insertAudit (audit draw 3 (some order.tenantId) actor "order.entitlement_activated"
    (debugId "OrderId" order.id.uuid) summary)
  return entitlement

/-! ## Stripe -/

/-- A JSON value, as far as the service looks at it. -/
inductive JsonValue
  | string (value : String)
  | other
deriving DecidableEq

/-- A checkout session, as a webhook of Stripe reports it. -/
structure StripeCheckoutSessionObject where
  id : String
  clientReferenceId : Option String
  metadata : Option (List (String × String))
  paymentStatus : Option String
  amountTotal : Option ℤ
  currency : Option String
  paymentIntent : Option JsonValue
deriving DecidableEq

/-- A verified event of Stripe; `object` is what its data object decodes to as a checkout
session. -/
structure StripeWebhookEvent where
  id : String
  kind : String
  object : Option StripeCheckoutSessionObject
deriving DecidableEq

/-- The order that a session is for. -/
def stripeSessionOrderId (x : Crates) (session : StripeCheckoutSessionObject) :
    Except ApiError OrderId :=
  match (session.metadata.bind fun m => m.lookup "order_id").or session.clientReferenceId with
  | none => .error (.badRequest "Stripe session missing order id")
  | some raw =>
    match x.parseUuid raw with
    | none => .error (.badRequest "Stripe session order id is invalid")
    | some id => .ok ⟨id⟩

/-- The session is the one of the order, with its amount and its currency. -/
def validateStripeSessionMatchesOrder (session : StripeCheckoutSessionObject) (order : Order) :
    DbM Unit := do
  if order.paymentProvider ≠ .stripe then
    throw (.badRequest "order is not a Stripe order")
  if order.checkoutSessionId ≠ some session.id then
    throw (.badRequest "Stripe session does not match order")
  if session.amountTotal ≠ some order.amountMinor then
    throw (.badRequest "Stripe amount does not match order")
  if session.currency.map toAsciiLowercase ≠ some order.currency then
    throw (.badRequest "Stripe currency does not match order")

/-- The text of a value that is one. -/
def stripeStringValue : Option JsonValue → Option String
  | some (.string value) => some value
  | _ => none

/-- Mark an event that calls for nothing as dealt with. -/
def recordIgnoredEvent (provider : PaymentProvider) (eventId eventType payloadHash : String)
    (draw : Draw) (db : Db) : Except ApiError Bool × Db :=
  db |> atomically (do
    let _ ← insertPaymentEvent provider eventId eventType none payloadHash (draw.clock 0)
    return false)

/-- Note an event of Stripe that changes nothing. -/
def recordIgnoredStripeEvent (event : StripeWebhookEvent) (payloadHash : String) (draw : Draw)
    (db : Db) : Except ApiError Bool × Db :=
  recordIgnoredEvent .stripe event.id event.kind payloadHash draw db

/-- The transaction that a paid checkout session leads to. -/
def fulfillStripeTx (x : Crates) (event : StripeWebhookEvent)
    (session : StripeCheckoutSessionObject) (orderId : OrderId) (payloadHash : String)
    (draw : Draw) : DbM Bool := do
  let inserted ← insertPaymentEvent .stripe event.id event.kind (some orderId) payloadHash
    (draw.clock 0)
  if !inserted then
    return false
  match ← findOrderByIdForUpdate orderId with
  | none => throw (.notFound "order not found")
  | some currentOrder =>
    validateStripeSessionMatchesOrder session currentOrder
    if currentOrder.status = .confirmed then
      return false
    if currentOrder.status ≠ .pendingProviderPayment then
      throw (.conflict "order is not awaiting provider payment")
    let paidOrder ← confirmProviderOrder orderId (stripeStringValue session.paymentIntent)
      (draw.clock 0)
    let _ ← provisionPaidOrderEntitlement x paidOrder "stripe"
      "Stripe checkout paid and entitlement activated" draw
    return true

/-- Fulfil the order of a session that has been paid. -/
def fulfillStripeCheckoutSession (x : Crates) (event : StripeWebhookEvent)
    (session : StripeCheckoutSessionObject) (payloadHash : String) (draw : Draw) (db : Db) :
    Except ApiError Bool × Db :=
  if session.paymentStatus ≠ some "paid" then recordIgnoredStripeEvent event payloadHash draw db
  else match stripeSessionOrderId x session with
    | .error e => (.error e, db)
    | .ok orderId => atomically (fulfillStripeTx x event session orderId payloadHash draw) db

/-- The kinds of event that announce a payment. -/
def isCheckoutKind (kind : String) : Bool :=
  kind == "checkout.session.completed" || kind == "checkout.session.async_payment_succeeded"

/-- The webhook of Stripe, once the signature has been verified and the event decoded. -/
def stripeWebhook (x : Crates) (event : StripeWebhookEvent) (payloadHash : String) (draw : Draw)
    (db : Db) : Except ApiError Bool × Db :=
  if isCheckoutKind event.kind then
    match event.object with
    | none => (.error (.badRequest "invalid Stripe checkout session event"), db)
    | some session => fulfillStripeCheckoutSession x event session payloadHash draw db
  else recordIgnoredStripeEvent event payloadHash draw db

/-! ## WeChat Pay -/

/-- The amount of a transaction of WeChat Pay. -/
structure WechatPayTransactionAmount where
  total : ℤ
  currency : Option String
deriving DecidableEq

/-- A transaction, as WeChat Pay reports it. -/
structure WechatPayTransaction where
  appid : String
  mchid : String
  outTradeNo : String
  transactionId : Option String
  tradeType : Option String
  tradeState : String
  successTime : Option String
  amount : WechatPayTransactionAmount
deriving DecidableEq

/-- A verified event of WeChat Pay, without the encrypted resource. -/
structure WechatPayWebhookEvent where
  id : String
  eventType : String
deriving DecidableEq

/-- A value of the configuration that has to be there. -/
def requiredWechatConfig (value : Option String) (label : String) : DbM String :=
  match value.filter fun value => trim value ≠ "" with
  | some value => return value
  | none => throw (.serviceUnavailable s!"{label} is not configured")

/-- The transaction is one of this merchant for the order, with its amount and its currency. -/
def validateWechatpayTransactionForOrder (config : AppConfig) (order : Order)
    (transaction : WechatPayTransaction) : DbM Unit := do
  let appId ← requiredWechatConfig config.wechatAppId "WeChat app id"
  let mchId ← requiredWechatConfig config.wechatMchId "WeChat merchant id"
  if transaction.appid ≠ appId then
    throw (.badRequest "WeChat Pay app id does not match")
  if transaction.mchid ≠ mchId then
    throw (.badRequest "WeChat Pay merchant id does not match")
  if transaction.tradeType ≠ some "NATIVE" then
    throw (.badRequest "WeChat Pay trade type is not NATIVE")
  if order.paymentProvider ≠ .wechatPay then
    throw (.badRequest "order is not a WeChat Pay order")
  if order.paymentReference ≠ transaction.outTradeNo then
    throw (.badRequest "WeChat Pay out_trade_no does not match order")
  if transaction.amount.total ≠ order.amountMinor then
    throw (.badRequest "WeChat Pay amount does not match order")
  let currency := toAsciiUppercase (transaction.amount.currency.getD "CNY")
  if currency ≠ toAsciiUppercase order.currency then
    throw (.badRequest "WeChat Pay currency does not match order")

/-- The transaction that a successful payment leads to. -/
def processWechatpayTx (x : Crates) (config : AppConfig) (event : WechatPayWebhookEvent)
    (transaction : WechatPayTransaction) (payloadHash : String) (draw : Draw) : DbM Bool := do
  match ← findProviderOrderByReferenceForUpdate .wechatPay transaction.outTradeNo with
  | none => throw (.notFound "WeChat Pay order not found")
  | some order =>
    validateWechatpayTransactionForOrder config order transaction
    let inserted ← insertPaymentEvent .wechatPay event.id event.eventType (some order.id)
      payloadHash (draw.clock 0)
    if !inserted || order.status = .confirmed then
      return false
    if order.status ≠ .pendingProviderPayment then
      throw (.conflict "order is not awaiting provider payment")
    let paidAt := (transaction.successTime.bind x.parseRfc3339).getD (draw.clock 0)
    let paidOrder ← confirmProviderOrder order.id
      (some (transaction.transactionId.getD transaction.outTradeNo)) paidAt
    let _ ← provisionPaidOrderEntitlement x paidOrder "wechat_pay"
      "WeChat Pay native payment paid and entitlement activated" draw
    return true

/-- The webhook of WeChat Pay, once the signature has been verified and the transaction
decrypted. -/
def processWechatpayTransaction (x : Crates) (config : AppConfig) (event : WechatPayWebhookEvent)
    (transaction : WechatPayTransaction) (payloadHash : String) (draw : Draw) (db : Db) :
    Except ApiError Bool × Db :=
  if event.eventType ≠ "TRANSACTION.SUCCESS" ∨ transaction.tradeState ≠ "SUCCESS" then
    recordIgnoredEvent .wechatPay event.id event.eventType payloadHash draw db
  else atomically (processWechatpayTx x config event transaction payloadHash draw) db

/-! ## Confirmation by an administrator -/

/-- The confirmed order with the code of its card key. -/
structure ConfirmOrderResponse where
  order : Order
  cardKey : String
deriving DecidableEq

/-- Make the card key of a confirmed order. -/
def confirmOrderCardKey (x : Crates) (order : Order) (draw : Draw) : DbM ConfirmOrderResponse := do
  let durationDays := 30
  let maxDevices := 1
  validateCardKeyLimits durationDays maxDevices
  let generated ← generateCardKey x draw 1 order.planCode order.tenantId durationDays maxDevices
  insertCardKey (mapUniqueConflict "uq_card_keys_order_id" "order already has a card key")
    generated.cardKey (some order.id)
  insertAudit (audit draw 2 (some order.tenantId) "admin" "order.confirmed"
    (debugId "OrderId" order.id.uuid) "manual payment confirmed and card key generated")
  return { order := order, cardKey := generated.plainCode }

/-- An administrator confirms an order by its identifier. -/
def confirmOrder (x : Crates) (id : Uuid) (draw : Draw) (db : Db) :
    Except ApiError ConfirmOrderResponse × Db :=
  db |> atomically (do
    let order ← confirmPendingOrder ⟨id⟩ (draw.clock 0)
    confirmOrderCardKey x order draw)

/-- An administrator confirms an order by its reference. -/
def confirmOrderByReference (x : Crates) (paymentReference : String) (draw : Draw) (db : Db) :
    Except ApiError ConfirmOrderResponse × Db :=
  db |> atomically (do
    let order ← confirmPendingOrderByReference paymentReference (draw.clock 0)
    confirmOrderCardKey x order draw)

end OzonSuite
