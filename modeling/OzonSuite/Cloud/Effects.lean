/-
# The effect of the requests on the ledger

Every request changes the ledger by one of the changes of `Ledger.Change`, or not at all.  For the
two webhooks the outcome is said more precisely, by one relation for both payment providers: what
a delivery that is acknowledged has found and done.
-/
import OzonSuite.Cloud.Payments
import OzonSuite.Cloud.Licensing
import OzonSuite.Cloud.QuerySpecs

namespace OzonSuite

open Lib

variable {x : Crates} {draw : Draw} {db db' : Db} {u : Unit}

/-- A change of the ledger that leaves the devices and the payment events alone. -/
structure Db.Step (db db' : Db) : Prop where
  change : Ledger.Change db.ledger db'.ledger
  events : db'.ledger.paymentEvents = db.ledger.paymentEvents
  devices : db'.devices = db.devices

lemma Db.Step.refl (db : Db) : db.Step db := ⟨.idle, rfl, rfl⟩

/-- A transaction has the effect that its body has when it succeeds, or none. -/
lemma step_atomically {α : Type} {tx : DbM α}
    (h : ∀ a db', tx db = .ok (a, db') → db.Step db') : db.Step (atomically tx db).2 := by
  cases hr : (atomically tx db).1 with
  | error e =>
    rw [atomically_error hr]
    exact .refl db
  | ok a => exact h a _ (atomically_ok hr)

/-! ## Orders -/

lemma newOrder_pending {claims : AuthClaims} {plan : PlanDefinition} {provider : PaymentProvider}
    {o : Order} (h : newOrder claims plan draw provider = .ok o) :
    (o.status = .pendingManualPayment ∧ o.paymentProvider = .manual) ∨
      (o.status = .pendingProviderPayment ∧ o.paymentProvider ≠ .manual) := by
  cases provider with
  | manual =>
    obtain rfl := Except.ok.inj h
    exact .inl ⟨rfl, rfl⟩
  | stripe =>
    obtain rfl := Except.ok.inj h
    exact .inr ⟨rfl, by simp⟩
  | alipay => cases h
  | wechatPay =>
    obtain rfl := Except.ok.inj h
    exact .inr ⟨rfl, by simp⟩

/-- The order that is stored was made by `newOrder`. -/
lemma createOrder_step (config : AppConfig) (claims : AuthClaims) (planCode : Option String) :
    db.Step (createOrder config claims planCode draw db).2 := by
  simp only [createOrder]
  generalize hmade : (do
    let plan ← planDefinition config planCode
    let provider ← orderPaymentProvider config.paymentProvider
    newOrder claims plan draw provider : Except ApiError Order) = made
  cases made with
  | error e => exact .refl db
  | ok order =>
    -- a new order is pending in the way of its provider
    have hpending : (order.status = .pendingManualPayment ∧ order.paymentProvider = .manual) ∨
        (order.status = .pendingProviderPayment ∧ order.paymentProvider ≠ .manual) := by
      cases hplan : planDefinition config planCode with
      | error e => simp [hplan, bind, Except.bind] at hmade
      | ok plan =>
        cases hprov : orderPaymentProvider config.paymentProvider with
        | error e => simp [hplan, hprov, bind, Except.bind] at hmade
        | ok provider =>
          simp only [hplan, hprov, bind, Except.bind] at hmade
          exact newOrder_pending hmade
    refine step_atomically fun a db' h => ?_
    simp only [Tx.bind_eq_ok, Tx.pure_eq_ok] at h
    obtain ⟨_, _, horder, _, _, haudit, -, rfl⟩ := h
    obtain ⟨t, rfl, ht⟩ := insertOrder_ok horder
    obtain ⟨t', rfl⟩ := insertAudit_ok haudit
    refine ⟨?_, rfl, rfl⟩
    simp only [Db.ledger, ht]
    exact .createOrder order hpending

lemma attachCheckoutSession_step (orderId : OrderId) (session : String) :
    db.Step (atomically (attachCheckoutSession orderId session) db).2 := by
  refine step_atomically fun a db' h => ?_
  obtain ⟨t, rfl, ht⟩ := attachCheckoutSession_ok h
  refine ⟨?_, rfl, rfl⟩
  simp only [Db.ledger, ht]
  exact .attachSession orderId session

/-! ## Confirmation by an administrator -/

lemma confirmOrder_step_where (p : Order → Bool) :
    db.Step (atomically (do
      let order ← confirmPendingOrderWhere p (draw.clock 0)
      confirmOrderCardKey x order draw) db).2 := by
  refine step_atomically fun a db' h => ?_
  simp only [Tx.bind_eq_ok, confirmOrderCardKey, Tx.pure_eq_ok] at h
  obtain ⟨order, _, hconfirm, _, _, hlimits, g, _, hgen, _, _, hinsert, _, _, haudit, -, rfl⟩ := h
  obtain ⟨t, o, rfl, ho, hp, rfl, ht⟩ := confirmPendingOrderWhere_ok hconfirm
  obtain rfl := validateCardKeyLimits_ok hlimits
  obtain ⟨rfl, havailable, -⟩ := generateCardKey_ok hgen
  obtain ⟨t', rfl, ht', -⟩ := insertCardKey_ok hinsert
  obtain ⟨t'', rfl⟩ := insertAudit_ok haudit
  refine ⟨?_, rfl, rfl⟩
  simp only [Db.ledger, ht, ht']
  exact .confirmManually p ho hp (draw.clock 0) { g.cardKey with orderId := some o.id } rfl
    havailable

lemma confirmOrder_step (id : Uuid) : db.Step (confirmOrder x id draw db).2 :=
  confirmOrder_step_where _

lemma confirmOrderByReference_step (paymentReference : String) :
    db.Step (confirmOrderByReference x paymentReference draw db).2 :=
  confirmOrder_step_where _

/-! ## Payments -/

/-- The card key and the entitlement that a paid order gets. -/
lemma provisionPaidOrderEntitlement_ok {order : Order} {actor summary : String} {e : Entitlement}
    (h : provisionPaidOrderEntitlement x order actor summary draw db = .ok (e, db')) :
    ∃ keys ents audits card redeemedAt,
      db' = { db with cardKeys := keys, entitlements := ents, auditEvents := audits } ∧
      card.orderId = some order.id ∧ MadeFrom card redeemedAt e ∧
      keys.rows = db.cardKeys.rows ++ [redeemBy e.userId redeemedAt card] ∧
      ents.rows = db.entitlements.rows ++ [e] := by
  simp only [provisionPaidOrderEntitlement, Tx.bind_eq_ok, fulfillmentTermsForPlan] at h
  obtain ⟨⟨durationDays, maxDevices⟩, db₀, hterms, _, _, hlimits, g, _, hgen, _, _, hinsert, _, _,
    hmark, _, _, hent, _, _, haudit, hret⟩ := h
  obtain rfl : db₀ = db := by
    split at hterms
    · exact (Tx.pure_eq_ok.mp hterms).2.symm
    · exact absurd hterms Tx.throw_ne_ok
  obtain rfl := validateCardKeyLimits_ok hlimits
  obtain ⟨rfl, havailable, hdays⟩ := generateCardKey_ok hgen
  obtain ⟨keys, rfl, hkeys⟩ := redeem_inserted hinsert hmark havailable
  obtain ⟨ents, rfl, hents⟩ := insertEntitlement_ok hent
  obtain ⟨audits, rfl⟩ := insertAudit_ok haudit
  obtain ⟨rfl, rfl⟩ := Tx.pure_eq_ok.mp hret
  exact ⟨keys, ents, audits, _, draw.clock 2, rfl, rfl, ⟨rfl, by rw [hdays]; rfl⟩, hkeys, hents⟩

/-- The two groups of statements that both payment providers end in: the order is confirmed, and
gets its card key and entitlement. -/
lemma fulfil_ok {db₁ db₂ : Db} {orderId : OrderId} {intent : Option String} {paidAt : Time}
    {order : Order} {actor summary : String} {e : Entitlement}
    (hconfirm : confirmProviderOrder orderId intent paidAt db = .ok (order, db₁))
    (hprov : provisionPaidOrderEntitlement x order actor summary draw db₁ = .ok (e, db₂)) :
    ∃ card redeemedAt, card.orderId = some orderId ∧ MadeFrom card redeemedAt e ∧
      db₂.ledger =
        { orders := updateWhere (isPendingPayment orderId) (confirmPaid intent paidAt)
            db.orders.rows
          cardKeys := db.cardKeys.rows ++ [redeemBy e.userId redeemedAt card]
          entitlements := db.entitlements.rows ++ [e]
          paymentEvents := db.paymentEvents.rows } ∧
      db₂.devices = db.devices := by
  obtain ⟨orders, o, rfl, -, hp, rfl, horders⟩ := confirmProviderOrder_ok hconfirm
  obtain ⟨keys, ents, audits, card, redeemedAt, rfl, hcard, hmade, hkeys, hents⟩ :=
    provisionPaidOrderEntitlement_ok hprov
  have hid : o.id = orderId := by simpa using (Bool.and_eq_true_iff.mp hp).1
  refine ⟨card, redeemedAt, hcard.trans (congrArg some hid), hmade, ?_, rfl⟩
  simp only [Db.ledger, horders, hkeys, hents]

/-- What an acknowledged delivery of the event `eventId` has found and done: `paid` says whether
the event announces a payment, `pays` for which orders. -/
inductive PaymentOutcome (provider : PaymentProvider) (eventId : String) (paid : Prop)
    (pays : Order → Prop) (c : Ledger) : Bool → Ledger → Prop
  /-- The event calls for nothing. -/
  | ignored (hpaid : ¬ paid) (e : PaymentEvent) (hprovider : e.provider = provider)
      (hevent : e.eventId = eventId) (horder : e.orderId = none) :
      PaymentOutcome provider eventId paid pays c false
        { c with paymentEvents := c.paymentEvents ++ [e] }
  /-- The event was dealt with before. -/
  | repeated (h : ∃ e ∈ c.paymentEvents, e.provider = provider ∧ e.eventId = eventId) :
      PaymentOutcome provider eventId paid pays c false c
  /-- The order was confirmed by another event. -/
  | already (hpaid : paid) {o : Order} (ho : o ∈ c.orders) (hpays : pays o)
      (hconfirmed : o.status = .confirmed) (e : PaymentEvent) (hprovider : e.provider = provider)
      (hevent : e.eventId = eventId) (horder : e.orderId = some o.id) :
      PaymentOutcome provider eventId paid pays c false
        { c with paymentEvents := c.paymentEvents ++ [e] }
  /-- The order is confirmed and fulfilled now. -/
  | fulfilled (hpaid : paid) {o : Order} (ho : o ∈ c.orders) (hpays : pays o)
      (hpending : o.status = .pendingProviderPayment) (intent : Option String) (paidAt : Time)
      (card : CardKeyRow) (hcard : card.orderId = some o.id) (redeemedAt : Time)
      (entitlement : Entitlement) (hmade : MadeFrom card redeemedAt entitlement)
      (e : PaymentEvent) (hprovider : e.provider = provider) (hevent : e.eventId = eventId)
      (horder : e.orderId = some o.id) :
      PaymentOutcome provider eventId paid pays c true
        { orders := updateWhere (isPendingPayment o.id) (confirmPaid intent paidAt) c.orders
          cardKeys := c.cardKeys ++ [redeemBy entitlement.userId redeemedAt card]
          entitlements := c.entitlements ++ [entitlement]
          paymentEvents := c.paymentEvents ++ [e] }

lemma PaymentOutcome.change {provider : PaymentProvider} {eventId : String} {paid : Prop}
    {pays : Order → Prop} {c c' : Ledger} {processed : Bool}
    (h : PaymentOutcome provider eventId paid pays c processed c') : c.Change c' := by
  cases h with
  | ignored _ e => exact .recordEvent e
  | repeated => exact .idle
  | already _ _ _ _ e => exact .recordEvent e
  | fulfilled _ ho _ hpending intent paidAt card hcard redeemedAt entitlement hmade e =>
    exact .fulfil ho hpending intent paidAt card hcard redeemedAt entitlement hmade e

lemma recordIgnoredEvent_ok {provider : PaymentProvider} {eventId eventType hash : String}
    {processed : Bool} {paid : Prop} {pays : Order → Prop} (hpaid : ¬ paid)
    (h : (recordIgnoredEvent provider eventId eventType hash draw db).1 = .ok processed) :
    let db' := (recordIgnoredEvent provider eventId eventType hash draw db).2
    PaymentOutcome provider eventId paid pays db.ledger processed db'.ledger ∧
      db'.devices = db.devices := by
  have hrun := atomically_ok h
  simp only [Tx.bind_eq_ok, Tx.pure_eq_ok] at hrun
  obtain ⟨inserted, db₁, hinsert, rfl, heq⟩ := hrun
  change db₁ = (recordIgnoredEvent provider eventId eventType hash draw db).2 at heq
  rw [← heq]
  rcases insertPaymentEvent_ok hinsert with ⟨-, rfl, hrow⟩ | ⟨-, t, rfl, ht⟩
  · exact ⟨.repeated hrow, rfl⟩
  · refine ⟨?_, rfl⟩
    simp only [Db.ledger, ht]
    exact .ignored hpaid _ rfl rfl rfl

/-! ### Stripe -/

/-- The event announces the payment of the checkout session. -/
structure StripeWebhookEvent.Paid (event : StripeWebhookEvent)
    (session : StripeCheckoutSessionObject) : Prop where
  kind : isCheckoutKind event.kind = true
  object : event.object = some session
  status : session.paymentStatus = some "paid"

/-- The checkout session pays for the order. -/
structure StripePays (x : Crates) (session : StripeCheckoutSessionObject) (o : Order) : Prop where
  order_id : stripeSessionOrderId x session = .ok o.id
  provider : o.paymentProvider = .stripe
  session_id : o.checkoutSessionId = some session.id
  amount : session.amountTotal = some o.amountMinor
  currency : session.currency.map toAsciiLowercase = some o.currency

lemma validateStripeSessionMatchesOrder_ok {session : StripeCheckoutSessionObject} {o : Order}
    (h : validateStripeSessionMatchesOrder session o db = .ok (u, db')) :
    db' = db ∧ (stripeSessionOrderId x session = .ok o.id → StripePays x session o) := by
  simp only [validateStripeSessionMatchesOrder, Tx.guard_bind_eq_ok, Tx.guard_eq_ok,
    Tx.pure_eq_ok, not_not] at h
  obtain ⟨hprovider, hsession, hamount, hcurrency, -, rfl⟩ := h
  exact ⟨rfl, fun hid => ⟨hid, hprovider, hsession, hamount, hcurrency⟩⟩

/-- A row found by its identifier. -/
lemma find?_order_id {orderId : OrderId} {o : Order}
    (h : some o = db.orders.rows.find? (·.id == orderId)) :
    o ∈ db.orders.rows ∧ o.id = orderId :=
  ⟨List.mem_of_find?_eq_some h.symm, by simpa using List.find?_some h.symm⟩

lemma fulfillStripeTx_ok {event : StripeWebhookEvent} {session : StripeCheckoutSessionObject}
    {orderId : OrderId} {hash : String} {processed : Bool} (hpaid : event.Paid session)
    (hid : stripeSessionOrderId x session = .ok orderId)
    (h : fulfillStripeTx x event session orderId hash draw db = .ok (processed, db')) :
    PaymentOutcome .stripe event.id (∃ session, event.Paid session)
        (fun o => ∃ session, event.object = some session ∧ StripePays x session o)
        db.ledger processed db'.ledger ∧ db'.devices = db.devices := by
  simp only [fulfillStripeTx, Tx.bind_eq_ok] at h
  obtain ⟨inserted, db₁, hinsert, h⟩ := h
  rcases insertPaymentEvent_ok hinsert with ⟨rfl, rfl, hrow⟩ | ⟨rfl, events, rfl, hevents⟩
  · obtain ⟨rfl, rfl⟩ := Tx.pure_eq_ok.mp h
    exact ⟨.repeated hrow, rfl⟩
  simp only [Bool.not_true, Bool.false_eq_true, if_false, Tx.bind_eq_ok, findOrderByIdForUpdate,
    fetchOptional_eq_ok] at h
  obtain ⟨found, _, ⟨hfound, rfl⟩, h⟩ := h
  cases found with
  | none => exact absurd h Tx.throw_ne_ok
  | some o =>
    obtain ⟨ho, rfl⟩ := find?_order_id hfound
    simp only [Tx.bind_eq_ok] at h
    obtain ⟨_, _, hvalid, h⟩ := h
    obtain ⟨rfl, hpays⟩ := validateStripeSessionMatchesOrder_ok (x := x) hvalid
    have hpays' : ∃ session, event.object = some session ∧ StripePays x session o :=
      ⟨session, hpaid.object, hpays hid⟩
    by_cases hconfirmed : o.status = .confirmed
    · -- another event was faster
      rw [if_pos hconfirmed] at h
      obtain ⟨rfl, rfl⟩ := Tx.pure_eq_ok.mp h
      refine ⟨?_, rfl⟩
      simp only [Db.ledger, hevents]
      exact .already ⟨session, hpaid⟩ ho hpays' hconfirmed _ rfl rfl rfl
    · rw [if_neg hconfirmed] at h
      simp only [Tx.guard_bind_eq_ok, Tx.bind_eq_ok, not_not] at h
      obtain ⟨hpending, paid, _, hconfirm, e, _, hprov, hret⟩ := h
      obtain ⟨rfl, rfl⟩ := Tx.pure_eq_ok.mp hret
      obtain ⟨card, redeemedAt, hcard, hmade, hledger, hdevices⟩ := fulfil_ok hconfirm hprov
      refine ⟨?_, hdevices⟩
      rw [hledger]
      simp only [hevents]
      exact .fulfilled ⟨session, hpaid⟩ ho hpays' hpending _ _ card hcard redeemedAt e hmade _ rfl
        rfl rfl

/-- **The outcome of an acknowledged delivery of Stripe.** -/
theorem stripeWebhook_ok {event : StripeWebhookEvent} {hash : String} {processed : Bool}
    (h : (stripeWebhook x event hash draw db).1 = .ok processed) :
    let db' := (stripeWebhook x event hash draw db).2
    PaymentOutcome .stripe event.id (∃ session, event.Paid session)
        (fun o => ∃ session, event.object = some session ∧ StripePays x session o)
        db.ledger processed db'.ledger ∧ db'.devices = db.devices := by
  simp only [stripeWebhook] at h ⊢
  by_cases hkind : isCheckoutKind event.kind = true
  · simp only [if_pos hkind] at h ⊢
    cases hobject : event.object with
    | none => simp [hobject] at h
    | some session =>
      simp only [hobject, fulfillStripeCheckoutSession] at h ⊢
      by_cases hstatus : session.paymentStatus = some "paid"
      · simp only [hstatus, ne_eq, not_true_eq_false, if_false] at h ⊢
        cases hid : stripeSessionOrderId x session with
        | error e => simp [hid] at h
        | ok orderId =>
          simp only [hid] at h ⊢
          have hout := fulfillStripeTx_ok ⟨hkind, hobject, hstatus⟩ hid (atomically_ok h)
          rwa [hobject] at hout
      · simp only [ne_eq, hstatus, not_false_eq_true, if_true] at h ⊢
        -- a session that has not been paid is noted and ignored
        refine recordIgnoredEvent_ok (fun ⟨session', hpaid⟩ => ?_) h
        have hsession := hobject.symm.trans hpaid.object
        exact hstatus (Option.some.inj hsession ▸ hpaid.status)
  · simp only [if_neg hkind] at h ⊢
    exact recordIgnoredEvent_ok (fun ⟨_, hpaid⟩ => hkind hpaid.kind) h

lemma recordIgnoredEvent_error {provider : PaymentProvider} {eventId eventType hash : String}
    {e : ApiError}
    (h : (recordIgnoredEvent provider eventId eventType hash draw db).1 = .error e) :
    (recordIgnoredEvent provider eventId eventType hash draw db).2 = db :=
  atomically_error h

/-- A delivery of Stripe that is refused changes nothing. -/
lemma stripeWebhook_error {event : StripeWebhookEvent} {hash : String} {e : ApiError}
    (h : (stripeWebhook x event hash draw db).1 = .error e) :
    (stripeWebhook x event hash draw db).2 = db := by
  simp only [stripeWebhook] at h ⊢
  by_cases hkind : isCheckoutKind event.kind = true
  · simp only [if_pos hkind] at h ⊢
    cases hobject : event.object with
    | none => rfl
    | some session =>
      simp only [hobject, fulfillStripeCheckoutSession] at h ⊢
      by_cases hstatus : session.paymentStatus ≠ some "paid"
      · rw [if_pos hstatus] at h ⊢
        exact recordIgnoredEvent_error h
      · rw [if_neg hstatus] at h ⊢
        cases hid : stripeSessionOrderId x session with
        | error e => rfl
        | ok orderId =>
          rw [hid] at h
          exact atomically_error h
  · simp only [if_neg hkind] at h ⊢
    exact recordIgnoredEvent_error h

/-! ### WeChat Pay -/

/-- The event announces the success of the transaction. -/
structure WechatPayTransaction.Paid (transaction : WechatPayTransaction)
    (event : WechatPayWebhookEvent) : Prop where
  event_type : event.eventType = "TRANSACTION.SUCCESS"
  trade_state : transaction.tradeState = "SUCCESS"

/-- The transaction pays for the order; a transaction that names no currency is in yuan. -/
structure WechatPays (config : AppConfig) (transaction : WechatPayTransaction) (o : Order) :
    Prop where
  provider : o.paymentProvider = .wechatPay
  out_trade_no : o.paymentReference = transaction.outTradeNo
  amount : transaction.amount.total = o.amountMinor
  currency : toAsciiUppercase (transaction.amount.currency.getD "CNY") =
    toAsciiUppercase o.currency
  appid : config.wechatAppId = some transaction.appid
  mchid : config.wechatMchId = some transaction.mchid

lemma requiredWechatConfig_ok {value : Option String} {label setting : String}
    (h : requiredWechatConfig value label db = .ok (setting, db')) :
    db' = db ∧ value = some setting := by
  simp only [requiredWechatConfig] at h
  generalize hfilter : value.filter _ = filtered at h
  cases filtered with
  | none => exact absurd h Tx.throw_ne_ok
  | some v =>
    obtain ⟨rfl, rfl⟩ := Tx.pure_eq_ok.mp h
    exact ⟨rfl, (Option.filter_eq_some_iff.mp hfilter).1⟩

lemma validateWechatpayTransactionForOrder_ok {config : AppConfig} {o : Order}
    {transaction : WechatPayTransaction}
    (h : validateWechatpayTransactionForOrder config o transaction db = .ok (u, db')) :
    db' = db ∧ WechatPays config transaction o := by
  simp only [validateWechatpayTransactionForOrder, Tx.bind_eq_ok, Tx.guard_bind_eq_ok,
    Tx.guard_eq_ok, Tx.pure_eq_ok, not_not] at h
  obtain ⟨appId, _, happ, mchId, _, hmch, happid, hmchid, -, hprovider, href, hamount, hcurrency,
    -, hdb⟩ := h
  obtain ⟨rfl, happ'⟩ := requiredWechatConfig_ok happ
  obtain ⟨rfl, hmch'⟩ := requiredWechatConfig_ok hmch
  exact ⟨hdb.symm, hprovider, href, hamount, hcurrency, by rw [happ', happid],
    by rw [hmch', hmchid]⟩

lemma processWechatpayTx_ok {config : AppConfig} {event : WechatPayWebhookEvent}
    {transaction : WechatPayTransaction} {hash : String} {processed : Bool}
    (hpaid : transaction.Paid event)
    (h : processWechatpayTx x config event transaction hash draw db = .ok (processed, db')) :
    PaymentOutcome .wechatPay event.id (transaction.Paid event) (WechatPays config transaction)
        db.ledger processed db'.ledger ∧ db'.devices = db.devices := by
  simp only [processWechatpayTx, Tx.bind_eq_ok, findProviderOrderByReferenceForUpdate,
    fetchOptional_eq_ok] at h
  obtain ⟨found, _, ⟨hfound, rfl⟩, h⟩ := h
  cases found with
  | none => exact absurd h Tx.throw_ne_ok
  | some o =>
    have ho := List.mem_of_find?_eq_some hfound.symm
    simp only [Tx.bind_eq_ok] at h
    obtain ⟨_, _, hvalid, inserted, db₁, hinsert, h⟩ := h
    obtain ⟨rfl, hpays⟩ := validateWechatpayTransactionForOrder_ok hvalid
    rcases insertPaymentEvent_ok hinsert with ⟨rfl, rfl, hrow⟩ | ⟨rfl, events, rfl, hevents⟩
    · simp only [Bool.not_false, Bool.true_or, if_true] at h
      obtain ⟨rfl, rfl⟩ := Tx.pure_eq_ok.mp h
      exact ⟨.repeated hrow, rfl⟩
    by_cases hconfirmed : o.status = .confirmed
    · -- another event was faster
      simp only [hconfirmed, decide_true, Bool.or_true, if_true] at h
      obtain ⟨rfl, rfl⟩ := Tx.pure_eq_ok.mp h
      refine ⟨?_, rfl⟩
      simp only [Db.ledger, hevents]
      exact .already hpaid ho hpays hconfirmed _ rfl rfl rfl
    · simp only [hconfirmed, Bool.not_true, Bool.false_eq_true, if_false,
        decide_false, Bool.or_false] at h
      simp only [Tx.guard_bind_eq_ok, Tx.bind_eq_ok, not_not] at h
      obtain ⟨hpending, paid, _, hconfirm, e, _, hprov, hret⟩ := h
      obtain ⟨rfl, rfl⟩ := Tx.pure_eq_ok.mp hret
      obtain ⟨card, redeemedAt, hcard, hmade, hledger, hdevices⟩ := fulfil_ok hconfirm hprov
      refine ⟨?_, hdevices⟩
      rw [hledger]
      simp only [hevents]
      exact .fulfilled hpaid ho hpays hpending _ _ card hcard redeemedAt e hmade _ rfl rfl rfl

/-- **The outcome of an acknowledged delivery of WeChat Pay.** -/
theorem processWechatpayTransaction_ok {config : AppConfig} {event : WechatPayWebhookEvent}
    {transaction : WechatPayTransaction} {hash : String} {processed : Bool}
    (h : (processWechatpayTransaction x config event transaction hash draw db).1 =
      .ok processed) :
    let db' := (processWechatpayTransaction x config event transaction hash draw db).2
    PaymentOutcome .wechatPay event.id (transaction.Paid event) (WechatPays config transaction)
        db.ledger processed db'.ledger ∧ db'.devices = db.devices := by
  simp only [processWechatpayTransaction] at h ⊢
  by_cases hkind : event.eventType ≠ "TRANSACTION.SUCCESS" ∨ transaction.tradeState ≠ "SUCCESS"
  · simp only [if_pos hkind] at h ⊢
    refine recordIgnoredEvent_ok (fun hpaid => ?_) h
    rcases hkind with hkind | hkind
    · exact hkind hpaid.event_type
    · exact hkind hpaid.trade_state
  · simp only [if_neg hkind] at h ⊢
    simp only [ne_eq, not_or, not_not] at hkind
    exact processWechatpayTx_ok ⟨hkind.1, hkind.2⟩ (atomically_ok h)

/-- A delivery of WeChat Pay that is refused changes nothing. -/
lemma processWechatpayTransaction_error {config : AppConfig} {event : WechatPayWebhookEvent}
    {transaction : WechatPayTransaction} {hash : String} {e : ApiError}
    (h : (processWechatpayTransaction x config event transaction hash draw db).1 = .error e) :
    (processWechatpayTransaction x config event transaction hash draw db).2 = db := by
  rw [processWechatpayTransaction] at h ⊢
  split at h
  · next hkind =>
    rw [if_pos hkind]
    exact recordIgnoredEvent_error h
  · next hkind =>
    rw [if_neg hkind]
    exact atomically_error h

end OzonSuite
