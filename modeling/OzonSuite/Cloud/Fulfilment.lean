/-
# Fulfilment of orders

The main results on orders and payments, for every order in which deliveries, confirmations and
all other requests reach the service: an order is fulfilled once, exactly when it is confirmed;
no payment that was acknowledged is lost, and nothing is fulfilled without its payment.
-/
import OzonSuite.Cloud.Steps

namespace OzonSuite

open Lib

variable {x : Crates} {s₀ s s' : Cloud} {l : CloudLabel} {tr : List (CloudLabel × CloudAnswer)}

/-! ## The ledger along a run -/

/-- A step is a transaction or a delivery, or it leaves the ledger as it was. -/
lemma Cloud.Effect.ledger_cases {answer : CloudAnswer} (h : Cloud.Effect x s l answer s') :
    s'.db.ledger = s.db.ledger ∨ s.db.Step s'.db ∨
      ∃ provider eventId processed, l.request.event = some (provider, eventId) ∧
        answer = .acknowledged processed ∧
        PaymentOutcome provider eventId l.request.Paid (l.Pays x) s.db.ledger processed
          s'.db.ledger := by
  cases h with
  | transaction _ hstep => exact .inr (.inl hstep)
  | delivery hrequest houtcome => exact .inr (.inr ⟨_, _, _, hrequest, rfl, houtcome⟩)
  | activate _ hstep => exact .inr (.inl hstep)
  | issue _ hstep => exact .inr (.inl hstep)
  | idle => exact .inl rfl
  | refuseActivation => exact .inl rfl
  | activation _ _ hnext =>
    cases hnext with
    | store _ hstored => exact .inl hstored.ledger
    | _ => exact .inl rfl
  | refuseIssuance => exact .inl rfl
  | issuance _ _ hnext =>
    cases hnext with
    | touch _ hledger => exact .inl hledger
    | _ => exact .inl rfl

/-- Every step is a change of the ledger. -/
lemma step_change (x : Crates) (s : Cloud) (l : CloudLabel) :
    s.db.ledger.Change (s.step x l).2.db.ledger := by
  rcases (Cloud.step_effect x s l).ledger_cases with h | h | ⟨_, _, _, -, -, houtcome⟩
  · rw [h]
    exact .idle
  · exact h.change
  · exact houtcome.change

/-- Nothing sold is a good beginning. -/
lemma Db.Unsold.inv {db : Db} (h : db.Unsold) : db.ledger.Inv where
  manual_of_pending o ho := (h.orders o ho).2.1
  provider_of_pending o ho := (h.orders o ho).2.2
  confirmed_of_card k hk id hid := by
    have hnone := (h.cardKeys k hk).1
    rw [hid] at hnone
    cases hnone
  card_of_confirmed o ho _ hst := absurd hst (h.orders o ho).1
  entitlement_of_card k hk hst := absurd hst (h.cardKeys k hk).2

theorem ledger_inv_of_run (h₀ : (cloudMachine x).init s₀) (h : (cloudMachine x).Run s₀ tr s) :
    s.db.ledger.Inv :=
  h.invariant (I := fun s => s.db.ledger.Inv)
    (fun s l hinv _ => hinv.change s.db.keys (step_change x s l)) h₀.2.inv

theorem ledger_keeps_of_run (h : (cloudMachine x).Run s tr s') : s.db.ledger.Keeps s'.db.ledger :=
  h.relation (I := fun _ => True) (R := fun s s' : Cloud => s.db.ledger.Keeps s'.db.ledger)
    (fun _ _ _ _ => trivial) (fun s => .refl s.db.ledger) (fun _ _ _ => .trans)
    (fun s l _ _ => (step_change x s l).keeps) trivial

/-! ## A shop with one order

The inputs of the runs that the main results are tried on. -/

/-- Library functions that have the values of the real ones on the inputs of these runs. -/
def tableCrates : Crates where
  sha256Hex s :=
    if s = "ORS-STANDARD_30D-q7Zk2mVt9XbLr4Ns6Yc1Hd3F" then
      "23beb5f09b28efd63962b0dd87bb1b8bf8696514e4fe4e6f11adbcd9d4bef9a7"
    else if s = "machine-1" then
      "f7a7266df8b420793d51b92561955db28792ce00570593d47d44d954189b3685"
    else s
  hashPassword salt secret := some s!"$argon2id$v=19$m=19456,t=2,p=1${salt}${secret}"
  verifyPassword hash secret :=
    hash == s!"$argon2id$v=19$m=19456,t=2,p=1$c2FsdHNhbHRzYWx0${secret}"
  toUppercase := toAsciiUppercase
  parseUuid s := if s = "00000000-0000-0000-0000-000000000003" then some (.ofNat 3) else none
  parseRfc3339 _ := none
  newV5 _ _ := .ofNat 0x82f1827c0b0d556fb19b515488aca013
  timeText t := if t = 1767225900000000 then "2026-01-01T00:05:00Z" else "2026-01-02T00:05:00Z"
  rsaSign _ _ _ := none

/-- The values drawn in the `n`-th minute of the year 2026. -/
def minuteDraw (n : ℕ) : Draw where
  clock _ := 1767225600000000 + n * 60000000
  uuid i := .ofNat (100 * n + i)
  random _ := "q7Zk2mVt9XbLr4Ns6Yc1Hd3F"
  salt _ := "c2FsdHNhbHRzYWx0"
  tie _ := 0

/-- A shop with payments through Stripe. -/
def shopConfig : AppConfig where
  paymentProvider := .stripe
  stripeStandardAmountMinor := 2900
  stripeCurrency := "usd"
  wechatStandardAmountMinor := 19900
  wechatCurrency := "CNY"
  wechatAppId := none
  wechatMchId := none
  testFullAccessIdentities := []
  testFullAccessDurationDays := 30
  testFullAccessMaxDevices := 1
  leaseSigningPrivateKeyPem := some "pem"
  leaseSigningKeyId := "lease-key-1"
  leaseIssuer := "ozon-cloud"
  leaseAudience := "ozon-local-node"

/-- A request to the shop in its `n`-th minute. -/
def shopLabel (n : ℕ) (request : CloudRequest) (connected : Bool) : CloudLabel where
  config := shopConfig
  request := request
  draw := minuteDraw n
  connected := connected

/-- A user of the shop. -/
def shopUser : User where
  id := ⟨.ofNat 2⟩
  tenantId := ⟨.ofNat 1⟩
  nebulaId := "nebula-2"
  nebulaSource := .localDev
  skybridgeUserId := none
  email := some "user@example.com"
  phone := none
  emailVerifiedAt := none
  phoneVerifiedAt := none

/-- An order of that user. -/
def shopOrder : Order where
  id := ⟨.ofNat 3⟩
  tenantId := ⟨.ofNat 1⟩
  userId := ⟨.ofNat 2⟩
  planCode := .standard30d
  status := .pendingProviderPayment
  paymentProvider := .stripe
  paymentReference := "cs_test_1"
  amountMinor := 2900
  currency := "usd"
  checkoutSessionId := some "cs_test_1"
  paymentIntentId := none
  paidAt := none
  createdAt := 1767225600000000
  confirmedAt := none

/-- The database with the order. -/
def shopDb : Db :=
  { Db.empty with
    tenants := [⟨.ofNat 1⟩]
    users := ⟨[shopUser], by decide⟩
    orders := ⟨[shopOrder], by decide⟩ }

lemma shop_init : (cloudMachine tableCrates).init (.start shopDb) :=
  ⟨rfl, by decide, by decide, rfl, rfl⟩

/-- A checkout session in which the order has been paid. -/
def paidSession : StripeCheckoutSessionObject where
  id := "cs_test_1"
  clientReferenceId := some "00000000-0000-0000-0000-000000000003"
  metadata := none
  paymentStatus := some "paid"
  amountTotal := some 2900
  currency := some "USD"
  paymentIntent := some (.string "pi_1")

/-- The payment of the order, as the event `id`. -/
def paidEvent (id : String) : CloudRequest :=
  .stripeWebhook ⟨id, "checkout.session.completed", some paidSession⟩ "00"

/-- The first delivery is lost, the second confirms the order, the third comes late. -/
def paidSteps : List CloudLabel :=
  [shopLabel 1 (paidEvent "evt_1") false, shopLabel 2 (paidEvent "evt_1") true,
   shopLabel 3 (paidEvent "evt_2") true]

/-! ## Exactly once -/

/-- The order has a card key, and an entitlement made from it. -/
def Db.Fulfilled (db : Db) (id : OrderId) : Prop :=
  ∃ k ∈ db.cardKeys.rows, k.orderId = some id ∧
    ∃ e ∈ db.entitlements.rows, e.sourceCardKeyId = k.id

/-- The deliveries of the payment providers and the confirmations by an administrator. -/
def CloudRequest.isPayment : CloudRequest → Bool
  | .stripeWebhook .. | .wechatpayWebhook .. | .confirmOrder _ | .confirmOrderByReference _ => true
  | _ => false

/-- A transaction whose answer is a refusal has failed. -/
lemma of_eq_refused {α : Type} {done : α → CloudAnswer} {r : Except ApiError α} {e : ApiError}
    (hdone : ∀ a e, done a ≠ .refused e) (h : CloudAnswer.of done r = .refused e) :
    r = .error e := by
  cases r with
  | ok a => exact absurd h (hdone a e)
  | error e' =>
    obtain rfl := CloudAnswer.refused.inj h
    rfl

/-- A payment that is refused leaves the database as it was. -/
theorem payment_refused (hpayment : l.request.isPayment = true) {e : ApiError}
    (h : (s.step x l).1 = .refused e) : (s.step x l).2.db = s.db := by
  cases hconn : l.connected with
  | false =>
    simp only [Cloud.step, hconn, Bool.not_false, if_true]
    cases l.request <;> rfl
  | true =>
    simp only [Cloud.step, hconn, Bool.not_true, Bool.false_eq_true, if_false] at h ⊢
    cases hr : l.request with
    | stripeWebhook event hash =>
      rw [hr] at h
      exact stripeWebhook_error (of_eq_refused (by simp) h)
    | wechatpayWebhook event transaction hash =>
      rw [hr] at h
      exact processWechatpayTransaction_error (of_eq_refused (by simp) h)
    | confirmOrder id =>
      rw [hr] at h
      exact atomically_error (of_eq_refused (by simp) h)
    | confirmOrderByReference ref =>
      rw [hr] at h
      exact atomically_error (of_eq_refused (by simp) h)
    | _ =>
      rw [hr] at hpayment
      cases hpayment

/-- An order of a payment provider is fulfilled exactly when it is confirmed. -/
lemma fulfilled_iff {db : Db} (hinv : db.ledger.Inv) {o : Order} (ho : o ∈ db.orders.rows)
    (hprovider : o.paymentProvider ≠ .manual) : db.Fulfilled o.id ↔ o.status = .confirmed := by
  constructor
  · rintro ⟨k, hk, hid, -⟩
    obtain ⟨o', ho', hid', hst⟩ := hinv.confirmed_of_card k hk o.id hid
    rwa [db.keys.order_id o' ho' o ho hid'] at hst
  · intro hst
    obtain ⟨k, hk, hid, hkst⟩ := hinv.card_of_confirmed o ho hprovider hst
    obtain ⟨e, he, redeemedAt, hmade, -⟩ := hinv.entitlement_of_card k hk hkst
    exact ⟨k, hk, hid, e, he, hmade.source⟩

/-- **Exactly-once fulfilment.**  In every state that a run reaches: an order has one card key at
most, and a card key one entitlement; an order of Stripe or WeChat Pay has such an entitlement
exactly when it is confirmed; no later state has a confirmed order with another status; and a
delivery or confirmation that is refused leaves the database as it was. -/
theorem exactly_once_fulfilment (h₀ : (cloudMachine x).init s₀)
    (h : (cloudMachine x).Run s₀ tr s) :
    (∀ id : OrderId, (s.db.cardKeys.rows.filter fun k => k.orderId = some id).length ≤ 1) ∧
    (∀ id : CardKeyId,
      (s.db.entitlements.rows.filter fun e => e.sourceCardKeyId = id).length ≤ 1) ∧
    (∀ o ∈ s.db.orders.rows, o.paymentProvider = .stripe ∨ o.paymentProvider = .wechatPay →
      (s.db.Fulfilled o.id ↔ o.status = .confirmed)) ∧
    (∀ o ∈ s.db.orders.rows, o.status = .confirmed → ∀ tr' s',
      (cloudMachine x).Run s tr' s' →
      o ∈ s'.db.orders.rows ∧ ∀ o' ∈ s'.db.orders.rows, o'.id = o.id → o'.status = .confirmed) ∧
    (∀ l, (cloudMachine x).enabled s l → l.request.isPayment = true → ∀ e,
      ((cloudMachine x).step s l).1 = .refused e →
      ((cloudMachine x).step s l).2.db = s.db) := by
  have hinv := ledger_inv_of_run h₀ h
  refine ⟨fun id => Table.length_filter_le_one uq_card_keys_order_id id, fun id => ?_,
    fun o ho hprovider => fulfilled_iff hinv ho ?_, fun o ho hst tr' s' h' => ?_,
    fun l _ hpayment e => payment_refused hpayment⟩
  · have hle := Table.length_filter_le_one uq_entitlements_source_card_key
      (t := s.db.entitlements) id
    simpa using hle
  · rcases hprovider with hp | hp <;> simp [hp]
  · have ho' := (ledger_keeps_of_run h').order o ho hst
    refine ⟨ho', fun o'' ho'' hid => ?_⟩
    rw [s'.db.keys.order_id o'' ho'' o ho' hid]
    exact hst

theorem exactly_once_fulfilment_paid :
    ∃ tr s, (cloudMachine tableCrates).Run (.start shopDb) tr s ∧
      (∃ o ∈ s.db.orders.rows, o.id = ⟨.ofNat 3⟩ ∧ o.status = .confirmed) ∧
      (∀ id : OrderId, (s.db.cardKeys.rows.filter fun k => k.orderId = some id).length ≤ 1) ∧
      ∀ o ∈ s.db.orders.rows, o.paymentProvider = .stripe ∨ o.paymentProvider = .wechatPay →
        (s.db.Fulfilled o.id ↔ o.status = .confirmed) :=
  have hrun := Machine.run_exec
    (show (cloudMachine tableCrates).Allows (.start shopDb) paidSteps by decide)
  ⟨_, _, hrun, by decide, (exactly_once_fulfilment shop_init hrun).1,
    (exactly_once_fulfilment shop_init hrun).2.2.1⟩

/-! ## Where confirmed orders and events come from -/

/-- The step confirmed the order `o` of a payment provider: it delivered a payment for it. -/
def Confirms (x : Crates) (o : Order) (l : CloudLabel) (answer : CloudAnswer) (m : Cloud) : Prop :=
  answer = .acknowledged true ∧ l.request.Paid ∧ l.Pays x o ∧
    (∃ o₀ ∈ m.db.orders.rows, o₀.id = o.id ∧ o₀.status = .pendingProviderPayment) ∧
    o ∈ ((cloudMachine x).step m l).2.db.orders.rows

/-- The step delivered the event `e`; if the event announces a payment, then for an order that is
confirmed in the ledger. -/
def Delivers (x : Crates) (e : PaymentEvent) (c : Ledger) (l : CloudLabel) : Prop :=
  l.request.event = some (e.provider, e.eventId) ∧
    (l.request.Paid → ∃ o ∈ c.orders, o.status = .confirmed ∧ l.Pays x o)

lemma Delivers.mono {e : PaymentEvent} {c c' : Ledger} (h : Delivers x e c l)
    (hkeeps : c.Keeps c') : Delivers x e c' l := by
  refine ⟨h.1, fun hpaid => ?_⟩
  obtain ⟨o, ho, hst, hpays⟩ := h.2 hpaid
  exact ⟨o, hkeeps.order o ho hst, hst, hpays⟩

/-- The confirmation of an order changes nothing that a payment is compared with. -/
lemma pays_confirmPaid {o : Order} (h : l.Pays x o) (intent : Option String) (paidAt : Time) :
    l.Pays x (confirmPaid intent paidAt o) := by
  simp only [CloudLabel.Pays] at h ⊢
  split at h
  · obtain ⟨session, hobject, hpays⟩ := h
    exact ⟨session, hobject, hpays.order_id, hpays.provider, hpays.session_id, hpays.amount,
      hpays.currency⟩
  · exact ⟨h.provider, h.out_trade_no, h.amount, h.currency, h.appid, h.mchid⟩
  · exact h

/-- Without a payment no order of a payment provider becomes confirmed. -/
lemma Ledger.Change.confirmed_of_events {c c' : Ledger} (h : Ledger.Change c c') (hinv : c.Inv)
    (hevents : c'.paymentEvents = c.paymentEvents) {o : Order} (ho : o ∈ c'.orders)
    (hprovider : o.paymentProvider ≠ .manual) (hst : o.status = .confirmed) : o ∈ c.orders := by
  cases h with
  | idle => exact ho
  | createOrder o' hpending =>
    rcases List.mem_append.mp ho with ho | ho
    · exact ho
    · obtain rfl := List.mem_singleton.mp ho
      rcases hpending with ⟨hs, -⟩ | ⟨hs, -⟩ <;> simp [hs] at hst
  | attachSession id session =>
    rcases mem_updateWhere.mp ho with ⟨o', -, hp, rfl⟩ | ⟨ho, -⟩
    · have hpending : o'.status = .pendingProviderPayment := by
        simpa using (Bool.and_eq_true_iff.mp hp).2
      exact absurd (hpending.symm.trans hst) (by simp)
    · exact ho
  | recordEvent e => simp at hevents
  | fulfil => simp at hevents
  | confirmManually p =>
    rcases mem_updateWhere.mp ho with ⟨o', ho', hp, rfl⟩ | ⟨ho, -⟩
    · have hpending : o'.status = .pendingManualPayment := by
        simpa using (Bool.and_eq_true_iff.mp hp).2
      -- an order that is confirmed by hand has no provider
      exact absurd (hinv.manual_of_pending o' ho' hpending) hprovider
    · exact ho
  | addCardKeys => exact ho
  | redeem => exact ho
  | grant => exact ho
  | revoke => exact ho

/-- The history of the payments: each event was delivered, and each confirmed order of a payment
provider was confirmed by a payment. -/
structure History (x : Crates) (s₀ : Cloud) (tr : List (CloudLabel × CloudAnswer)) (s : Cloud) :
    Prop where
  event : ∀ e ∈ s.db.paymentEvents.rows,
    (cloudMachine x).Happened s₀ tr fun l _ _ => Delivers x e s.db.ledger l
  confirmed : ∀ o ∈ s.db.orders.rows, o.paymentProvider ≠ .manual → o.status = .confirmed →
    (cloudMachine x).Happened s₀ tr (Confirms x o)

/-- A step that leaves the payment events alone. -/
lemma History.snoc (h : History x s₀ tr s) (hinv : s.db.ledger.Inv)
    (hchange : s.db.ledger.Change s'.db.ledger)
    (hevents : s'.db.ledger.paymentEvents = s.db.ledger.paymentEvents)
    (step : CloudLabel × CloudAnswer) : History x s₀ (tr ++ [step]) s' where
  event e he := by
    have he' : e ∈ s.db.ledger.paymentEvents := hevents ▸ he
    exact ((h.event e he').snoc step).mono fun l _ _ hd => hd.mono hchange.keeps
  confirmed o ho hprovider hst :=
    (h.confirmed o (hchange.confirmed_of_events hinv hevents ho hprovider hst) hprovider hst).snoc
      step

/-- A delivery that is acknowledged. -/
lemma History.delivery (h : History x s₀ tr s) (hinv : s.db.ledger.Inv)
    (hrun : (cloudMachine x).Run s₀ tr s) (hen : (cloudMachine x).enabled s l)
    {provider : PaymentProvider} {eventId : String} {processed : Bool}
    (hrequest : l.request.event = some (provider, eventId))
    (hanswer : ((cloudMachine x).step s l).1 = .acknowledged processed)
    (houtcome : PaymentOutcome provider eventId l.request.Paid (l.Pays x) s.db.ledger processed
      ((cloudMachine x).step s l).2.db.ledger) :
    History x s₀ (tr ++ [(l, ((cloudMachine x).step s l).1)]) ((cloudMachine x).step s l).2 := by
  have hkeeps := houtcome.change.keeps
  -- the earlier events, and the one that is marked now
  have hold : ∀ e ∈ s.db.ledger.paymentEvents,
      (cloudMachine x).Happened s₀ (tr ++ [(l, ((cloudMachine x).step s l).1)]) fun l' _ _ =>
        Delivers x e ((cloudMachine x).step s l).2.db.ledger l' := fun e he =>
    ((h.event e he).snoc _).mono fun l' _ _ hd => hd.mono hkeeps
  have hlast : ∀ e : PaymentEvent, e.provider = provider → e.eventId = eventId →
      (l.request.Paid → ∃ o ∈ ((cloudMachine x).step s l).2.db.ledger.orders,
        o.status = .confirmed ∧ l.Pays x o) →
      (cloudMachine x).Happened s₀ (tr ++ [(l, ((cloudMachine x).step s l).1)]) fun l' _ _ =>
        Delivers x e ((cloudMachine x).step s l).2.db.ledger l' := fun e hprovider hevent hpaid =>
    .last hrun hen ⟨by rw [hprovider, hevent, hrequest], hpaid⟩
  generalize hc : ((cloudMachine x).step s l).2.db.ledger = c' at houtcome hold hlast
  have hevents : ((cloudMachine x).step s l).2.db.paymentEvents.rows = c'.paymentEvents :=
    congrArg Ledger.paymentEvents hc
  have horders : ((cloudMachine x).step s l).2.db.orders.rows = c'.orders :=
    congrArg Ledger.orders hc
  rw [← hc] at hold hlast
  cases houtcome with
  | repeated => exact h.snoc hinv (hc ▸ .idle) (by rw [hc]) _
  | ignored hpaid e hprovider hevent =>
    refine ⟨fun e' he' => ?_, fun o ho hp hst => ?_⟩
    · rw [hevents] at he'
      rcases List.mem_append.mp he' with he' | he'
      · exact hold e' he'
      · obtain rfl := List.mem_singleton.mp he'
        exact hlast e' hprovider hevent fun hp => absurd hp hpaid
    · rw [horders] at ho
      exact (h.confirmed o ho hp hst).snoc _
  | already hpaid ho hpays hconfirmed e hprovider hevent =>
    refine ⟨fun e' he' => ?_, fun o ho' hp hst => ?_⟩
    · rw [hevents] at he'
      rcases List.mem_append.mp he' with he' | he'
      · exact hold e' he'
      · obtain rfl := List.mem_singleton.mp he'
        exact hlast e' hprovider hevent fun _ =>
          ⟨_, hkeeps.order _ ho hconfirmed, hconfirmed, hpays⟩
    · rw [horders] at ho'
      exact (h.confirmed o ho' hp hst).snoc _
  | @fulfilled hpaid o ho hpays hpending intent paidAt card _ redeemedAt entitlement _ e hprovider
      hevent =>
    have hnew : confirmPaid intent paidAt o ∈ ((cloudMachine x).step s l).2.db.orders.rows := by
      rw [horders]
      exact mem_updateWhere_of_pos ho (by simp [isPendingPayment, hpending])
    have hpays' := pays_confirmPaid hpays intent paidAt
    refine ⟨fun e' he' => ?_, fun o' ho' hp hst => ?_⟩
    · rw [hevents] at he'
      rcases List.mem_append.mp he' with he' | he'
      · exact hold e' he'
      · obtain rfl := List.mem_singleton.mp he'
        exact hlast e' hprovider hevent fun _ => ⟨_, hnew, rfl, hpays'⟩
    · rw [horders] at ho'
      rcases mem_updateWhere.mp ho' with ⟨b, hb, hpend, rfl⟩ | ⟨ho', -⟩
      · -- the order that is confirmed now
        have hid : b.id = o.id := by simpa using (Bool.and_eq_true_iff.mp hpend).1
        obtain rfl := s.db.keys.order_id b hb o ho hid
        exact .last hrun hen ⟨hanswer, hpaid, hpays', ⟨b, hb, rfl, hpending⟩, hnew⟩
      · exact (h.confirmed o' ho' hp hst).snoc _

/-- **Every run has its history.** -/
theorem history_of_run (h₀ : (cloudMachine x).init s₀) (h : (cloudMachine x).Run s₀ tr s) :
    History x s₀ tr s := by
  refine Machine.Run.history ⟨fun e he => ?_, fun o ho _ hst => ?_⟩ (fun tr m l hrun ih hen => ?_) h
  · rw [h₀.2.paymentEvents] at he
    cases he
  · exact absurd hst (h₀.2.orders o ho).1
  · have hinv := ledger_inv_of_run h₀ hrun
    rcases (Cloud.step_effect x m l).ledger_cases with hsame | hstep | ⟨_, _, _, hrequest, hanswer,
      houtcome⟩
    · exact ih.snoc hinv (step_change x m l) (congrArg Ledger.paymentEvents hsame) _
    · exact ih.snoc hinv hstep.change hstep.events _
    · exact ih.delivery hinv hrun hen hrequest hanswer houtcome

/-! ## No payment is lost -/

/-- Two deliveries of one event carry the same payload. -/
def SamePayload : CloudRequest → CloudRequest → Prop
  | .stripeWebhook event _, .stripeWebhook event' _ => event.id = event'.id → event = event'
  | .wechatpayWebhook event transaction _, .wechatpayWebhook event' transaction' _ =>
    event.id = event'.id → event = event' ∧ transaction = transaction'
  | _, _ => True

/-- The delivery names the order: by the checkout session or by its own trade number. -/
def CloudRequest.Names : CloudRequest → Order → Prop
  | .stripeWebhook event _, o =>
    ∃ session, event.object = some session ∧ o.checkoutSessionId = some session.id
  | .wechatpayWebhook _ transaction _, o => o.paymentReference = transaction.outTradeNo
  | _, _ => False

/-- No two orders are named by one delivery. -/
lemma CloudRequest.Names.unique {r : CloudRequest} {db : Db} {o o' : Order} (h : r.Names o)
    (h' : r.Names o') (ho : o ∈ db.orders.rows) (ho' : o' ∈ db.orders.rows) : o = o' := by
  cases r with
  | stripeWebhook event hash =>
    obtain ⟨session, hobject, hsession⟩ := h
    obtain ⟨session', hobject', hsession'⟩ := h'
    obtain rfl := Option.some.inj (hobject.symm.trans hobject')
    exact db.keys.checkout_session o ho o' ho' session.id hsession hsession'
  | wechatpayWebhook event transaction hash =>
    exact db.keys.payment_reference o ho o' ho' (Eq.trans h (Eq.symm h'))
  | _ => exact h.elim

/-- A payment names the order it is for, and the order is not a manual one. -/
lemma CloudLabel.Pays.names {o : Order} (h : l.Pays x o) :
    l.request.Names o ∧ o.paymentProvider ≠ .manual := by
  cases hr : l.request with
  | stripeWebhook event hash =>
    simp only [CloudLabel.Pays, hr] at h
    obtain ⟨session, hobject, hpays⟩ := h
    exact ⟨⟨session, hobject, hpays.session_id⟩, by simp [hpays.provider]⟩
  | wechatpayWebhook event transaction hash =>
    simp only [CloudLabel.Pays, hr] at h
    exact ⟨h.out_trade_no, by simp [h.provider]⟩
  | _ => simp [CloudLabel.Pays, hr] at h

/-- An earlier delivery of the same event announced the same payment, and named the same order. -/
lemma SamePayload.names {r r' : CloudRequest} (h : SamePayload r' r)
    {event : PaymentProvider × String} (hevent' : r'.event = some event)
    (hevent : r.event = some event) :
    (r.Paid → r'.Paid) ∧ ∀ o, r'.Names o → r.Names o := by
  have hboth := hevent'.trans hevent.symm
  cases r with
  | stripeWebhook e hash =>
    cases r' with
    | stripeWebhook e' hash' =>
      obtain rfl : e' = e := h (by simpa [CloudRequest.event] using hboth)
      exact ⟨id, fun _ => id⟩
    | _ => simp [CloudRequest.event] at hboth
  | wechatpayWebhook e transaction hash =>
    cases r' with
    | wechatpayWebhook e' transaction' hash' =>
      obtain ⟨rfl, rfl⟩ := h (by simpa [CloudRequest.event] using hboth)
      exact ⟨id, fun _ => id⟩
    | _ => simp [CloudRequest.event] at hboth
  | _ => cases hevent

/-- What is acknowledged is the delivery of an event. -/
lemma acknowledged_outcome {processed : Bool}
    (h : ((cloudMachine x).step s l).1 = .acknowledged processed) :
    ∃ provider eventId, l.request.event = some (provider, eventId) ∧
      PaymentOutcome provider eventId l.request.Paid (l.Pays x) s.db.ledger processed
        ((cloudMachine x).step s l).2.db.ledger := by
  have heffect : Cloud.Effect x s l ((cloudMachine x).step s l).1 ((cloudMachine x).step s l).2 :=
    Cloud.step_effect x s l
  rw [h] at heffect
  generalize ((cloudMachine x).step s l).2 = s' at heffect
  generalize hanswer : CloudAnswer.acknowledged processed = answer at heffect
  cases heffect with
  | transaction _ _ hplain =>
    rw [← hanswer] at hplain
    cases hplain
  | delivery hrequest houtcome =>
    obtain rfl := CloudAnswer.acknowledged.inj hanswer
    exact ⟨_, _, hrequest, houtcome⟩
  | activation _ _ hnext => cases hnext <;> cases hanswer
  | issuance _ _ hnext => cases hnext <;> cases hanswer
  | _ => cases hanswer

/-- After an acknowledged payment the order that it names is confirmed. -/
lemma confirmed_of_acknowledged (hhistory : History x s₀ tr s)
    (hsame : ∀ step ∈ tr, SamePayload step.1.request l.request) (hpaid : l.request.Paid)
    {processed : Bool} (h : ((cloudMachine x).step s l).1 = .acknowledged processed) {o : Order}
    (ho : o ∈ s.db.orders.rows) (hnames : l.request.Names o) :
    ∃ o' ∈ ((cloudMachine x).step s l).2.db.orders.rows,
      o'.id = o.id ∧ o'.paymentProvider ≠ .manual ∧ o'.status = .confirmed := by
  obtain ⟨provider, eventId, hrequest, houtcome⟩ := acknowledged_outcome h
  have hkeeps := houtcome.change.keeps
  generalize hc : ((cloudMachine x).step s l).2.db.ledger = c' at houtcome hkeeps
  have horders : ((cloudMachine x).step s l).2.db.orders.rows = c'.orders :=
    congrArg Ledger.orders hc
  rw [horders]
  cases houtcome with
  | ignored hno => exact absurd hpaid hno
  | repeated hrow =>
    -- the earlier delivery of the event was for the same order
    obtain ⟨e, he, rfl, rfl⟩ := hrow
    obtain ⟨pre, l', post, m, rfl, -, -, hevent', hdelivered⟩ := hhistory.event e he
    have hmem := hsame _ (List.mem_append_right pre (List.mem_cons_self ..))
    obtain ⟨hpaid', hnames'⟩ := hmem.names hevent' hrequest
    obtain ⟨o', ho', hst, hpays⟩ := hdelivered (hpaid' hpaid)
    obtain ⟨hnamed, hprovider⟩ := hpays.names
    obtain rfl := hnames.unique (hnames' o' hnamed) ho ho'
    exact ⟨o, ho, rfl, hprovider, hst⟩
  | already _ ho' hpays hst =>
    obtain ⟨hnamed, hprovider⟩ := hpays.names
    obtain rfl := hnames.unique hnamed ho ho'
    exact ⟨o, ho, rfl, hprovider, hst⟩
  | fulfilled _ ho' hpays hpending intent paidAt =>
    obtain ⟨hnamed, hprovider⟩ := hpays.names
    obtain rfl := hnames.unique hnamed ho ho'
    exact ⟨confirmPaid intent paidAt o,
      mem_updateWhere_of_pos ho (by simp [isPendingPayment, hpending]), rfl, hprovider, rfl⟩

/-! ## No order is underpaid -/

/-- The delivery is a verified payment of the order: for its amount, in its currency, under its
session or trade number, and to the merchant. -/
inductive VerifiedPayment (l : CloudLabel) (o : Order) : Prop
  | stripe {event : StripeWebhookEvent} {hash : String} {session : StripeCheckoutSessionObject}
      {currency : String} (hrequest : l.request = .stripeWebhook event hash)
      (hpaid : event.Paid session) (hprovider : o.paymentProvider = .stripe)
      (hamount : session.amountTotal = some o.amountMinor)
      (hcurrency : session.currency = some currency)
      (hcase : eqIgnoreAsciiCase currency o.currency)
      (hsession : o.checkoutSessionId = some session.id)
  | wechatPay {event : WechatPayWebhookEvent} {transaction : WechatPayTransaction} {hash : String}
      (hrequest : l.request = .wechatpayWebhook event transaction hash)
      (hpaid : transaction.Paid event) (hprovider : o.paymentProvider = .wechatPay)
      (hamount : transaction.amount.total = o.amountMinor)
      (hcase : eqIgnoreAsciiCase (transaction.amount.currency.getD "CNY") o.currency)
      (htrade : transaction.outTradeNo = o.paymentReference)
      (happid : l.config.wechatAppId = some transaction.appid)
      (hmchid : l.config.wechatMchId = some transaction.mchid)

lemma CloudLabel.Pays.verified {o : Order} (h : l.Pays x o) (hpaid : l.request.Paid) :
    VerifiedPayment l o := by
  cases hr : l.request with
  | stripeWebhook event hash =>
    simp only [CloudLabel.Pays, CloudRequest.Paid, hr] at h hpaid
    obtain ⟨session, hobject, hpays⟩ := h
    obtain ⟨session', hpaid⟩ := hpaid
    obtain rfl := Option.some.inj (hobject.symm.trans hpaid.object)
    obtain ⟨currency, hcurrency, hlower⟩ := Option.map_eq_some_iff.mp hpays.currency
    refine .stripe hr hpaid hpays.provider hpays.amount hcurrency ?_ hpays.session_id
    rw [eqIgnoreAsciiCase, ← hlower, toAsciiLowercase_toAsciiLowercase]
  | wechatpayWebhook event transaction hash =>
    simp only [CloudLabel.Pays, CloudRequest.Paid, hr] at h hpaid
    exact .wechatPay hr hpaid h.provider h.amount (eqIgnoreAsciiCase_of_toAsciiUppercase h.currency)
      h.out_trade_no.symm h.appid h.mchid
  | _ => simp [CloudLabel.Pays, hr] at h

/-- **No lost and no underpaid payment.**  In every state that a run reaches: when a delivery that
announces a payment is acknowledged, and earlier deliveries of the same event carried the same
payload, the order that it names is confirmed and fulfilled afterwards; and every order of a
payment provider that is confirmed was confirmed, from the state in which it waited for its
payment, by a verified payment. -/
theorem no_payment_lost (h₀ : (cloudMachine x).init s₀) (h : (cloudMachine x).Run s₀ tr s) :
    (∀ l, (cloudMachine x).enabled s l →
      (∀ step ∈ tr, SamePayload step.1.request l.request) → l.request.Paid →
      ∀ o ∈ s.db.orders.rows, l.request.Names o →
      ∀ processed, ((cloudMachine x).step s l).1 = .acknowledged processed →
      (∃ o' ∈ ((cloudMachine x).step s l).2.db.orders.rows,
        o'.id = o.id ∧ o'.status = .confirmed) ∧
      ((cloudMachine x).step s l).2.db.Fulfilled o.id) ∧
    (∀ o ∈ s.db.orders.rows, o.paymentProvider ≠ .manual → o.status = .confirmed →
      (cloudMachine x).Happened s₀ tr fun l answer m =>
        answer = .acknowledged true ∧ VerifiedPayment l o ∧
        (∃ o₀ ∈ m.db.orders.rows, o₀.id = o.id ∧ o₀.status = .pendingProviderPayment) ∧
        o ∈ ((cloudMachine x).step m l).2.db.orders.rows) := by
  have hhistory := history_of_run h₀ h
  refine ⟨fun l hen hsame hpaid o ho hnames processed hanswer => ?_, fun o ho hprovider hst => ?_⟩
  · obtain ⟨o', ho', hid, hprovider, hst⟩ :=
      confirmed_of_acknowledged hhistory hsame hpaid hanswer ho hnames
    have hinv := ledger_inv_of_run h₀ (h.snoc hen)
    exact ⟨⟨o', ho', hid, hst⟩, hid ▸ (fulfilled_iff hinv ho' hprovider).mpr hst⟩
  · refine (hhistory.confirmed o ho hprovider hst).mono ?_
    rintro l answer m ⟨hanswer, hpaid, hpays, hbefore, hafter⟩
    exact ⟨hanswer, hpays.verified hpaid, hbefore, hafter⟩

theorem no_payment_lost_paid :
    ∃ tr s, (cloudMachine tableCrates).Run (.start shopDb) tr s ∧
      ((cloudMachine tableCrates).step s (shopLabel 4 (paidEvent "evt_1") true)).2.db.Fulfilled
        ⟨.ofNat 3⟩ ∧
      (∃ o ∈ s.db.orders.rows, o.id = ⟨.ofNat 3⟩ ∧ o.status = .confirmed) ∧
      ∀ o ∈ s.db.orders.rows, o.paymentProvider ≠ .manual → o.status = .confirmed →
        (cloudMachine tableCrates).Happened (.start shopDb) tr fun l _ _ => VerifiedPayment l o :=
  have hrun := Machine.run_exec
    (show (cloudMachine tableCrates).Allows (.start shopDb) paidSteps by decide)
  have hmain := no_payment_lost shop_init hrun
  have hsame : ∀ step ∈ ((cloudMachine tableCrates).exec (.start shopDb) paidSteps).1,
      SamePayload step.1.request (paidEvent "evt_1") := by
    intro step hstep
    simp only [Machine.exec, paidSteps, List.mem_cons, List.not_mem_nil, or_false] at hstep
    rcases hstep with rfl | rfl | rfl
    · exact fun _ => rfl
    · exact fun _ => rfl
    · exact fun h => absurd h (by decide)
  have hrow : confirmPaid (some "pi_1") 1767225720000000 shopOrder ∈
      ((cloudMachine tableCrates).exec (.start shopDb) paidSteps).2.db.orders.rows := by decide
  ⟨_, _, hrun,
    (hmain.1 (shopLabel 4 (paidEvent "evt_1") true) (by decide) hsame
      ⟨paidSession, by decide, rfl, rfl⟩ _ hrow ⟨paidSession, rfl, rfl⟩ false (by decide)).2,
    ⟨_, hrow, rfl, rfl⟩,
    fun o ho hprovider hst => (hmain.2 o ho hprovider hst).mono fun _ _ _ h => h.2.1⟩

end OzonSuite
