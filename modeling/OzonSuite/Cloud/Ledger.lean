/-
# The ledger of orders, card keys and entitlements

An abstract account of what the service sells.  The ledger is the contents of four tables; the
changes it may undergo are those of `Ledger.Change`, whatever request they come from.  From them
alone it follows that an order is fulfilled once and for all, and that a card key that has been
redeemed belongs to one entitlement for ever.
-/
import OzonSuite.Cloud.Queries

namespace OzonSuite

open Lib

/-- The contents of the tables that say what has been sold. -/
structure Ledger where
  orders : List Order
  cardKeys : List CardKeyRow
  entitlements : List Entitlement
  paymentEvents : List PaymentEvent

/-- The ledger in the database. -/
def Db.ledger (db : Db) : Ledger :=
  { orders := db.orders.rows
    cardKeys := db.cardKeys.rows
    entitlements := db.entitlements.rows
    paymentEvents := db.paymentEvents.rows }

namespace Ledger

/-- The keys that the tables enforce. -/
structure Keys (c : Ledger) : Prop where
  order_id : ∀ a ∈ c.orders, ∀ b ∈ c.orders, a.id = b.id → a = b
  payment_reference : ∀ a ∈ c.orders, ∀ b ∈ c.orders,
    a.paymentReference = b.paymentReference → a = b
  checkout_session : ∀ a ∈ c.orders, ∀ b ∈ c.orders, ∀ session,
    a.checkoutSessionId = some session → b.checkoutSessionId = some session → a = b
  card_key_id : ∀ a ∈ c.cardKeys, ∀ b ∈ c.cardKeys, a.id = b.id → a = b
  source_card_key : ∀ a ∈ c.entitlements, ∀ b ∈ c.entitlements,
    a.sourceCardKeyId = b.sourceCardKeyId → a = b
  event_id : ∀ a ∈ c.paymentEvents, ∀ b ∈ c.paymentEvents,
    a.provider = b.provider → a.eventId = b.eventId → a = b

end Ledger

/-- The tables of the database enforce the keys of the ledger. -/
lemma Db.keys (db : Db) : db.ledger.Keys where
  order_id a ha b hb h := Table.eq_of_key orders_pkey ha hb rfl (by rw [h])
  payment_reference a ha b hb h :=
    Table.eq_of_key uq_orders_payment_reference ha hb rfl (by rw [h])
  checkout_session a ha b hb _ hsa hsb :=
    Table.eq_of_key uq_orders_checkout_session_id ha hb hsa hsb
  card_key_id a ha b hb h := Table.eq_of_key card_keys_pkey ha hb rfl (by rw [h])
  source_card_key a ha b hb h :=
    Table.eq_of_key uq_entitlements_source_card_key ha hb rfl (by rw [h])
  event_id a ha b hb hp he := Table.eq_of_key payment_events_pkey ha hb rfl (by rw [hp, he])

/-! ## Fulfilment of one card key -/

/-- An entitlement made by redeeming the card key at `redeemedAt`. -/
structure MadeFrom (card : CardKeyRow) (redeemedAt : Time) (entitlement : Entitlement) : Prop where
  source : entitlement.sourceCardKeyId = card.id
  expires : entitlement.expiresAt = redeemedAt + Time.days card.durationDays.toNat

/-- The order waits for a payment of its provider. -/
def isPendingPayment (id : OrderId) (o : Order) : Bool :=
  o.id == id && o.status == .pendingProviderPayment

/-- The order waits for the administrator. -/
def isPendingManual (p : Order → Bool) (o : Order) : Bool :=
  p o && o.status == .pendingManualPayment

/-- The card key may be redeemed. -/
def isRedeemable (id : CardKeyId) (c : CardKeyRow) : Bool :=
  c.id == id && c.status == .available

namespace Ledger

/-- What may happen to the ledger. -/
inductive Change : Ledger → Ledger → Prop
  | idle {c : Ledger} : Change c c
  | createOrder {c : Ledger} (o : Order)
      (hpending : (o.status = .pendingManualPayment ∧ o.paymentProvider = .manual) ∨
        (o.status = .pendingProviderPayment ∧ o.paymentProvider ≠ .manual)) :
      Change c { c with orders := c.orders ++ [o] }
  | attachSession {c : Ledger} (id : OrderId) (session : String) :
      Change c { c with
        orders := updateWhere (isPendingPayment id) (attachSession session) c.orders }
  | recordEvent {c : Ledger} (e : PaymentEvent) :
      Change c { c with paymentEvents := c.paymentEvents ++ [e] }
  | fulfil {c : Ledger} {o : Order} (ho : o ∈ c.orders)
      (hpending : o.status = .pendingProviderPayment) (intent : Option String) (paidAt : Time)
      (card : CardKeyRow) (hcard : card.orderId = some o.id) (redeemedAt : Time)
      (entitlement : Entitlement) (hmade : MadeFrom card redeemedAt entitlement)
      (e : PaymentEvent) :
      Change c
        { orders := updateWhere (isPendingPayment o.id) (confirmPaid intent paidAt) c.orders
          cardKeys := c.cardKeys ++ [redeemBy entitlement.userId redeemedAt card]
          entitlements := c.entitlements ++ [entitlement]
          paymentEvents := c.paymentEvents ++ [e] }
  | confirmManually {c : Ledger} (p : Order → Bool) {o : Order} (ho : o ∈ c.orders)
      (hp : isPendingManual p o = true) (now : Time) (card : CardKeyRow)
      (hcard : card.orderId = some o.id) (havailable : card.status = .available) :
      Change c { c with
        orders := updateWhere (isPendingManual p) (OzonSuite.confirmManually now) c.orders
        cardKeys := c.cardKeys ++ [card] }
  | addCardKeys {c : Ledger} (cards : List CardKeyRow)
      (hcards : ∀ card ∈ cards, card.orderId = none ∧ card.status = .available) :
      Change c { c with cardKeys := c.cardKeys ++ cards }
  | redeem {c : Ledger} {card : CardKeyRow} (hcard : card ∈ c.cardKeys)
      (havailable : card.status = .available) (redeemedAt : Time) (entitlement : Entitlement)
      (hmade : MadeFrom card redeemedAt entitlement) :
      Change c { c with
        cardKeys := updateWhere (isRedeemable card.id) (redeemBy entitlement.userId redeemedAt)
          c.cardKeys
        entitlements := c.entitlements ++ [entitlement] }
  | grant {c : Ledger} (card : CardKeyRow) (hcard : card.orderId = none) (redeemedAt : Time)
      (entitlement : Entitlement) (hmade : MadeFrom card redeemedAt entitlement) :
      Change c { c with
        cardKeys := c.cardKeys ++ [redeemBy entitlement.userId redeemedAt card]
        entitlements := c.entitlements ++ [entitlement] }
  | revoke {c : Ledger} (id : EntitlementId) (now : Time) :
      Change c { c with
        entitlements := updateWhere (·.id == id) (revokeAt now) c.entitlements }

/-! ## The invariant -/

/-- The invariant of the ledger: which orders wait for whom, that a card key of an order means
that the order is confirmed, that a confirmed order of a payment provider has been fulfilled, and
that a redeemed card key has its entitlement. -/
structure Inv (c : Ledger) : Prop where
  manual_of_pending : ∀ o ∈ c.orders, o.status = .pendingManualPayment →
    o.paymentProvider = .manual
  provider_of_pending : ∀ o ∈ c.orders, o.status = .pendingProviderPayment →
    o.paymentProvider ≠ .manual
  confirmed_of_card : ∀ k ∈ c.cardKeys, ∀ id, k.orderId = some id →
    ∃ o ∈ c.orders, o.id = id ∧ o.status = .confirmed
  card_of_confirmed : ∀ o ∈ c.orders, o.paymentProvider ≠ .manual → o.status = .confirmed →
    ∃ k ∈ c.cardKeys, k.orderId = some o.id ∧ k.status = .redeemed
  entitlement_of_card : ∀ k ∈ c.cardKeys, k.status = .redeemed →
    ∃ e ∈ c.entitlements, ∃ redeemedAt, MadeFrom k redeemedAt e ∧
      k.redeemedBy = some e.userId ∧ k.redeemedAt = some redeemedAt

variable {c c' : Ledger}

/-- A confirmed order is not selected by an update of pending orders. -/
lemma not_isPendingPayment {o : Order} (h : o.status = .confirmed) (id : OrderId) :
    isPendingPayment id o = false := by
  simp [isPendingPayment, h]

lemma not_isPendingManual {o : Order} (h : o.status = .confirmed) (p : Order → Bool) :
    isPendingManual p o = false := by
  simp [isPendingManual, h]

lemma not_isRedeemable {k : CardKeyRow} (h : k.status = .redeemed) (id : CardKeyId) :
    isRedeemable id k = false := by
  simp [isRedeemable, h]

/-- A key of a confirmed order stays the key of a confirmed order when the confirmed orders
stay. -/
lemma Inv.confirmed_of_card' (h : c.Inv) {orders : List Order}
    (hstay : ∀ o ∈ c.orders, o.status = .confirmed → o ∈ orders) {k : CardKeyRow}
    (hk : k ∈ c.cardKeys) {id : OrderId} (hid : k.orderId = some id) :
    ∃ o ∈ orders, o.id = id ∧ o.status = .confirmed := by
  obtain ⟨o, ho, hoid, hconf⟩ := h.confirmed_of_card k hk id hid
  exact ⟨o, hstay o ho hconf, hoid, hconf⟩

/-- An entitlement of a redeemed key is still there when entitlements have been added. -/
lemma Inv.entitlement_append (h : c.Inv) (es : List Entitlement) {k : CardKeyRow}
    (hk : k ∈ c.cardKeys) (hredeemed : k.status = .redeemed) :
    ∃ e ∈ c.entitlements ++ es, ∃ redeemedAt, MadeFrom k redeemedAt e ∧
      k.redeemedBy = some e.userId ∧ k.redeemedAt = some redeemedAt := by
  obtain ⟨e, he, hrest⟩ := h.entitlement_of_card k hk hredeemed
  exact ⟨e, List.mem_append_left _ he, hrest⟩

/-- The key that has just been redeemed has the entitlement that was made from it. -/
lemma entitlement_redeemBy {card : CardKeyRow} {redeemedAt : Time} {e : Entitlement}
    (hmade : MadeFrom card redeemedAt e) {es : List Entitlement} (he : e ∈ es) :
    ∃ e' ∈ es, ∃ at', MadeFrom (redeemBy e.userId redeemedAt card) at' e' ∧
      (redeemBy e.userId redeemedAt card).redeemedBy = some e'.userId ∧
      (redeemBy e.userId redeemedAt card).redeemedAt = some at' :=
  ⟨e, he, redeemedAt, ⟨hmade.source, hmade.expires⟩, rfl, rfl⟩

lemma Inv.createOrder (h : c.Inv) {o : Order}
    (hpending : (o.status = .pendingManualPayment ∧ o.paymentProvider = .manual) ∨
      (o.status = .pendingProviderPayment ∧ o.paymentProvider ≠ .manual)) :
    Inv { c with orders := c.orders ++ [o] } := by
  have hmem : ∀ a ∈ c.orders ++ [o], a ∈ c.orders ∨ a = o := by
    intro a ha
    simpa using ha
  refine ⟨fun a ha hst => ?_, fun a ha hst => ?_, fun k hk id hid => ?_,
    fun a ha hprov hst => ?_, h.entitlement_of_card⟩
  · rcases hmem a ha with ha | rfl
    · exact h.manual_of_pending a ha hst
    · rcases hpending with ⟨-, hp⟩ | ⟨hs, -⟩
      · exact hp
      · simp [hs] at hst
  · rcases hmem a ha with ha | rfl
    · exact h.provider_of_pending a ha hst
    · rcases hpending with ⟨hs, -⟩ | ⟨-, hp⟩
      · simp [hs] at hst
      · exact hp
  · exact h.confirmed_of_card' (fun a ha _ => List.mem_append_left _ ha) hk hid
  · rcases hmem a ha with ha | rfl
    · exact h.card_of_confirmed a ha hprov hst
    · rcases hpending with ⟨hs, -⟩ | ⟨hs, -⟩ <;> simp [hs] at hst

lemma Inv.attachSession (h : c.Inv) (id : OrderId) (session : String) :
    Inv { c with
      orders := updateWhere (isPendingPayment id) (attachSession session) c.orders } := by
  -- an order of the new table has the status and the provider of an old one with its identifier
  have hold : ∀ a ∈ updateWhere (isPendingPayment id) (OzonSuite.attachSession session) c.orders,
      ∃ b ∈ c.orders, a.id = b.id ∧ a.status = b.status ∧
        a.paymentProvider = b.paymentProvider := by
    intro a ha
    rcases mem_updateWhere.mp ha with ⟨b, hb, -, rfl⟩ | ⟨ha, -⟩
    · exact ⟨b, hb, rfl, rfl, rfl⟩
    · exact ⟨a, ha, rfl, rfl, rfl⟩
  refine ⟨fun a ha hst => ?_, fun a ha hst => ?_, fun k hk id' hid => ?_,
    fun a ha hprov hst => ?_, h.entitlement_of_card⟩
  · obtain ⟨b, hb, -, hstatus, hprovider⟩ := hold a ha
    rw [hprovider]
    exact h.manual_of_pending b hb (hstatus ▸ hst)
  · obtain ⟨b, hb, -, hstatus, hprovider⟩ := hold a ha
    rw [hprovider]
    exact h.provider_of_pending b hb (hstatus ▸ hst)
  · exact h.confirmed_of_card'
      (fun a ha hc => mem_updateWhere_of_not ha (not_isPendingPayment hc id)) hk hid
  · obtain ⟨b, hb, hid, hstatus, hprovider⟩ := hold a ha
    obtain ⟨k, hk, hkid, hkst⟩ :=
      h.card_of_confirmed b hb (hprovider ▸ hprov) (hstatus ▸ hst)
    exact ⟨k, hk, by rw [hkid, hid], hkst⟩

lemma Inv.fulfil (h : c.Inv) (hkeys : c.Keys) {o : Order} (ho : o ∈ c.orders)
    (hpending : o.status = .pendingProviderPayment) (intent : Option String) (paidAt : Time)
    {card : CardKeyRow} (hcard : card.orderId = some o.id) {redeemedAt : Time} {e : Entitlement}
    (hmade : MadeFrom card redeemedAt e) (events : List PaymentEvent) :
    Inv
      { orders := updateWhere (isPendingPayment o.id) (confirmPaid intent paidAt) c.orders
        cardKeys := c.cardKeys ++ [redeemBy e.userId redeemedAt card]
        entitlements := c.entitlements ++ [e]
        paymentEvents := events } := by
  -- the one order that changes is `o`
  have hcases : ∀ a ∈ updateWhere (isPendingPayment o.id) (confirmPaid intent paidAt) c.orders,
      a = confirmPaid intent paidAt o ∨ a ∈ c.orders := by
    intro a ha
    rcases mem_updateWhere.mp ha with ⟨b, hb, hpend, rfl⟩ | ⟨ha, -⟩
    · have hid : b.id = o.id := by simpa using (Bool.and_eq_true_iff.mp hpend).1
      rw [hkeys.order_id b hb o ho hid]
      exact .inl rfl
    · exact .inr ha
  have hnew : confirmPaid intent paidAt o ∈
      updateWhere (isPendingPayment o.id) (confirmPaid intent paidAt) c.orders :=
    mem_updateWhere_of_pos ho (by simp [isPendingPayment, hpending])
  refine ⟨fun a ha hst => ?_, fun a ha hst => ?_, fun k hk id hid => ?_,
    fun a ha hprov hst => ?_, fun k hk hst => ?_⟩
  · rcases hcases a ha with rfl | ha
    · cases hst
    · exact h.manual_of_pending a ha hst
  · rcases hcases a ha with rfl | ha
    · cases hst
    · exact h.provider_of_pending a ha hst
  · rcases List.mem_append.mp hk with hk | hk
    · exact h.confirmed_of_card'
        (fun a ha hc => mem_updateWhere_of_not ha (not_isPendingPayment hc o.id)) hk hid
    · obtain rfl := List.mem_singleton.mp hk
      obtain rfl : o.id = id := Option.some.inj (hcard.symm.trans hid)
      exact ⟨_, hnew, rfl, rfl⟩
  · rcases hcases a ha with rfl | ha
    · exact ⟨_, List.mem_append_right _ (List.mem_singleton_self _), hcard, rfl⟩
    · obtain ⟨k, hk, hkid, hkst⟩ := h.card_of_confirmed a ha hprov hst
      exact ⟨k, List.mem_append_left _ hk, hkid, hkst⟩
  · rcases List.mem_append.mp hk with hk | hk
    · exact h.entitlement_append [e] hk hst
    · obtain rfl := List.mem_singleton.mp hk
      exact entitlement_redeemBy hmade (List.mem_append_right _ (List.mem_singleton_self _))

lemma Inv.confirmManually (h : c.Inv) (p : Order → Bool) {o : Order} (ho : o ∈ c.orders)
    (hp : isPendingManual p o = true) (now : Time) {card : CardKeyRow}
    (hcard : card.orderId = some o.id) (havailable : card.status = .available) :
    Inv { c with
      orders := updateWhere (isPendingManual p) (OzonSuite.confirmManually now) c.orders
      cardKeys := c.cardKeys ++ [card] } := by
  -- the orders that change are manual ones
  have hcases : ∀ a ∈ updateWhere (isPendingManual p) (OzonSuite.confirmManually now) c.orders,
      (a.paymentProvider = .manual ∧ a.status = .confirmed) ∨ a ∈ c.orders := by
    intro a ha
    rcases mem_updateWhere.mp ha with ⟨b, hb, hpend, rfl⟩ | ⟨ha, -⟩
    · have hst : b.status = .pendingManualPayment := by
        simpa using (Bool.and_eq_true_iff.mp hpend).2
      exact .inl ⟨h.manual_of_pending b hb hst, rfl⟩
    · exact .inr ha
  refine ⟨fun a ha hst => ?_, fun a ha hst => ?_, fun k hk id hid => ?_,
    fun a ha hprov hst => ?_, fun k hk hst => ?_⟩
  · rcases hcases a ha with ⟨hman, -⟩ | ha
    · exact hman
    · exact h.manual_of_pending a ha hst
  · rcases hcases a ha with ⟨-, hconf⟩ | ha
    · simp [hconf] at hst
    · exact h.provider_of_pending a ha hst
  · rcases List.mem_append.mp hk with hk | hk
    · exact h.confirmed_of_card'
        (fun a ha hc => mem_updateWhere_of_not ha (not_isPendingManual hc p)) hk hid
    · obtain rfl := List.mem_singleton.mp hk
      obtain rfl : o.id = id := Option.some.inj (hcard.symm.trans hid)
      exact ⟨_, mem_updateWhere_of_pos ho hp, rfl, rfl⟩
  · rcases hcases a ha with ⟨hman, -⟩ | ha
    · exact absurd hman hprov
    · obtain ⟨k, hk, hkid, hkst⟩ := h.card_of_confirmed a ha hprov hst
      exact ⟨k, List.mem_append_left _ hk, hkid, hkst⟩
  · rcases List.mem_append.mp hk with hk | hk
    · exact h.entitlement_of_card k hk hst
    · obtain rfl := List.mem_singleton.mp hk
      simp [havailable] at hst

lemma Inv.addCardKeys (h : c.Inv) {cards : List CardKeyRow}
    (hcards : ∀ card ∈ cards, card.orderId = none ∧ card.status = .available) :
    Inv { c with cardKeys := c.cardKeys ++ cards } := by
  refine ⟨h.manual_of_pending, h.provider_of_pending, fun k hk id hid => ?_,
    fun a ha hprov hst => ?_, fun k hk hst => ?_⟩
  · rcases List.mem_append.mp hk with hk | hk
    · exact h.confirmed_of_card k hk id hid
    · simp [(hcards k hk).1] at hid
  · obtain ⟨k, hk, hkid, hkst⟩ := h.card_of_confirmed a ha hprov hst
    exact ⟨k, List.mem_append_left _ hk, hkid, hkst⟩
  · rcases List.mem_append.mp hk with hk | hk
    · exact h.entitlement_of_card k hk hst
    · simp [(hcards k hk).2] at hst

lemma Inv.redeem (h : c.Inv) (hkeys : c.Keys) {card : CardKeyRow} (hcard : card ∈ c.cardKeys)
    {redeemedAt : Time} {e : Entitlement} (hmade : MadeFrom card redeemedAt e) :
    Inv { c with
      cardKeys := updateWhere (isRedeemable card.id) (redeemBy e.userId redeemedAt) c.cardKeys
      entitlements := c.entitlements ++ [e] } := by
  -- the one key that changes is `card`
  have hcases : ∀ k ∈ updateWhere (isRedeemable card.id) (redeemBy e.userId redeemedAt) c.cardKeys,
      k = redeemBy e.userId redeemedAt card ∨ k ∈ c.cardKeys := by
    intro k hk
    rcases mem_updateWhere.mp hk with ⟨b, hb, hpend, rfl⟩ | ⟨hk, -⟩
    · have hid : b.id = card.id := by simpa using (Bool.and_eq_true_iff.mp hpend).1
      rw [hkeys.card_key_id b hb card hcard hid]
      exact .inl rfl
    · exact .inr hk
  refine ⟨h.manual_of_pending, h.provider_of_pending, fun k hk id hid => ?_,
    fun a ha hprov hst => ?_, fun k hk hst => ?_⟩
  · rcases hcases k hk with rfl | hk
    · exact h.confirmed_of_card card hcard id hid
    · exact h.confirmed_of_card k hk id hid
  · obtain ⟨k, hk, hkid, hkst⟩ := h.card_of_confirmed a ha hprov hst
    exact ⟨k, mem_updateWhere_of_not hk (not_isRedeemable hkst card.id), hkid, hkst⟩
  · rcases hcases k hk with rfl | hk
    · exact entitlement_redeemBy hmade (List.mem_append_right _ (List.mem_singleton_self _))
    · exact h.entitlement_append [e] hk hst

lemma Inv.grant (h : c.Inv) {card : CardKeyRow} (hcard : card.orderId = none) {redeemedAt : Time}
    {e : Entitlement} (hmade : MadeFrom card redeemedAt e) :
    Inv { c with
      cardKeys := c.cardKeys ++ [redeemBy e.userId redeemedAt card]
      entitlements := c.entitlements ++ [e] } := by
  refine ⟨h.manual_of_pending, h.provider_of_pending, fun k hk id hid => ?_,
    fun a ha hprov hst => ?_, fun k hk hst => ?_⟩
  · rcases List.mem_append.mp hk with hk | hk
    · exact h.confirmed_of_card k hk id hid
    · obtain rfl := List.mem_singleton.mp hk
      exact absurd (hcard.symm.trans hid) (by simp)
  · obtain ⟨k, hk, hkid, hkst⟩ := h.card_of_confirmed a ha hprov hst
    exact ⟨k, List.mem_append_left _ hk, hkid, hkst⟩
  · rcases List.mem_append.mp hk with hk | hk
    · exact h.entitlement_append [e] hk hst
    · obtain rfl := List.mem_singleton.mp hk
      exact entitlement_redeemBy hmade (List.mem_append_right _ (List.mem_singleton_self _))

lemma Inv.revoke (h : c.Inv) (id : EntitlementId) (now : Time) :
    Inv { c with entitlements := updateWhere (·.id == id) (revokeAt now) c.entitlements } := by
  refine ⟨h.manual_of_pending, h.provider_of_pending, h.confirmed_of_card, h.card_of_confirmed,
    fun k hk hst => ?_⟩
  obtain ⟨e, he, redeemedAt, hmade, hby, hat⟩ := h.entitlement_of_card k hk hst
  by_cases hid : (e.id == id) = true
  · exact ⟨revokeAt now e, mem_updateWhere_of_pos he hid, redeemedAt,
      ⟨hmade.source, hmade.expires⟩, hby, hat⟩
  · exact ⟨e, mem_updateWhere_of_not he (by simpa using hid), redeemedAt, hmade, hby, hat⟩

/-- **Every change keeps the invariant.** -/
theorem Inv.change (h : c.Inv) (hkeys : c.Keys) (hc : Change c c') : c'.Inv := by
  cases hc with
  | idle => exact h
  | createOrder o hpending => exact h.createOrder hpending
  | attachSession id session => exact h.attachSession id session
  | recordEvent e => exact ⟨h.1, h.2, h.3, h.4, h.5⟩
  | fulfil ho hpending intent paidAt card hcard redeemedAt entitlement hmade e =>
    exact h.fulfil hkeys ho hpending intent paidAt hcard hmade _
  | confirmManually p ho hp now card hcard havailable =>
    exact h.confirmManually p ho hp now hcard havailable
  | addCardKeys cards hcards => exact h.addCardKeys hcards
  | redeem hcard havailable redeemedAt entitlement hmade =>
    exact h.redeem hkeys hcard hmade
  | grant card hcard redeemedAt entitlement hmade => exact h.grant hcard hmade
  | revoke id now => exact h.revoke id now

/-! ## What is final -/

/-- What a later state of the ledger has from an earlier one: its confirmed orders, its redeemed
card keys and its payment events. -/
structure Keeps (c c' : Ledger) : Prop where
  order : ∀ o ∈ c.orders, o.status = .confirmed → o ∈ c'.orders
  card : ∀ k ∈ c.cardKeys, k.status = .redeemed → k ∈ c'.cardKeys
  event : ∀ e ∈ c.paymentEvents, e ∈ c'.paymentEvents

lemma Keeps.refl (c : Ledger) : c.Keeps c := ⟨fun _ h _ => h, fun _ h _ => h, fun _ h => h⟩

lemma Keeps.trans {a b c : Ledger} (h : a.Keeps b) (h' : b.Keeps c) : a.Keeps c :=
  ⟨fun o ho hst => h'.order o (h.order o ho hst) hst,
    fun k hk hst => h'.card k (h.card k hk hst) hst, fun e he => h'.event e (h.event e he)⟩

/-- **Confirmed orders and redeemed card keys are final.** -/
theorem Change.keeps (h : Change c c') : c.Keeps c' := by
  cases h with
  | idle => exact .refl c
  | createOrder o _ =>
    exact ⟨fun _ ho _ => List.mem_append_left _ ho, fun _ hk _ => hk, fun _ he => he⟩
  | attachSession id session =>
    exact ⟨fun _ ho hst => mem_updateWhere_of_not ho (not_isPendingPayment hst id),
      fun _ hk _ => hk, fun _ he => he⟩
  | recordEvent e =>
    exact ⟨fun _ ho _ => ho, fun _ hk _ => hk, fun _ he => List.mem_append_left _ he⟩
  | fulfil =>
    exact ⟨fun _ ho hst => mem_updateWhere_of_not ho (not_isPendingPayment hst _),
      fun _ hk _ => List.mem_append_left _ hk, fun _ he => List.mem_append_left _ he⟩
  | confirmManually p =>
    exact ⟨fun _ ho hst => mem_updateWhere_of_not ho (not_isPendingManual hst p),
      fun _ hk _ => List.mem_append_left _ hk, fun _ he => he⟩
  | addCardKeys cards =>
    exact ⟨fun _ ho _ => ho, fun _ hk _ => List.mem_append_left _ hk, fun _ he => he⟩
  | redeem =>
    exact ⟨fun _ ho _ => ho, fun _ hk hst => mem_updateWhere_of_not hk (not_isRedeemable hst _),
      fun _ he => he⟩
  | grant =>
    exact ⟨fun _ ho _ => ho, fun _ hk _ => List.mem_append_left _ hk, fun _ he => he⟩
  | revoke => exact ⟨fun _ ho _ => ho, fun _ hk _ => hk, fun _ he => he⟩

end Ledger

end OzonSuite
