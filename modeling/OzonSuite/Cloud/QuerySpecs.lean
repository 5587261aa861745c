/-
# What the statements do when they succeed

One lemma for each statement: the outcome, and the database it leaves.  A statement changes one
table at most, so the rest of the database is visibly the same.
-/
import OzonSuite.Cloud.Ledger
import OzonSuite.Cloud.Service

namespace OzonSuite

open Lib

variable {db db' : Db} {u : Unit}

/-! ## Accounts -/

lemma insertTenant_ok {id : TenantId} (h : insertTenant id db = .ok (u, db')) :
    ∃ ids, db' = { db with tenants := ids } := by
  simp only [insertTenant, Except.ok.injEq, Prod.mk.injEq] at h
  obtain ⟨-, rfl⟩ := h
  split
  · exact ⟨db.tenants, rfl⟩
  · exact ⟨_, rfl⟩

lemma insertUser_ok {onError : String → ApiError} {user : User}
    (h : insertUser onError user db = .ok (u, db')) : ∃ t, db' = { db with users := t } := by
  obtain ⟨t, -, -, rfl⟩ := insertRow_eq_ok.mp h
  exact ⟨t, rfl⟩

lemma lockUserForUpdate_ok {id : UserId} (h : lockUserForUpdate id db = .ok (u, db')) :
    db' = db := by
  simp only [lockUserForUpdate, findUserById, Tx.bind_eq_ok, fetchOptional_eq_ok,
    Tx.guard_eq_ok, Tx.pure_eq_ok] at h
  obtain ⟨_, _, ⟨rfl, rfl⟩, -, -, rfl⟩ := h
  rfl

/-! ## Orders -/

lemma insertOrder_ok {order : Order} (h : insertOrder order db = .ok (u, db')) :
    ∃ t, db' = { db with orders := t } ∧ t.rows = db.orders.rows ++ [order] := by
  obtain ⟨t, ht, -, rfl⟩ := insertRow_eq_ok.mp h
  exact ⟨t, rfl, Table.rows_of_insert ht⟩

/-- The first of the rows that an update changed is there when there is one. -/
lemma head?_map_filter_eq_some {ρ : Type} {p : ρ → Bool} {f : ρ → ρ} {rows : List ρ} {r' : ρ}
    (h : ((rows.filter p).map f).head? = some r') : ∃ r ∈ rows, p r = true ∧ r' = f r := by
  rw [List.head?_map, Option.map_eq_some_iff] at h
  obtain ⟨r, hr, rfl⟩ := h
  obtain ⟨hmem, hp⟩ := List.mem_filter.mp (List.mem_of_mem_head? hr)
  exact ⟨r, hmem, hp, rfl⟩

lemma confirmPendingOrderWhere_ok {p : Order → Bool} {now : Time} {order : Order}
    (h : confirmPendingOrderWhere p now db = .ok (order, db')) :
    ∃ t o, db' = { db with orders := t } ∧ o ∈ db.orders.rows ∧ isPendingManual p o = true ∧
      order = confirmManually now o ∧
      t.rows = updateWhere (isPendingManual p) (confirmManually now) db.orders.rows := by
  simp only [confirmPendingOrderWhere, Tx.bind_eq_ok, updateRows_eq_ok] at h
  obtain ⟨rows, db₁, ⟨t, ht, rfl, rfl⟩, h⟩ := h
  generalize hfirst : List.head? _ = first at h
  cases first with
  | some o =>
    obtain ⟨rfl, rfl⟩ := Tx.pure_eq_ok.mp h
    obtain ⟨r, hr, hp, rfl⟩ := head?_map_filter_eq_some hfirst
    exact ⟨t, r, rfl, hr, hp, rfl, Table.rows_of_update ht⟩
  | none =>
    simp only [Tx.bind_eq_ok, Tx.guard_bind_eq_ok, Tx.throw_ne_ok, and_false, exists_false] at h

lemma attachCheckoutSession_ok {orderId : OrderId} {session : String} {order : Order}
    (h : attachCheckoutSession orderId session db = .ok (order, db')) :
    ∃ t, db' = { db with orders := t } ∧
      t.rows = updateWhere (isPendingPayment orderId) (attachSession session) db.orders.rows := by
  simp only [attachCheckoutSession, Tx.bind_eq_ok, updateRows_eq_ok] at h
  obtain ⟨rows, db₁, ⟨t, ht, rfl, rfl⟩, h⟩ := h
  generalize List.head? _ = first at h
  cases first with
  | some o =>
    obtain ⟨-, rfl⟩ := Tx.pure_eq_ok.mp h
    exact ⟨t, rfl, Table.rows_of_update ht⟩
  | none => exact absurd h Tx.throw_ne_ok

lemma confirmProviderOrder_ok {orderId : OrderId} {intent : Option String} {paidAt : Time}
    {order : Order} (h : confirmProviderOrder orderId intent paidAt db = .ok (order, db')) :
    ∃ t o, db' = { db with orders := t } ∧ o ∈ db.orders.rows ∧
      isPendingPayment orderId o = true ∧ order = confirmPaid intent paidAt o ∧
      t.rows = updateWhere (isPendingPayment orderId) (confirmPaid intent paidAt)
        db.orders.rows := by
  simp only [confirmProviderOrder, Tx.bind_eq_ok, updateRows_eq_ok] at h
  obtain ⟨rows, db₁, ⟨t, ht, rfl, rfl⟩, h⟩ := h
  generalize hfirst : List.head? _ = first at h
  cases first with
  | some o =>
    obtain ⟨rfl, rfl⟩ := Tx.pure_eq_ok.mp h
    obtain ⟨r, hr, hp, rfl⟩ := head?_map_filter_eq_some hfirst
    exact ⟨t, r, rfl, hr, hp, rfl, Table.rows_of_update ht⟩
  | none => exact absurd h Tx.throw_ne_ok

/-- An event is marked, or it had been marked before. -/
lemma insertPaymentEvent_ok {provider : PaymentProvider} {eventId eventType hash : String}
    {orderId : Option OrderId} {now : Time} {inserted : Bool}
    (h : insertPaymentEvent provider eventId eventType orderId hash now db =
      .ok (inserted, db')) :
    (inserted = false ∧ db' = db ∧
      ∃ e ∈ db.paymentEvents.rows, e.provider = provider ∧ e.eventId = eventId) ∨
    (inserted = true ∧ ∃ t, db' = { db with paymentEvents := t } ∧
      t.rows = db.paymentEvents.rows ++ [⟨provider, eventId, eventType, orderId, hash, now⟩]) := by
  simp only [insertPaymentEvent, Tx.bind_eq_ok, Tx.get_eq_ok] at h
  obtain ⟨_, _, ⟨rfl, rfl⟩, h⟩ := h
  split at h
  · next hany =>
    obtain ⟨rfl, rfl⟩ := Tx.pure_eq_ok.mp h
    obtain ⟨e, he, hkey⟩ := List.any_eq_true.mp hany
    simp only [Bool.and_eq_true, beq_iff_eq] at hkey
    exact .inl ⟨rfl, rfl, e, he, hkey⟩
  · simp only [Tx.bind_eq_ok, insertRow_eq_ok, Tx.pure_eq_ok] at h
    obtain ⟨_, _, ⟨t, ht, -, rfl⟩, rfl, rfl⟩ := h
    exact .inr ⟨rfl, t, rfl, Table.rows_of_insert ht⟩

/-! ## Card keys and entitlements -/

lemma validateCardKeyLimits_ok {durationDays : UInt16} {maxDevices : UInt8}
    (h : validateCardKeyLimits durationDays maxDevices db = .ok (u, db')) : db' = db := by
  simp only [validateCardKeyLimits, Tx.guard_bind_eq_ok, Tx.guard_eq_ok, Tx.pure_eq_ok] at h
  exact h.2.2.2.symm

lemma generateCardKey_ok {x : Crates} {draw : Draw} {i : ℕ} {planCode : PlanCode}
    {tenantId : TenantId} {durationDays : UInt16} {maxDevices : UInt8} {g : GeneratedCardKey}
    (h : generateCardKey x draw i planCode tenantId durationDays maxDevices db = .ok (g, db')) :
    db' = db ∧ g.cardKey.status = .available ∧ g.cardKey.durationDays = durationDays := by
  simp only [generateCardKey] at h
  generalize x.hashPassword _ _ = hash at h
  cases hash with
  | none => exact absurd h Tx.throw_ne_ok
  | some codeHash =>
    obtain ⟨rfl, rfl⟩ := Tx.pure_eq_ok.mp h
    exact ⟨rfl, rfl, rfl⟩

lemma insertCardKey_ok {onError : String → ApiError} {cardKey : CardKey}
    {orderId : Option OrderId} (h : insertCardKey onError cardKey orderId db = .ok (u, db')) :
    ∃ t, db' = { db with cardKeys := t } ∧
      t.rows = db.cardKeys.rows ++ [{ cardKey with orderId := orderId }] ∧
      ∀ c ∈ db.cardKeys.rows, c.id ≠ cardKey.id := by
  obtain ⟨t, ht, -, rfl⟩ := insertRow_eq_ok.mp h
  refine ⟨t, rfl, Table.rows_of_insert ht, fun c hc hid => ?_⟩
  have hno : agreeOn (fun c : CardKeyRow => some c.id) c _ = false :=
    Table.not_agree_of_insert ht card_keys_pkey c hc
  simp [agreeOn, hid] at hno

lemma markCardKeyRedeemed_ok {id : CardKeyId} {userId : UserId} {redeemedAt : Time}
    (h : markCardKeyRedeemed id userId redeemedAt db = .ok (u, db')) :
    ∃ t, db' = { db with cardKeys := t } ∧
      t.rows = updateWhere (isRedeemable id) (redeemBy userId redeemedAt) db.cardKeys.rows := by
  simp only [markCardKeyRedeemed, Tx.bind_eq_ok, updateRows_eq_ok, Tx.get_eq_ok,
    Tx.guard_bind_eq_ok, Tx.guard_eq_ok, Tx.pure_eq_ok] at h
  obtain ⟨rows, db₁, ⟨t, ht, -, rfl⟩, _, _, ⟨rfl, rfl⟩, -, -, -, rfl⟩ := h
  exact ⟨t, rfl, Table.rows_of_update ht⟩

/-- A key that has just been inserted and is redeemed at once. -/
lemma redeem_inserted {db₁ db₂ : Db} {onError : String → ApiError} {cardKey : CardKey}
    {orderId : Option OrderId} {userId : UserId} {redeemedAt : Time} {u' : Unit}
    (hinsert : insertCardKey onError cardKey orderId db = .ok (u, db₁))
    (hmark : markCardKeyRedeemed cardKey.id userId redeemedAt db₁ = .ok (u', db₂))
    (havailable : cardKey.status = .available) :
    ∃ t, db₂ = { db with cardKeys := t } ∧ t.rows = db.cardKeys.rows ++
      [redeemBy userId redeemedAt { cardKey with orderId := orderId }] := by
  obtain ⟨t₁, rfl, ht₁, hfresh⟩ := insertCardKey_ok hinsert
  obtain ⟨t₂, rfl, ht₂⟩ := markCardKeyRedeemed_ok hmark
  refine ⟨t₂, rfl, ?_⟩
  rw [ht₂, ht₁]
  refine updateWhere_append_singleton (fun c hc => ?_) ?_
  · simp [isRedeemable, hfresh c hc]
  · simp [isRedeemable, havailable]

lemma insertEntitlement_ok {onError : String → ApiError} {entitlement : Entitlement}
    (h : insertEntitlement onError entitlement db = .ok (u, db')) :
    ∃ t, db' = { db with entitlements := t } ∧
      t.rows = db.entitlements.rows ++ [entitlement] := by
  obtain ⟨t, ht, -, rfl⟩ := insertRow_eq_ok.mp h
  exact ⟨t, rfl, Table.rows_of_insert ht⟩

lemma revokeEntitlementById_ok {id : EntitlementId} {now : Time} {e : Option Entitlement}
    (h : revokeEntitlementById id now db = .ok (e, db')) :
    ∃ t, db' = { db with entitlements := t } ∧
      t.rows = updateWhere (·.id == id) (revokeAt now) db.entitlements.rows := by
  simp only [revokeEntitlementById, Tx.bind_eq_ok, updateRows_eq_ok, Tx.pure_eq_ok] at h
  obtain ⟨rows, db₁, ⟨t, ht, -, rfl⟩, -, rfl⟩ := h
  exact ⟨t, rfl, Table.rows_of_update ht⟩

lemma insertAudit_ok {event : AuditEvent} (h : insertAudit event db = .ok (u, db')) :
    ∃ t, db' = { db with auditEvents := t } := by
  obtain ⟨t, -, -, rfl⟩ := insertRow_eq_ok.mp h
  exact ⟨t, rfl⟩

end OzonSuite
