/-
# The effect of the licensing requests

Card keys that are made, redeemed or granted, and entitlements that are revoked, as changes of
the ledger; and which statements of an activation or of the making of a lease change the devices.
-/
import OzonSuite.Cloud.Effects
import OzonSuite.Cloud.System

namespace OzonSuite

open Lib

variable {x : Crates} {draw : Draw} {db db' : Db} {u : Unit}

/-! ## Accounts -/

lemma registerTx_step (user : User) : db.Step (atomically (registerTx user draw) db).2 := by
  refine step_atomically fun a db' h => ?_
  simp only [registerTx, Tx.bind_eq_ok] at h
  obtain ⟨_, _, htenant, _, _, huser, haudit⟩ := h
  obtain ⟨ids, rfl⟩ := insertTenant_ok htenant
  obtain ⟨t, rfl⟩ := insertUser_ok huser
  obtain ⟨t', rfl⟩ := insertAudit_ok haudit
  exact ⟨.idle, rfl, rfl⟩

lemma updateSkybridgeUser_step (userId : UserId) (profile : User) (now : Time) :
    db.Step (atomically (updateSkybridgeUser userId profile now) db).2 := by
  refine step_atomically fun a db' h => ?_
  simp only [updateSkybridgeUser, Tx.bind_eq_ok, updateRows_eq_ok, Tx.pure_eq_ok] at h
  obtain ⟨rows, _, ⟨t, -, -, rfl⟩, -, rfl⟩ := h
  exact ⟨.idle, rfl, rfl⟩

/-- Test access is a card key without an order that is redeemed at once. -/
lemma grantTestFullAccess_step (config : AppConfig) (user : User) :
    db.Step (atomically (grantTestFullAccess x config user draw) db).2 := by
  refine step_atomically fun a db' h => ?_
  simp only [grantTestFullAccess, Tx.bind_eq_ok] at h
  obtain ⟨_, _, hlock, granted, _, hgranted, h⟩ := h
  obtain rfl := lockUserForUpdate_ok hlock
  simp only [hasActiveFullAccessEntitlement, Tx.bind_eq_ok, Tx.get_eq_ok, Tx.pure_eq_ok]
    at hgranted
  obtain ⟨_, _, ⟨rfl, rfl⟩, -, rfl⟩ := hgranted
  cases granted with
  | true =>
    simp only [if_true, Tx.pure_eq_ok] at h
    obtain ⟨-, rfl⟩ := h
    exact .refl _
  | false =>
    simp only [Bool.false_eq_true, if_false, Tx.bind_eq_ok] at h
    obtain ⟨g, _, hgen, _, _, hinsert, _, _, hmark, _, _, hent, haudit⟩ := h
    obtain ⟨rfl, havailable, hdays⟩ := generateCardKey_ok hgen
    obtain ⟨keys, rfl, hkeys⟩ := redeem_inserted hinsert hmark havailable
    obtain ⟨ents, rfl, hents⟩ := insertEntitlement_ok hent
    obtain ⟨audits, rfl⟩ := insertAudit_ok haudit
    refine ⟨?_, rfl, rfl⟩
    simp only [Db.ledger, hkeys, hents]
    refine .grant { g.cardKey with orderId := none } rfl (draw.clock 2)
      (newEntitlement (draw.uuid 2) user.tenantId user.id .standard30d g.cardKey.id
        (draw.clock 2) config.testFullAccessDurationDays) ⟨rfl, ?_⟩
    rw [hdays]
    rfl

lemma ensureTestFullAccessEntitlement_step (config : AppConfig) (user : User) :
    db.Step (ensureTestFullAccessEntitlement x config user draw db).2 := by
  rw [ensureTestFullAccessEntitlement]
  split
  · exact grantTestFullAccess_step config user
  · exact .refl db

lemma ensureTestFullAccessForUserId_step (config : AppConfig) (userId : UserId) :
    db.Step (ensureTestFullAccessForUserId x config userId draw db).2 := by
  rw [ensureTestFullAccessForUserId]
  split
  · exact .refl db
  · split
    · exact .refl db
    · exact ensureTestFullAccessEntitlement_step config _

lemma me_step (config : AppConfig) (userId : UserId) :
    db.Step (me x config userId draw db).2 := by
  rw [me]
  split
  · exact .refl db
  · exact ensureTestFullAccessEntitlement_step config _

/-! ## Card keys -/

/-- The card keys that are made in bulk are available and belong to no order. -/
lemma insertCardKeys_ok {planCode : PlanCode} {tenantId : TenantId} {durationDays : UInt16}
    {maxDevices : UInt8} {n i : ℕ} {codes : List String}
    (h : insertCardKeys x draw planCode tenantId durationDays maxDevices n i db =
      .ok (codes, db')) :
    ∃ t cards, db' = { db with cardKeys := t } ∧ t.rows = db.cardKeys.rows ++ cards ∧
      ∀ card ∈ cards, card.orderId = none ∧ card.status = .available := by
  induction n generalizing i db codes with
  | zero =>
    simp only [insertCardKeys, Tx.pure_eq_ok] at h
    obtain ⟨-, rfl⟩ := h
    exact ⟨db.cardKeys, [], rfl, (List.append_nil _).symm, by simp⟩
  | succ n ih =>
    simp only [insertCardKeys, Tx.bind_eq_ok, Tx.pure_eq_ok] at h
    obtain ⟨g, _, hgen, _, _, hinsert, rest, _, hrest, -, rfl⟩ := h
    obtain ⟨rfl, havailable, -⟩ := generateCardKey_ok hgen
    obtain ⟨t, rfl, ht, -⟩ := insertCardKey_ok hinsert
    obtain ⟨t', cards, rfl, ht', hcards⟩ := ih hrest
    refine ⟨t', { g.cardKey with orderId := none } :: cards, rfl, ?_, fun card hcard => ?_⟩
    · rw [ht', ht, List.append_assoc, List.singleton_append]
    · rcases List.mem_cons.mp hcard with rfl | hcard
      · exact ⟨rfl, havailable⟩
      · exact hcards card hcard

lemma createCardKeys_step (input : CreateCardKeysRequest) :
    db.Step (createCardKeys x input draw db).2 := by
  refine step_atomically fun a db' h => ?_
  simp only [Tx.bind_eq_ok, Tx.pure_eq_ok] at h
  obtain ⟨_, _, hlimits, _, _, htenant, codes, _, hinsert, _, _, haudit, -, rfl⟩ := h
  obtain rfl := validateCardKeyLimits_ok hlimits
  obtain ⟨ids, rfl⟩ := insertTenant_ok htenant
  obtain ⟨t, cards, rfl, ht, hcards⟩ := insertCardKeys_ok hinsert
  obtain ⟨t', rfl⟩ := insertAudit_ok haudit
  refine ⟨?_, rfl, rfl⟩
  simp only [Db.ledger, ht]
  exact .addCardKeys cards hcards

/-- What a redemption that succeeds has found and done. -/
structure Redeems (claims : AuthClaims) (redeemedAt : Time) (card : CardKeyRow)
    (e : Entitlement) (c c' : Ledger) : Prop where
  mem : card ∈ c.cardKeys
  available : card.status = .available
  made : MadeFrom card redeemedAt e
  user : e.userId = claims.sub
  ledger : c' = { c with
    cardKeys := updateWhere (isRedeemable card.id) (redeemBy e.userId redeemedAt) c.cardKeys
    entitlements := c.entitlements ++ [e] }

lemma Redeems.change {claims : AuthClaims} {redeemedAt : Time} {card : CardKeyRow}
    {e : Entitlement} {c c' : Ledger} (h : Redeems claims redeemedAt card e c c') :
    c.Change c' := by
  rw [h.ledger]
  exact .redeem h.mem h.available redeemedAt e h.made

lemma redeemCardKeyTx_ok {claims : AuthClaims} {code : String} {e : Entitlement}
    (h : redeemCardKeyTx x claims code draw db = .ok (e, db')) :
    ∃ card, Redeems claims (draw.clock 0) card e db.ledger db'.ledger ∧
      db'.devices = db.devices := by
  simp only [redeemCardKeyTx, Tx.bind_eq_ok, findCardKeyByFingerprintForUpdate,
    fetchOptional_eq_ok] at h
  obtain ⟨found, _, ⟨hfound, rfl⟩, h⟩ := h
  cases found with
  | none => exact absurd h Tx.throw_ne_ok
  | some card =>
    simp only [Tx.guard_bind_eq_ok, Tx.bind_eq_ok, Tx.pure_eq_ok, not_not] at h
    obtain ⟨havailable, -, _, _, hmark, _, _, hent, _, _, haudit, rfl, rfl⟩ := h
    obtain ⟨keys, rfl, hkeys⟩ := markCardKeyRedeemed_ok hmark
    obtain ⟨ents, rfl, hents⟩ := insertEntitlement_ok hent
    obtain ⟨audits, rfl⟩ := insertAudit_ok haudit
    refine ⟨card, ⟨List.mem_of_find?_eq_some hfound.symm, havailable, ⟨rfl, rfl⟩, rfl, ?_⟩, rfl⟩
    simp only [Db.ledger, hkeys, hents]
    rfl

/-- **The outcome of a redemption.** -/
theorem redeemCardKey_ok {claims : AuthClaims} {code : String} {e : Entitlement}
    (h : (redeemCardKey x claims code draw db).1 = .ok e) :
    ∃ card, Redeems claims (draw.clock 0) card e db.ledger
        (redeemCardKey x claims code draw db).2.ledger ∧
      (redeemCardKey x claims code draw db).2.devices = db.devices :=
  redeemCardKeyTx_ok (atomically_ok h)

lemma redeemCardKey_step (claims : AuthClaims) (code : String) :
    db.Step (redeemCardKey x claims code draw db).2 := by
  refine step_atomically fun e db' h => ?_
  obtain ⟨card, hredeems, hdevices⟩ := redeemCardKeyTx_ok h
  exact ⟨hredeems.change, by rw [hredeems.ledger], hdevices⟩

lemma revokeEntitlement_step (id : EntitlementId) :
    db.Step (revokeEntitlement id draw db).2 := by
  refine step_atomically fun a db' h => ?_
  simp only [Tx.bind_eq_ok] at h
  obtain ⟨found, _, hrevoke, h⟩ := h
  obtain ⟨t, rfl, ht⟩ := revokeEntitlementById_ok hrevoke
  cases found with
  | none => exact absurd h Tx.throw_ne_ok
  | some e =>
    simp only [Tx.bind_eq_ok, Tx.pure_eq_ok] at h
    obtain ⟨_, _, haudit, -, rfl⟩ := h
    obtain ⟨t', rfl⟩ := insertAudit_ok haudit
    refine ⟨?_, rfl, rfl⟩
    simp only [Db.ledger, ht]
    exact .revoke id (draw.clock 0)

end OzonSuite
