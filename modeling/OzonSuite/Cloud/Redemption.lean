/-
# Redemption of card keys

The main result on card keys, for every order in which redemptions and all other requests reach
the service: a card key is redeemed once, by one user, for one entitlement.
-/
import OzonSuite.Cloud.Fulfilment

namespace OzonSuite

open Lib

variable {x : Crates} {s₀ s s' : Cloud} {l : CloudLabel} {tr : List (CloudLabel × CloudAnswer)}

/-- The steps of a trace that redeem the card key `id`. -/
def redeems (id : CardKeyId) : CloudLabel × CloudAnswer → Bool
  | (l, .entitlement e) =>
    match l.request with
    | .redeemCardKey _ _ => e.sourceCardKeyId == id
    | _ => false
  | _ => false

/-- The card key `id` has been redeemed. -/
def Db.Redeemed (db : Db) (id : CardKeyId) : Prop :=
  ∃ k ∈ db.cardKeys.rows, k.id = id ∧ k.status = .redeemed

/-- The answer of a redemption that succeeds is the new entitlement. -/
lemma redeemCardKey_of_answer {claims : AuthClaims} {code : String} {e : Entitlement}
    (hrequest : l.request = .redeemCardKey claims code)
    (h : ((cloudMachine x).step s l).1 = .entitlement e) :
    ∃ card, Redeems claims (l.draw.clock 0) card e s.db.ledger
      ((cloudMachine x).step s l).2.db.ledger := by
  change (s.step x l).1 = _ at h
  change ∃ card, Redeems claims (l.draw.clock 0) card e s.db.ledger (s.step x l).2.db.ledger
  cases hconn : l.connected with
  | false => simp [Cloud.step, hconn] at h
  | true =>
    simp only [Cloud.step, hconn, Bool.not_true, Bool.false_eq_true, if_false, hrequest,
      Cloud.commit] at h ⊢
    cases hr : (redeemCardKey x claims code l.draw s.db).1 with
    | error e' =>
      rw [hr] at h
      cases h
    | ok e' =>
      rw [hr] at h
      obtain rfl := CloudAnswer.entitlement.inj h
      obtain ⟨card, hredeems, -⟩ := redeemCardKey_ok hr
      exact ⟨card, hredeems⟩

/-- A redemption finds the card key available and leaves it redeemed. -/
lemma Redeems.flag {claims : AuthClaims} {redeemedAt : Time} {card : CardKeyRow}
    {e : Entitlement} {db db' : Db} (h : Redeems claims redeemedAt card e db.ledger db'.ledger) :
    ¬ db.Redeemed e.sourceCardKeyId ∧ db'.Redeemed e.sourceCardKeyId := by
  rw [h.made.source]
  constructor
  · rintro ⟨k, hk, hid, hst⟩
    obtain rfl := db.keys.card_key_id k hk card h.mem hid
    rw [h.available] at hst
    cases hst
  · refine ⟨redeemBy e.userId redeemedAt card, ?_, rfl, rfl⟩
    have hcards : db'.cardKeys.rows = _ := congrArg Ledger.cardKeys h.ledger
    rw [hcards]
    exact mem_updateWhere_of_pos h.mem (by simp [isRedeemable, h.available])

lemma redeemed_step (id : CardKeyId) (s : Cloud) (l : CloudLabel) (h : s.db.Redeemed id) :
    ((cloudMachine x).step s l).2.db.Redeemed id := by
  obtain ⟨k, hk, hid, hst⟩ := h
  exact ⟨k, (step_change x s l).keeps.card k hk hst, hid, hst⟩

lemma redeems_step (id : CardKeyId) (s : Cloud) (l : CloudLabel)
    (hfired : redeems id (l, ((cloudMachine x).step s l).1) = true) :
    ¬ s.db.Redeemed id ∧ ((cloudMachine x).step s l).2.db.Redeemed id := by
  generalize hanswer : ((cloudMachine x).step s l).1 = answer at hfired
  cases answer with
  | entitlement e =>
    simp only [redeems] at hfired
    split at hfired
    · next claims code hrequest =>
      obtain ⟨card, hredeems⟩ := redeemCardKey_of_answer hrequest hanswer
      obtain rfl : e.sourceCardKeyId = id := by simpa using hfired
      exact hredeems.flag
    · cases hfired
  | _ => cases hfired

/-- **A card key is redeemed at most once in a run.** -/
theorem redeems_countP_le_one (h : (cloudMachine x).Run s₀ tr s) (id : CardKeyId) :
    tr.countP (redeems id) ≤ 1 :=
  (h.countP_le_one (I := fun _ => True) (fun _ _ _ _ => trivial)
    (fun s l _ _ => redeemed_step id s l) (fun s l _ _ => redeems_step id s l) trivial).1

/-- A redemption that is refused leaves the database as it was. -/
lemma redeemCardKey_refused {claims : AuthClaims} {code : String}
    (hrequest : l.request = .redeemCardKey claims code) {e : ApiError}
    (h : ((cloudMachine x).step s l).1 = .refused e) :
    ((cloudMachine x).step s l).2.db = s.db := by
  change (s.step x l).1 = _ at h
  change (s.step x l).2.db = _
  cases hconn : l.connected with
  | false => simp [Cloud.step, hconn, hrequest, Cloud.abort]
  | true =>
    simp only [Cloud.step, hconn, Bool.not_true, Bool.false_eq_true, if_false, hrequest] at h ⊢
    exact atomically_error (of_eq_refused (by simp) h)

/-- **Redemption.**  In every run: a card key is redeemed by one request at most, which finds it
available; the row of a redeemed key never changes again; it has exactly one entitlement, which
belongs to the user who redeemed it and ends the days of the key after the redemption; and a
redemption that is refused leaves the database as it was. -/
theorem card_key_redemption (h₀ : (cloudMachine x).init s₀)
    (h : (cloudMachine x).Run s₀ tr s) :
    (∀ id, tr.countP (redeems id) ≤ 1) ∧
    (∀ k ∈ s.db.cardKeys.rows, k.status = .redeemed → ∀ tr' s',
      (cloudMachine x).Run s tr' s' →
      k ∈ s'.db.cardKeys.rows ∧ ∀ k' ∈ s'.db.cardKeys.rows, k'.id = k.id → k' = k) ∧
    (∀ k ∈ s.db.cardKeys.rows, k.status = .redeemed →
      (s.db.entitlements.rows.filter fun e => e.sourceCardKeyId = k.id).length = 1 ∧
      ∃ e ∈ s.db.entitlements.rows, e.sourceCardKeyId = k.id ∧ k.redeemedBy = some e.userId ∧
        ∃ redeemedAt, k.redeemedAt = some redeemedAt ∧
          e.expiresAt = redeemedAt + Time.days k.durationDays.toNat) ∧
    (∀ l claims code, (cloudMachine x).enabled s l → l.request = .redeemCardKey claims code →
      (∀ e, ((cloudMachine x).step s l).1 = .refused e →
        ((cloudMachine x).step s l).2.db = s.db) ∧
      ∀ e, ((cloudMachine x).step s l).1 = .entitlement e →
        e.userId = claims.sub ∧
        (∃ k ∈ s.db.cardKeys.rows, k.id = e.sourceCardKeyId ∧ k.status = .available) ∧
        ((cloudMachine x).step s l).2.db.Redeemed e.sourceCardKeyId) := by
  have hinv := ledger_inv_of_run h₀ h
  refine ⟨redeems_countP_le_one h, fun k hk hst tr' s' h' => ?_, fun k hk hst => ?_,
    fun l claims code _ hrequest => ⟨fun e => redeemCardKey_refused hrequest, fun e he => ?_⟩⟩
  · have hk' := (ledger_keeps_of_run h').card k hk hst
    exact ⟨hk', fun k'' hk'' hid => s'.db.keys.card_key_id k'' hk'' k hk' hid⟩
  · obtain ⟨e, he, redeemedAt, hmade, hby, hat⟩ := hinv.entitlement_of_card k hk hst
    refine ⟨?_, e, he, hmade.source, hby, redeemedAt, hat, hmade.expires⟩
    have hone := Table.length_filter_eq_one uq_entitlements_source_card_key he
      (k := k.id) (congrArg some hmade.source)
    simpa using hone
  · obtain ⟨card, hredeems⟩ := redeemCardKey_of_answer hrequest he
    exact ⟨hredeems.user, ⟨card, hredeems.mem, hredeems.made.source.symm, hredeems.available⟩,
      hredeems.flag.2⟩

/-! A card key that two users try to redeem. -/

/-- A card key that has not been redeemed. -/
def shopCardKey : CardKeyRow where
  id := ⟨.ofNat 5⟩
  tenantId := ⟨.ofNat 1⟩
  planCode := .standard30d
  codeHash := "$argon2id$v=19$m=19456,t=2,p=1$c2FsdHNhbHRzYWx0$" ++
    "ORS-STANDARD_30D-q7Zk2mVt9XbLr4Ns6Yc1Hd3F"
  codeFingerprint := "23beb5f09b28efd63962b0dd87bb1b8bf8696514e4fe4e6f11adbcd9d4bef9a7"
  durationDays := 30
  maxDevices := 1
  status := .available
  redeemedBy := none
  redeemedAt := none
  createdAt := 1767225600000000
  orderId := none

/-- The database of the shop with the card key. -/
def cardKeyDb : Db :=
  { shopDb with cardKeys := ⟨[shopCardKey], by decide⟩ }

/-- The user of the shop redeems the card key. -/
def redeemRequest : CloudRequest :=
  .redeemCardKey ⟨⟨.ofNat 2⟩, ⟨.ofNat 1⟩⟩ "ORS-STANDARD_30D-q7Zk2mVt9XbLr4Ns6Yc1Hd3F"

theorem card_key_redemption_twice :
    ∃ tr s, (cloudMachine tableCrates).Run (.start cardKeyDb) tr s ∧
      tr.countP (redeems ⟨.ofNat 5⟩) ≤ 1 ∧ 0 < tr.countP (redeems ⟨.ofNat 5⟩) ∧
      ∀ k ∈ s.db.cardKeys.rows, k.status = .redeemed →
        (s.db.entitlements.rows.filter fun e => e.sourceCardKeyId = k.id).length = 1 :=
  have hrun := Machine.run_exec (show (cloudMachine tableCrates).Allows (.start cardKeyDb)
    [shopLabel 1 redeemRequest true, shopLabel 2 redeemRequest true] by decide)
  have hmain := card_key_redemption ⟨rfl, by decide, by decide, rfl, rfl⟩ hrun
  ⟨_, _, hrun, hmain.1 _, by decide, fun k hk hst => (hmain.2.2.1 k hk hst).1⟩

end OzonSuite
