/-
# More entitlements

A user may have several active entitlements.  A lease rests on the best of them, and the requests
are held to the device limit of the best: the one with the most features, among those the one for
the most devices, and among those the one that expires last.  This file says what more of them are
good for.
-/
import OzonSuite.Cloud.Grants
import OzonSuite.Cloud.Redemption

namespace OzonSuite

open Lib

/-- The active entitlements of a user, each with the device limit of its card key. -/
def Db.activeLimits (db : Db) (userId : UserId) (now : Time) : List (Entitlement × UInt8) :=
  (db.activeEntitlements userId now).map fun row => (row.1, row.2.maxDevices)

/-! ## The order of the rows -/

/-- What the rows are ordered by. -/
def rank (row : Entitlement × CardKeyRow) : ℕ ×ₗ ℕ ×ₗ Time :=
  toLex (row.1.features.length, toLex (row.2.maxDevices.toNat, row.1.expiresAt))

lemma outranks_iff {a b : Entitlement × CardKeyRow} : outranks a b = true ↔ rank b < rank a := by
  have hlimit : a.2.maxDevices = b.2.maxDevices ↔ b.2.maxDevices.toNat = a.2.maxDevices.toNat :=
    ⟨fun h => congrArg UInt8.toNat h.symm, fun h => UInt8.toNat_inj.mp h.symm⟩
  have hlength : a.1.features.length = b.1.features.length ↔
      b.1.features.length = a.1.features.length := eq_comm
  simp only [outranks, rank, Prod.Lex.toLex_lt_toLex, Bool.or_eq_true, Bool.and_eq_true,
    decide_eq_true_eq, beq_iff_eq, UInt8.lt_iff_toNat_lt, hlimit, hlength]

/-- Where there are rows, one of them is the first. -/
lemma exists_firstByRank (tie : ℕ) {rows : List (Entitlement × CardKeyRow)} (h : rows ≠ []) :
    ∃ row, firstByRank tie rows = some row := by
  cases hbest : rows.argmax rank with
  | none => exact absurd (List.argmax_eq_none.mp hbest) h
  | some best =>
    have hmem : best ∈ rows.filter fun a => !rows.any fun b => outranks b a := by
      refine List.mem_filter.mpr ⟨List.argmax_mem hbest, ?_⟩
      simp only [Bool.not_eq_true', List.any_eq_false]
      intro other hother houtranks
      exact List.not_lt_of_mem_argmax hother hbest (outranks_iff.mp houtranks)
    have hpos := List.length_pos_of_mem hmem
    exact ⟨_, List.getElem?_eq_getElem (Nat.mod_lt tie hpos)⟩

/-- No row ranks above the first one. -/
lemma rank_le_of_first {tie : ℕ} {rows : List (Entitlement × CardKeyRow)}
    {first other : Entitlement × CardKeyRow} (h : firstByRank tie rows = some first)
    (hother : other ∈ rows) : rank other ≤ rank first := by
  have hbest := (firstByRank_eq_some h).2 other hother
  rw [Bool.eq_false_iff, ne_eq, outranks_iff] at hbest
  exact not_lt.mp hbest

/-- A first row of more rows ranks at least as high. -/
lemma rank_le_of_more {tie tie' : ℕ} {rows rows' : List (Entitlement × CardKeyRow)}
    {first first' : Entitlement × CardKeyRow}
    (hmore : ∀ row ∈ rows, (row.1, row.2.maxDevices) ∈ rows'.map fun r => (r.1, r.2.maxDevices))
    (h : firstByRank tie rows = some first) (h' : firstByRank tie' rows' = some first') :
    rank first ≤ rank first' := by
  obtain ⟨row, hrow, heq⟩ := List.mem_map.mp (hmore first (firstByRank_eq_some h).1)
  obtain ⟨hentitlement, hlimit⟩ := Prod.mk.inj heq
  have hsame : rank row = rank first := by
    simp only [rank, hentitlement, hlimit]
  exact hsame ▸ rank_le_of_first h' hrow

/-- Between rows with the same features, the device limit comes before the expiry. -/
lemma limit_of_rank_le {a b : Entitlement × CardKeyRow} (hrank : rank a ≤ rank b)
    (hfeatures : a.1.features = b.1.features) :
    a.2.maxDevices ≤ b.2.maxDevices ∧
      (b.2.maxDevices = a.2.maxDevices → a.1.expiresAt ≤ b.1.expiresAt) := by
  simp only [rank, Prod.Lex.toLex_le_toLex, hfeatures, lt_irrefl, true_and, false_or] at hrank
  rw [UInt8.le_iff_toNat_le]
  rcases hrank with hlt | ⟨heq, hle⟩
  · refine ⟨hlt.le, fun hsame => ?_⟩
    rw [hsame] at hlt
    exact absurd hlt (lt_irrefl _)
  · exact ⟨heq.le, fun _ => hle⟩

/-- The first rows that two queries find have the same device limit, however each of them decides
between rows of the same rank. -/
lemma limit_of_queries {tie tie' : ℕ} {rows : List (Entitlement × CardKeyRow)}
    {a b : Entitlement × CardKeyRow} (ha : firstByRank tie rows = some a)
    (hb : firstByRank tie' rows = some b) (hfeatures : a.1.features = b.1.features) :
    a.2.maxDevices = b.2.maxDevices := by
  have hab := rank_le_of_first hb (firstByRank_eq_some ha).1
  have hba := rank_le_of_first ha (firstByRank_eq_some hb).1
  exact UInt8.le_antisymm (limit_of_rank_le hab hfeatures).1
    (limit_of_rank_le hba hfeatures.symm).1

/-! ## The two queries -/

section Queries

variable {db db' : Db} {userId : UserId} {now : Time} {tie : ℕ}

lemma findActiveEntitlementForUser_eq (db : Db) (userId : UserId) (now : Time) (tie : ℕ) :
    findActiveEntitlementForUser userId now tie db =
      .ok ((firstByRank tie (db.activeEntitlements userId now)).map (·.1), db) := rfl

lemma findActiveEntitlementWithCardLimitForUser_eq (db : Db) (userId : UserId) (now : Time)
    (tie : ℕ) :
    findActiveEntitlementWithCardLimitForUser userId now tie db =
      .ok ((firstByRank tie (db.activeEntitlements userId now)).map (·.2.maxDevices), db) := rfl

/-- Every active entitlement is a row of the table. -/
lemma Db.GrantsAll.features {row : Entitlement × CardKeyRow} (h : db.GrantsAll)
    (hrow : row ∈ db.activeEntitlements userId now) : row.1.features = defaultFeatures :=
  h _ (Db.selectable_of_mem hrow).mem

lemma Db.mem_activeEntitlements {e : Entitlement} {c : CardKeyRow} :
    (e, c) ∈ db.activeEntitlements userId now ↔
      (e ∈ db.entitlements.rows ∧ (e.userId = userId ∧ e.revokedAt = none) ∧ now < e.expiresAt) ∧
        c ∈ db.cardKeys.rows ∧ c.id = e.sourceCardKeyId := by
  simp only [activeEntitlements, List.mem_flatMap, List.mem_filter, List.mem_map, Prod.mk.injEq,
    Bool.and_eq_true, beq_iff_eq, Option.isNone_iff_eq_none, decide_eq_true_eq]
  constructor
  · rintro ⟨e', he', c', hc', rfl, rfl⟩
    exact ⟨he', hc'⟩
  · rintro ⟨he, hc⟩
    exact ⟨e, he, c, hc, rfl, rfl⟩

/-- A card key that is redeemed adds to what is active. -/
lemma Redeems.activeLimits {claims : AuthClaims} {redeemedAt : Time} {card : CardKeyRow}
    {e : Entitlement} (h : Redeems claims redeemedAt card e db.ledger db'.ledger)
    {grant : Entitlement × UInt8} (hgrant : grant ∈ db.activeLimits userId now) :
    grant ∈ db'.activeLimits userId now := by
  have hentitlements : db'.entitlements.rows = db.entitlements.rows ++ [e] :=
    congrArg Ledger.entitlements h.ledger
  have hcardKeys : db'.cardKeys.rows = updateWhere (isRedeemable card.id)
      (redeemBy e.userId redeemedAt) db.cardKeys.rows := congrArg Ledger.cardKeys h.ledger
  obtain ⟨⟨e', c⟩, hrow, rfl⟩ := List.mem_map.mp hgrant
  obtain ⟨⟨hmem, hactive⟩, hc, hid⟩ := Db.mem_activeEntitlements.mp hrow
  -- the row of the card key may have been changed, but neither its number nor its limit
  obtain ⟨c', hc', hid', hlimit⟩ : ∃ c' ∈ db'.cardKeys.rows, c'.id = c.id ∧
      c'.maxDevices = c.maxDevices := by
    rw [hcardKeys]
    refine ⟨_, List.mem_map_of_mem hc, ?_, ?_⟩
    · split <;> rfl
    · split <;> rfl
  refine List.mem_map.mpr ⟨(e', c'), Db.mem_activeEntitlements.mpr ⟨⟨?_, hactive⟩, hc', ?_⟩, ?_⟩
  · rw [hentitlements]
    exact List.mem_append_left _ hmem
  · exact hid'.trans hid
  · simp only [hlimit]

end Queries

/-! ## What more of them are good for -/

/-- The entitlement `e'` with the limit `n'` lets pass what `e` with the limit `n` does. -/
structure NoLess (e : Entitlement) (n : UInt8) (e' : Entitlement) (n' : UInt8) : Prop where
  features : ∀ feature ∈ e.features, feature ∈ e'.features
  limit : n ≤ n'
  newActivation : ∀ activeCount, deviceLimitAllowsNewActivation activeCount n = true →
    deviceLimitAllowsNewActivation activeCount n' = true
  activeFleet : ∀ activeCount, deviceLimitAllowsActiveFleet activeCount n = true →
    deviceLimitAllowsActiveFleet activeCount n' = true

/-- A lease that is made on `e'` does not expire before one that is made on `e` at the time. -/
def LeaseNoShorter (e e' : Entitlement) : Prop :=
  ∀ tenantId userId deviceId leaseId now,
    (EntitlementLease.new tenantId userId deviceId e leaseId now).expiresAt ≤
      (EntitlementLease.new tenantId userId deviceId e' leaseId now).expiresAt

lemma NoLess.of_limit {e e' : Entitlement} {n n' : UInt8} (hfeatures : e.features = e'.features)
    (hlimit : n ≤ n') : NoLess e n e' n' := by
  have hnat : n.toNat ≤ n'.toNat := UInt8.le_iff_toNat_le.mp hlimit
  refine ⟨fun feature hf => hfeatures ▸ hf, hlimit, fun activeCount h => ?_,
    fun activeCount h => ?_⟩
  · simp only [deviceLimitAllowsNewActivation, decide_eq_true_eq] at h ⊢
    omega
  · simp only [deviceLimitAllowsActiveFleet, decide_eq_true_eq] at h ⊢
    omega

lemma LeaseNoShorter.of_expiresAt {e e' : Entitlement} (h : e.expiresAt ≤ e'.expiresAt) :
    LeaseNoShorter e e' := by
  intro tenantId userId deviceId leaseId now
  exact min_le_min_left _ h

section Runs

variable {x : Crates} {s s' : Cloud} {l : CloudLabel}

/-- A redemption is refused, or it answers with the entitlement. -/
lemma answer_of_redeemCardKey {claims : AuthClaims} {code : String}
    (hrequest : l.request = .redeemCardKey claims code) :
    (∃ e, ((cloudMachine x).step s l).1 = .refused e) ∨
      ∃ e, ((cloudMachine x).step s l).1 = .entitlement e := by
  change (∃ e, (s.step x l).1 = .refused e) ∨ ∃ e, (s.step x l).1 = .entitlement e
  cases hconn : l.connected with
  | false =>
    simp only [Cloud.step, hconn, Bool.not_false, if_true]
    exact .inl ⟨_, rfl⟩
  | true =>
    simp only [Cloud.step, hconn, Bool.not_true, Bool.false_eq_true, if_false, hrequest,
      Cloud.commit]
    cases (redeemCardKey x claims code l.draw s.db).1 with
    | error e => exact .inl ⟨e, rfl⟩
    | ok e => exact .inr ⟨e, rfl⟩

/-- **More entitlements.**  Take two states of the service in which a user has active
entitlements, all those of the first in the second as well.  Whatever the queries select there,
the second lets pass what the first does; and if it has the same device limit, no lease gets
shorter.  To redeem a card key leaves every user such a second state. -/
theorem more_entitlements (hs : (cloudMachine x).Reachable s) (hs' : (cloudMachine x).Reachable s')
    {userId : UserId} {now : Time} (hsome : s.db.activeLimits userId now ≠ [])
    (hmore : ∀ grant ∈ s.db.activeLimits userId now, grant ∈ s'.db.activeLimits userId now)
    (tie tieLimit tie' tieLimit' : ℕ) :
    (∃ e n e' n',
      findActiveEntitlementForUser userId now tie s.db = .ok (some e, s.db) ∧
      findActiveEntitlementWithCardLimitForUser userId now tieLimit s.db = .ok (some n, s.db) ∧
      findActiveEntitlementForUser userId now tie' s'.db = .ok (some e', s'.db) ∧
      findActiveEntitlementWithCardLimitForUser userId now tieLimit' s'.db =
        .ok (some n', s'.db) ∧
      NoLess e n e' n' ∧ (n' = n → LeaseNoShorter e e')) ∧
    ∀ l claims code, l.request = .redeemCardKey claims code → ∀ u t,
      ∀ grant ∈ s.db.activeLimits u t,
        grant ∈ ((cloudMachine x).step s l).2.db.activeLimits u t := by
  constructor
  · obtain ⟨s₀, tr, h₀, hrun⟩ := hs
    obtain ⟨s₀', tr', h₀', hrun'⟩ := hs'
    have hall := grantsAll_of_run h₀ hrun
    have hall' := grantsAll_of_run h₀' hrun'
    have hrows : s.db.activeEntitlements userId now ≠ [] := fun h => hsome (by
      rw [Db.activeLimits, h]
      rfl)
    have hrows' : s'.db.activeEntitlements userId now ≠ [] := by
      obtain ⟨grant, hgrant⟩ := List.exists_mem_of_ne_nil _ hsome
      obtain ⟨row, hrow, -⟩ := List.mem_map.mp (hmore grant hgrant)
      exact List.ne_nil_of_mem hrow
    obtain ⟨row, hfirst⟩ := exists_firstByRank tie hrows
    obtain ⟨limit, hlimit⟩ := exists_firstByRank tieLimit hrows
    obtain ⟨row', hfirst'⟩ := exists_firstByRank tie' hrows'
    obtain ⟨limit', hlimit'⟩ := exists_firstByRank tieLimit' hrows'
    have hmem := (firstByRank_eq_some hfirst).1
    have hmem' := (firstByRank_eq_some hfirst').1
    -- every entitlement grants the same features, so only the limit and the expiry can differ
    have hfeatures : row.1.features = row'.1.features :=
      (hall.features hmem).trans (hall'.features hmem').symm
    have hmore' : ∀ r ∈ s.db.activeEntitlements userId now, (r.1, r.2.maxDevices) ∈
        (s'.db.activeEntitlements userId now).map fun r => (r.1, r.2.maxDevices) :=
      fun r hr => hmore _ (List.mem_map_of_mem hr)
    -- the two queries rank the rows alike, so the limits of their rows agree
    have hlimits : row.2.maxDevices = limit.2.maxDevices := limit_of_queries hfirst hlimit
      ((hall.features hmem).trans (hall.features (firstByRank_eq_some hlimit).1).symm)
    have hlimits' : row'.2.maxDevices = limit'.2.maxDevices := limit_of_queries hfirst' hlimit'
      ((hall'.features hmem').trans (hall'.features (firstByRank_eq_some hlimit').1).symm)
    obtain ⟨hle, hexpires⟩ := limit_of_rank_le (rank_le_of_more hmore' hfirst hfirst')
      hfeatures
    refine ⟨row.1, limit.2.maxDevices, row'.1, limit'.2.maxDevices, ?_, ?_, ?_, ?_,
      .of_limit hfeatures (hlimits ▸ hlimits' ▸ hle), fun hn => ?_⟩
    · rw [findActiveEntitlementForUser_eq, hfirst, Option.map_some]
    · rw [findActiveEntitlementWithCardLimitForUser_eq, hlimit, Option.map_some]
    · rw [findActiveEntitlementForUser_eq, hfirst', Option.map_some]
    · rw [findActiveEntitlementWithCardLimitForUser_eq, hlimit', Option.map_some]
    · exact .of_expiresAt (hexpires (hlimits'.trans (hn.trans hlimits.symm)))
  · intro l claims code hrequest u t grant hgrant
    -- a refusal changes nothing, and a redemption adds an entitlement
    rcases answer_of_redeemCardKey (x := x) (s := s) hrequest with ⟨e, hanswer⟩ | ⟨e, hanswer⟩
    · rw [redeemCardKey_refused hrequest hanswer]
      exact hgrant
    · obtain ⟨card, hredeems⟩ := redeemCardKey_of_answer hrequest hanswer
      exact hredeems.activeLimits hgrant

end Runs

/-! A paid order and a card key, for as many devices or for more. -/

/-- The library functions, with the fingerprint of the card key that the order is given. -/
def paidCrates : Crates :=
  { tableCrates with
    sha256Hex := fun s =>
      if s = "ORS-STANDARD_30D-mB8xWq3LkZ5tRd7Yn2Vh9Js4" then
        "3c49ee36d85aa439d1772765878320a88f6ab2570ef9fa0e8531019f3e347fa2"
      else tableCrates.sha256Hex s }

/-- The order is paid in the first minute. -/
def paidLabel : CloudLabel :=
  { shopLabel 1 (paidEvent "evt_1") true with
    draw := { minuteDraw 1 with random := fun _ => "mB8xWq3LkZ5tRd7Yn2Vh9Js4" } }

/-- What the paid order has granted is still there when the card key has been redeemed. -/
theorem more_entitlements_card_key :
    ∃ s s', (cloudMachine paidCrates).Reachable s ∧ (cloudMachine paidCrates).Reachable s' ∧
      ∃ e n e' n',
        findActiveEntitlementForUser ⟨.ofNat 2⟩ ((minuteDraw 3).clock 0) 0 s.db =
          .ok (some e, s.db) ∧
        findActiveEntitlementForUser ⟨.ofNat 2⟩ ((minuteDraw 3).clock 0) 0 s'.db =
          .ok (some e', s'.db) ∧ NoLess e n e' n' := by
  have hinit : (cloudMachine paidCrates).init (.start cardKeyDb) :=
    ⟨rfl, by decide, by decide, rfl, rfl⟩
  have hpaid := Machine.run_exec (show (cloudMachine paidCrates).Allows (.start cardKeyDb)
    [paidLabel] by decide)
  have hredeemed := Machine.run_exec (show (cloudMachine paidCrates).Allows (.start cardKeyDb)
    [paidLabel, shopLabel 2 redeemRequest true] by decide)
  have hsome : (((cloudMachine paidCrates).exec (.start cardKeyDb) [paidLabel]).2.db.activeLimits
      ⟨.ofNat 2⟩ ((minuteDraw 3).clock 0)) ≠ [] := by decide
  obtain ⟨e, n, e', n', he, -, he', -, hless, -⟩ := (more_entitlements ⟨_, _, hinit, hpaid⟩
    ⟨_, _, hinit, hredeemed⟩ hsome (by decide) 0 0 0 0).1
  exact ⟨_, _, ⟨_, _, hinit, hpaid⟩, ⟨_, _, hinit, hredeemed⟩, e, n, e', n', he, he', hless⟩

/-- A card key for two devices and a day. -/
def dayKeyDb : Db :=
  { shopDb with
    cardKeys := ⟨[{ shopCardKey with durationDays := 1, maxDevices := 2 }], by decide⟩ }

/-- Redeemed a minute after the order has been paid, it is preferred for its devices, and the lease
expires with it. -/
theorem more_entitlements_shorten_lease :
    ¬ ∀ (x : Crates) (s s' : Cloud) (userId : UserId) (now : Time) (e e' : Entitlement),
      (cloudMachine x).Reachable s → (cloudMachine x).Reachable s' →
      (∀ grant ∈ s.db.activeLimits userId now, grant ∈ s'.db.activeLimits userId now) →
      findActiveEntitlementForUser userId now 0 s.db = .ok (some e, s.db) →
      findActiveEntitlementForUser userId now 0 s'.db = .ok (some e', s'.db) →
      LeaseNoShorter e e' := by
  intro h
  have hinit : (cloudMachine paidCrates).init (.start dayKeyDb) :=
    ⟨rfl, by decide, by decide, rfl, rfl⟩
  have hpaid := Machine.run_exec (show (cloudMachine paidCrates).Allows (.start dayKeyDb)
    [paidLabel] by decide)
  have hredeemed := Machine.run_exec (show (cloudMachine paidCrates).Allows (.start dayKeyDb)
    [paidLabel, shopLabel 2 redeemRequest true] by decide)
  have hlease := h paidCrates _ _ ⟨.ofNat 2⟩ ((minuteDraw 3).clock 0)
    (newEntitlement (.ofNat 102) ⟨.ofNat 1⟩ ⟨.ofNat 2⟩ .standard30d ⟨.ofNat 101⟩ 1767225660000000
      30)
    (newEntitlement (.ofNat 200) ⟨.ofNat 1⟩ ⟨.ofNat 2⟩ .standard30d ⟨.ofNat 5⟩ 1767225720000000 1)
    ⟨_, _, hinit, hpaid⟩ ⟨_, _, hinit, hredeemed⟩ (by decide) ?_ ?_ ⟨.ofNat 1⟩ ⟨.ofNat 2⟩
    ⟨.ofNat 7⟩ (.ofNat 8) ((minuteDraw 3).clock 0)
  · revert hlease
    decide
  · rw [findActiveEntitlementForUser_eq]
    exact congrArg (fun e => Except.ok (e, _)) (by decide)
  · rw [findActiveEntitlementForUser_eq]
    exact congrArg (fun e => Except.ok (e, _)) (by decide)

end OzonSuite
