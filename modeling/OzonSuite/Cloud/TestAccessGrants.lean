/-
# Who is given test access

Test access is given to the users on the list and to nobody else; afterwards they have it; and the
lock on the row of the user sees to it that requests side by side do not give it twice.  An
entitlement that has been given stays in the table for ever, so a later request finds it as long as
it is neither revoked nor expired.
-/
import OzonSuite.Cloud.AccountRows
import OzonSuite.Cloud.TestAccess

namespace OzonSuite

open Lib

/-! ## Entitlements stay -/

/-- The entitlement is in the table, and may have been revoked. -/
def Ledger.Has (c : Ledger) (e : Entitlement) : Prop :=
  e ∈ c.entitlements ∨ ∃ t, revokeAt t e ∈ c.entitlements

/-- The entitlement has been revoked. -/
def Ledger.Revoked (c : Ledger) (e : Entitlement) : Prop := ∃ t, revokeAt t e ∈ c.entitlements

namespace Ledger

variable {c c' : Ledger} {e : Entitlement}

/-- A row stays as it is, or is revoked. -/
lemma Change.entitlement (h : Change c c') (he : e ∈ c.entitlements) :
    e ∈ c'.entitlements ∨ ∃ t, revokeAt t e ∈ c'.entitlements := by
  cases h with
  | idle => exact .inl he
  | createOrder o _ => exact .inl he
  | attachSession id session => exact .inl he
  | recordEvent _ => exact .inl he
  | fulfil => exact .inl (List.mem_append_left _ he)
  | confirmManually p => exact .inl he
  | addCardKeys cards _ => exact .inl he
  | redeem => exact .inl (List.mem_append_left _ he)
  | grant => exact .inl (List.mem_append_left _ he)
  | revoke id now =>
    by_cases hid : (e.id == id) = true
    · exact .inr ⟨now, mem_updateWhere_of_pos he hid⟩
    · exact .inl (mem_updateWhere_of_not he (by simpa using hid))

lemma Change.revoked (h : Change c c') (he : c.Revoked e) : c'.Revoked e := by
  obtain ⟨t, ht⟩ := he
  rcases h.entitlement ht with hkept | ⟨t', ht'⟩
  · exact ⟨t, hkept⟩
  · exact ⟨t', ht'⟩

lemma Change.has (h : Change c c') (he : c.Has e) : c'.Has e := by
  rcases he with he | he
  · exact h.entitlement he
  · exact .inr (h.revoked he)

end Ledger

/-! ## The statements -/

/-- The user has an unexpired and unrevoked entitlement on everything, for enough devices. -/
def Db.HasFullAccess (db : Db) (userId : UserId) (minMaxDevices : UInt8) (now : Time) : Prop :=
  ∃ row ∈ db.activeEntitlements userId now, row.1.planCode = .standard30d ∧
    minMaxDevices ≤ row.2.maxDevices ∧ ∀ feature ∈ defaultFeatures, feature ∈ row.1.features

section Statements

variable {x : Crates} {draw : Draw} {db db' : Db}

lemma findUserById_ok {userId : UserId} {found : Option User}
    (h : findUserById userId db = .ok (found, db')) :
    db' = db ∧ ∀ user, found = some user → user ∈ db.users.rows ∧ user.id = userId ∧
      ∀ other ∈ db.users.rows, other.id = userId → other = user := by
  obtain ⟨rfl, rfl⟩ := fetchOptional_eq_ok.mp h
  refine ⟨rfl, fun user huser => ?_⟩
  have hmem := List.mem_of_find?_eq_some huser
  have hid : user.id = userId := by simpa using List.find?_some huser
  refine ⟨hmem, hid, fun other hother hsame => ?_⟩
  exact eq_of_id hother hmem (hsame.trans hid.symm)

lemma hasActiveFullAccessEntitlement_ok {userId : UserId} {n : UInt8} {now : Time} {found : Bool}
    (h : hasActiveFullAccessEntitlement userId n now db = .ok (found, db')) :
    db' = db ∧ (found = true ↔ db.HasFullAccess userId n now) := by
  simp only [hasActiveFullAccessEntitlement, Tx.bind_eq_ok, Tx.get_eq_ok, Tx.pure_eq_ok] at h
  obtain ⟨_, _, ⟨rfl, rfl⟩, rfl, rfl⟩ := h
  refine ⟨rfl, ?_⟩
  simp only [List.any_eq_true, Bool.and_eq_true, beq_iff_eq, decide_eq_true_eq, List.all_eq_true,
    List.contains_iff_mem, and_assoc, Db.HasFullAccess]

/-- What a grant has done. -/
structure TestGrant (config : AppConfig) (user : User) (draw : Draw) (card : CardKeyRow)
    (e : Entitlement) (c c' : Ledger) : Prop where
  entitlement : e = newEntitlement (draw.uuid 2) user.tenantId user.id .standard30d card.id
    (draw.clock 2) config.testFullAccessDurationDays
  days : 0 < config.testFullAccessDurationDays
  durationDays : card.durationDays = config.testFullAccessDurationDays
  maxDevices : card.maxDevices = config.testFullAccessMaxDevices
  orderId : card.orderId = none
  ledger : c' = { c with
    cardKeys := c.cardKeys ++ [redeemBy user.id (draw.clock 2) card]
    entitlements := c.entitlements ++ [e] }

lemma TestGrant.change {config : AppConfig} {user : User} {card : CardKeyRow} {e : Entitlement}
    {c c' : Ledger} (h : TestGrant config user draw card e c c') : c.Change c' := by
  have huser : e.userId = user.id := by
    rw [h.entitlement]
    rfl
  rw [h.ledger, ← huser]
  refine .grant card h.orderId (draw.clock 2) e ⟨?_, ?_⟩
  · rw [h.entitlement]
    rfl
  · rw [h.entitlement, h.durationDays]
    rfl

/-- A card key that has been stored is for a day at least. -/
lemma insertCardKey_days {onError : String → ApiError} {cardKey : CardKey}
    {orderId : Option OrderId} {u : Unit}
    (h : insertCardKey onError cardKey orderId db = .ok (u, db')) : 0 < cardKey.durationDays := by
  obtain ⟨t, ht, -, -⟩ := insertRow_eq_ok.mp h
  have hcheck := t.satisfied.1 ("card_keys_duration_days_check",
    fun c : CardKeyRow => decide (0 < c.durationDays)) (by simp [cardKeysSchema])
    { cardKey with orderId := orderId } (by rw [Table.rows_of_insert ht]; simp)
  exact of_decide_eq_true hcheck

lemma generateCardKey_limits {i : ℕ} {planCode : PlanCode} {tenantId : TenantId}
    {durationDays : UInt16} {maxDevices : UInt8} {g : GeneratedCardKey}
    (h : generateCardKey x draw i planCode tenantId durationDays maxDevices db = .ok (g, db')) :
    g.cardKey.durationDays = durationDays ∧ g.cardKey.maxDevices = maxDevices := by
  simp only [generateCardKey] at h
  generalize x.hashPassword _ _ = hash at h
  cases hash with
  | none => exact absurd h Tx.throw_ne_ok
  | some codeHash =>
    obtain ⟨rfl, -⟩ := Tx.pure_eq_ok.mp h
    exact ⟨rfl, rfl⟩

lemma grantTestEntitlement_ok {config : AppConfig} {user : User} {e : Entitlement}
    (h : grantTestEntitlement x config user draw db = .ok (e, db')) :
    ∃ card, TestGrant config user draw card e db.ledger db'.ledger := by
  simp only [grantTestEntitlement, Tx.bind_eq_ok, Tx.pure_eq_ok] at h
  obtain ⟨g, _, hgen, _, _, hinsert, _, _, hmark, _, _, hent, _, _, haudit, rfl, rfl⟩ := h
  obtain ⟨hdays, hlimit⟩ := generateCardKey_limits hgen
  obtain ⟨rfl, havailable, -⟩ := generateCardKey_ok hgen
  have hpositive := insertCardKey_days hinsert
  obtain ⟨keys, rfl, hkeys⟩ := redeem_inserted hinsert hmark havailable
  obtain ⟨ents, rfl, hents⟩ := insertEntitlement_ok hent
  obtain ⟨audits, rfl⟩ := insertAudit_ok haudit
  refine ⟨{ g.cardKey with orderId := none }, rfl, hdays ▸ hpositive, hdays, hlimit, rfl, ?_⟩
  simp only [Db.ledger, hkeys, hents]

/-- The user that has been granted test access has it. -/
lemma TestGrant.hasFullAccess {config : AppConfig} {user : User} {card : CardKeyRow}
    {e : Entitlement} (h : TestGrant config user draw card e db.ledger db'.ledger) :
    db'.HasFullAccess user.id config.testFullAccessMaxDevices (draw.clock 2) := by
  have hentitlements : db'.entitlements.rows = db.entitlements.rows ++ [e] :=
    congrArg Ledger.entitlements h.ledger
  have hcardKeys : db'.cardKeys.rows =
      db.cardKeys.rows ++ [redeemBy user.id (draw.clock 2) card] :=
    congrArg Ledger.cardKeys h.ledger
  -- a grant is for a day at least, so it outlasts the moment
  have hexpires : draw.clock 2 < e.expiresAt := by
    have hpos : 0 < config.testFullAccessDurationDays.toNat := UInt16.lt_iff_toNat_lt.mp h.days
    have hdays : (0 : ℤ) < Time.days config.testFullAccessDurationDays.toNat := by
      simp only [Time.days]
      omega
    rw [h.entitlement]
    exact Int.lt_add_of_pos_right _ hdays
  refine ⟨(e, redeemBy user.id (draw.clock 2) card), Db.mem_activeEntitlements.mpr
    ⟨⟨?_, ⟨?_, ?_⟩, hexpires⟩, ?_, ?_⟩, ?_, ?_, ?_⟩
  · rw [hentitlements]
    exact List.mem_append_right _ (List.mem_singleton.mpr rfl)
  · rw [h.entitlement]
    rfl
  · rw [h.entitlement]
    rfl
  · rw [hcardKeys]
    exact List.mem_append_right _ (List.mem_singleton.mpr rfl)
  · rw [h.entitlement]
    rfl
  · rw [h.entitlement]
    rfl
  · rw [show (redeemBy user.id (draw.clock 2) card).maxDevices = card.maxDevices from rfl,
      h.maxDevices]
    exact UInt8.le_refl _
  · rw [h.entitlement]
    exact fun feature hfeature => hfeature

end Statements

/-! ## One step -/

namespace AccessCall

/-- The user that has been read. -/
def user? (a : AccessCall) : Option User :=
  match a.phase with
  | .called => none
  | .matched user | .locked user | .checked user _ => some user

/-- The statements of a request, each with what it has read and done. -/
inductive Next (a : AccessCall) (draw : Draw) (db : Db) : AccessCall ⊕ AccessOutcome → Db → Prop
  | unlisted (hphase : a.phase = .called)
      (hunlisted : ∀ user ∈ db.users.rows, user.id = a.userId →
        testFullAccessMatches a.config user = false) : Next a draw db (.inr .unmatched) db
  | listed (hphase : a.phase = .called) {user : User} (hmem : user ∈ db.users.rows)
      (hid : user.id = a.userId) (hlisted : testFullAccessMatches a.config user = true) :
      Next a draw db (.inl { a with phase := .matched user }) db
  | lock {user : User} (hphase : a.phase = .matched user) :
      Next a draw db (.inl { a with phase := .locked user }) db
  | present {user : User} (hphase : a.phase = .locked user)
      (hfound : db.HasFullAccess user.id a.config.testFullAccessMaxDevices (draw.clock 0)) :
      Next a draw db (.inr .present) db
  | absent {user : User} (hphase : a.phase = .locked user)
      (hnone : ¬ db.HasFullAccess user.id a.config.testFullAccessMaxDevices (draw.clock 0)) :
      Next a draw db (.inl { a with phase := .checked user (draw.clock 0) }) db
  | grant {user : User} {now : Time} (hphase : a.phase = .checked user now) {card : CardKeyRow}
      {e : Entitlement} {db' : Db}
      (hgrant : TestGrant a.config user draw card e db.ledger db'.ledger) :
      Next a draw db (.inr (.granted e)) db'

variable {x : Crates} {a : AccessCall} {draw : Draw} {db db' : Db} {r : AccessCall ⊕ AccessOutcome}

/-- Nobody is on an empty list. -/
lemma testFullAccessMatches_of_isEmpty {config : AppConfig} {user : User}
    (h : config.testFullAccessIdentities.isEmpty = true) :
    testFullAccessMatches config user = false := by
  rw [Bool.eq_false_iff, Ne, testFullAccessMatches_iff, List.isEmpty_iff.mp h]
  rintro ⟨-, identity, -, hmem⟩
  cases hmem

lemma next_ok (h : a.next x draw db = .ok (r, db')) : a.Next draw db r db' := by
  cases hphase : a.phase with
  | called =>
    simp only [next, hphase] at h
    split at h
    · next hempty =>
      obtain ⟨rfl, rfl⟩ := Tx.pure_eq_ok.mp h
      simp only [Bool.and_eq_true] at hempty
      exact .unlisted hphase fun user _ _ => testFullAccessMatches_of_isEmpty hempty.2
    · simp only [Tx.bind_eq_ok] at h
      obtain ⟨found, _, hfound, h⟩ := h
      obtain ⟨rfl, hread⟩ := findUserById_ok hfound
      cases found with
      | none => exact absurd h Tx.throw_ne_ok
      | some user =>
        -- the row that is read is the only one with the number
        obtain ⟨hmem, hid, hunique⟩ := hread user rfl
        simp only at h
        split at h
        · next hlisted =>
          obtain ⟨rfl, rfl⟩ := Tx.pure_eq_ok.mp h
          exact .listed hphase hmem hid hlisted
        · next hunlisted =>
          obtain ⟨rfl, rfl⟩ := Tx.pure_eq_ok.mp h
          refine .unlisted hphase fun other hother hsame => ?_
          rw [hunique other hother hsame]
          simpa using hunlisted
  | matched user =>
    simp only [next, hphase, Tx.bind_eq_ok, Tx.pure_eq_ok] at h
    obtain ⟨_, _, hlock, rfl, rfl⟩ := h
    obtain rfl := lockUserForUpdate_ok hlock
    exact .lock hphase
  | locked user =>
    simp only [next, hphase, Tx.bind_eq_ok] at h
    obtain ⟨found, _, hfound, h⟩ := h
    obtain ⟨rfl, hiff⟩ := hasActiveFullAccessEntitlement_ok hfound
    cases found with
    | true =>
      obtain ⟨rfl, rfl⟩ := Tx.pure_eq_ok.mp h
      exact .present hphase (hiff.mp rfl)
    | false =>
      obtain ⟨rfl, rfl⟩ := Tx.pure_eq_ok.mp h
      exact .absent hphase fun hhas => by simpa using hiff.mpr hhas
  | checked user now =>
    simp only [next, hphase, Tx.bind_eq_ok, Tx.pure_eq_ok] at h
    obtain ⟨e, _, hgrant, rfl, rfl⟩ := h
    obtain ⟨card, hgrant⟩ := grantTestEntitlement_ok hgrant
    exact .grant hphase hgrant

end AccessCall

/-- The answer of a statement. -/
def AccessAnswer.ofNext : AccessCall ⊕ AccessOutcome → AccessAnswer
  | .inl _ => .goesOn
  | .inr outcome => .ensured outcome

namespace AccessCloud

/-- What a step does. -/
inductive Effect (s : AccessCloud) : AccessLabel → AccessAnswer → AccessCloud → Prop
  | ensure {config : AppConfig} {request : AccessRequest} {userId : UserId} :
      Effect s (.ensure config request userId) .goesOn
        { s with calls := s.calls ++ [some ⟨config, request, userId, .called⟩] }
  | idle {i : ℕ} {draw : Draw} {connected : Bool} (hslot : slot s.calls i = none) :
      Effect s (.advance i draw connected) .goesOn s
  | refused {i : ℕ} {draw : Draw} {connected : Bool} {e : ApiError} :
      Effect s (.advance i draw connected) (.refused e) { s with calls := s.calls.set i none }
  | next {i : ℕ} {draw : Draw} {a : AccessCall} (hslot : slot s.calls i = some a)
      {r : AccessCall ⊕ AccessOutcome} {db : Db} (hnext : a.Next draw s.cloud.db r db) :
      Effect s (.advance i draw true) (.ofNext r)
        { cloud := { s.cloud with db := db }, calls := s.calls.set i r.getLeft? }
  | rest {l : CloudLabel} {answer : CloudAnswer} {cloud : Cloud}
      (hchange : s.cloud.db.ledger.Change cloud.db.ledger) :
      Effect s (.rest l) (.rest answer) { s with cloud := cloud }

lemma step_effect (x : Crates) (s : AccessCloud) (l : AccessLabel) :
    s.Effect l (s.step x l).1 (s.step x l).2 := by
  cases l with
  | ensure config request userId => exact .ensure
  | rest l => exact .rest (step_change x s.cloud l.afterAccess)
  | advance i draw connected =>
    simp only [step, stepCall]
    cases hslot : slot s.calls i with
    | none => exact .idle hslot
    | some a =>
      cases connected with
      | false => exact .refused
      | true =>
        simp only [Bool.not_true, Bool.false_eq_true, if_false]
        cases hr : (atomically (a.next x draw) s.cloud.db).1 with
        | error e =>
          rw [atomically_error hr]
          exact .refused
        | ok r =>
          have hnext := AccessCall.next_ok (atomically_ok hr)
          cases r with
          | inl a' => exact .next hslot hnext
          | inr outcome => exact .next hslot hnext

end AccessCloud

/-! ## Every run -/

/-- The entitlement has been granted in the run. -/
def GrantedIn (tr : List (AccessLabel × AccessAnswer)) (e : Entitlement) : Prop :=
  ∃ l, (l, .ensured (.granted e)) ∈ tr

/-- A request has come in with the configuration. -/
def ConfiguredIn (tr : List (AccessLabel × AccessAnswer)) (config : AppConfig) : Prop :=
  ∃ request userId answer, (.ensure config request userId, answer) ∈ tr

/-- At the time the entitlement is not active any more, or its card key is for fewer devices. -/
def Ledger.Spent (c : Ledger) (e : Entitlement) (n : UInt8) (now : Time) : Prop :=
  c.Revoked e ∨ e.expiresAt ≤ now ∨
    ∃ card ∈ c.cardKeys, card.id = e.sourceCardKeyId ∧ card.status = .redeemed ∧ card.maxDevices < n

/-- What is known of an entitlement that has been granted. -/
structure Ledger.GrantKept (c : Ledger) (tr : List (AccessLabel × AccessAnswer))
    (e : Entitlement) : Prop where
  has : c.Has e
  plan : e.planCode = .standard30d
  features : e.features = defaultFeatures
  unrevoked : e.revokedAt = none
  card : ∃ card ∈ c.cardKeys, card.id = e.sourceCardKeyId ∧ card.status = .redeemed ∧
    ∃ config, ConfiguredIn tr config ∧ card.maxDevices = config.testFullAccessMaxDevices

section Ledgers

variable {c c' : Ledger} {e : Entitlement} {n : UInt8} {now : Time}
  {tr : List (AccessLabel × AccessAnswer)} {step : AccessLabel × AccessAnswer}

lemma GrantedIn.of_snoc (h : GrantedIn (tr ++ [step]) e) :
    GrantedIn tr e ∨ step.2 = .ensured (.granted e) := by
  obtain ⟨l, hl⟩ := h
  rcases List.mem_append.mp hl with hl | hl
  · exact .inl ⟨l, hl⟩
  · rw [← List.mem_singleton.mp hl]
    exact .inr rfl

lemma ConfiguredIn.snoc {config : AppConfig} (h : ConfiguredIn tr config) :
    ConfiguredIn (tr ++ [step]) config := by
  obtain ⟨request, userId, answer, hmem⟩ := h
  exact ⟨request, userId, answer, List.mem_append_left _ hmem⟩

lemma Ledger.Spent.change (h : c.Spent e n now) (hchange : c.Change c') : c'.Spent e n now := by
  rcases h with h | h | ⟨card, hcard, hid, hredeemed, hlt⟩
  · exact .inl (hchange.revoked h)
  · exact .inr (.inl h)
  · exact .inr (.inr ⟨card, hchange.keeps.card card hcard hredeemed, hid, hredeemed, hlt⟩)

lemma Ledger.GrantKept.snoc (h : c.GrantKept tr e) (hchange : c.Change c') :
    c'.GrantKept (tr ++ [step]) e := by
  obtain ⟨card, hcard, hid, hredeemed, config, hconfig, hmax⟩ := h.card
  exact ⟨hchange.has h.has, h.plan, h.features, h.unrevoked, card,
    hchange.keeps.card card hcard hredeemed, hid, hredeemed, config, hconfig.snoc, hmax⟩

/-- A check that finds nothing has found every entitlement granted before not active any more. -/
lemma spent_of_check {db : Db} {userId : UserId} (hkept : db.ledger.GrantKept tr e)
    (huser : e.userId = userId) (hnone : ¬ db.HasFullAccess userId n now) :
    db.ledger.Spent e n now := by
  obtain ⟨card, hcard, hid, hredeemed, -⟩ := hkept.card
  by_cases hexpired : e.expiresAt ≤ now
  · exact .inr (.inl hexpired)
  by_cases hlimit : n ≤ card.maxDevices
  · refine .inl (hkept.has.resolve_left fun hmem => hnone ?_)
    refine ⟨(e, card), Db.mem_activeEntitlements.mpr
      ⟨⟨hmem, ⟨huser, hkept.unrevoked⟩, not_le.mp hexpired⟩, hcard, hid⟩, hkept.plan, hlimit, ?_⟩
    rw [hkept.features]
    exact fun feature hfeature => hfeature
  · exact .inr (.inr ⟨card, hcard, hid, hredeemed, UInt8.not_le.mp hlimit⟩)

lemma TestGrant.kept {config : AppConfig} {user : User} {draw : Draw} {card : CardKeyRow}
    (h : TestGrant config user draw card e c c') (hconfig : ConfiguredIn tr config) :
    c'.GrantKept tr e := by
  have hentitlements : c'.entitlements = c.entitlements ++ [e] :=
    congrArg Ledger.entitlements h.ledger
  have hcardKeys : c'.cardKeys = c.cardKeys ++ [redeemBy user.id (draw.clock 2) card] :=
    congrArg Ledger.cardKeys h.ledger
  refine ⟨.inl ?_, ?_, ?_, ?_, redeemBy user.id (draw.clock 2) card, ?_, ?_, rfl, config, hconfig,
    h.maxDevices⟩
  · rw [hentitlements]
    exact List.mem_append_right _ (List.mem_singleton.mpr rfl)
  · rw [h.entitlement]
    rfl
  · rw [h.entitlement]
    rfl
  · rw [h.entitlement]
    rfl
  · rw [hcardKeys]
    exact List.mem_append_right _ (List.mem_singleton.mpr rfl)
  · rw [h.entitlement]
    rfl

end Ledgers

/-- The requests under way: each has a user that it has read and found on the list, two that hold
the lock of a user are the same, and one that has checked has done so when everything granted to
its user before was not active any more. -/
structure AccessInv (x : Crates) (s₀ : AccessCloud) (tr : List (AccessLabel × AccessAnswer))
    (s : AccessCloud) : Prop where
  kept : ∀ e, GrantedIn tr e → s.cloud.db.ledger.GrantKept tr e
  configured : ∀ i a, slot s.calls i = some a → ConfiguredIn tr a.config
  user : ∀ i a user, slot s.calls i = some a → a.user? = some user →
    user.id = a.userId ∧ testFullAccessMatches a.config user = true ∧
      (accessMachine x).Happened s₀ tr fun l _ m =>
        (∃ draw, l = .advance i draw true) ∧ user ∈ m.cloud.db.users.rows
  alone : ∀ i j a b, slot s.calls i = some a → slot s.calls j = some b → a.holdsLock = true →
    b.holdsLock = true → a.userId = b.userId → i = j
  checked : ∀ i a user now, slot s.calls i = some a → a.phase = .checked user now →
    ∀ e, GrantedIn tr e → e.userId = a.userId →
      s.cloud.db.ledger.Spent e a.config.testFullAccessMaxDevices now

lemma holdsLock_of_checked {a : AccessCall} {user : User} {now : Time}
    (h : a.phase = .checked user now) : a.holdsLock = true := by
  simp [AccessCall.holdsLock, h]

section Steps

variable {x : Crates} {s₀ s s' : AccessCloud} {tr : List (AccessLabel × AccessAnswer)}
  {l : AccessLabel}

/-- A step that grants nothing, and leaves of the requests at most some of those that there were. -/
lemma AccessInv.fewer (h : AccessInv x s₀ tr s) {answer : AccessAnswer}
    (hchange : s.cloud.db.ledger.Change s'.cloud.db.ledger)
    (hnone : ∀ e, answer ≠ .ensured (.granted e))
    (hcalls : ∀ i a, slot s'.calls i = some a → slot s.calls i = some a) :
    AccessInv x s₀ (tr ++ [(l, answer)]) s' := by
  have hgranted : ∀ e, GrantedIn (tr ++ [(l, answer)]) e → GrantedIn tr e := fun e he =>
    he.of_snoc.resolve_right (hnone e)
  refine ⟨fun e he => (h.kept e (hgranted e he)).snoc hchange,
    fun i a ha => (h.configured i a (hcalls i a ha)).snoc, fun i a user ha huser => ?_,
    fun i j a b ha hb => h.alone i j a b (hcalls i a ha) (hcalls j b hb),
    fun i a user now ha hphase e he hid => ?_⟩
  · obtain ⟨hid, hlisted, hread⟩ := h.user i a user (hcalls i a ha) huser
    exact ⟨hid, hlisted, hread.snoc _⟩
  · exact (h.checked i a user now (hcalls i a ha) hphase e (hgranted e he) hid).change hchange

/-- A request comes in. -/
lemma AccessInv.ensure (h : AccessInv x s₀ tr s) (config : AppConfig) (request : AccessRequest)
    (userId : UserId) :
    AccessInv x s₀ (tr ++ [(.ensure config request userId, .goesOn)])
      { s with calls := s.calls ++ [some ⟨config, request, userId, .called⟩] } := by
  have hgranted : ∀ e, GrantedIn (tr ++ [(.ensure config request userId, .goesOn)]) e →
      GrantedIn tr e := fun e he => he.of_snoc.resolve_right (by simp)
  refine ⟨fun e he => (h.kept e (hgranted e he)).snoc .idle, fun i a ha => ?_,
    fun i a user ha huser => ?_, fun i j a b ha hb hlock hlock' hsame => ?_,
    fun i a user now ha hphase e he hid => ?_⟩
  · rcases slot_append ha with ⟨-, hnew⟩ | ha
    · obtain rfl := Option.some.inj hnew
      exact ⟨request, userId, .goesOn, List.mem_append_right _ (List.mem_singleton.mpr rfl)⟩
    · exact (h.configured i a ha).snoc
  · rcases slot_append ha with ⟨-, hnew⟩ | ha
    · obtain rfl := Option.some.inj hnew
      cases huser
    · obtain ⟨hid, hlisted, hread⟩ := h.user i a user ha huser
      exact ⟨hid, hlisted, hread.snoc _⟩
  · rcases slot_append ha with ⟨-, hnew⟩ | ha
    · obtain rfl := Option.some.inj hnew
      cases hlock
    · rcases slot_append hb with ⟨-, hnew⟩ | hb
      · obtain rfl := Option.some.inj hnew
        cases hlock'
      · exact h.alone i j a b ha hb hlock hlock' hsame
  · rcases slot_append ha with ⟨-, hnew⟩ | ha
    · obtain rfl := Option.some.inj hnew
      cases hphase
    · exact h.checked i a user now ha hphase e (hgranted e he) hid

/-- A request goes on. -/
lemma AccessInv.goesOn (h : AccessInv x s₀ tr s) {i : ℕ} {draw : Draw} {a a' : AccessCall}
    (ha : slot s.calls i = some a) (hconfig : a'.config = a.config) (hid : a'.userId = a.userId)
    (huser : ∀ user, a'.user? = some user → user.id = a.userId ∧
      testFullAccessMatches a.config user = true ∧
        (accessMachine x).Happened s₀ (tr ++ [(.advance i draw true, .goesOn)]) fun l _ m =>
          (∃ draw, l = .advance i draw true) ∧ user ∈ m.cloud.db.users.rows)
    (halone : a'.holdsLock = true → ∀ j b, slot s.calls j = some b → b.holdsLock = true →
      a.userId = b.userId → i = j)
    (hchecked : ∀ user now, a'.phase = .checked user now → ∀ e, GrantedIn tr e →
      e.userId = a.userId → s.cloud.db.ledger.Spent e a.config.testFullAccessMaxDevices now) :
    AccessInv x s₀ (tr ++ [(.advance i draw true, .goesOn)])
      { s with calls := s.calls.set i (some a') } := by
  -- the step itself grants nothing
  have hgranted : ∀ e, GrantedIn (tr ++ [(.advance i draw true, .goesOn)]) e → GrantedIn tr e :=
    fun e he => he.of_snoc.resolve_right (by simp)
  refine ⟨fun e he => (h.kept e (hgranted e he)).snoc .idle, fun j b hb => ?_,
    fun j b user hb hread => ?_, fun j k b c hb hc hlock hlock' hsame => ?_,
    fun j b user now hb hphase e he hsame => ?_⟩
  · rcases slot_set hb with ⟨-, hnew⟩ | ⟨-, hb⟩
    · obtain rfl := Option.some.inj hnew
      exact hconfig ▸ (h.configured i a ha).snoc
    · exact (h.configured j b hb).snoc
  · rcases slot_set hb with ⟨rfl, hnew⟩ | ⟨-, hb⟩
    · obtain rfl := Option.some.inj hnew
      rw [hconfig, hid]
      exact huser user hread
    · obtain ⟨hid, hlisted, hread⟩ := h.user j b user hb hread
      exact ⟨hid, hlisted, hread.snoc _⟩
  · rcases slot_set hb with ⟨rfl, hnew⟩ | ⟨-, hold⟩
    · obtain rfl := Option.some.inj hnew
      -- of two requests with the lock at most one is the one that goes on
      rcases slot_set hc with ⟨rfl, -⟩ | ⟨-, hold'⟩
      · rfl
      · exact halone hlock k c hold' hlock' (hid ▸ hsame)
    · rcases slot_set hc with ⟨rfl, hnew⟩ | ⟨-, hold'⟩
      · obtain rfl := Option.some.inj hnew
        exact (halone hlock' j b hold hlock (hid ▸ hsame.symm)).symm
      · exact h.alone j k b c hold hold' hlock hlock' hsame
  · rcases slot_set hb with ⟨rfl, hnew⟩ | ⟨-, hb⟩
    · obtain rfl := Option.some.inj hnew
      rw [hconfig]
      exact hchecked user now hphase e (hgranted e he) (hsame.trans hid)
    · exact h.checked j b user now hb hphase e (hgranted e he) hsame

/-- A request grants an entitlement. -/
lemma AccessInv.grant (h : AccessInv x s₀ tr s) {i : ℕ} {draw : Draw} {a : AccessCall}
    (ha : slot s.calls i = some a) {user : User} {now : Time}
    (hphase : a.phase = .checked user now) {card : CardKeyRow} {e : Entitlement} {db : Db}
    (hgrant : TestGrant a.config user draw card e s.cloud.db.ledger db.ledger) :
    AccessInv x s₀ (tr ++ [(.advance i draw true, .ensured (.granted e))])
      { cloud := { s.cloud with db := db }, calls := s.calls.set i none } := by
  have hcalls : ∀ j b, slot (s.calls.set i none) j = some b → j ≠ i ∧ slot s.calls j = some b := by
    intro j b hb
    rcases slot_set hb with ⟨-, hnew⟩ | hb
    · cases hnew
    · exact hb
  have hread : a.user? = some user := by simp [AccessCall.user?, hphase]
  have huser : e.userId = a.userId := by
    rw [hgrant.entitlement]
    exact (h.user i a user ha hread).1
  refine ⟨fun e' he => ?_, fun j b hb => (h.configured j b (hcalls j b hb).2).snoc,
    fun j b user hb hread => ?_, fun j k b c hb hc =>
      h.alone j k b c (hcalls j b hb).2 (hcalls k c hc).2,
    fun j b user' now' hb hphase' e' he hid => ?_⟩
  · rcases he.of_snoc with he | he
    · exact (h.kept e' he).snoc hgrant.change
    · obtain rfl : e = e' := by simpa using he
      exact hgrant.kept (h.configured i a ha).snoc
  · obtain ⟨hid, hlisted, hread⟩ := h.user j b user (hcalls j b hb).2 hread
    exact ⟨hid, hlisted, hread.snoc _⟩
  · obtain ⟨hne, hb⟩ := hcalls j b hb
    rcases he.of_snoc with he | he
    · exact (h.checked j b user' now' hb hphase' e' he hid).change hgrant.change
    · -- the lock of the user is held by this request alone
      obtain rfl : e = e' := by simpa using he
      exact absurd (h.alone j i b a hb ha (holdsLock_of_checked hphase')
        (holdsLock_of_checked hphase) (hid.symm.trans huser)) hne

/-- Nobody holds the lock that a request takes. -/
lemma not_locked_of_enabled {i : ℕ} {draw : Draw} {a b : AccessCall} {j : ℕ}
    (hen : (accessMachine x).enabled s (.advance i draw true)) (ha : slot s.calls i = some a)
    (htakes : a.takesLock = true) (hb : slot s.calls j = some b) (hlock : b.holdsLock = true) :
    a.userId ≠ b.userId := by
  intro hsame
  have hwaits : s.waits (.advance i draw true) = false := hen
  simp only [AccessCloud.waits, ha, Bool.true_and, Option.any_some, htakes,
    AccessCloud.lockedBy, Bool.or_eq_false_iff, List.any_eq_false] at hwaits
  exact hwaits.2 _ (mem_of_slot hb) (by simp [hlock, hsame])

/-- **A statement.**  Whatever a request reads or does next, it keeps the invariant. -/
lemma AccessInv.next (h : AccessInv x s₀ tr s) (hrun : (accessMachine x).Run s₀ tr s) {i : ℕ}
    {draw : Draw} {a : AccessCall} (hen : (accessMachine x).enabled s (.advance i draw true))
    (ha : slot s.calls i = some a) {r : AccessCall ⊕ AccessOutcome} {db : Db}
    (hnext : a.Next draw s.cloud.db r db) (hanswer : ((accessMachine x).step s
      (.advance i draw true)).1 = .ofNext r) :
    AccessInv x s₀ (tr ++ [(.advance i draw true, .ofNext r)])
      { cloud := { s.cloud with db := db }, calls := s.calls.set i r.getLeft? } := by
  have hgone : ∀ j b, slot (s.calls.set i none) j = some b → slot s.calls j = some b := by
    intro j b hb
    rcases slot_set hb with ⟨-, hnew⟩ | ⟨-, hb⟩
    · cases hnew
    · exact hb
  have hold : ∀ {user}, a.user? = some user → user.id = a.userId ∧
      testFullAccessMatches a.config user = true ∧
        (accessMachine x).Happened s₀ (tr ++ [(.advance i draw true, .goesOn)]) fun l _ m =>
          (∃ draw, l = .advance i draw true) ∧ user ∈ m.cloud.db.users.rows := by
    intro user hread
    obtain ⟨hid, hlisted, hread⟩ := h.user i a user ha hread
    exact ⟨hid, hlisted, hread.snoc _⟩
  cases hnext with
  | unlisted hphase hunlisted => exact h.fewer .idle (by simp [AccessAnswer.ofNext]) hgone
  | @listed hphase user hmem hid hlisted =>
    refine h.goesOn ha rfl rfl (fun user' huser => ?_) (fun hlock => (by cases hlock))
      fun _ _ hchecked => (by cases hchecked)
    obtain rfl := Option.some.inj huser
    exact ⟨hid, hlisted, .last_of_answer hrun hen hanswer ⟨⟨draw, rfl⟩, hmem⟩⟩
  | lock hphase =>
    refine h.goesOn ha rfl rfl (fun user' huser => ?_) (fun _ j b hb hlock hsame => ?_)
      fun _ _ hchecked => (by cases hchecked)
    · exact hold (by rw [AccessCall.user?, hphase]; exact huser)
    -- the lock is given only when no request for the same user has it
    · have htakes : a.takesLock = true := by simp [AccessCall.takesLock, hphase]
      exact absurd hsame (not_locked_of_enabled hen ha htakes hb hlock)
  | present hphase hfound => exact h.fewer .idle (by simp [AccessAnswer.ofNext]) hgone
  | @absent user hphase hnone =>
    have hread : a.user? = some user := by rw [AccessCall.user?, hphase]
    have hlocked : a.holdsLock = true := by simp [AccessCall.holdsLock, hphase]
    refine h.goesOn ha rfl rfl (fun user' huser => ?_)
      (fun _ j b hb hlock hsame => h.alone i j a b ha hb hlocked hlock hsame)
      fun user' now hchecked e he hid => ?_
    · exact hold (hread.trans huser)
    · obtain ⟨rfl, rfl⟩ := AccessPhase.checked.inj hchecked
      have huser : e.userId = user.id := hid.trans (h.user i a user ha hread).1.symm
      -- a grant from before was in the table when the check found none, so it is spent
      exact spent_of_check (h.kept e he) huser hnone
  | grant hphase hgrant => exact h.grant ha hphase hgrant

/-- **A step.** -/
lemma AccessInv.step (h : AccessInv x s₀ tr s) (hrun : (accessMachine x).Run s₀ tr s)
    (hen : (accessMachine x).enabled s l) :
    AccessInv x s₀ (tr ++ [(l, ((accessMachine x).step s l).1)])
      ((accessMachine x).step s l).2 := by
  have heffect : s.Effect l ((accessMachine x).step s l).1 ((accessMachine x).step s l).2 :=
    s.step_effect x l
  generalize hanswer : ((accessMachine x).step s l).1 = answer at heffect ⊢
  generalize ((accessMachine x).step s l).2 = s' at heffect ⊢
  cases heffect with
  | ensure => exact h.ensure _ _ _
  | idle => exact h.fewer .idle (by simp) fun _ _ ha => ha
  | refused =>
    refine h.fewer .idle (by simp) fun j b hb => ?_
    rcases slot_set hb with ⟨-, hnew⟩ | ⟨-, hb⟩
    · cases hnew
    · exact hb
  | next hslot hnext => exact h.next hrun hen hslot hnext hanswer
  | rest hchange => exact h.fewer hchange (by simp) fun _ _ ha => ha

lemma accessInv_of_run (h₀ : (accessMachine x).init s₀) (h : (accessMachine x).Run s₀ tr s) :
    AccessInv x s₀ tr s := by
  refine Machine.Run.history (P := fun tr s => AccessInv x s₀ tr s) ?_
    (fun tr m l hrun ih hen => ih.step hrun hen) h
  have hnone : ∀ e, ¬ GrantedIn [] e := fun e ⟨_, hmem⟩ => (by cases hmem)
  have hempty : ∀ i a, slot s₀.calls i ≠ some a := fun i a ha => by
    rw [h₀.2] at ha
    cases ha
  exact ⟨fun e he => absurd he (hnone e), fun i a ha => absurd ha (hempty i a),
    fun i a _ ha => absurd ha (hempty i a), fun i _ a _ ha => absurd ha (hempty i a),
    fun i a _ _ ha => absurd ha (hempty i a)⟩

/-- **Test access.**  In every state that a run reaches, take the next statement of a request that
makes sure of test access.  If the request ends with the user taken for unlisted, the user is not
on the list.  If it ends otherwise, the user has an entitlement on everything for the configured
number of devices.  And if it grants one, it grants it to the user that it has read and found on
the list; and everything granted to this user before, under a number at least as high, had been
revoked, or had expired when the request checked. -/
theorem test_access (h₀ : (accessMachine x).init s₀) (h : (accessMachine x).Run s₀ tr s) {i : ℕ}
    {draw : Draw} {a : AccessCall} (ha : slot s.calls i = some a) :
    let (answer, after) := (accessMachine x).step s (.advance i draw true)
    (answer = .ensured .unmatched → ∀ user ∈ s.cloud.db.users.rows, user.id = a.userId →
      testFullAccessMatches a.config user = false) ∧
    (∀ outcome, answer = .ensured outcome → outcome ≠ .unmatched →
      ∃ k, after.cloud.db.HasFullAccess a.userId a.config.testFullAccessMaxDevices
        (draw.clock k)) ∧
    ∀ e, answer = .ensured (.granted e) →
      (∃ user, e.userId = user.id ∧ testFullAccessMatches a.config user = true ∧
        (accessMachine x).Happened s₀ tr fun l _ m =>
          (∃ draw, l = .advance i draw true) ∧ user ∈ m.cloud.db.users.rows) ∧
      ∃ user now, a.phase = .checked user now ∧
        ∀ e', GrantedIn tr e' → e'.userId = e.userId →
          (∀ config, ConfiguredIn tr config →
            a.config.testFullAccessMaxDevices ≤ config.testFullAccessMaxDevices) →
          s.cloud.db.ledger.Revoked e' ∨ e'.expiresAt ≤ now := by
  have hinv := accessInv_of_run h₀ h
  have heffect : s.Effect (.advance i draw true)
      ((accessMachine x).step s (.advance i draw true)).1
      ((accessMachine x).step s (.advance i draw true)).2 := s.step_effect x _
  generalize (accessMachine x).step s (.advance i draw true) = result at heffect ⊢
  obtain ⟨answer, after⟩ := result
  simp only at heffect ⊢
  cases heffect with
  | idle hslot => exact absurd (hslot.symm.trans ha) (by simp)
  | refused => simp
  | next hslot hnext =>
    obtain rfl := Option.some.inj (ha.symm.trans hslot)
    cases hnext with
    | unlisted hphase hunlisted =>
      refine ⟨fun _ => hunlisted, fun outcome houtcome hne => ?_, fun e he => ?_⟩
      · exact absurd (AccessAnswer.ensured.inj houtcome).symm hne
      · simp [AccessAnswer.ofNext] at he
    | listed => simp [AccessAnswer.ofNext]
    | lock => simp [AccessAnswer.ofNext]
    | @present user hphase hfound =>
      have hid := (hinv.user i a user ha (by rw [AccessCall.user?, hphase])).1
      refine ⟨fun he => ?_, fun outcome _ _ => ⟨0, hid ▸ hfound⟩, fun e he => ?_⟩
      · simp [AccessAnswer.ofNext] at he
      · simp [AccessAnswer.ofNext] at he
    | absent => simp [AccessAnswer.ofNext]
    | @grant user now hphase card e db' hgrant =>
      obtain ⟨hid, hlisted, hread⟩ := hinv.user i a user ha (by rw [AccessCall.user?, hphase])
      have huser : e.userId = user.id := by
        rw [hgrant.entitlement]
        rfl
      refine ⟨fun he => ?_, fun outcome _ _ => ⟨2, hid ▸ hgrant.hasFullAccess⟩, fun e' he' => ?_⟩
      · simp [AccessAnswer.ofNext] at he
      · obtain rfl : e = e' := by simpa [AccessAnswer.ofNext] using he'
        refine ⟨⟨user, huser, hlisted, hread⟩, user, now, hphase, fun e' he' hsame hlimit => ?_⟩
        have hspent := hinv.checked i a user now ha hphase e' he' (hsame.trans (huser.trans hid))
        rcases hspent with hrevoked | hexpired | ⟨card', hcard', hsource, -, hlt⟩
        · exact .inl hrevoked
        · exact .inr hexpired
        · -- the card key is for a number that was configured
          obtain ⟨kept, hkept, hkeptid, -, config, hconfig, hmax⟩ := (hinv.kept e' he').card
          obtain rfl := s.cloud.db.keys.card_key_id card' hcard' kept hkept
            (hsource.trans hkeptid.symm)
          rw [hmax] at hlt
          exact absurd (hlimit config hconfig) (UInt8.not_le.mpr hlt)

end Steps

/-! A user of SkyBridge is on the list by the name, and asks for `/me`. -/

/-- A database with a user on the allow-list. -/
def listedDb : Db :=
  { Db.empty with
    tenants := [⟨.ofNat 1⟩]
    users := ⟨[{ shopUser with
      nebulaSource := .skybridge
      skybridgeUserId := some (.ofNat 2) }], by decide⟩ }

/-- A configuration with that allow-list. -/
def listedConfig : AppConfig := { shopConfig with testFullAccessIdentities := ["nebula-2"] }

/-- The request as far as the check, which finds nothing. -/
def listedLabels : List AccessLabel :=
  [.ensure listedConfig .me ⟨.ofNat 2⟩, .advance 0 (minuteDraw 1) true,
    .advance 0 (minuteDraw 1) true, .advance 0 (minuteDraw 1) true]

/-- The next statement grants test access, and the user has it. -/
theorem test_access_listed :
    ∃ s, (accessMachine tableCrates).Reachable s ∧ ∃ e, ((accessMachine tableCrates).step s
        (.advance 0 (minuteDraw 1) true)).1 = .ensured (.granted e) ∧
      ∃ k, (((accessMachine tableCrates).step s (.advance 0 (minuteDraw 1) true)).2.cloud.db
        ).HasFullAccess ⟨.ofNat 2⟩ 1 ((minuteDraw 1).clock k) := by
  have hinit : (accessMachine tableCrates).init ⟨.start listedDb, []⟩ :=
    ⟨⟨rfl, by decide, by decide, rfl, rfl⟩, rfl⟩
  have hrun := Machine.run_exec (show (accessMachine tableCrates).Allows ⟨.start listedDb, []⟩
    listedLabels by decide)
  have hgranted := (@test_access _ _ _ _ hinit hrun 0 (minuteDraw 1) _ rfl).2.1
  exact ⟨_, ⟨_, _, hinit, hrun⟩, _, rfl, hgranted _ rfl (by decide)⟩

end OzonSuite
