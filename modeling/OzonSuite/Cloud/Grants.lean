/-
# What entitlements grant

Every entitlement of the service is made by `newEntitlement`, and so grants every feature.  The
proof goes through every request once, statement by statement.
-/
import OzonSuite.Cloud.Steps

namespace OzonSuite

open Lib

/-- Every entitlement grants every feature. -/
def Db.GrantsAll (db : Db) : Prop := ∀ e ∈ db.entitlements.rows, e.features = defaultFeatures

section Statements

variable {ρ : Type} {S : Schema ρ} {table : Db → Table S} {store : Db → Table S → Db}

/-- A row of another table is stored. -/
lemma keeps_insertRow {references : Db → Bool} {onError : String → ApiError} {row : ρ}
    (h : ∀ db t, (store db t).entitlements = db.entitlements) :
    Tx.Keeps Db.GrantsAll (insertRow table store references onError row) := by
  intro db u db' hrow hall
  obtain ⟨t, -, -, rfl⟩ := insertRow_eq_ok.mp hrow
  rwa [Db.GrantsAll, h]

/-- Rows of another table are updated. -/
lemma keeps_updateRows {p : ρ → Bool} {f : ρ → ρ}
    (h : ∀ db t, (store db t).entitlements = db.entitlements) :
    Tx.Keeps Db.GrantsAll (updateRows table store p f) := by
  intro db rows db' hrows hall
  obtain ⟨t, -, -, rfl⟩ := updateRows_eq_ok.mp hrows
  rwa [Db.GrantsAll, h]

lemma keeps_fetchOptional {p : ρ → Bool} : Tx.Keeps Db.GrantsAll (fetchOptional table p) :=
  Tx.Keeps.of_eq fun _ _ _ h => (fetchOptional_eq_ok.mp h).2

end Statements

lemma keeps_insertAudit {event : AuditEvent} : Tx.Keeps Db.GrantsAll (insertAudit event) :=
  keeps_insertRow fun _ _ => rfl

lemma keeps_insertOrder {order : Order} : Tx.Keeps Db.GrantsAll (insertOrder order) :=
  keeps_insertRow fun _ _ => rfl

lemma keeps_insertCardKey {onError : String → ApiError} {card : CardKey}
    {orderId : Option OrderId} : Tx.Keeps Db.GrantsAll (insertCardKey onError card orderId) :=
  keeps_insertRow fun _ _ => rfl

lemma keeps_markCardKeyRedeemed {id : CardKeyId} {userId : UserId} {redeemedAt : Time} :
    Tx.Keeps Db.GrantsAll (markCardKeyRedeemed id userId redeemedAt) := by
  refine .bind (keeps_updateRows fun _ _ => rfl) fun rows => .bind .get fun db => ?_
  exact .ite (.bind (.throw _) fun _ => .ite (.throw _) (.pure _)) (.ite (.throw _) (.pure _))

lemma keeps_insertPaymentEvent {provider : PaymentProvider} {eventId eventType hash : String}
    {orderId : Option OrderId} {now : Time} :
    Tx.Keeps Db.GrantsAll (insertPaymentEvent provider eventId eventType orderId hash now) := by
  refine .bind .get fun db => .ite (.pure _) ?_
  exact .bind (keeps_insertRow fun _ _ => rfl) fun _ => .pure _

lemma keeps_insertEntitlement {onError : String → ApiError} {id : Uuid} {tenantId : TenantId}
    {userId : UserId} {plan : PlanCode} {card : CardKeyId} {redeemedAt : Time} {days : UInt16} :
    Tx.Keeps Db.GrantsAll (insertEntitlement onError
      (newEntitlement id tenantId userId plan card redeemedAt days)) := by
  intro db u db' h hall e he
  obtain ⟨t, rfl, ht⟩ := insertEntitlement_ok h
  rw [show ({ db with entitlements := t } : Db).entitlements = t from rfl, ht] at he
  rcases List.mem_append.mp he with he | he
  · exact hall e he
  · rw [List.mem_singleton.mp he]
    rfl

lemma keeps_revokeEntitlementById {id : EntitlementId} {now : Time} :
    Tx.Keeps Db.GrantsAll (revokeEntitlementById id now) := by
  refine .bind ?_ fun rows => .pure _
  intro db rows db' h hall e he
  obtain ⟨t, ht, -, rfl⟩ := updateRows_eq_ok.mp h
  rw [show ({ db with entitlements := t } : Db).entitlements = t from rfl,
    Table.rows_of_update ht] at he
  obtain ⟨e₀, he₀, rfl⟩ := List.mem_map.mp he
  have hfeatures : ∀ b : Bool, (if b = true then revokeAt now e₀ else e₀).features = e₀.features :=
    fun b => by cases b <;> rfl
  rw [hfeatures]
  exact hall e₀ he₀

lemma keeps_lockUserForUpdate {userId : UserId} :
    Tx.Keeps Db.GrantsAll (lockUserForUpdate userId) :=
  .bind keeps_fetchOptional fun _ => .ite (.throw _) (.pure _)

lemma keeps_validateCardKeyLimits {days : UInt16} {devices : UInt8} :
    Tx.Keeps Db.GrantsAll (validateCardKeyLimits days devices) :=
  .ite (.bind (.throw _) fun _ => .ite (.throw _) (.pure _)) (.ite (.throw _) (.pure _))

/-! ## Orders and payments -/

section Orders

variable {x : Crates} {draw : Draw}

lemma keeps_generateCardKey {i : ℕ} {plan : PlanCode} {tenantId : TenantId} {days : UInt16}
    {devices : UInt8} :
    Tx.Keeps Db.GrantsAll (generateCardKey x draw i plan tenantId days devices) := by
  rw [generateCardKey]
  cases x.hashPassword _ _ with
  | none => exact .throw _
  | some codeHash => exact .pure _

lemma keeps_confirmPendingOrderWhere {p : Order → Bool} {now : Time} :
    Tx.Keeps Db.GrantsAll (confirmPendingOrderWhere p now) := by
  refine .bind (keeps_updateRows fun _ _ => rfl) fun rows => ?_
  cases rows.head? with
  | some order => exact .pure _
  | none =>
    exact .bind keeps_fetchOptional fun _ => .ite (.bind (.throw _) fun _ => .throw _) (.throw _)

lemma keeps_attachCheckoutSession {orderId : OrderId} {session : String} :
    Tx.Keeps Db.GrantsAll (attachCheckoutSession orderId session) := by
  refine .bind (keeps_updateRows fun _ _ => rfl) fun rows => ?_
  cases rows.head? with
  | some order => exact .pure _
  | none => exact .throw _

lemma keeps_confirmProviderOrder {orderId : OrderId} {intent : Option String} {paidAt : Time} :
    Tx.Keeps Db.GrantsAll (confirmProviderOrder orderId intent paidAt) := by
  refine .bind (keeps_updateRows fun _ _ => rfl) fun rows => ?_
  cases rows.head? with
  | some order => exact .pure _
  | none => exact .throw _

lemma keeps_provisionPaidOrderEntitlement {order : Order} {actor summary : String} :
    Tx.Keeps Db.GrantsAll (provisionPaidOrderEntitlement x order actor summary draw) := by
  refine .bind (.ite (.pure _) (.throw _)) fun terms => ?_
  refine .bind keeps_validateCardKeyLimits fun _ => .bind keeps_generateCardKey fun generated => ?_
  refine .bind keeps_insertCardKey fun _ => .bind keeps_markCardKeyRedeemed fun _ => ?_
  exact .bind keeps_insertEntitlement fun _ => .bind keeps_insertAudit fun _ => .pure _

lemma keeps_fulfillStripeTx {event : StripeWebhookEvent} {session : StripeCheckoutSessionObject}
    {orderId : OrderId} {hash : String} :
    Tx.Keeps Db.GrantsAll (fulfillStripeTx x event session orderId hash draw) := by
  refine .bind keeps_insertPaymentEvent fun inserted => .ite (.pure _) ?_
  refine .bind keeps_fetchOptional fun order => ?_
  cases order with
  | none => exact .throw _
  | some order =>
    have hvalid : Tx.Keeps Db.GrantsAll (validateStripeSessionMatchesOrder session order) :=
      .of_eq fun _ _ _ h => (validateStripeSessionMatchesOrder_ok (x := x) h).1
    refine .bind hvalid fun _ => .ite (.pure _) (.ite (.bind (.throw _) fun _ => ?_) ?_)
    all_goals
      refine .bind keeps_confirmProviderOrder fun paid => ?_
      exact .bind keeps_provisionPaidOrderEntitlement fun _ => .pure _

lemma keeps_processWechatpayTx {config : AppConfig} {event : WechatPayWebhookEvent}
    {transaction : WechatPayTransaction} {hash : String} :
    Tx.Keeps Db.GrantsAll (processWechatpayTx x config event transaction hash draw) := by
  refine .bind keeps_fetchOptional fun order => ?_
  cases order with
  | none => exact .throw _
  | some order =>
    have hvalid : Tx.Keeps Db.GrantsAll
        (validateWechatpayTransactionForOrder config order transaction) :=
      .of_eq fun _ _ _ h => (validateWechatpayTransactionForOrder_ok h).1
    refine .bind hvalid fun _ => .bind keeps_insertPaymentEvent fun inserted => ?_
    refine .ite (.pure _) (.ite (.bind (.throw _) fun _ => ?_) ?_)
    all_goals
      refine .bind keeps_confirmProviderOrder fun paid => ?_
      exact .bind keeps_provisionPaidOrderEntitlement fun _ => .pure _

lemma keeps_confirmOrderCardKey {order : Order} :
    Tx.Keeps Db.GrantsAll (confirmOrderCardKey x order draw) := by
  refine .bind keeps_validateCardKeyLimits fun _ => .bind keeps_generateCardKey fun generated => ?_
  exact .bind keeps_insertCardKey fun _ => .bind keeps_insertAudit fun _ => .pure _

variable {db : Db}

lemma grantsAll_createOrder {config : AppConfig} {claims : AuthClaims} {plan : Option String}
    (h : db.GrantsAll) : (createOrder config claims plan draw db).2.GrantsAll := by
  simp only [createOrder]
  generalize (do
    let plan ← planDefinition config plan
    let provider ← orderPaymentProvider config.paymentProvider
    newOrder claims plan draw provider : Except ApiError Order) = made
  cases made with
  | error e => exact h
  | ok order =>
    refine Tx.Keeps.atomically ?_ h
    exact .bind keeps_insertOrder fun _ => .bind keeps_insertAudit fun _ => .pure _

lemma grantsAll_recordIgnoredEvent {provider : PaymentProvider} {eventId kind hash : String}
    (h : db.GrantsAll) : (recordIgnoredEvent provider eventId kind hash draw db).2.GrantsAll :=
  Tx.Keeps.atomically (.bind keeps_insertPaymentEvent fun _ => .pure _) h

lemma grantsAll_stripeWebhook {event : StripeWebhookEvent} {hash : String} (h : db.GrantsAll) :
    (stripeWebhook x event hash draw db).2.GrantsAll := by
  rw [stripeWebhook]
  split
  · cases event.object with
    | none => exact h
    | some session =>
      simp only [fulfillStripeCheckoutSession]
      split
      · exact grantsAll_recordIgnoredEvent h
      · cases stripeSessionOrderId x session with
        | error e => exact h
        | ok orderId => exact Tx.Keeps.atomically keeps_fulfillStripeTx h
  · exact grantsAll_recordIgnoredEvent h

lemma grantsAll_processWechatpayTransaction {config : AppConfig} {event : WechatPayWebhookEvent}
    {transaction : WechatPayTransaction} {hash : String} (h : db.GrantsAll) :
    (processWechatpayTransaction x config event transaction hash draw db).2.GrantsAll := by
  rw [processWechatpayTransaction]
  split
  · exact grantsAll_recordIgnoredEvent h
  · exact Tx.Keeps.atomically keeps_processWechatpayTx h

end Orders

/-! ## Card keys and test access -/

section CardKeys

variable {x : Crates} {draw : Draw} {db : Db}

lemma keeps_insertCardKeys {plan : PlanCode} {tenantId : TenantId} {days : UInt16}
    {devices : UInt8} {n i : ℕ} :
    Tx.Keeps Db.GrantsAll (insertCardKeys x draw plan tenantId days devices n i) := by
  induction n generalizing i with
  | zero => exact .pure _
  | succ n ih =>
    refine .bind keeps_generateCardKey fun generated => .bind keeps_insertCardKey fun _ => ?_
    exact .bind ih fun _ => .pure _

lemma keeps_insertTenant {id : TenantId} : Tx.Keeps Db.GrantsAll (insertTenant id) := by
  intro db u db' h hall
  obtain ⟨-, rfl⟩ := Prod.mk.inj (Except.ok.inj h)
  split
  · exact hall
  · exact hall

lemma grantsAll_createCardKeys {input : CreateCardKeysRequest} (h : db.GrantsAll) :
    (createCardKeys x input draw db).2.GrantsAll := by
  refine Tx.Keeps.atomically (.bind keeps_validateCardKeyLimits fun _ => ?_) h
  refine .bind keeps_insertTenant fun _ => .bind keeps_insertCardKeys fun _ => ?_
  exact .bind keeps_insertAudit fun _ => .pure _

lemma keeps_redeemCardKeyTx {claims : AuthClaims} {code : String} :
    Tx.Keeps Db.GrantsAll (redeemCardKeyTx x claims code draw) := by
  refine .bind keeps_fetchOptional fun card => ?_
  cases card with
  | none => exact .throw _
  | some card =>
    have hredeem : Tx.Keeps Db.GrantsAll (do
        let redeemedAt := draw.clock 0
        let entitlement := newEntitlement (draw.uuid 0) claims.tenantId claims.sub card.planCode
          card.id redeemedAt card.durationDays
        markCardKeyRedeemed card.id claims.sub redeemedAt
        insertEntitlement (mapUniqueConflict "uq_entitlements_source_card_key"
          "card key is already redeemed") entitlement
        insertAudit (audit draw 1 (some claims.tenantId) (debugId "UserId" claims.sub.uuid)
          "card_key.redeemed" (debugId "CardKeyId" card.id.uuid) "card key redeemed")
        return entitlement) := by
      refine .bind keeps_markCardKeyRedeemed fun _ => .bind keeps_insertEntitlement fun _ => ?_
      exact .bind keeps_insertAudit fun _ => .pure _
    exact .ite (.bind (.throw _) fun _ => .ite (.bind (.throw _) fun _ => hredeem) hredeem)
      (.ite (.bind (.throw _) fun _ => hredeem) hredeem)

lemma grantsAll_revokeEntitlement {id : EntitlementId} (h : db.GrantsAll) :
    (revokeEntitlement id draw db).2.GrantsAll := by
  refine Tx.Keeps.atomically (.bind keeps_revokeEntitlementById fun revoked => ?_) h
  cases revoked with
  | none => exact .throw _
  | some e => exact .bind keeps_insertAudit fun _ => .pure _

lemma keeps_grantTestFullAccess {config : AppConfig} {user : User} :
    Tx.Keeps Db.GrantsAll (grantTestFullAccess x config user draw) := by
  refine .bind keeps_lockUserForUpdate fun _ => .bind (.bind .get fun _ => .pure _) fun has => ?_
  refine .ite (.pure _) (.bind keeps_generateCardKey fun generated => ?_)
  refine .bind keeps_insertCardKey fun _ => .bind keeps_markCardKeyRedeemed fun _ => ?_
  exact .bind keeps_insertEntitlement fun _ => keeps_insertAudit

lemma grantsAll_ensureTestFullAccessEntitlement {config : AppConfig} {user : User}
    (h : db.GrantsAll) : (ensureTestFullAccessEntitlement x config user draw db).2.GrantsAll := by
  rw [ensureTestFullAccessEntitlement]
  split
  · exact Tx.Keeps.atomically keeps_grantTestFullAccess h
  · exact h

lemma grantsAll_ensureTestFullAccessForUserId {config : AppConfig} {userId : UserId}
    (h : db.GrantsAll) : (ensureTestFullAccessForUserId x config userId draw db).2.GrantsAll := by
  rw [ensureTestFullAccessForUserId]
  split
  · exact h
  · cases db.users.rows.find? (·.id == userId) with
    | none => exact h
    | some user => exact grantsAll_ensureTestFullAccessEntitlement h

lemma grantsAll_me {config : AppConfig} {userId : UserId} (h : db.GrantsAll) :
    (me x config userId draw db).2.GrantsAll := by
  rw [me]
  cases db.users.rows.find? (·.id == userId) with
  | none => exact h
  | some user => exact grantsAll_ensureTestFullAccessEntitlement h

end CardKeys

/-! ## The service -/

section Runs

variable {x : Crates} {s s₀ : Cloud} {l : CloudLabel} {tr : List (CloudLabel × CloudAnswer)}

lemma grantsAll_of_ledger {db db' : Db} (hledger : db'.ledger = db.ledger) (h : db.GrantsAll) :
    db'.GrantsAll := by
  have hentitlements : db'.entitlements.rows = db.entitlements.rows :=
    congrArg Ledger.entitlements hledger
  rwa [Db.GrantsAll, hentitlements]

lemma grantsAll_stepCreateOrder {claims : AuthClaims} {plan : Option String}
    (h : s.db.GrantsAll) : (s.stepCreateOrder l.config claims plan l.draw).2.db.GrantsAll := by
  have hdb : (createOrder l.config claims plan l.draw s.db).2.GrantsAll := grantsAll_createOrder h
  rw [Cloud.stepCreateOrder]
  generalize createOrder l.config claims plan l.draw s.db = r at hdb
  obtain ⟨answer, db⟩ := r
  cases answer with
  | error e => exact hdb
  | ok order => exact hdb

lemma grantsAll_stepCheckoutSession {i : ℕ} {session : Option String} (h : s.db.GrantsAll) :
    (s.stepCheckoutSession i session).2.db.GrantsAll := by
  rw [Cloud.stepCheckoutSession]
  cases slot s.checkouts i with
  | none => exact h
  | some orderId =>
    cases session with
    | none => exact h
    | some session => exact Tx.Keeps.atomically keeps_attachCheckoutSession h

lemma grantsAll_stepActivateDevice {claims : AuthClaims} {input : ActivateDeviceRequest}
    (h : s.db.GrantsAll) :
    (s.stepActivateDevice x l.config claims input l.draw).2.db.GrantsAll := by
  have hdb : (ensureTestFullAccessForUserId x l.config claims.sub l.draw s.db).2.GrantsAll :=
    grantsAll_ensureTestFullAccessForUserId h
  rw [Cloud.stepActivateDevice, activateDevice]
  generalize ensureTestFullAccessForUserId x l.config claims.sub l.draw s.db = r at hdb
  obtain ⟨answer, db⟩ := r
  cases answer with
  | error e => exact hdb
  | ok _ =>
    by_cases hname : trim input.name = ""
    · simp only [hname, if_true]
      exact hdb
    by_cases hfp : trim input.fingerprint = ""
    · simp only [hname, if_false, hfp, if_true]
      exact hdb
    · simp only [hname, if_false, hfp]
      exact hdb

lemma grantsAll_stepIssueLease {claims : AuthClaims} {deviceId : DeviceId} (h : s.db.GrantsAll) :
    (s.stepIssueLease x l.config claims deviceId l.draw).2.db.GrantsAll := by
  have hdb : (ensureTestFullAccessForUserId x l.config claims.sub l.draw s.db).2.GrantsAll :=
    grantsAll_ensureTestFullAccessForUserId h
  rw [Cloud.stepIssueLease, issueLease]
  generalize ensureTestFullAccessForUserId x l.config claims.sub l.draw s.db = r at hdb
  obtain ⟨answer, db⟩ := r
  cases answer with
  | error e => exact hdb
  | ok _ => exact hdb

/-- The next statement of an activation or of a lease in the making. -/
lemma grantsAll_continuation (hrequest : l.request.isContinuation = true) (h : s.db.GrantsAll) :
    (s.step x l).2.db.GrantsAll := by
  have heffect := Cloud.step_effect x s l
  generalize (s.step x l).1 = answer at heffect
  generalize (s.step x l).2 = s' at heffect ⊢
  cases heffect with
  | transaction hno => simp [hrequest] at hno
  | delivery hevent => cases hr : l.request <;> simp [hr, CloudRequest.event,
      CloudRequest.isContinuation] at hevent hrequest
  | activate hno => simp [hrequest] at hno
  | issue hno => simp [hrequest] at hno
  | idle => exact h
  | refuseActivation => exact h
  | refuseIssuance => exact h
  | activation _ _ hnext =>
    cases hnext with
    | store _ hstored => exact grantsAll_of_ledger hstored.ledger h
    | _ => exact h
  | issuance _ _ hnext =>
    cases hnext with
    | touch _ hledger => exact grantsAll_of_ledger hledger h
    | _ => exact h

lemma grantsAll_step (h : s.db.GrantsAll) : (s.step x l).2.db.GrantsAll := by
  by_cases hcontinues : l.request.isContinuation = true
  -- the statements of activations and leases do not touch entitlements
  · exact grantsAll_continuation hcontinues h
  cases hconn : l.connected with
  | false =>
    simp only [Cloud.step, hconn, Bool.not_false, if_true]
    cases l.request <;> exact h
  | true =>
    simp only [Cloud.step, hconn, Bool.not_true, Bool.false_eq_true, if_false]
    cases hr : l.request with
    | activation i => exact absurd (by rw [hr]; rfl) hcontinues
    | issuance i => exact absurd (by rw [hr]; rfl) hcontinues
    | register user =>
      -- accounts are in tables of their own
      refine Tx.Keeps.atomically (.bind keeps_insertTenant fun _ => ?_) h
      exact .bind (keeps_insertRow fun _ _ => rfl) fun _ => keeps_insertAudit
    | syncSkybridge userId profile =>
      refine Tx.Keeps.atomically ?_ h
      exact .bind (keeps_updateRows fun _ _ => rfl) fun _ => .pure _
    | me userId =>
      exact grantsAll_me h
    | createOrder claims plan =>
      exact grantsAll_stepCreateOrder h
    | checkoutSession i session =>
      exact grantsAll_stepCheckoutSession h
    | stripeWebhook event hash =>
      exact grantsAll_stripeWebhook h
    | wechatpayWebhook event transaction hash =>
      exact grantsAll_processWechatpayTransaction h
    | confirmOrder id =>
      exact Tx.Keeps.atomically
        (.bind keeps_confirmPendingOrderWhere fun _ => keeps_confirmOrderCardKey) h
    | confirmOrderByReference ref =>
      exact Tx.Keeps.atomically
        (.bind keeps_confirmPendingOrderWhere fun _ => keeps_confirmOrderCardKey) h
    | createCardKeys input =>
      exact grantsAll_createCardKeys h
    | redeemCardKey claims code =>
      exact Tx.Keeps.atomically keeps_redeemCardKeyTx h
    | revokeEntitlement id =>
      exact grantsAll_revokeEntitlement h
    | activateDevice claims input =>
      exact grantsAll_stepActivateDevice h
    | issueLease claims deviceId =>
      exact grantsAll_stepIssueLease h

/-- **In every run every entitlement grants every feature.** -/
theorem grantsAll_of_run (h₀ : (cloudMachine x).init s₀) (h : (cloudMachine x).Run s₀ tr s) :
    s.db.GrantsAll := by
  refine Machine.Run.invariant (I := fun s => s.db.GrantsAll) (fun m l ih _ => ?_) h ?_
  · exact grantsAll_step ih
  · intro e he
    rw [h₀.2.entitlements] at he
    cases he

end Runs

end OzonSuite
