/-
# One step of the service

What a step may do to the database and to the requests under way, whatever request it is for: a
transaction, or the next statement of an activation or of a lease in the making.
-/
import OzonSuite.Cloud.Devices

namespace OzonSuite

open Lib

/-- The answer of a statement, after which the request goes on or has come to its end. -/
def CloudAnswer.ofNext {α β : Type} (done : β → CloudAnswer) : α ⊕ β → CloudAnswer
  | .inl _ => .accepted
  | .inr b => done b

/-- The answer is not one of those that an activation, a lease or a delivery ends with. -/
def CloudAnswer.isPlain : CloudAnswer → Bool
  | .device _ | .lease _ | .acknowledged _ => false
  | _ => true

lemma CloudAnswer.of_isPlain {α : Type} {done : α → CloudAnswer} (r : Except ApiError α)
    (hdone : ∀ a, (done a).isPlain = true) : (CloudAnswer.of done r).isPlain = true := by
  cases r with
  | ok a => exact hdone a
  | error e => rfl

/-- The request belongs to an activation or a lease that is under way. -/
def CloudRequest.isContinuation : CloudRequest → Bool
  | .activation _ | .issuance _ => true
  | _ => false

/-! ## Deliveries of payments -/

/-- The event that a webhook delivers. -/
def CloudRequest.event : CloudRequest → Option (PaymentProvider × String)
  | .stripeWebhook event _ => some (.stripe, event.id)
  | .wechatpayWebhook event _ _ => some (.wechatPay, event.id)
  | _ => none

/-- The request delivers an event that announces a payment. -/
def CloudRequest.Paid : CloudRequest → Prop
  | .stripeWebhook event _ => ∃ session, event.Paid session
  | .wechatpayWebhook event transaction _ => transaction.Paid event
  | _ => False

/-- The request delivers a payment for the order. -/
def CloudLabel.Pays (x : Crates) (l : CloudLabel) (o : Order) : Prop :=
  match l.request with
  | .stripeWebhook event _ => ∃ session, event.object = some session ∧ StripePays x session o
  | .wechatpayWebhook _ transaction _ => WechatPays l.config transaction o
  | _ => False

namespace Cloud

variable {x : Crates} {s : Cloud} {l : CloudLabel}

/-- What a step does. -/
inductive Effect (x : Crates) (s : Cloud) (l : CloudLabel) : CloudAnswer → Cloud → Prop
  /-- A transaction, or nothing. -/
  | transaction (hrequest : l.request.isContinuation = false) {answer : CloudAnswer} {db : Db}
      {checkouts : List (Option OrderId)} (hstep : s.db.Step db)
      (hplain : answer.isPlain = true) :
      Effect x s l answer { s with db := db, checkouts := checkouts }
  /-- A delivery that is acknowledged. -/
  | delivery {provider : PaymentProvider} {eventId : String}
      (hrequest : l.request.event = some (provider, eventId)) {processed : Bool} {db : Db}
      (houtcome : PaymentOutcome provider eventId l.request.Paid (l.Pays x) s.db.ledger processed
        db.ledger) (hdevices : db.devices = s.db.devices) :
      Effect x s l (.acknowledged processed) { s with db := db }
  | activate (hrequest : l.request.isContinuation = false) {db : Db} (hstep : s.db.Step db)
      {a : Activation} (hphase : a.phase = .waiting) :
      Effect x s l .accepted { s with db := db, activations := s.activations ++ [some a] }
  | issue (hrequest : l.request.isContinuation = false) {db : Db} (hstep : s.db.Step db)
      {i : Issuance} (hphase : i.phase = .started) :
      Effect x s l .accepted { s with db := db, issuances := s.issuances ++ [some i] }
  /-- There is no such request any more. -/
  | idle (hrequest : l.request.isContinuation = true) : Effect x s l .accepted s
  | refuseActivation {i : ℕ} (hrequest : l.request = .activation i) {e : ApiError}
      (hlimit : ∀ a n maxDevices, slot s.activations i = some a →
        e = deviceLimitReached n maxDevices →
        ∃ limit existing, a.phase = .lookedUp limit existing ∧ isActive existing = false) :
      Effect x s l (.refused e) { s with activations := s.activations.set i none }
  | activation {i : ℕ} (hrequest : l.request = .activation i) {a : Activation}
      (hslot : slot s.activations i = some a) {r : Activation ⊕ Device} {db : Db}
      (hnext : Activation.Next x a l.draw s.db r db) :
      Effect x s l (.ofNext .device r)
        { s with db := db, activations := s.activations.set i r.getLeft? }
  | refuseIssuance {i : ℕ} (hrequest : l.request = .issuance i) {e : ApiError} :
      Effect x s l (.refused e) { s with issuances := s.issuances.set i none }
  | issuance {i : ℕ} (hrequest : l.request = .issuance i) {a : Issuance}
      (hslot : slot s.issuances i = some a) {r : Issuance ⊕ EntitlementLease} {db : Db}
      (hnext : Issuance.Next (signEntitlementLease x l.config l.draw) a l.draw s.db r db) :
      Effect x s l (.ofNext .lease r)
        { s with db := db, issuances := s.issuances.set i r.getLeft? }

lemma commit_effect (hrequest : l.request.isContinuation = false) {α : Type}
    {done : α → CloudAnswer} {r : Except ApiError α × Db} (hstep : s.db.Step r.2)
    (hdone : ∀ a, (done a).isPlain = true) :
    Effect x s l (s.commit done r).1 (s.commit done r).2 :=
  .transaction hrequest hstep (CloudAnswer.of_isPlain r.1 hdone)

lemma abort_effect : Effect x s l (.refused dbInternal) (s.abort l.request) := by
  have hidle : ∀ checkouts, l.request.isContinuation = false →
      Effect x s l (.refused dbInternal) { s with checkouts := checkouts } := fun checkouts h =>
    .transaction h (.refl s.db) rfl
  cases hr : l.request with
  | activation i =>
    refine .refuseActivation hr fun a n maxDevices _ he => ?_
    cases congrArg ApiError.status he
  | issuance i => exact .refuseIssuance hr
  | checkoutSession i session => exact hidle _ (by rw [hr]; rfl)
  | _ => exact hidle s.checkouts (by rw [hr]; rfl)

lemma stepCreateOrder_effect {claims : AuthClaims} {planCode : Option String}
    (hrequest : l.request = .createOrder claims planCode) :
    Effect x s l (s.stepCreateOrder l.config claims planCode l.draw).1
      (s.stepCreateOrder l.config claims planCode l.draw).2 := by
  have hcont : l.request.isContinuation = false := by
    rw [hrequest]
    rfl
  have hstep : s.db.Step (createOrder l.config claims planCode l.draw s.db).2 :=
    createOrder_step l.config claims planCode
  rw [stepCreateOrder]
  generalize createOrder l.config claims planCode l.draw s.db = r at hstep
  obtain ⟨answer, db⟩ := r
  cases answer with
  | error e => exact .transaction hcont hstep rfl
  | ok order => exact .transaction hcont hstep rfl

lemma stepCheckoutSession_effect {i : ℕ} {session : Option String}
    (hrequest : l.request = .checkoutSession i session) :
    Effect x s l (s.stepCheckoutSession i session).1 (s.stepCheckoutSession i session).2 := by
  have hcont : l.request.isContinuation = false := by
    rw [hrequest]
    rfl
  rw [stepCheckoutSession]
  cases slot s.checkouts i with
  | none =>
    exact .transaction hcont (.refl s.db) rfl
  | some orderId =>
    cases session with
    | none => exact .transaction hcont (.refl s.db) rfl
    | some session =>
      exact .transaction hcont (attachCheckoutSession_step orderId session)
        (CloudAnswer.of_isPlain _ fun _ => rfl)

lemma stepActivateDevice_effect {claims : AuthClaims} {input : ActivateDeviceRequest}
    (hrequest : l.request = .activateDevice claims input) :
    Effect x s l (s.stepActivateDevice x l.config claims input l.draw).1
      (s.stepActivateDevice x l.config claims input l.draw).2 := by
  have hcont : l.request.isContinuation = false := by
    rw [hrequest]
    rfl
  have hstep : s.db.Step (ensureTestFullAccessForUserId x l.config claims.sub l.draw s.db).2 :=
    ensureTestFullAccessForUserId_step l.config claims.sub
  rw [stepActivateDevice, activateDevice]
  generalize ensureTestFullAccessForUserId x l.config claims.sub l.draw s.db = r at hstep
  obtain ⟨answer, db⟩ := r
  cases answer with
  | error e => exact .transaction hcont hstep rfl
  | ok _ =>
    by_cases hname : trim input.name = ""
    · simp only [hname, if_true]
      exact .transaction hcont hstep rfl
    by_cases hfp : trim input.fingerprint = ""
    · simp only [hname, if_false, hfp, if_true]
      exact .transaction hcont hstep rfl
    · simp only [hname, if_false, hfp]
      exact .activate hcont hstep rfl

lemma stepIssueLease_effect {claims : AuthClaims} {deviceId : DeviceId}
    (hrequest : l.request = .issueLease claims deviceId) :
    Effect x s l (s.stepIssueLease x l.config claims deviceId l.draw).1
      (s.stepIssueLease x l.config claims deviceId l.draw).2 := by
  have hcont : l.request.isContinuation = false := by
    rw [hrequest]
    rfl
  have hstep : s.db.Step (ensureTestFullAccessForUserId x l.config claims.sub l.draw s.db).2 :=
    ensureTestFullAccessForUserId_step l.config claims.sub
  rw [stepIssueLease, issueLease]
  generalize ensureTestFullAccessForUserId x l.config claims.sub l.draw s.db = r at hstep
  obtain ⟨answer, db⟩ := r
  cases answer with
  | error e => exact .transaction hcont hstep rfl
  | ok _ => exact .issue hcont hstep rfl

lemma stepActivation_effect {i : ℕ} (hrequest : l.request = .activation i) :
    Effect x s l (s.stepActivation x i l.draw).1 (s.stepActivation x i l.draw).2 := by
  rw [stepActivation]
  cases hslot : slot s.activations i with
  | none => exact .idle (by rw [hrequest]; rfl)
  | some a =>
    cases hr : a.next x l.draw s.db with
    | error e =>
      simp only [atomically, hr]
      refine .refuseActivation hrequest fun a' n maxDevices ha' he => ?_
      obtain rfl : a = a' := Option.some.inj (hslot.symm.trans ha')
      exact Activation.next_limit (he ▸ hr)
    | ok p =>
      obtain ⟨r, db⟩ := p
      have heffect := Effect.activation hrequest hslot (Activation.next_ok hr)
      cases r with
      | inl a' =>
        simp only [atomically, hr]
        exact heffect
      | inr device =>
        simp only [atomically, hr]
        exact heffect

lemma stepIssuance_effect {i : ℕ} (hrequest : l.request = .issuance i) :
    Effect x s l (s.stepIssuance x l.config i l.draw).1 (s.stepIssuance x l.config i l.draw).2 := by
  rw [stepIssuance]
  cases hslot : slot s.issuances i with
  | none => exact .idle (by rw [hrequest]; rfl)
  | some a =>
    cases hr : a.next (signEntitlementLease x l.config l.draw) l.draw s.db with
    | error e =>
      simp only [atomically, hr]
      exact .refuseIssuance hrequest
    | ok p =>
      obtain ⟨r, db⟩ := p
      have heffect := Effect.issuance hrequest hslot (Issuance.next_ok hr)
      cases r with
      | inl a' =>
        simp only [atomically, hr]
        exact heffect
      | inr lease =>
        simp only [atomically, hr]
        exact heffect

lemma stripeWebhook_effect {event : StripeWebhookEvent} {hash : String}
    (hrequest : l.request = .stripeWebhook event hash) :
    Effect x s l (s.commit .acknowledged (stripeWebhook x event hash l.draw s.db)).1
      (s.commit .acknowledged (stripeWebhook x event hash l.draw s.db)).2 := by
  cases hr : (stripeWebhook x event hash l.draw s.db).1 with
  | error e =>
    simp only [commit, hr, CloudAnswer.of, stripeWebhook_error hr]
    exact .transaction (by rw [hrequest]; rfl) (.refl s.db) rfl
  | ok processed =>
    obtain ⟨houtcome, hdevices⟩ := stripeWebhook_ok hr
    simp only [commit, hr, CloudAnswer.of]
    refine .delivery (by rw [hrequest]; rfl) ?_ hdevices
    have hpays : l.Pays x =
        fun o => ∃ session, event.object = some session ∧ StripePays x session o := by
      funext o
      rw [CloudLabel.Pays, hrequest]
    rw [hpays, hrequest]
    exact houtcome

lemma wechatpayWebhook_effect {event : WechatPayWebhookEvent} {transaction : WechatPayTransaction}
    {hash : String} (hrequest : l.request = .wechatpayWebhook event transaction hash) :
    Effect x s l
      (s.commit .acknowledged
        (processWechatpayTransaction x l.config event transaction hash l.draw s.db)).1
      (s.commit .acknowledged
        (processWechatpayTransaction x l.config event transaction hash l.draw s.db)).2 := by
  cases hr : (processWechatpayTransaction x l.config event transaction hash l.draw s.db).1 with
  | error e =>
    simp only [commit, hr, CloudAnswer.of, processWechatpayTransaction_error hr]
    exact .transaction (by rw [hrequest]; rfl) (.refl s.db) rfl
  | ok processed =>
    obtain ⟨houtcome, hdevices⟩ := processWechatpayTransaction_ok hr
    simp only [commit, hr, CloudAnswer.of]
    refine .delivery (by rw [hrequest]; rfl) ?_
      hdevices
    have hpays : l.Pays x = WechatPays l.config transaction := by
      funext o
      rw [CloudLabel.Pays, hrequest]
    rw [hpays, hrequest]
    exact houtcome

/-- **One step of the service.** -/
theorem step_effect (x : Crates) (s : Cloud) (l : CloudLabel) :
    Effect x s l (s.step x l).1 (s.step x l).2 := by
  cases hconn : l.connected with
  | false =>
    simp only [step, hconn, Bool.not_false, if_true]
    -- a transaction whose connection is lost is rolled back
    exact abort_effect
  | true =>
    simp only [step, hconn, Bool.not_true, Bool.false_eq_true, if_false]
    have hcont : ∀ r, l.request = r → r.isContinuation = false →
        l.request.isContinuation = false := fun r h hr => h ▸ hr
    cases hr : l.request with
    | register user =>
      exact commit_effect (hcont _ hr rfl) (registerTx_step user) fun _ => rfl
    | syncSkybridge userId profile =>
      exact commit_effect (hcont _ hr rfl) (updateSkybridgeUser_step userId profile _) fun _ => rfl
    | me userId =>
      exact commit_effect (hcont _ hr rfl) (me_step l.config userId) fun _ => rfl
    | createOrder claims planCode => exact stepCreateOrder_effect hr
    | checkoutSession i session => exact stepCheckoutSession_effect hr
    | stripeWebhook event hash => exact stripeWebhook_effect hr
    | wechatpayWebhook event transaction hash => exact wechatpayWebhook_effect hr
    | confirmOrder id =>
      exact commit_effect (hcont _ hr rfl) (confirmOrder_step id) fun _ => rfl
    | confirmOrderByReference ref =>
      exact commit_effect (hcont _ hr rfl) (confirmOrderByReference_step ref) fun _ => rfl
    | createCardKeys input =>
      exact commit_effect (hcont _ hr rfl) (createCardKeys_step input) fun _ => rfl
    | redeemCardKey claims code =>
      exact commit_effect (hcont _ hr rfl) (redeemCardKey_step claims code) fun _ => rfl
    | revokeEntitlement id =>
      exact commit_effect (hcont _ hr rfl) (revokeEntitlement_step id) fun _ => rfl
    | activateDevice claims input => exact stepActivateDevice_effect hr
    | activation i => exact stepActivation_effect hr
    | issueLease claims deviceId => exact stepIssueLease_effect hr
    | issuance i => exact stepIssuance_effect hr

end Cloud

end OzonSuite
