/-
# From the cloud to the node: the completeness of leases

A user who activates a device and gets a lease for it can use the lease on that device: the node
saves it, and lets every request through for which the lease has the feature, as long as the lease
lasts.
-/
import OzonSuite.Cloud.DeviceIds
import OzonSuite.Cloud.Grants
import OzonSuite.Node.LeaseSafety
import OzonSuite.Node.Portal

namespace OzonSuite

open Lib

variable {x : NodeCrates} {s₀ s : Cloud} {tr : List (CloudLabel × CloudAnswer)}

/-- What is signed under the one key verifies under the other. -/
structure KeyPair (x : NodeCrates) (privatePem publicPem : String) : Prop where
  readable : x.rsaPublicKey publicPem = true
  verifies : ∀ payload randomness value, x.rsaSign privatePem payload randomness = some value →
    ∃ bytes, x.base64Decode value = some bytes ∧ x.rsaSignature bytes = true ∧
      x.rsaVerify publicPem payload bytes = true

/-- The node has the issuer and the audience of the cloud, and the public key that goes with the
key of the cloud. -/
structure Trusts (x : NodeCrates) (config : LocalConfig) (cloud : AppConfig) : Prop where
  issuer : config.leaseIssuer = cloud.leaseIssuer
  audience : config.leaseAudience = cloud.leaseAudience
  key : ∃ publicPem, config.leasePublicKeyPem = some publicPem ∧
    ∀ privatePem, cloud.leaseSigningPrivateKeyPem = some privatePem → KeyPair x privatePem publicPem

/-- The secret store of the machine answers. -/
def NodeWorld.StoreAnswers (w : NodeWorld) : Prop :=
  ∀ name, w.getFails name = false ∧ w.putFails name = false

/-- The lease without its signature, as it was signed. -/
def EntitlementLease.unsigned (lease : EntitlementLease) : EntitlementLease :=
  { lease with signature := none }

/-! ## The signature -/

/-- A signed lease carries a good signature for every node that trusts the cloud. -/
lemma signatureGood_of_signed {cloud : AppConfig} {config : LocalConfig} {draw : Draw}
    {unsigned lease : EntitlementLease} (htrusts : Trusts x config cloud)
    (h : signEntitlementLease x.toCrates cloud draw unsigned = .ok lease) :
    ∃ signature pem bytes, SignatureGood x config lease signature pem bytes := by
  obtain ⟨publicPem, hpublic, hpair⟩ := htrusts.key
  simp only [signEntitlementLease] at h
  split at h
  · cases h
  · next privatePem hprivate =>
    split at h
    · cases h
    · next value hvalue =>
      obtain rfl := Except.ok.inj h
      obtain ⟨bytes, hdecoded, hform, hverified⟩ :=
        (hpair privatePem hprivate).verifies _ _ _ hvalue
      refine ⟨_, publicPem, bytes, ⟨rfl, rfl, htrusts.issuer.symm, htrusts.audience.symm, hpublic,
        (hpair privatePem hprivate).readable, hdecoded, hform, ?_⟩⟩
      -- the signature is no part of what is signed
      rw [htrusts.issuer, htrusts.audience]
      exact hverified

/-! ## The node -/

/-- What makes a lease good on a machine, whatever the time. -/
structure GoodFor (x : NodeCrates) (config : LocalConfig) (fingerprint : String)
    (lease : EntitlementLease) : Prop where
  signed : ∃ signature pem bytes, SignatureGood x config lease signature pem bytes
  reading : Feature.ozonRead ∈ lease.features
  bound : lease.deviceId = deviceIdFor x.newV5 lease.userId fingerprint

section Gate

variable {w : NodeWorld} {config : LocalConfig} {fingerprint : String} {lease : EntitlementLease}
  {n : LocalState} {feature : Feature}

lemma GoodFor.validate (h : GoodFor x config fingerprint lease) (hnow : w.now < lease.expiresAt)
    (hfeature : feature ∈ lease.features) :
    validateCloudLeaseWithFeature x w config lease feature = .ok () := by
  obtain ⟨signature, pem, bytes, hgood⟩ := h.signed
  simp only [validateCloudLeaseWithFeature, validateCloudLease, Except.bind_eq_ok,
    Except.refuseIf_eq_ok, not_not, not_le]
  exact ⟨(), ⟨(), hnow, verifyCloudLeaseSignature_of_good hgood⟩, hfeature⟩

/-- **A good lease that is installed opens the gate.** -/
theorem GoodFor.opens (h : GoodFor x n.config fingerprint lease) (hinstalled : n.Installed x lease)
    (hfingerprint : n.Fingerprint w fingerprint) (hstore : w.StoreAnswers)
    (hnow : w.now < lease.expiresAt) (hfeature : feature ∈ lease.features) :
    ∃ n', requireValidLeaseWithFeature x w feature n = .ok () n' := by
  simp only [requireValidLeaseWithFeature, bind_eq_ok, get_eq_ok]
  by_cases hmock : (!n.config.useRealOzon && n.config.allowUnsignedLease) = true
  · exact ⟨n, n, n, ⟨rfl, rfl⟩, by simp [hmock]⟩
  · have hload := loadCloudLease_eq_ok.mpr ⟨hinstalled, fun _ => (hstore _).1, rfl⟩
    have hread := loadOrCreateDeviceFingerprint_of_fingerprint (w := w)
      (s := { n with cloudLeaseCache := some lease }) hfingerprint (hstore _).1
    refine ⟨{ n with cloudLeaseCache := some lease }, n, n, ⟨rfl, rfl⟩, ?_⟩
    simp only [hmock, Bool.false_eq_true, ite_false, bind_eq_ok, ofExcept_eq_ok]
    exact ⟨lease, _, hload, (), _, ⟨h.validate hnow hfeature, rfl⟩, fingerprint, _, hread,
      ensureLeaseBoundToDevice_ok.mpr h.bound, rfl⟩

/-- A good lease is saved. -/
theorem GoodFor.saved (h : GoodFor x n.config fingerprint lease)
    (hfingerprint : n.Fingerprint w fingerprint) (hstore : w.StoreAnswers)
    (hnow : w.now < lease.expiresAt) :
    savePortalLease x w lease n =
      .ok ⟨true, leaseStatus x w n.config lease, w.now⟩ (n.install x lease) :=
  savePortalLease_of_valid (h.validate hnow h.reading)
    (loadOrCreateDeviceFingerprint_of_fingerprint hfingerprint (hstore _).1) h.bound (hstore _).2

end Gate

/-! ## The cloud -/

/-- The user has activated a device with the fingerprint, and has got this device. -/
def ActivatedAs (x : Crates) (s₀ : Cloud) (tr : List (CloudLabel × CloudAnswer)) (userId : UserId)
    (fingerprint : String) (device : Device) : Prop :=
  (cloudMachine x).Happened s₀ tr fun l answer m => ∃ i a, l.request = .activation i ∧
    slot m.activations i = some a ∧ a.claims.sub = userId ∧ a.input.fingerprint = fingerprint ∧
    answer = .device device

/-- The user has asked for a lease for the device, and has got this lease from a cloud with this
configuration. -/
def LeasedFor (x : Crates) (s₀ : Cloud) (tr : List (CloudLabel × CloudAnswer)) (userId : UserId)
    (deviceId : DeviceId) (cloud : AppConfig) (lease : EntitlementLease) : Prop :=
  (cloudMachine x).Happened s₀ tr fun l answer m => ∃ i a, l.request = .issuance i ∧
    slot m.issuances i = some a ∧ a.claims.sub = userId ∧ a.deviceId = deviceId ∧
    l.config = cloud ∧ answer = .lease lease

lemma device_of_activatedAs (h₀ : (cloudMachine x.toCrates).init s₀)
    (hempty : s₀.db.devices.rows = []) {userId : UserId} {fingerprint : String} {device : Device}
    (hcollision : ∀ other, Activated tr userId other →
      hashFingerprint x.toCrates other = hashFingerprint x.toCrates fingerprint →
      other = fingerprint)
    (h : ActivatedAs x.toCrates s₀ tr userId fingerprint device) :
    device.id = deviceIdFor x.newV5 userId fingerprint := by
  obtain ⟨pre, l, post, m, rfl, hpre, -, i, a, hrequest, ha, rfl, rfl, hanswer⟩ := h
  refine device_id_of_answer h₀ hempty hpre hrequest ha (fun other hother => ?_) hanswer
  obtain ⟨p, hp, hsent⟩ := hother
  exact hcollision other ⟨p, List.mem_append_left _ hp, hsent⟩

/-- A lease of the cloud is good on the machine whose device it was asked for. -/
theorem goodFor_of_leased (h₀ : (cloudMachine x.toCrates).init s₀)
    (hempty : s₀.db.devices.rows = []) {userId : UserId} {fingerprint : String} {device : Device}
    {cloud : AppConfig} {config : LocalConfig} {lease : EntitlementLease}
    (hdevice : device.id = deviceIdFor x.newV5 userId fingerprint)
    (hleased : LeasedFor x.toCrates s₀ tr userId device.id cloud lease)
    (htrusts : Trusts x config cloud) : GoodFor x config fingerprint lease := by
  obtain ⟨pre, l, post, m, rfl, hpre, -, i, a, hrequest, ha, hsub, hid, rfl, hanswer⟩ := hleased
  obtain ⟨j, b, d, e, limit, count, hrequest', hb, hphase, hsign⟩ := lease_of_answer hanswer
  obtain rfl : i = j := by simpa [hrequest] using hrequest'
  obtain rfl := Option.some.inj (ha.symm.trans hb)
  have hdeviceId : d.id = a.deviceId :=
    device_id_of_lease h₀ hempty hpre ha (by rw [hphase]; rfl)
  have hfeatures : e.features = defaultFeatures := by
    obtain ⟨pre', l', post', m', -, hrun', -, -, hselectable⟩ :=
      (issuance_traced h₀ hpre i a ha).entitlement e (by rw [hphase]; rfl)
    exact grantsAll_of_run h₀ hrun' e hselectable.mem
  obtain ⟨signature, rfl, -⟩ := signEntitlementLease_ok hsign
  refine ⟨signatureGood_of_signed htrusts hsign, ?_, ?_⟩
  · change Feature.ozonRead ∈ e.features
    rw [hfeatures]
    decide
  · change d.id = deviceIdFor x.newV5 a.claims.sub fingerprint
    rw [hdeviceId, hid, hdevice, hsub]

/-! ## The main result -/

lemma LocalState.Fingerprint.of_machine {w w' : NodeWorld} {n : LocalState} {fingerprint : String}
    (h : n.Fingerprint w fingerprint)
    (hmachine : w'.stableMachineFingerprint = w.stableMachineFingerprint) :
    n.Fingerprint w' fingerprint := by
  rw [LocalState.Fingerprint, hmachine]
  exact h

/-- **Lease completeness.**  Take any history of a cloud that started without devices, in which a
user has activated a device with a fingerprint and has got a lease for the device that was
answered, and suppose that no other fingerprint of that user has the same hash.  Then the device
has the identifier derived from the user and the fingerprint; the text that a node checks of the
lease it receives is the text that was signed; and every node with that fingerprint that trusts the
cloud saves the lease while it lasts, and from then on, whether or not it is started again, lets
every request through that needs one of the features of the lease, as long as the lease lasts. -/
theorem lease_completeness (h₀ : (cloudMachine x.toCrates).init s₀)
    (hempty : s₀.db.devices.rows = []) {userId : UserId} {fingerprint : String} {device : Device}
    {cloud : AppConfig} {config : LocalConfig} {lease : EntitlementLease}
    (hcollision : ∀ other, Activated tr userId other →
      hashFingerprint x.toCrates other = hashFingerprint x.toCrates fingerprint →
      other = fingerprint)
    (hactivated : ActivatedAs x.toCrates s₀ tr userId fingerprint device)
    (hleased : LeasedFor x.toCrates s₀ tr userId device.id cloud lease)
    (htrusts : Trusts x config cloud) (hjson : x.parseLease (x.leaseText lease) = some lease) :
    device.id = deviceIdFor x.newV5 userId fingerprint ∧
    (∀ received, x.parseLease (x.leaseText lease) = some received →
      leaseSigningPayload x.toCrates received config.leaseIssuer config.leaseAudience =
        leaseSigningPayload x.toCrates lease.unsigned cloud.leaseIssuer cloud.leaseAudience) ∧
    ∀ (n : LocalState) (w : NodeWorld), n.config = config → n.Fingerprint w fingerprint →
      w.StoreAnswers → w.now < lease.expiresAt →
      ∃ received response n', x.parseLease (x.leaseText lease) = some received ∧
        savePortalLease x w received n = .ok response n' ∧ response.accepted = true ∧
        ∀ m, m = n' ∨ m = LocalState.new n'.config n'.secrets →
          ∀ (w' : NodeWorld) (feature : Feature),
            w'.stableMachineFingerprint = w.stableMachineFingerprint → w'.StoreAnswers →
            w'.now < lease.expiresAt → feature ∈ lease.features →
            ∃ m', requireValidLeaseWithFeature x w' feature m = .ok () m' := by
  have hdevice := device_of_activatedAs h₀ hempty hcollision hactivated
  refine ⟨hdevice, fun received hreceived => ?_, fun n w hconfig hfingerprint hstore hnow => ?_⟩
  · obtain rfl := Option.some.inj (hjson.symm.trans hreceived)
    rw [htrusts.issuer, htrusts.audience]
    rfl
  · subst hconfig
    -- the lease that was signed passes every check of a node with the fingerprint
    have hgood := goodFor_of_leased h₀ hempty hdevice hleased htrusts
    refine ⟨lease, _, _, hjson, hgood.saved hfingerprint hstore hnow, rfl, ?_⟩
    intro m hm w' feature hmachine hstore' hnow' hfeature
    -- the fingerprint is that of the machine or of the store, and neither has changed
    have hlater : (n.install x lease).Fingerprint w' fingerprint :=
      (fingerprint_install hfingerprint).of_machine hmachine
    rcases hm with rfl | rfl
    · exact GoodFor.opens hgood (installed_install n) hlater hstore' hnow' hfeature
    · exact GoodFor.opens hgood (installed_restart hjson n) hlater hstore' hnow' hfeature

/-! ## The laptop and its lease -/

/-- The lease of the laptop as it is sent and stored. -/
def laptopLeaseText : String :=
  r#"{"lease_id":"00000000-0000-0000-0000-000000000578","# ++
  r#""tenant_id":"00000000-0000-0000-0000-000000000001","# ++
  r#""user_id":"00000000-0000-0000-0000-000000000002","# ++
  r#""device_id":"33e5ca20-edde-53e5-b979-095146c28ba6","# ++
  r#""entitlement_id":"00000000-0000-0000-0000-000000000066","# ++
  r#""features":["ozon_read","ozon_write_mock","draft_import1688_mock","# ++
  r#""open_claw_bridge","local_approval"],"# ++
  r#""issued_at":"2026-01-01T00:14:00Z","expires_at":"2026-01-02T00:14:00Z","# ++
  r#""signature":{"alg":"RS256","kid":""# ++ leaseCloudConfig.leaseSigningKeyId ++
  r#"","issuer":"ozon66-cloud","audience":"ozon-rust-local-node","value":""# ++
  leaseSignatureText ++ r#""}}"#

/-- The library functions of this run, with the text of the lease. -/
def portalCrates : NodeCrates :=
  { leaseCrates with
    rsaVerify := fun pem _ bytes => pem == leasePublicKeyPem && bytes == leaseSignatureBytes
    leaseText := fun lease => if lease = laptopLease then laptopLeaseText else ""
    parseLease := fun text => if text = laptopLeaseText then some laptopLease else none }

lemma portal_trusts : Trusts portalCrates nodeConfig leaseCloudConfig where
  issuer := rfl
  audience := rfl
  key := by
    refine ⟨leasePublicKeyPem, rfl, fun privatePem _ => ⟨by simp [portalCrates, leaseCrates], ?_⟩⟩
    intro payload randomness value hvalue
    obtain rfl : leaseSignatureText = value := Option.some.inj hvalue
    refine ⟨leaseSignatureBytes, ?_, rfl, ?_⟩
    · simp [portalCrates, leaseCrates]
    · simp [portalCrates]

/-- The device in the table. -/
def laptopDevice : Device where
  id := laptopId
  tenantId := ⟨.ofNat 1⟩
  userId := ⟨.ofNat 2⟩
  name := "laptop"
  fingerprintHash := "9d01402372ccd49dd2e46c55e0a36bd9a78fbc2b122334cc9e8cd713269a17fb"
  status := .active
  activatedAt := 1767225720000000
  lastSeenAt := some 1767225720000000

/-- The steps up to the last statement of the activation, and those after it. -/
def activationPart : List CloudLabel := leaseSteps.take 6

/-- The steps that issue the lease. -/
def issuancePart : List CloudLabel := leaseSteps.drop 7

lemma leaseSteps_eq :
    leaseSteps = activationPart ++ (leaseLabel 7 (.activation 0) :: issuancePart) := rfl

lemma laptop_activated : ActivatedAs leaseCloudCrates (.start shopDb) leaseHistory ⟨.ofNat 2⟩
    laptopFingerprint laptopDevice := by
  have hanswer : ((cloudMachine leaseCloudCrates).step
      ((cloudMachine leaseCloudCrates).exec (.start shopDb) activationPart).2
      (leaseLabel 7 (.activation 0))).1 = .device laptopDevice := by decide
  have hslot :
      (slot ((cloudMachine leaseCloudCrates).exec (.start shopDb) activationPart).2.activations
        0).any (fun a => a.claims.sub == ⟨.ofNat 2⟩ && a.input.fingerprint == laptopFingerprint) =
          true := by decide
  obtain ⟨a, ha, hfields⟩ := (Option.any_eq_true _ _).mp hslot
  simp only [Bool.and_eq_true, beq_iff_eq] at hfields
  rw [ActivatedAs, leaseHistory, leaseSteps_eq]
  exact (Machine.happened_exec (by decide) (by decide)
    ⟨0, a, rfl, ha, hfields.1, hfields.2, hanswer⟩).append _

lemma laptop_leased : LeasedFor leaseCloudCrates (.start shopDb) leaseHistory ⟨.ofNat 2⟩ laptopId
    leaseCloudConfig laptopLease := by
  have hslot : (slot ((cloudMachine leaseCloudCrates).exec (.start shopDb) leaseSteps).2.issuances
      0).any (fun a => a.claims.sub == ⟨.ofNat 2⟩ && a.deviceId == laptopId) = true := by decide
  obtain ⟨a, ha, hfields⟩ := (Option.any_eq_true _ _).mp hslot
  simp only [Bool.and_eq_true, beq_iff_eq] at hfields
  exact .last_of_answer lease_run (by decide) laptop_lease_answered
    ⟨0, a, rfl, ha, hfields.1, hfields.2, rfl, rfl⟩

/-- No other fingerprint has been sent. -/
lemma laptop_no_collision (other : String) (h : Activated leaseHistory ⟨.ofNat 2⟩ other) :
    other = laptopFingerprint := by
  have hall : ((leaseSteps ++ [leaseLabel 14 (.issuance 0)]).map (·.request)).all (fun r =>
      match r with
      | .activateDevice _ input => input.fingerprint == laptopFingerprint
      | _ => true) = true := by decide
  obtain ⟨p, hp, claims, input, hrequest, -, rfl⟩ := h
  have hlabel : p.1 ∈ leaseSteps ++ [leaseLabel 14 (.issuance 0)] := by
    have hmem := List.mem_map_of_mem (f := Prod.fst) hp
    rwa [leaseHistory, List.map_append, Machine.exec_labels] at hmem
  have hsent := List.all_eq_true.mp hall _ (List.mem_map_of_mem hlabel)
  rw [hrequest] at hsent
  simpa using hsent

theorem lease_completeness_laptop :
    ∃ received response n', portalCrates.parseLease laptopLeaseText = some received ∧
      savePortalLease portalCrates laptopWorld received (.new nodeConfig ∅) = .ok response n' ∧
      response.accepted = true ∧
      ∃ m, requireValidLeaseWithFeature portalCrates laptopWorld .openClawBridge
        (.new n'.config n'.secrets) = .ok () m := by
  have htext : portalCrates.leaseText laptopLease = laptopLeaseText := by simp [portalCrates]
  have hjson : portalCrates.parseLease (portalCrates.leaseText laptopLease) = some laptopLease := by
    rw [htext]
    simp [portalCrates]
  obtain ⟨-, -, hnode⟩ := lease_completeness (x := portalCrates) shop_init rfl
    (fun other hother _ => laptop_no_collision other hother) laptop_activated laptop_leased
    portal_trusts hjson
  obtain ⟨received, response, n', hreceived, hsaved, haccepted, hgate⟩ :=
    hnode (.new nodeConfig ∅) laptopWorld rfl (.inl rfl) (fun _ => ⟨rfl, rfl⟩) (by decide)
  rw [htext] at hreceived
  exact ⟨received, response, n', hreceived, hsaved, haccepted,
    hgate _ (.inr rfl) laptopWorld .openClawBridge rfl (fun _ => ⟨rfl, rfl⟩) (by decide)
      (by decide)⟩

end OzonSuite
