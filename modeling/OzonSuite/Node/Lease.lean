/-
# The lease check of the local node

How a node finds the lease that is installed, and what it checks of it: its time, its signature,
its features and the device it names.
-/
import OzonSuite.Node.State
import OzonSuite.Cloud.Signing

namespace OzonSuite

open Lib

/-! ## The fingerprint of the machine -/

/-- A stored fingerprint that may be used. -/
def isDeviceFingerprint (value : String) : Bool :=
  hasPrefix "ors-local-" value && decide (20 ≤ byteLength value)

/-- A new fingerprint, made from a random identifier. -/
def mintedFingerprint (id : Uuid) : String := s!"ors-local-{id}"

/-- The fingerprint that is made from the hardware, or the stored one, or a new one, which is
stored. -/
def loadOrCreateDeviceFingerprint (w : NodeWorld) : NodeM String :=
  match w.stableMachineFingerprint with
  | some stable => pure stable
  | none => do
    match (← getSecret w secretDeviceFingerprint).map trim with
    | some value =>
      if isDeviceFingerprint value then pure value else mint
    | none => mint
where
  mint : NodeM String := do
    let value := mintedFingerprint (w.uuid 0)
    putSecret w secretDeviceFingerprint value "failed to persist device fingerprint"
    return value

/-! ## The checks -/

/-- The signature of a lease, checked against the configuration of the node. -/
def verifyCloudLeaseSignature (x : NodeCrates) (config : LocalConfig) (lease : EntitlementLease) :
    Except ApiError Unit :=
  match lease.signature with
  | none =>
    if config.allowUnsignedLease then .ok ()
    else .error (.badRequest "lease is missing a cloud signature")
  | some signature => do
    refuseIf (signature.alg ≠ "RS256")
      (ApiError.badRequest "lease signature algorithm is not supported")
    refuseIf (signature.issuer ≠ config.leaseIssuer)
      (ApiError.badRequest "lease signature issuer mismatch")
    refuseIf (signature.audience ≠ config.leaseAudience)
      (ApiError.badRequest "lease signature audience mismatch")
    let publicKeyPem ← okOr config.leasePublicKeyPem
      (ApiError.badRequest "lease public key is not configured on this local node")
    refuseIf (!x.rsaPublicKey publicKeyPem) (ApiError.badRequest "lease public key is invalid")
    let signatureBytes ← okOr (x.base64Decode signature.value)
      (ApiError.badRequest "lease signature encoding is invalid")
    refuseIf (!x.rsaSignature signatureBytes) (ApiError.badRequest "lease signature is invalid")
    let payload := leaseSigningPayload x.toCrates lease signature.issuer signature.audience
    refuseIf (!x.rsaVerify publicKeyPem (String.ofList payload) signatureBytes)
      (ApiError.badRequest "lease signature verification failed")

/-- The check of a lease. -/
def validateCloudLease (x : NodeCrates) (w : NodeWorld) (config : LocalConfig)
    (lease : EntitlementLease) : Except ApiError Unit := do
  refuseIf (lease.expiresAt ≤ w.now) (ApiError.badRequest "lease is expired")
  verifyCloudLeaseSignature x config lease

/-- A feature, as the error names it. -/
def featureName : Feature → String
  | .ozonRead => "Ozon read access"
  | .ozonWriteMock => "Ozon dry-run write access"
  | .draftImport1688Mock => "1688 draft import dry-run access"
  | .openClawBridge => "OpenClaw bridge access"
  | .localApproval => "local approval access"

/-- The check of a lease that has to grant a feature. -/
def validateCloudLeaseWithFeature (x : NodeCrates) (w : NodeWorld) (config : LocalConfig)
    (lease : EntitlementLease) (feature : Feature) : Except ApiError Unit := do
  validateCloudLease x w config lease
  refuseIf (feature ∉ lease.features)
    (ApiError.forbidden s!"cloud lease does not include {featureName feature}")

/-- The device that the lease names is this machine, under the user of the lease. -/
def ensureLeaseBoundToDevice (x : NodeCrates) (lease : EntitlementLease)
    (deviceFingerprint : String) : Except ApiError Unit :=
  refuseIf (lease.deviceId ≠ deviceIdFor x.newV5 lease.userId deviceFingerprint)
    (ApiError.forbidden "cloud lease is not bound to this device")

/-! ## The gate -/

/-- The lease that is installed: the cached one, or the stored one, which is then cached. -/
def loadCloudLease (x : NodeCrates) (w : NodeWorld) : NodeM EntitlementLease := do
  match (← get).cloudLeaseCache with
  | some lease => return lease
  | none =>
    let bundle ← okOr (← getSecret w secretCloudLease)
      (ApiError.forbidden ("cloud lease is not installed; sign in on ozon66.com, bind this " ++
        "device, then issue a lease"))
    let lease ← okOr (x.parseLease bundle) (ApiError.badRequest "stored cloud lease is invalid")
    modify fun s => { s with cloudLeaseCache := some lease }
    return lease

/-- The gate of every handler that needs a lease. -/
def requireValidLeaseWithFeature (x : NodeCrates) (w : NodeWorld) (feature : Feature) :
    NodeM Unit := do
  let config := (← get).config
  if !config.useRealOzon && config.allowUnsignedLease then
    return
  let lease ← loadCloudLease x w
  ofExcept (validateCloudLeaseWithFeature x w config lease feature)
  let deviceFingerprint ← loadOrCreateDeviceFingerprint w
  ofExcept (ensureLeaseBoundToDevice x lease deviceFingerprint)

/-! ## What the checks say -/

variable {x : NodeCrates} {w : NodeWorld} {config : LocalConfig} {lease : EntitlementLease}
  {feature : Feature}

/-- The signature of a lease is good: of the only algorithm, from the issuer and for the audience
of the node, and verified under its key. -/
structure SignatureGood (x : NodeCrates) (config : LocalConfig) (lease : EntitlementLease)
    (signature : EntitlementLeaseSignature) (pem : String) (bytes : List UInt8) : Prop where
  signed : lease.signature = some signature
  alg : signature.alg = "RS256"
  issuer : signature.issuer = config.leaseIssuer
  audience : signature.audience = config.leaseAudience
  configured : config.leasePublicKeyPem = some pem
  publicKey : x.rsaPublicKey pem = true
  decoded : x.base64Decode signature.value = some bytes
  wellFormed : x.rsaSignature bytes = true
  verified : x.rsaVerify pem (String.ofList (leaseSigningPayload x.toCrates lease
    config.leaseIssuer config.leaseAudience)) bytes = true

/-- A good signature is accepted, whether or not the node insists on signatures. -/
lemma verifyCloudLeaseSignature_of_good {signature : EntitlementLeaseSignature} {pem : String}
    {bytes : List UInt8} (h : SignatureGood x config lease signature pem bytes) :
    verifyCloudLeaseSignature x config lease = .ok () := by
  have hverify := h.verified
  rw [← h.issuer, ← h.audience] at hverify
  simp only [verifyCloudLeaseSignature, h.signed, Except.bind_eq_ok, Except.refuseIf_eq_ok,
    Except.okOr_eq_ok, not_not, Bool.not_eq_true', Bool.not_eq_false]
  exact ⟨(), h.alg, (), h.issuer, (), h.audience, pem, h.configured, (), h.publicKey, bytes,
    h.decoded, (), h.wellFormed, hverify⟩

/-- A node that insists on signatures accepts exactly the leases with a good one. -/
lemma verifyCloudLeaseSignature_ok (hunsigned : config.allowUnsignedLease = false) :
    verifyCloudLeaseSignature x config lease = .ok () ↔
      ∃ signature pem bytes, SignatureGood x config lease signature pem bytes := by
  rw [verifyCloudLeaseSignature, hunsigned]
  cases hsignature : lease.signature with
  | none =>
    simp only [Bool.false_eq_true, ite_false, reduceCtorEq, false_iff]
    rintro ⟨signature, pem, bytes, h⟩
    exact absurd (hsignature.symm.trans h.signed) (by simp)
  | some signature =>
    constructor
    · simp only [Except.bind_eq_ok, Except.refuseIf_eq_ok, Except.okOr_eq_ok, not_not,
        Bool.not_eq_true', Bool.not_eq_false]
      rintro ⟨_, halg, _, hissuer, _, haudience, pem, hpem, _, hkey, bytes, hdecoded, _, hform,
        hverify⟩
      rw [hissuer, haudience] at hverify
      exact ⟨signature, pem, bytes, hsignature, halg, hissuer, haudience, hpem, hkey, hdecoded,
        hform, hverify⟩
    · rintro ⟨signature', pem, bytes, h⟩
      have hgood := verifyCloudLeaseSignature_of_good h
      rwa [verifyCloudLeaseSignature, hsignature] at hgood

/-- The signature value is one of that text: under no key does it verify another. -/
def SignsOnly (x : NodeCrates) (signature : EntitlementLeaseSignature) (text : String) : Prop :=
  ∀ pem other bytes, x.base64Decode signature.value = some bytes →
    x.rsaVerify pem other bytes = true → other = text

/-- **The signed text determines the lease.**  The signing payloads of two leases are equal only
if the issuers, the audiences and all claims are.  So a node accepts the signature value of one
lease on no lease with another claim, and under no other issuer or audience. -/
theorem lease_payload_injective (x : NodeCrates) (clock : Time ↪ UtcInstant) :
    let crates : NodeCrates := { x with timeText := instantText clock }
    (∀ (l₁ l₂ : EntitlementLease) (issuer₁ issuer₂ audience₁ audience₂ : String),
      String.ofList (leaseSigningPayload crates.toCrates l₁ issuer₁ audience₁) =
        String.ofList (leaseSigningPayload crates.toCrates l₂ issuer₂ audience₂) ↔
      issuer₁ = issuer₂ ∧ audience₁ = audience₂ ∧ l₁.claims = l₂.claims) ∧
    ∀ (config : LocalConfig) (lease presented : EntitlementLease) (issuer audience : String)
      (signature : EntitlementLeaseSignature), presented.signature = some signature →
      SignsOnly crates signature
        (String.ofList (leaseSigningPayload crates.toCrates lease issuer audience)) →
      verifyCloudLeaseSignature crates config presented = .ok () →
      config.leaseIssuer = issuer ∧ config.leaseAudience = audience ∧
        presented.claims = lease.claims := by
  intro crates
  have hinj : ∀ {l₁ l₂ : EntitlementLease} {issuer₁ issuer₂ audience₁ audience₂ : String},
      String.ofList (leaseSigningPayload crates.toCrates l₁ issuer₁ audience₁) =
        String.ofList (leaseSigningPayload crates.toCrates l₂ issuer₂ audience₂) →
      issuer₁ = issuer₂ ∧ audience₁ = audience₂ ∧ l₁.claims = l₂.claims := fun heq =>
    leaseSigningPayload_inj (instantText_injective clock) (String.ofList_injective heq)
  refine ⟨fun l₁ l₂ issuer₁ issuer₂ audience₁ audience₂ => ⟨hinj, ?_⟩, ?_⟩
  · rintro ⟨rfl, rfl, hclaims⟩
    simp only [leaseSigningPayload, hclaims]
  · intro config lease presented issuer audience signature hsigned honly hverify
    -- a lease with a signature is checked alike by a node that insists on signatures
    have hstrict : verifyCloudLeaseSignature crates { config with allowUnsignedLease := false }
        presented = .ok () := by
      simpa only [verifyCloudLeaseSignature, hsigned] using hverify
    obtain ⟨signature', pem, bytes, hgood⟩ := (verifyCloudLeaseSignature_ok rfl).mp hstrict
    obtain rfl : signature = signature' :=
      Option.some.inj (hsigned.symm.trans hgood.signed)
    exact hinj (honly pem _ bytes hgood.decoded hgood.verified)

/-- What a lease has that passes the check for a feature. -/
lemma validateCloudLeaseWithFeature_ok (hunsigned : config.allowUnsignedLease = false) :
    validateCloudLeaseWithFeature x w config lease feature = .ok () ↔
      w.now < lease.expiresAt ∧ feature ∈ lease.features ∧
      ∃ signature pem bytes, SignatureGood x config lease signature pem bytes := by
  simp only [validateCloudLeaseWithFeature, validateCloudLease, Except.bind_eq_ok,
    Except.refuseIf_eq_ok, not_not, not_le, verifyCloudLeaseSignature_ok hunsigned]
  constructor
  · rintro ⟨_, ⟨_, htime, hsignature⟩, hfeature⟩
    exact ⟨htime, hfeature, hsignature⟩
  · rintro ⟨htime, hfeature, hsignature⟩
    exact ⟨(), ⟨(), htime, hsignature⟩, hfeature⟩

lemma ensureLeaseBoundToDevice_ok {fingerprint : String} :
    ensureLeaseBoundToDevice x lease fingerprint = .ok () ↔
      lease.deviceId = deviceIdFor x.newV5 lease.userId fingerprint := by
  simp [ensureLeaseBoundToDevice]

/-! ## The lease and the fingerprint of a node -/

/-- The lease that a node uses: the cached one, or else the stored one. -/
def LocalState.Installed (x : NodeCrates) (s : LocalState) (lease : EntitlementLease) : Prop :=
  s.cloudLeaseCache = some lease ∨
    s.cloudLeaseCache = none ∧ ∃ bundle, s.secrets.lookup secretCloudLease = some bundle ∧
      x.parseLease bundle = some lease

/-- The fingerprint that a node uses, when it need not make one. -/
def LocalState.Fingerprint (w : NodeWorld) (s : LocalState) (fingerprint : String) : Prop :=
  w.stableMachineFingerprint = some fingerprint ∨
    w.stableMachineFingerprint = none ∧
      (s.secrets.lookup secretDeviceFingerprint).map trim = some fingerprint ∧
      isDeviceFingerprint fingerprint = true

variable {s s' : LocalState}

/-- The lease is found, and cached if it was not. -/
lemma loadCloudLease_eq_ok :
    loadCloudLease x w s = .ok lease s' ↔
      s.Installed x lease ∧ (s.cloudLeaseCache = none → w.getFails secretCloudLease = false) ∧
      s' = { s with cloudLeaseCache := some lease } := by
  simp only [loadCloudLease, bind_eq_ok, get_eq_ok]
  cases hcache : s.cloudLeaseCache with
  | some cached =>
    simp only [LocalState.Installed, hcache, reduceCtorEq, false_and, or_false, false_implies,
      true_and]
    constructor
    · rintro ⟨_, _, ⟨rfl, rfl⟩, h⟩
      simp only [hcache, pure_eq_ok] at h
      obtain ⟨rfl, rfl⟩ := h
      exact ⟨rfl, by rw [← hcache]⟩
    · rintro ⟨heq, rfl⟩
      obtain rfl := Option.some.inj heq
      refine ⟨s, s, ⟨rfl, rfl⟩, ?_⟩
      simp only [hcache, pure_eq_ok, true_and]
      rw [← hcache]
  | none =>
    simp only [LocalState.Installed, hcache, reduceCtorEq, false_or, true_and, forall_const]
    constructor
    · rintro ⟨_, _, ⟨rfl, rfl⟩, h⟩
      simp only [hcache, bind_eq_ok, getSecret_eq_ok, okOr_eq_ok, modify_eq_ok, pure_eq_ok] at h
      obtain ⟨_, _, ⟨hget, rfl, rfl⟩, bundle, _, ⟨hbundle, rfl⟩, _, _, ⟨hlease, rfl⟩, _, _, rfl,
        rfl, rfl⟩ := h
      exact ⟨⟨bundle, hbundle, hlease⟩, hget, rfl⟩
    · rintro ⟨⟨bundle, hbundle, hlease⟩, hget, rfl⟩
      refine ⟨s, s, ⟨rfl, rfl⟩, ?_⟩
      simp only [hcache, bind_eq_ok, getSecret_eq_ok, okOr_eq_ok, modify_eq_ok, pure_eq_ok]
      exact ⟨_, s, ⟨hget, rfl, rfl⟩, bundle, s, ⟨hbundle, rfl⟩, lease, s, ⟨hlease, rfl⟩, (), _,
        rfl, rfl, rfl⟩

/-- The characters of an identifier, none of which is white space. -/
lemma mem_toText {id : Uuid} {c : Char} (h : c ∈ id.toText) :
    c ∈ "0123456789abcdef-".toList := by
  by_cases hc : c = '-'
  · rw [hc]
    decide
  · have hdigit : c ∈ hexText 32 id.bits.toNat := by
      rw [← Uuid.filter_toText]
      exact List.mem_filter.mpr ⟨h, by simpa using hc⟩
    exact List.mem_append_left ['-'] (mem_hexText hdigit)

lemma length_toText (id : Uuid) : id.toText.length = 36 := by
  simp [Uuid.toText]

/-- A new fingerprint is one that may be used, and is read back as it was written. -/
lemma mintedFingerprint_spec (id : Uuid) :
    trim (mintedFingerprint id) = mintedFingerprint id ∧
      isDeviceFingerprint (mintedFingerprint id) = true := by
  have hform : mintedFingerprint id = "ors-local-" ++ id.toString := rfl
  have hchars : (mintedFingerprint id).toList = "ors-local-".toList ++ id.toText := by
    simp [hform, Uuid.toString]
  refine ⟨trimText_of_forall fun c hc => ?_, ?_⟩
  · rw [hchars, List.mem_append] at hc
    have hplain : ∀ c ∈ "ors-local-".toList ++ "0123456789abcdef-".toList,
        isWhitespace c = false := by simp [isWhitespace]
    exact hplain c (List.mem_append.mpr (hc.imp_right mem_toText))
  · have hlength : 20 ≤ byteLength (mintedFingerprint id) := by
      refine le_trans ?_ (length_le_byteLength _)
      rw [hchars, List.length_append, length_toText]
      omega
    rw [isDeviceFingerprint, hform, hasPrefix_append, ← hform]
    simpa using hlength

/-- There is no fingerprint, and one can be made. -/
def LocalState.MintsFingerprint (w : NodeWorld) (s : LocalState) : Prop :=
  w.stableMachineFingerprint = none ∧ w.getFails secretDeviceFingerprint = false ∧
    w.putFails secretDeviceFingerprint = false ∧
    ∀ value, (s.secrets.lookup secretDeviceFingerprint).map trim = some value →
      isDeviceFingerprint value = false

instance (w : NodeWorld) (s : LocalState) : Decidable (s.MintsFingerprint w) :=
  inferInstanceAs (Decidable (_ ∧ _ ∧ _ ∧ _))

/-- The fingerprint that is answered is the one that the node has afterwards. -/
lemma loadOrCreateDeviceFingerprint_ok {fingerprint : String}
    (h : loadOrCreateDeviceFingerprint w s = .ok fingerprint s') :
    s'.Fingerprint w fingerprint := by
  rw [loadOrCreateDeviceFingerprint] at h
  cases hstable : w.stableMachineFingerprint with
  | some stable =>
    simp only [hstable, pure_eq_ok] at h
    exact .inl (h.1 ▸ hstable)
  | none =>
    simp only [hstable, bind_eq_ok, getSecret_eq_ok] at h
    obtain ⟨_, _, ⟨-, rfl, rfl⟩, h⟩ := h
    refine .inr ⟨hstable, ?_⟩
    have hmint : loadOrCreateDeviceFingerprint.mint w s = .ok fingerprint s' →
        (s'.secrets.lookup secretDeviceFingerprint).map trim = some fingerprint ∧
          isDeviceFingerprint fingerprint = true := by
      simp only [loadOrCreateDeviceFingerprint.mint, bind_eq_ok, putSecret_eq_ok, pure_eq_ok]
      rintro ⟨_, _, ⟨-, rfl⟩, rfl, rfl⟩
      simpa using mintedFingerprint_spec (w.uuid 0)
    cases hstored : (s.secrets.lookup secretDeviceFingerprint).map trim with
    | none => exact hmint (by simpa [hstored] using h)
    | some value =>
      simp only [hstored] at h
      split at h
      · next hvalid =>
        obtain ⟨rfl, rfl⟩ := pure_eq_ok.mp h
        exact ⟨hstored, hvalid⟩
      · exact hmint h

/-- The fingerprint that the node has, it answers. -/
lemma loadOrCreateDeviceFingerprint_of_fingerprint {fingerprint : String}
    (h : s.Fingerprint w fingerprint) (hget : w.getFails secretDeviceFingerprint = false) :
    loadOrCreateDeviceFingerprint w s = .ok fingerprint s := by
  rcases h with hstable | ⟨hstable, hstored, hvalid⟩
  · rw [loadOrCreateDeviceFingerprint, hstable]
    exact pure_eq_ok.mpr ⟨rfl, rfl⟩
  · simp only [loadOrCreateDeviceFingerprint, hstable, bind_eq_ok, getSecret_eq_ok]
    refine ⟨_, s, ⟨hget, rfl, rfl⟩, ?_⟩
    simp only [hstored, hvalid, ite_true, pure_eq_ok, and_self]

/-- A request that passes the gate of a node that insists on signatures: the installed lease has
passed every check, with the fingerprint that the node has then. -/
lemma requireValidLeaseWithFeature_ok (hunsigned : s.config.allowUnsignedLease = false) :
    requireValidLeaseWithFeature x w feature s = .ok () s' ↔
    ∃ lease fingerprint s₁, loadCloudLease x w s = .ok lease s₁ ∧
      loadOrCreateDeviceFingerprint w s₁ = .ok fingerprint s' ∧
      validateCloudLeaseWithFeature x w s.config lease feature = .ok () ∧
      lease.deviceId = deviceIdFor x.newV5 lease.userId fingerprint := by
  simp only [requireValidLeaseWithFeature, bind_eq_ok, get_eq_ok]
  constructor
  · rintro ⟨_, _, ⟨rfl, rfl⟩, h⟩
    simp only [hunsigned, Bool.and_false, Bool.false_eq_true, ite_false, bind_eq_ok,
      ofExcept_eq_ok, ensureLeaseBoundToDevice_ok] at h
    obtain ⟨lease, s₁, hload, _, _, ⟨hvalid, rfl⟩, fingerprint, _, hfingerprint, hbound, rfl⟩ := h
    exact ⟨lease, fingerprint, s₁, hload, hfingerprint, hvalid, hbound⟩
  · rintro ⟨lease, fingerprint, s₁, hload, hfingerprint, hvalid, hbound⟩
    refine ⟨s, s, ⟨rfl, rfl⟩, ?_⟩
    simp only [hunsigned, Bool.and_false, Bool.false_eq_true, ite_false, bind_eq_ok,
      ofExcept_eq_ok, ensureLeaseBoundToDevice_ok]
    exact ⟨lease, s₁, hload, (), s₁, ⟨hvalid, rfl⟩, fingerprint, s', hfingerprint, hbound, rfl⟩

/-! ## What the gate leaves alone -/

section Gate

variable {R : LocalState → LocalState → Prop}

/-- A fingerprint may be stored, and nothing else changes. -/
lemma moves_loadOrCreateDeviceFingerprint (hrefl : ∀ s, R s s)
    (htrans : ∀ a b c, R a b → R b c → R a c)
    (hsecret : ∀ (s : LocalState) (value : String),
      R s { s with secrets := s.secrets.insert secretDeviceFingerprint value }) :
    Moves R (loadOrCreateDeviceFingerprint w) := by
  have hmint : Moves R (loadOrCreateDeviceFingerprint.mint w) := by
    refine .bind htrans ?_ fun _ => .refl_of hrefl fun _ => rfl
    exact .bind htrans (.refl_of hrefl fun _ => finalState_refuseIf) fun _ s => hsecret s _
  rw [loadOrCreateDeviceFingerprint]
  cases w.stableMachineFingerprint with
  | some stable => exact .refl_of hrefl fun _ => rfl
  | none =>
    refine .bind htrans (.refl_of hrefl fun _ => finalState_getSecret) fun stored => ?_
    cases stored.map trim with
    | none => exact hmint
    | some value =>
      simp only
      split
      · exact .refl_of hrefl fun _ => rfl
      · exact hmint

/-- A lease may be cached, and nothing else changes. -/
lemma moves_loadCloudLease (hrefl : ∀ s, R s s) (htrans : ∀ a b c, R a b → R b c → R a c)
    (hcache : ∀ (s : LocalState) (lease : EntitlementLease),
      R s { s with cloudLeaseCache := some lease }) :
    Moves R (loadCloudLease x w) := by
  rw [loadCloudLease]
  refine .bind htrans (.refl_of hrefl fun _ => rfl) fun s => ?_
  cases s.cloudLeaseCache with
  | some lease => exact .refl_of hrefl fun _ => rfl
  | none =>
    refine .bind htrans (.refl_of hrefl fun _ => finalState_getSecret) fun bundle => ?_
    refine .bind htrans (.refl_of hrefl fun _ => finalState_okOr) fun _ => ?_
    refine .bind htrans (.refl_of hrefl fun _ => finalState_okOr) fun lease => ?_
    exact .bind htrans (fun s => hcache s lease) fun _ => .refl_of hrefl fun _ => rfl

/-- The gate caches a lease and stores a fingerprint at most. -/
lemma moves_requireValidLeaseWithFeature (hrefl : ∀ s, R s s)
    (htrans : ∀ a b c, R a b → R b c → R a c)
    (hcache : ∀ (s : LocalState) (lease : EntitlementLease),
      R s { s with cloudLeaseCache := some lease })
    (hsecret : ∀ (s : LocalState) (value : String),
      R s { s with secrets := s.secrets.insert secretDeviceFingerprint value }) :
    Moves R (requireValidLeaseWithFeature x w feature) := by
  rw [requireValidLeaseWithFeature]
  refine .bind htrans (.refl_of hrefl fun _ => rfl) fun s => ?_
  simp only
  split
  · exact .refl_of hrefl fun _ => rfl
  · refine .bind htrans (moves_loadCloudLease hrefl htrans hcache) fun lease => ?_
    refine .bind htrans (.refl_of hrefl fun _ => finalState_ofExcept _) fun _ => ?_
    refine .bind htrans (moves_loadOrCreateDeviceFingerprint hrefl htrans hsecret) fun _ => ?_
    exact .refl_of hrefl fun _ => finalState_ofExcept _

end Gate

end OzonSuite
