/-
# The signature on a lease

What the cloud signs of a lease, and under which names it puts the signature.
-/
import OzonSuite.Cloud.Service
import OzonSuite.LeaseText

namespace OzonSuite

open Lib

/-- The text that is signed for a lease: the issuer, the audience and the claims. -/
def leaseSigningPayload (x : Crates) (lease : EntitlementLease) (issuer audience : String) :
    List Char :=
  jsonPiece r#"{"issuer":"# ++ (jsonString issuer ++
  (jsonPiece r#","audience":"# ++ (jsonString audience ++
  (jsonPiece r#","claims":"# ++ (lease.claims.json x.timeText ++
  jsonPiece r#"}"#)))))

/-- The lease with its signature. -/
def signEntitlementLease (x : Crates) (config : AppConfig) (draw : Draw)
    (lease : EntitlementLease) : Except ApiError EntitlementLease :=
  match config.leaseSigningPrivateKeyPem with
  | none => .error (.serviceUnavailable "lease signing key is not configured")
  | some pem =>
    let payload := leaseSigningPayload x lease config.leaseIssuer config.leaseAudience
    match x.rsaSign pem (String.ofList payload) (draw.salt 0) with
    | none => .error (.serviceUnavailable "lease signing key is invalid")
    | some value => .ok { lease with
        signature := some
          { alg := "RS256"
            kid := config.leaseSigningKeyId
            issuer := config.leaseIssuer
            audience := config.leaseAudience
            value := value } }

/-- The signed text determines the issuer, the audience and the claims. -/
theorem leaseSigningPayload_inj {x : Crates} (h : Function.Injective x.timeText)
    {lease lease' : EntitlementLease} {issuer issuer' audience audience' : String}
    (heq : leaseSigningPayload x lease issuer audience =
      leaseSigningPayload x lease' issuer' audience') :
    issuer = issuer' ∧ audience = audience' ∧ lease.claims = lease'.claims := by
  simp only [leaseSigningPayload] at heq
  obtain ⟨hissuer, heq⟩ := jsonString_prefixCode.field heq
  obtain ⟨haudience, heq⟩ := jsonString_prefixCode.field heq
  obtain ⟨hclaims, -⟩ := (claimsJson_prefixCode h).field heq
  exact ⟨hissuer, haudience, hclaims⟩

lemma signEntitlementLease_ok {x : Crates} {config : AppConfig} {draw : Draw}
    {lease signed : EntitlementLease} (h : signEntitlementLease x config draw lease = .ok signed) :
    ∃ signature, signed = { lease with signature := some signature } ∧
      signature.issuer = config.leaseIssuer ∧ signature.audience = config.leaseAudience := by
  simp only [signEntitlementLease] at h
  split at h
  · cases h
  · split at h
    · cases h
    · cases h
      exact ⟨_, rfl, rfl, rfl⟩

end OzonSuite
