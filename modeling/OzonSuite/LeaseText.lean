/-
# The text of the claims of a lease

The compact JSON text of `EntitlementLeaseClaims`, as the derived serializer writes it.  The
claims can be read off from it, so a signature on the text is a signature on the claims.
-/
import OzonSuite.Domain
import OzonSuite.Lib.JsonText
import OzonSuite.Lib.Rfc3339

namespace OzonSuite

open Lib

/-- The serialized name of a feature. -/
def featureText : Feature → String
  | .ozonRead => "ozon_read"
  | .ozonWriteMock => "ozon_write_mock"
  | .draftImport1688Mock => "draft_import1688_mock"
  | .openClawBridge => "open_claw_bridge"
  | .localApproval => "local_approval"

lemma featureText_injective : Function.Injective featureText := by
  intro a b
  cases a <;> cases b <;> simp [featureText]

/-- An identifier as a JSON string. -/
def uuidJson (u : Uuid) : List Char := jsonString u.toString

/-- The features as an array of JSON strings. -/
def featuresJson (features : List Feature) : List Char :=
  jsonArray (fun f => jsonString (featureText f)) features

/-- The serialized form of an instant; `clock` says which instants of the calendar the integers
stand for. -/
def instantText (clock : Time ↪ UtcInstant) (t : Time) : String :=
  String.ofList (clock t).rfc3339

lemma instantText_injective (clock : Time ↪ UtcInstant) :
    Function.Injective (instantText clock) := by
  intro s t h
  exact clock.injective (UtcInstant.rfc3339_injective (String.ofList_injective h))

variable (timeText : Time → String)

/-- An instant as a JSON string. -/
def timeJson (t : Time) : List Char := jsonString (timeText t)

/-- The claims as a JSON object, with the times written by `timeText`. -/
def EntitlementLeaseClaims.json (claims : EntitlementLeaseClaims) : List Char :=
  jsonPiece r#"{"lease_id":"# ++ (uuidJson claims.leaseId ++
  (jsonPiece r#","tenant_id":"# ++ (uuidJson claims.tenantId.uuid ++
  (jsonPiece r#","user_id":"# ++ (uuidJson claims.userId.uuid ++
  (jsonPiece r#","device_id":"# ++ (uuidJson claims.deviceId.uuid ++
  (jsonPiece r#","entitlement_id":"# ++ (uuidJson claims.entitlementId.uuid ++
  (jsonPiece r#","features":"# ++ (featuresJson claims.features ++
  (jsonPiece r#","issued_at":"# ++ (timeJson timeText claims.issuedAt ++
  (jsonPiece r#","expires_at":"# ++ (timeJson timeText claims.expiresAt ++
  jsonPiece r#"}"#)))))))))))))))

lemma uuidJson_prefixCode : PrefixCode uuidJson :=
  jsonString_prefixCode.comp Uuid.toString_injective

lemma featuresJson_prefixCode : PrefixCode featuresJson :=
  jsonArray_prefixCode (jsonString_prefixCode.comp featureText_injective)
    fun f x y h => by simp [jsonString] at h

variable {timeText}

lemma timeJson_prefixCode (h : Function.Injective timeText) : PrefixCode (timeJson timeText) :=
  jsonString_prefixCode.comp h

/-- **The text of the claims determines the claims**, if the text of an instant determines the
instant. -/
theorem claimsJson_prefixCode (h : Function.Injective timeText) :
    PrefixCode (EntitlementLeaseClaims.json timeText) := by
  intro a b x y hxy
  simp only [EntitlementLeaseClaims.json, List.append_assoc] at hxy
  obtain ⟨hlease, hxy⟩ := uuidJson_prefixCode.field hxy
  obtain ⟨htenant, hxy⟩ := uuidJson_prefixCode.field hxy
  obtain ⟨huser, hxy⟩ := uuidJson_prefixCode.field hxy
  obtain ⟨hdevice, hxy⟩ := uuidJson_prefixCode.field hxy
  obtain ⟨hentitlement, hxy⟩ := uuidJson_prefixCode.field hxy
  obtain ⟨hfeatures, hxy⟩ := featuresJson_prefixCode.field hxy
  obtain ⟨hissued, hxy⟩ := (timeJson_prefixCode h).field hxy
  obtain ⟨hexpires, hxy⟩ := (timeJson_prefixCode h).field hxy
  refine ⟨?_, List.append_cancel_left hxy⟩
  rw [EntitlementLeaseClaims.ext_iff, TenantId.ext_iff, UserId.ext_iff, DeviceId.ext_iff,
    EntitlementId.ext_iff]
  exact ⟨hlease, htenant, huser, hdevice, hentitlement, hfeatures, hissued, hexpires⟩

end OzonSuite
