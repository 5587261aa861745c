/-
# The signature of a Stripe webhook

Stripe signs a webhook in a header of comma-separated parts: a time, and one or more signatures of
the time and the body.  The service accepts a webhook whose time is near and one of whose signatures
is right.  The parts may stand in any order and be repeated, and the time is whatever the header
says, so the arithmetic that compares it with the clock meets every number of 64 bits.
-/
import OzonSuite.Lib.AsciiText
import OzonSuite.Lib.Digits
import OzonSuite.Lib.Effects
import OzonSuite.Lib.Pieces
import OzonSuite.Services

namespace OzonSuite

open Lib

/-- What the service takes from a library to check a signature: HMAC-SHA256, for keys of any
length. -/
structure StripeCrates where
  hmacSha256 : (key message : Bytes) → Vector UInt8 32

/-! ## The check -/

/-- The key and the value of a part. -/
def stripeItem (part : String) : Option (String × String) := splitOnce '=' (trim part)

/-- Read one part of the header, with the time and the signatures read so far. -/
def readStripePart (read : Option ℤ × List String) (part : String) : Option ℤ × List String :=
  match stripeItem part with
  | none => read
  | some (key, value) =>
    if key = "t" then (parseI64 value, read.2)
    else if key = "v1" ∧ trim value ≠ "" then (read.1, read.2 ++ [trim value])
    else read

/-- The parts of a header. -/
def stripeParts (header : String) : List String := (header.toList.splitOn ',').map String.ofList

/-- The time and the signatures of a header. -/
def parseStripeSignatureHeader (header : String) : Except ApiError (ℤ × List String) := do
  let (timestamp, signatures) := (stripeParts header).foldl readStripePart (none, [])
  let timestamp ← okOr timestamp (ApiError.badRequest "missing Stripe timestamp")
  refuseIf (signatures = []) (ApiError.badRequest "missing Stripe v1 signature")
  return (timestamp, signatures)

/-- The signature that a time and a body should have. -/
def expectedStripeSignature (x : StripeCrates) (timestamp : ℤ) (body : Bytes) (secret : String) :
    String :=
  hexLower (x.hmacSha256 (utf8Bytes secret)
    (utf8Bytes (toString timestamp) ++ utf8Bytes "." ++ body)).toList

/-- `verify_stripe_signature`, when the clock shows `now`; none if it panics. -/
def verifyStripeSignature (x : StripeCrates) (profile : BuildProfile) (p : PointerWidth) (now : ℤ)
    (header : String) (body : Bytes) (secret : String) : Option (Except ApiError Unit) :=
  match parseStripeSignatureHeader header with
  | .error e => some (.error e)
  | .ok (timestamp, signatures) => (profile.absDiff now timestamp).map fun age => do
    refuseIf (300 < age) (ApiError.badRequest "stale Stripe webhook signature")
    let expected := expectedStripeSignature x timestamp body secret
    refuseIf (signatures.any (Cloud.constantTimeEq p · expected) = false)
      (ApiError.badRequest "invalid Stripe webhook signature")

/-! ## What a header says -/

/-- The keys of a header with their values. -/
def stripeItems (header : String) : List (String × String) :=
  (stripeParts header).filterMap stripeItem

/-- The values of a key, in their order. -/
def stripeValues (key header : String) : List String :=
  ((stripeItems header).filter (·.1 = key)).map (·.2)

/-- The last time of a header, if it can be read. -/
def lastTimestamp (header : String) : Option ℤ := (stripeValues "t" header).getLast?.bind parseI64

/-- The signatures of a header that are not blank. -/
def v1Signatures (header : String) : List String :=
  ((stripeValues "v1" header).map trim).filter (· ≠ "")

/-- The time of the header is near, and one of its signatures is the right one. -/
def SignatureValid (x : StripeCrates) (now : ℤ) (header : String) (body : Bytes)
    (secret : String) : Prop :=
  ∃ timestamp, lastTimestamp header = some timestamp ∧ |now - timestamp| ≤ 300 ∧
    ∃ signature ∈ v1Signatures header,
      signature = expectedStripeSignature x timestamp body secret

/-- Just the valid signatures are accepted, however the service was built, and no arithmetic
overflows on the way. -/
def VerifiesExactly (x : StripeCrates) (p : PointerWidth) (now : ℤ) (header : String)
    (body : Bytes) (secret : String) : Prop :=
  (∀ profile, verifyStripeSignature x profile p now header body secret = some (.ok ()) ↔
    SignatureValid x now header body secret) ∧
  verifyStripeSignature x .checked p now header body secret ≠ none

/-- The difference of the clock and the time of a header with signatures, where there is one, can be
taken in 64 bits, with its absolute value. -/
def ComparableTime (now : ℤ) (header : String) : Prop :=
  v1Signatures header ≠ [] → ∀ timestamp ∈ lastTimestamp header, |now - timestamp| < 2 ^ 63

/-! ## Reading the header -/

section Header

variable {header : String}

/-- **What the loop over the parts has read.** -/
lemma foldl_readStripePart (parts : List String) :
    parts.foldl readStripePart (none, []) =
      let items := parts.filterMap stripeItem
      (((items.filter (·.1 = "t")).map (·.2)).getLast?.bind parseI64,
        (((items.filter (·.1 = "v1")).map (·.2)).map trim).filter (· ≠ "")) := by
  induction parts using List.reverseRecOn with
  | nil => rfl
  | append_singleton parts part ih =>
    rw [List.foldl_append, List.foldl_cons, List.foldl_nil, ih, readStripePart]
    dsimp only
    rw [List.filterMap_append]
    cases hsplit : stripeItem part with
    | none =>
      rw [List.filterMap_cons_none hsplit]
      simp
    | some item =>
      obtain ⟨key, value⟩ := item
      rw [List.filterMap_cons_some hsplit, List.filterMap_nil]
      dsimp only
      by_cases ht : key = "t"
      · subst ht
        simp
      · by_cases hv : key = "v1"
        · subst hv
          by_cases hblank : trim value = "" <;> simp [hblank]
        · simp [ht, hv]

lemma parseStripeSignatureHeader_eq_ok {timestamp : ℤ} {signatures : List String} :
    parseStripeSignatureHeader header = .ok (timestamp, signatures) ↔
      lastTimestamp header = some timestamp ∧ v1Signatures header = signatures ∧
        signatures ≠ [] := by
  rw [parseStripeSignatureHeader, foldl_readStripePart]
  simp only [Except.bind_eq_ok, Except.okOr_eq_ok, Except.refuseIf_eq_ok]
  constructor
  · rintro ⟨t, ht, _, hne, heq⟩
    obtain ⟨rfl, rfl⟩ := Prod.mk.inj (Except.ok.inj heq)
    exact ⟨ht, rfl, hne⟩
  · rintro ⟨ht, rfl, hne⟩
    exact ⟨timestamp, ht, (), hne, rfl⟩

/-- A signature stands in the header. -/
lemma v1Signatures_sublist {signature : String} (h : signature ∈ v1Signatures header) :
    signature.toList.Sublist header.toList := by
  have hmem := List.mem_of_mem_filter h
  simp only [stripeValues, List.map_map, List.mem_map, stripeItems, stripeParts, List.mem_filter,
    List.mem_filterMap] at hmem
  obtain ⟨⟨key, value⟩, ⟨⟨part, ⟨chars, hchars, rfl⟩, hsplit⟩, -⟩, rfl⟩ := hmem
  have hpart : chars.Sublist header.toList :=
    (InOrder.isInfix (InOrder.splitOnP (· == ',') header.toList) hchars).sublist
  have htrim : (trim (String.ofList chars)).toList.Sublist chars := by
    simpa using trim_sublist (String.ofList chars)
  exact (trim_sublist value).trans ((splitOnce_sublist hsplit).trans (htrim.trans hpart))

end Header

/-! ## Comparing the signatures -/

section Signatures

variable {x : StripeCrates} {p : PointerWidth}

/-- The expected signature has 64 characters, and no machine is too small for it. -/
lemma length_expectedStripeSignature_lt (timestamp : ℤ) (body : Bytes) (secret : String) :
    (utf8Bytes (expectedStripeSignature x timestamp body secret)).length < 2 ^ p.bits := by
  have hbytes := length_utf8Bytes_le (expectedStripeSignature x timestamp body secret)
  have hlen : (expectedStripeSignature x timestamp body secret).toList.length = 64 := by
    rw [expectedStripeSignature, length_hexLower, Vector.length_toList]
  have hsmall : 4 * 64 < 2 ^ p.bits := by cases p <;> decide
  omega

/-- The comparison of a signature of the header is exact. -/
lemma constantTimeEq_signature {header : Str p} {signature : String}
    (h : signature ∈ v1Signatures header.text) (timestamp : ℤ) (body : Bytes) (secret : String) :
    Cloud.constantTimeEq p signature (expectedStripeSignature x timestamp body secret) = true ↔
      signature = expectedStripeSignature x timestamp body secret := by
  have hlen : (utf8Bytes signature).length ≤ (utf8Bytes header.text).length :=
    ((v1Signatures_sublist h).flatMap String.utf8EncodeChar).length_le
  rw [Cloud.constantTimeEq, foldedEq_iff (lt_of_le_of_lt hlen header.length_lt)
    (length_expectedStripeSignature_lt timestamp body secret), utf8Bytes_injective.eq_iff]

end Signatures

/-! ## The verification -/

section Verification

variable {x : StripeCrates} {profile : BuildProfile} {p : PointerWidth} {now : ℤ} {header : Str p}
  {body : Bytes} {secret : String}

/-- A header without a time or without signatures is refused before anything is computed. -/
lemma verifyStripeSignature_of_unread
    (h : lastTimestamp header.text = none ∨ v1Signatures header.text = []) :
    ∃ e, verifyStripeSignature x profile p now header.text body secret = some (.error e) := by
  cases hparse : parseStripeSignatureHeader header.text with
  | error e => exact ⟨e, by rw [verifyStripeSignature, hparse]⟩
  | ok read =>
    obtain ⟨timestamp, signatures⟩ := read
    obtain ⟨ht, rfl, hne⟩ := parseStripeSignatureHeader_eq_ok.mp hparse
    rcases h with h | h
    · rw [h] at ht
      cases ht
    · exact absurd h hne

/-- **Where the difference can be taken**, the verification decides what it is to decide. -/
lemma verifyStripeSignature_iff {timestamp : ℤ} (ht : lastTimestamp header.text = some timestamp)
    (hne : v1Signatures header.text ≠ []) (hdiff : |now - timestamp| < 2 ^ 63) :
    verifyStripeSignature x profile p now header.text body secret = some (.ok ()) ↔
      SignatureValid x now header.text body secret := by
  have hparse := parseStripeSignatureHeader_eq_ok.mpr ⟨ht, rfl, hne⟩
  have hany : (v1Signatures header.text).any (Cloud.constantTimeEq p ·
      (expectedStripeSignature x timestamp body secret)) = true ↔
      ∃ signature ∈ v1Signatures header.text,
        signature = expectedStripeSignature x timestamp body secret := by
    rw [List.any_eq_true]
    refine exists_congr fun signature => and_congr_right fun hmem => ?_
    exact constantTimeEq_signature hmem timestamp body secret
  rw [verifyStripeSignature, hparse]
  dsimp only
  rw [absDiff_of_lt hdiff, Option.map_some, Option.some_inj]
  simp only [Except.bind_eq_ok, Except.refuseIf_eq_ok, Bool.not_eq_false, hany, not_lt]
  constructor
  · rintro ⟨_, hage, hsignature⟩
    exact ⟨timestamp, ht, hage, hsignature⟩
  · rintro ⟨t, ht', hage, hsignature⟩
    obtain rfl : timestamp = t := Option.some.inj (ht.symm.trans ht')
    exact ⟨(), hage, hsignature⟩

/-- A checked service panics just when the difference cannot be taken. -/
lemma verifyStripeSignature_checked_eq_none {timestamp : ℤ}
    (ht : lastTimestamp header.text = some timestamp) (hne : v1Signatures header.text ≠ []) :
    verifyStripeSignature x .checked p now header.text body secret = none ↔
      2 ^ 63 ≤ |now - timestamp| := by
  have hparse := parseStripeSignatureHeader_eq_ok.mpr ⟨ht, rfl, hne⟩
  rw [verifyStripeSignature, hparse]
  dsimp only
  rw [Option.map_eq_none_iff, absDiff_checked_eq_none_iff]

/-- **Exact acceptance.**  Just the valid signatures are accepted, in a checked and in a wrapping
build, and nothing overflows, if and only if the time of the header can be compared with the
clock. -/
theorem verifies_exactly_iff (x : StripeCrates) (p : PointerWidth) (now : ℤ) (header : Str p)
    (body : Bytes) (secret : String) :
    VerifiesExactly x p now header.text body secret ↔ ComparableTime now header.text := by
  constructor
  · rintro ⟨-, hpanic⟩ hne timestamp ht
    by_contra hfar
    exact hpanic ((verifyStripeSignature_checked_eq_none ht hne).mpr (not_lt.mp hfar))
  · intro h
    by_cases hread : lastTimestamp header.text = none ∨ v1Signatures header.text = []
    · refine ⟨fun profile => ?_, ?_⟩
      · obtain ⟨e, he⟩ : ∃ e, verifyStripeSignature x profile p now header.text body secret =
            some (.error e) := verifyStripeSignature_of_unread hread
        rw [he]
        refine iff_of_false (by simp) ?_
        rintro ⟨timestamp, ht, -, signature, hmem, -⟩
        rcases hread with hread | hread
        · rw [hread] at ht
          cases ht
        · rw [hread] at hmem
          cases hmem
      · obtain ⟨e, he⟩ : ∃ e, verifyStripeSignature x .checked p now header.text body secret =
            some (.error e) := verifyStripeSignature_of_unread hread
        rw [he]
        exact Option.some_ne_none _
    · obtain ⟨ht, hne⟩ := not_or.mp hread
      obtain ⟨timestamp, ht⟩ := Option.ne_none_iff_exists'.mp ht
      have hdiff := h hne timestamp ht
      refine ⟨fun profile => verifyStripeSignature_iff ht hne hdiff, fun hpanic => ?_⟩
      exact absurd hdiff (not_lt.mpr ((verifyStripeSignature_checked_eq_none ht hne).mp hpanic))

/-- The time of this header is the least number of 64 bits: a checked service panics. -/
theorem least_timestamp_overflows :
    ¬ ∀ (x : StripeCrates) (p : PointerWidth) (now : ℤ) (header : Str p) (body : Bytes)
      (secret : String), VerifiesExactly x p now header.text body secret := by
  intro h
  let header : Str .bits64 := ⟨"t=-9223372036854775808,v1=00", by decide⟩
  obtain ⟨-, hpanic⟩ := h ⟨fun _ _ => .replicate 32 0⟩ .bits64 1700000000 header [] "whsec"
  have hleast : lastTimestamp header.text = some (-2 ^ 63) := by decide +kernel
  have hsigned : v1Signatures header.text ≠ [] := by decide +kernel
  exact hpanic ((verifyStripeSignature_checked_eq_none hleast hsigned).mpr (by norm_num))

end Verification

end OzonSuite
