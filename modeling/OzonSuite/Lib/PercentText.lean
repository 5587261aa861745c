/-
# Percent-encoding

A byte that may not stand in a text as it is stands there as a percent sign and two hexadecimal
digits.  What is kept is a parameter: the parts of a URL keep different characters.  What is encoded
can be read back, and a text of kept characters is its own encoding.
-/
import OzonSuite.Lib.Utf8

namespace Lib

/-! ## Digits -/

/-- A hexadecimal digit, in upper case. -/
def upperHexDigit (n : ℕ) : Char :=
  if n < 10 then Char.ofNat ('0'.toNat + n) else Char.ofNat ('A'.toNat + (n - 10))

/-- The value of a hexadecimal digit, in upper or lower case. -/
def hexDigitValue (c : Char) : Option ℕ :=
  if '0' ≤ c ∧ c ≤ '9' then some (c.toNat - '0'.toNat)
  else if 'A' ≤ c ∧ c ≤ 'F' then some (c.toNat - 'A'.toNat + 10)
  else if 'a' ≤ c ∧ c ≤ 'f' then some (c.toNat - 'a'.toNat + 10)
  else none

lemma hexDigitValue_upperHexDigit {n : ℕ} (hn : n < 16) :
    hexDigitValue (upperHexDigit n) = some n := by
  have key : ∀ n < 16, hexDigitValue (upperHexDigit n) = some n := by decide
  exact key n hn

lemma upperHexDigit_mem {n : ℕ} (hn : n < 16) : upperHexDigit n ∈ "0123456789ABCDEF".toList := by
  have key : ∀ n < 16, upperHexDigit n ∈ "0123456789ABCDEF".toList := by decide
  exact key n hn

/-! ## Encoding and decoding -/

/-- A byte behind a percent sign. -/
def percentByte (b : UInt8) : List Char :=
  ['%', upperHexDigit (b.toNat / 16), upperHexDigit (b.toNat % 16)]

/-- The bytes as a text in which those that are kept stand as they are. -/
def percentEncode (keep : UInt8 → Bool) (bytes : Bytes) : List Char :=
  bytes.flatMap fun b => if keep b then [Char.ofNat b.toNat] else percentByte b

/-- The bytes that a text stands for; a percent sign without two digits behind it is itself. -/
def percentDecode : List Char → Bytes
  | '%' :: high :: low :: rest =>
    match hexDigitValue high, hexDigitValue low with
    | some h, some l => UInt8.ofNat (16 * h + l) :: percentDecode rest
    | _, _ => String.utf8EncodeChar '%' ++ percentDecode (high :: low :: rest)
  | c :: rest => String.utf8EncodeChar c ++ percentDecode rest
  | [] => []

/-- The bytes that may be kept are those of characters that are one byte long and no percent
sign. -/
def Keepable (keep : UInt8 → Bool) : Prop := ∀ b, keep b = true → b.toNat < 128 ∧ b ≠ 0x25

/-- A character of one byte. -/
lemma utf8EncodeChar_byte {b : UInt8} (hb : b.toNat < 128) :
    String.utf8EncodeChar (Char.ofNat b.toNat) = [b] := by
  have key : ∀ n < 128, String.utf8EncodeChar (Char.ofNat n) = [UInt8.ofNat n] := by decide
  rw [key _ hb, UInt8.ofNat_toNat]

section RoundTrip

variable {keep : UInt8 → Bool}

lemma percentDecode_percentByte (b : UInt8) (rest : List Char) :
    percentDecode (percentByte b ++ rest) = b :: percentDecode rest := by
  have hb : b.toNat < 256 := UInt8.toNat_lt_size b
  have hhigh : hexDigitValue (upperHexDigit (b.toNat / 16)) = some (b.toNat / 16) :=
    hexDigitValue_upperHexDigit (by omega)
  have hlow : hexDigitValue (upperHexDigit (b.toNat % 16)) = some (b.toNat % 16) :=
    hexDigitValue_upperHexDigit (by omega)
  simp only [percentByte, List.cons_append, List.nil_append, percentDecode, hhigh, hlow]
  rw [Nat.div_add_mod, UInt8.ofNat_toNat]

lemma percentDecode_cons {c : Char} (hc : c ≠ '%') (rest : List Char) :
    percentDecode (c :: rest) = String.utf8EncodeChar c ++ percentDecode rest := by
  rw [percentDecode.eq_2]
  intro high low rest' heq
  exact absurd heq hc

/-- **What is encoded is read back.** -/
theorem percentDecode_percentEncode (hkeep : Keepable keep) (bytes : Bytes) (rest : List Char) :
    percentDecode (percentEncode keep bytes ++ rest) = bytes ++ percentDecode rest := by
  induction bytes with
  | nil => rfl
  | cons b bytes ih =>
    rw [percentEncode, List.flatMap_cons, ← percentEncode, List.append_assoc]
    by_cases hb : keep b = true
    · obtain ⟨hascii, hpercent⟩ := hkeep b hb
      have hc : Char.ofNat b.toNat ≠ '%' := fun heq => hpercent <| by
        have hbytes := utf8EncodeChar_byte hascii
        rw [heq] at hbytes
        exact (List.cons.inj hbytes).1.symm
      rw [if_pos hb, List.singleton_append, percentDecode_cons hc, utf8EncodeChar_byte hascii, ih]
      rfl
    · rw [if_neg hb, percentDecode_percentByte, ih, List.cons_append]

/-- A text of kept characters is its own encoding. -/
lemma percentEncode_of_forall {l : List Char}
    (h : ∀ c ∈ l, c.toNat < 128 ∧ keep (UInt8.ofNat c.toNat) = true) :
    percentEncode keep (l.flatMap String.utf8EncodeChar) = l := by
  induction l with
  | nil => rfl
  | cons c l ih =>
    obtain ⟨hascii, hc⟩ := h c List.mem_cons_self
    have hnat : (UInt8.ofNat c.toNat).toNat = c.toNat := toNat_byte (by omega)
    have hbytes : String.utf8EncodeChar c = [UInt8.ofNat c.toNat] := by
      have hbyte := utf8EncodeChar_byte (b := UInt8.ofNat c.toNat) (by omega)
      rwa [hnat, Char.ofNat_toNat] at hbyte
    rw [List.flatMap_cons, hbytes, List.singleton_append, percentEncode, List.flatMap_cons,
      ← percentEncode, ih fun d hd => h d (List.mem_cons_of_mem c hd), if_pos hc, hnat,
      Char.ofNat_toNat]
    rfl

/-- A character of an encoding is one that is kept, or belongs to an encoded byte. -/
lemma mem_percentEncode {bytes : Bytes} {c : Char} (h : c ∈ percentEncode keep bytes) :
    (∃ b, keep b = true ∧ c = Char.ofNat b.toNat) ∨ c ∈ "%0123456789ABCDEF".toList := by
  obtain ⟨b, -, hc⟩ := List.mem_flatMap.mp h
  split at hc
  · next hb => exact .inl ⟨b, hb, List.mem_singleton.mp hc⟩
  · have hb : b.toNat < 256 := UInt8.toNat_lt_size b
    have hdigit : ∀ n < 16, upperHexDigit n ∈ "%0123456789ABCDEF".toList :=
      fun n hn => List.mem_cons_of_mem '%' (upperHexDigit_mem hn)
    simp only [percentByte, List.mem_cons, List.not_mem_nil, or_false] at hc
    rcases hc with rfl | rfl | rfl
    · exact .inr List.mem_cons_self
    · exact .inr (hdigit _ (by omega))
    · exact .inr (hdigit _ (by omega))

/-- Encoding does not make a text shorter. -/
lemma length_le_percentEncode (bytes : Bytes) :
    bytes.length ≤ (percentEncode keep bytes).length := by
  induction bytes with
  | nil => exact le_rfl
  | cons b bytes ih =>
    rw [percentEncode, List.flatMap_cons, ← percentEncode, List.length_append, List.length_cons]
    have hone : 1 ≤ (if keep b = true then [Char.ofNat b.toNat] else percentByte b).length := by
      split <;> simp [percentByte]
    omega

end RoundTrip

end Lib
