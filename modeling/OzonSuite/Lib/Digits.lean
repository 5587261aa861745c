/-
# Numbers in digits

The printed form of a number with a fixed number of hexadecimal digits, which determines the number,
and the bytes of a message printed in this form.  And reading a number that is written in decimal
digits, with or without a sign.
-/
import OzonSuite.Lib.Utf8

namespace Lib

/-! ## Hexadecimal digits -/

/-- The last `width` hexadecimal digits of a number, the most significant first, in lower
case. -/
def hexText : ℕ → ℕ → List Char
  | 0, _ => []
  | width + 1, n => hexText width (n / 16) ++ [Nat.digitChar (n % 16)]

@[simp] lemma hexText_length (width n : ℕ) : (hexText width n).length = width := by
  induction width generalizing n with
  | zero => rfl
  | succ width ih => simp [hexText, ih]

lemma digitChar_injOn {a b : ℕ} (ha : a < 16) (hb : b < 16)
    (h : Nat.digitChar a = Nat.digitChar b) : a = b := by
  have key : ∀ a < 16, ∀ b < 16, Nat.digitChar a = Nat.digitChar b → a = b := by decide
  exact key a ha b hb h

/-- Two numbers that fit the width and print alike are equal. -/
theorem hexText_injective {width a b : ℕ} (ha : a < 16 ^ width) (hb : b < 16 ^ width)
    (h : hexText width a = hexText width b) : a = b := by
  induction width generalizing a b with
  | zero =>
    simp only [pow_zero, Nat.lt_one_iff] at ha hb
    rw [ha, hb]
  | succ width ih =>
    obtain ⟨hhigh, hlow⟩ := List.append_inj' h rfl
    have hdiv : a / 16 = b / 16 := by
      refine ih ?_ ?_ hhigh
      · exact Nat.div_lt_of_lt_mul (by rwa [pow_succ'] at ha)
      · exact Nat.div_lt_of_lt_mul (by rwa [pow_succ'] at hb)
    have hmod : a % 16 = b % 16 :=
      digitChar_injOn (Nat.mod_lt _ (by norm_num)) (Nat.mod_lt _ (by norm_num))
        (by simpa using hlow)
    omega

/-- Every character of the printed form is a digit or one of the letters `a` to `f`. -/
lemma mem_hexText {width n : ℕ} {c : Char} (h : c ∈ hexText width n) :
    c ∈ "0123456789abcdef".toList := by
  have key : ∀ d < 16, Nat.digitChar d ∈ "0123456789abcdef".toList := by decide
  induction width generalizing n with
  | zero => simp [hexText] at h
  | succ width ih =>
    simp only [hexText, List.mem_append, List.mem_singleton] at h
    rcases h with h | rfl
    · exact ih h
    · exact key _ (Nat.mod_lt _ (by norm_num))

/-- Bytes in lower-case hexadecimal, two digits each. -/
def hexLower (bytes : Bytes) : String :=
  String.ofList (bytes.flatMap fun byte => hexText 2 byte.toNat)

lemma length_hexLower (bytes : Bytes) : (hexLower bytes).toList.length = 2 * bytes.length := by
  rw [hexLower, String.toList_ofList]
  induction bytes with
  | nil => rfl
  | cons byte bytes ih =>
    rw [List.flatMap_cons, List.length_append, ih, hexText_length, List.length_cons]
    omega

/-! ## Decimal digits -/

/-- The number that digits write, with or without a plus sign. -/
def parseUnsigned (s : String) : Option ℕ :=
  let digits :=
    match s.toList with
    | '+' :: digits => digits
    | digits => digits
  if digits = [] || digits.any (fun d => !d.isDigit) then none
  else some (Nat.ofDigitChars 10 digits 0)

lemma parseUnsigned_toString (n : ℕ) : parseUnsigned (toString n) = some n := by
  have hdigits : (toString n).toList = Nat.toDigits 10 n := Nat.toList_repr
  have hall : ∀ c ∈ Nat.toDigits 10 n, c.isDigit = true := fun c hc =>
    Nat.isDigit_of_mem_toDigits (by norm_num) (by norm_num) hc
  have hany : (Nat.toDigits 10 n).any (fun d => !d.isDigit) = false := by
    rw [List.any_eq_false]
    intro c hc
    simp [hall c hc]
  have hplus : (match Nat.toDigits 10 n with | '+' :: digits => digits | digits => digits) =
      Nat.toDigits 10 n := by
    split
    · next digits h =>
      have hsign := hall '+' (by rw [h]; simp)
      exact absurd hsign (by decide)
    · rfl
  simp only [parseUnsigned, hdigits, hplus, hany, decide_eq_false Nat.toDigits_ne_nil,
    Bool.or_self, Bool.false_eq_true, if_false, Nat.ofDigitChars_ten_toDigits]

/-- A signed number of 64 bits, as Rust parses it. -/
def parseI64 (s : String) : Option ℤ :=
  let (negative, digits) : Bool × List Char :=
    match s.toList with
    | '-' :: digits => (true, digits)
    | '+' :: digits => (false, digits)
    | digits => (false, digits)
  if digits = [] || digits.any (fun d => !d.isDigit) then none
  else
    let n : ℤ := digits.foldl (fun n d => 10 * n + (d.toNat - 48 : ℕ)) 0
    let n := if negative then -n else n
    if -2 ^ 63 ≤ n ∧ n < 2 ^ 63 then some n else none

/-- A number without a sign is read as the same number where a sign is allowed. -/
lemma parseI64_of_parseUnsigned {s : String} {n : ℕ} (h : parseUnsigned s = some n) :
    parseI64 s = if n < 2 ^ 63 then some (n : ℤ) else none := by
  have hfold : ∀ (digits : List Char) (m : ℕ),
      digits.foldl (fun (n : ℤ) d => 10 * n + (d.toNat - 48 : ℕ)) (m : ℤ) =
        (Nat.ofDigitChars 10 digits m : ℤ) := by
    intro digits
    induction digits with
    | nil => intro m; rfl
    | cons d digits ih =>
      intro m
      rw [List.foldl_cons, Nat.ofDigitChars_cons, ← ih]
      push_cast
      rfl
  have hrest : ∀ digits : List Char,
      (if digits = [] || digits.any (fun d => !d.isDigit) then none
        else some (Nat.ofDigitChars 10 digits 0)) = some n →
      (if digits = [] || digits.any (fun d => !d.isDigit) then none
        else
          let k : ℤ := digits.foldl (fun (n : ℤ) d => 10 * n + (d.toNat - 48 : ℕ)) 0
          let k := if false then -k else k
          if -2 ^ 63 ≤ k ∧ k < 2 ^ 63 then some k else none) =
        if n < 2 ^ 63 then some (n : ℤ) else none := by
    intro digits hdigits
    split at hdigits
    · cases hdigits
    next hok =>
      obtain rfl := Option.some_inj.mp hdigits
      have hvalue := hfold digits 0
      rw [Nat.cast_zero] at hvalue
      simp only [if_neg hok, hvalue, Bool.false_eq_true, if_false]
      refine if_congr ?_ rfl rfl
      omega
  unfold parseUnsigned at h
  unfold parseI64
  generalize s.toList = chars at h ⊢
  split at h
  · exact hrest _ h
  next _ hplus =>
    split
    next negative digits hsign =>
      split at hsign
      · -- a minus sign is not a digit
        simp at h
      · exact absurd rfl (hplus _)
      · obtain ⟨rfl, rfl⟩ := Prod.mk.inj hsign
        exact hrest _ h

end Lib
