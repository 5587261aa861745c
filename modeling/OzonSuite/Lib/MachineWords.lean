/-
# The words of a machine

Numbers of 64 bits with a sign, whose arithmetic panics or wraps around as a program was built.  And
a comparison of bytes that is not to tell where they part: it reads both to the end of the longer
one and collects in one word what it has seen to differ, the lengths first.  That word is as wide as
a pointer, and no text in the memory of a machine is too long for it.
-/
import OzonSuite.Lib.Utf8

namespace Lib

/-! ## Arithmetic that may overflow -/

/-- How a program was built: with checks for overflow, or without. -/
inductive BuildProfile
  | checked
  | wrapping
deriving DecidableEq

/-- What comes of a result out of range: a checked program panics. -/
def BuildProfile.overflow : BuildProfile → ℤ → Option ℤ
  | .checked, _ => none
  | .wrapping, n => some (n.bmod (2 ^ 64))

/-- A result of arithmetic in `i64`. -/
def BuildProfile.i64 (profile : BuildProfile) (n : ℤ) : Option ℤ :=
  if -2 ^ 63 ≤ n ∧ n < 2 ^ 63 then some n else profile.overflow n

/-- `(a - b).abs()`. -/
def BuildProfile.absDiff (profile : BuildProfile) (a b : ℤ) : Option ℤ :=
  (profile.i64 (a - b)).bind fun difference => profile.i64 |difference|

section Overflow

variable {profile : BuildProfile} {a b n : ℤ}

lemma i64_of_mem (hlow : -2 ^ 63 ≤ n) (hhigh : n < 2 ^ 63) : profile.i64 n = some n := by
  rw [BuildProfile.i64, if_pos ⟨hlow, hhigh⟩]

lemma absDiff_of_lt (h : |a - b| < 2 ^ 63) : profile.absDiff a b = some |a - b| := by
  obtain ⟨hlow, hhigh⟩ := abs_lt.mp h
  have hnonneg := abs_nonneg (a - b)
  rw [BuildProfile.absDiff, i64_of_mem (by omega) hhigh, Option.bind_some,
    i64_of_mem (by omega) h]

/-- **When a checked program panics.** -/
theorem absDiff_checked_eq_none_iff :
    BuildProfile.checked.absDiff a b = none ↔ 2 ^ 63 ≤ |a - b| := by
  constructor
  · intro h
    by_contra hlt
    rw [absDiff_of_lt (not_le.mp hlt)] at h
    cases h
  · intro h
    rw [BuildProfile.absDiff, BuildProfile.i64]
    split_ifs with hmem
    · -- the difference is the least number, which has no absolute value
      rw [Option.bind_some, BuildProfile.i64, if_neg (by omega)]
      rfl
    · rfl

end Overflow

/-! ## Comparing bytes without stopping early -/

/-- The widths that the pointers of a machine have, and its lengths. -/
inductive PointerWidth
  | bits16
  | bits32
  | bits64
deriving DecidableEq

/-- The width in bits. -/
def PointerWidth.bits : PointerWidth → ℕ
  | .bits16 => 16
  | .bits32 => 32
  | .bits64 => 64

/-- A text in the memory of a machine: no object is longer than the largest offset. -/
structure Str (p : PointerWidth) where
  text : String
  fits : (utf8Bytes text).length < 2 ^ (p.bits - 1)

/-- Whether the bytes are equal.  What differs is collected in `diff`; the shorter bytes count as
continued by zeros. -/
def foldedEq (p : PointerWidth) (left right : Bytes) : Bool :=
  let max := max left.length right.length
  let diff := (List.range max).foldl
    (fun diff index =>
      diff ||| ((left.getD index 0) ^^^ (right.getD index 0)).toBitVec.setWidth p.bits)
    (BitVec.ofNat p.bits left.length ^^^ BitVec.ofNat p.bits right.length)
  diff == 0

section FoldedEq

variable {p : PointerWidth} {left right : Bytes}

lemma PointerWidth.eight_le_bits : 8 ≤ p.bits := by cases p <;> decide

/-- A byte is not lost in a word. -/
lemma setWidth_eq_zero_iff {b : UInt8} : b.toBitVec.setWidth p.bits = 0 ↔ b = 0 := by
  have hwide : b.toNat < 2 ^ p.bits :=
    lt_of_lt_of_le b.toNat_lt (Nat.pow_le_pow_right (by decide) PointerWidth.eight_le_bits)
  constructor
  · intro h
    have hnat := congrArg BitVec.toNat h
    rw [BitVec.toNat_setWidth, UInt8.toNat_toBitVec, Nat.mod_eq_of_lt hwide] at hnat
    exact UInt8.toNat_inj.mp (by simpa using hnat)
  · rintro rfl
    simp

/-- **The invariant of the loop.**  Nothing has differed so far just if the word is zero. -/
lemma foldl_diff_eq_zero (diff : BitVec p.bits) (indices : List ℕ) :
    indices.foldl (fun diff index =>
      diff ||| ((left.getD index 0) ^^^ (right.getD index 0)).toBitVec.setWidth p.bits) diff = 0 ↔
      diff = 0 ∧ ∀ index ∈ indices, left.getD index 0 = right.getD index 0 := by
  induction indices generalizing diff with
  | nil => simp
  | cons index indices ih =>
    rw [List.foldl_cons, ih, List.forall_mem_cons, ← and_assoc]
    refine and_congr_left fun _ => ?_
    rw [← UInt8.xor_eq_zero_iff, ← setWidth_eq_zero_iff (p := p)]
    exact BitVec.or_eq_zero_iff

/-- Lengths that fit into a word are equal when the word does not tell them apart. -/
lemma ofNat_xor_eq_zero_iff {w m n : ℕ} (hm : m < 2 ^ w) (hn : n < 2 ^ w) :
    BitVec.ofNat w m ^^^ BitVec.ofNat w n = 0 ↔ m = n := by
  refine BitVec.xor_eq_zero_iff.trans ?_
  constructor
  · intro h
    have hnat := congrArg BitVec.toNat h
    rwa [BitVec.toNat_ofNat, BitVec.toNat_ofNat, Nat.mod_eq_of_lt hm, Nat.mod_eq_of_lt hn] at hnat
  · rintro rfl
    rfl

/-- **The comparison decides equality** of bytes whose lengths fit into a word. -/
theorem foldedEq_iff (hleft : left.length < 2 ^ p.bits) (hright : right.length < 2 ^ p.bits) :
    foldedEq p left right = true ↔ left = right := by
  rw [foldedEq, beq_iff_eq, foldl_diff_eq_zero, ofNat_xor_eq_zero_iff hleft hright]
  constructor
  · rintro ⟨hlen, hall⟩
    refine List.ext_getElem hlen fun i hi hi' => ?_
    have hbyte := hall i (by simp [hi])
    rwa [List.getD_eq_getElem _ _ hi, List.getD_eq_getElem _ _ hi'] at hbyte
  · rintro rfl
    exact ⟨rfl, fun _ _ => rfl⟩

/-- Nothing differs just if nothing has been collected. -/
lemma foldl_or_eq_zero (l : List (UInt8 × UInt8)) (diff : UInt8) :
    l.foldl (fun diff ab => diff ||| (ab.1 ^^^ ab.2)) diff = 0 ↔
      diff = 0 ∧ ∀ ab ∈ l, ab.1 = ab.2 := by
  induction l generalizing diff with
  | nil => simp
  | cons ab l ih =>
    rw [List.foldl_cons, ih, UInt8.or_eq_zero_iff, UInt8.xor_eq_zero_iff, List.forall_mem_cons,
      and_assoc]

lemma Str.length_lt (s : Str p) : (utf8Bytes s.text).length < 2 ^ p.bits :=
  lt_of_lt_of_le s.fits (Nat.pow_le_pow_right (by decide) (Nat.sub_le _ _))

/-- A folded comparison of texts in the memory of a machine is exact. -/
lemma foldedEq_str_iff (left right : Str p) :
    foldedEq p (utf8Bytes left.text) (utf8Bytes right.text) = true ↔ left.text = right.text := by
  rw [foldedEq_iff left.length_lt right.length_lt, utf8Bytes_injective.eq_iff]

end FoldedEq

end Lib
