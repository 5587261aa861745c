/-
# White space and letter case

`trim` removes the characters with the Unicode property `White_Space` from both ends of a text;
the case functions touch the 26 letters of ASCII only.
-/
import OzonSuite.Lib.PlainText

namespace Lib

/-- The characters with the Unicode property `White_Space`. -/
def isWhitespace (c : Char) : Bool :=
  let n := c.toNat
  (9 ≤ n && n ≤ 13) || n == 0x20 || n == 0x85 || n == 0xA0 || n == 0x1680 ||
    (0x2000 ≤ n && n ≤ 0x200A) || n == 0x2028 || n == 0x2029 || n == 0x202F || n == 0x205F ||
    n == 0x3000

/-- The text without white space at its ends. -/
def trim (s : String) : String := trimText isWhitespace s

lemma trim_trim (s : String) : trim (trim s) = trim s := trimText_trimText s

lemma trim_sublist (s : String) : (trim s).toList.Sublist s.toList := trimText_sublist s

/-- The text with the capital letters of ASCII made small. -/
def toAsciiLowercase (s : String) : String := String.ofList (s.toList.map Char.toLower)

/-- The text with the small letters of ASCII made capital. -/
def toAsciiUppercase (s : String) : String := String.ofList (s.toList.map Char.toUpper)

/-- Two texts that differ at most in the case of ASCII letters. -/
def eqIgnoreAsciiCase (s t : String) : Prop := toAsciiLowercase s = toAsciiLowercase t

lemma toAsciiLowercase_toAsciiLowercase (s : String) :
    toAsciiLowercase (toAsciiLowercase s) = toAsciiLowercase s := by
  simp only [toAsciiLowercase, String.toList_ofList, List.map_map]
  congr 1
  exact List.map_congr_left fun c _ => c.toLower_toLower_eq_toLower

lemma toAsciiLowercase_toAsciiUppercase (s : String) :
    toAsciiLowercase (toAsciiUppercase s) = toAsciiLowercase s := by
  simp only [toAsciiLowercase, toAsciiUppercase, String.toList_ofList, List.map_map]
  congr 1
  exact List.map_congr_left fun c _ => c.toLower_toUpper_eq_toLower

lemma toAsciiUppercase_toAsciiLowercase (s : String) :
    toAsciiUppercase (toAsciiLowercase s) = toAsciiUppercase s := by
  simp only [toAsciiLowercase, toAsciiUppercase, String.toList_ofList, List.map_map]
  congr 1
  exact List.map_congr_left fun c _ => c.toUpper_toLower_eq_toUpper

/-- Texts that agree in upper case agree in lower case. -/
lemma eqIgnoreAsciiCase_of_toAsciiUppercase {s t : String}
    (h : toAsciiUppercase s = toAsciiUppercase t) : eqIgnoreAsciiCase s t := by
  rw [eqIgnoreAsciiCase, ← toAsciiLowercase_toAsciiUppercase s, h,
    toAsciiLowercase_toAsciiUppercase]

/-- The letters and digits of ASCII, by their codes. -/
lemma isAlphanum_range {c : Char} (h : c.isAlphanum = true) :
    (48 ≤ c.toNat ∧ c.toNat ≤ 57) ∨ (65 ≤ c.toNat ∧ c.toNat ≤ 90) ∨
      (97 ≤ c.toNat ∧ c.toNat ≤ 122) := by
  simp only [Char.isAlphanum, Char.isAlpha, Char.isUpper, Char.isLower, Char.isDigit,
    Bool.or_eq_true, Bool.and_eq_true, decide_eq_true_eq, ge_iff_le, UInt32.le_iff_toNat_le] at h
  have hval : c.val.toNat = c.toNat := rfl
  have hupper : 'A'.val.toNat = 65 ∧ 'Z'.val.toNat = 90 := ⟨rfl, rfl⟩
  have hlower : 'a'.val.toNat = 97 ∧ 'z'.val.toNat = 122 := ⟨rfl, rfl⟩
  have hdigit : '0'.val.toNat = 48 ∧ '9'.val.toNat = 57 := ⟨rfl, rfl⟩
  rw [hval, hupper.1, hupper.2, hlower.1, hlower.2, hdigit.1, hdigit.2] at h
  omega

end Lib
