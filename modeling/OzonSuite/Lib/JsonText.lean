/-
# JSON text that can be read back

The compact text of JSON strings and arrays, and that it determines what was written.  The notion
that composes is that of a prefix code: the code of a value can be found, and the value read off,
at the front of any longer text.
-/
import Mathlib

namespace Lib

variable {α β : Type*}

/-- A prefix code: texts that begin with the codes of two values differ from these on, or begin
with the same value and go on alike. -/
def PrefixCode (enc : α → List Char) : Prop :=
  ∀ a b x y, enc a ++ x = enc b ++ y → a = b ∧ x = y

lemma PrefixCode.comp {enc : α → List Char} {f : β → α} (h : PrefixCode enc)
    (hf : Function.Injective f) : PrefixCode (enc ∘ f) := by
  intro a b x y hab
  obtain ⟨hfab, hxy⟩ := h (f a) (f b) x y hab
  exact ⟨hf hfab, hxy⟩

/-- Reading one value after a fixed text. -/
lemma PrefixCode.field {enc : α → List Char} (h : PrefixCode enc) {name : List Char} {a b : α}
    {x y : List Char} (hab : name ++ (enc a ++ x) = name ++ (enc b ++ y)) : a = b ∧ x = y :=
  h a b x y (List.append_cancel_left hab)

/-- A fixed piece of JSON text: a name, a bracket, a separator. -/
def jsonPiece (text : String) : List Char := text.toList

/-! ## Strings -/

/-- The escape sequence of a control character. -/
def jsonEscapeControl (n : ℕ) : List Char :=
  if n = 0x8 then ['\\', 'b']
  else if n = 0x9 then ['\\', 't']
  else if n = 0xa then ['\\', 'n']
  else if n = 0xc then ['\\', 'f']
  else if n = 0xd then ['\\', 'r']
  else ['\\', 'u', '0', '0', Nat.digitChar (n / 16), Nat.digitChar (n % 16)]

/-- A character as it stands in a JSON string. -/
def jsonEscape (c : Char) : List Char :=
  if c = '"' then ['\\', '"']
  else if c = '\\' then ['\\', '\\']
  else if c.toNat < 0x20 then jsonEscapeControl c.toNat
  else [c]

/-- A JSON string. -/
def jsonString (s : String) : List Char := '"' :: (s.toList.flatMap jsonEscape ++ ['"'])

/-- The value of a hexadecimal digit. -/
def hexValue (c : Char) : ℕ := if c.toNat < 0x3a then c.toNat - 0x30 else c.toNat - 0x57

/-- The character that an escape sequence stands for; `code` is what follows the backslash and
the letter. -/
def readJsonEscape (letter : Char) (code : List Char) : Char × List Char :=
  if letter = 'u' then
    (Char.ofNat (16 * hexValue (code.getD 2 '0') + hexValue (code.getD 3 '0')), code.drop 4)
  else if letter = 'b' then (Char.ofNat 0x8, code)
  else if letter = 't' then (Char.ofNat 0x9, code)
  else if letter = 'n' then (Char.ofNat 0xa, code)
  else if letter = 'f' then (Char.ofNat 0xc, code)
  else if letter = 'r' then (Char.ofNat 0xd, code)
  else (letter, code)

/-- Read one character of a JSON string; the closing quote is not one. -/
def readJsonChar : List Char → Option (Char × List Char)
  | [] => none
  | c :: rest =>
    if c = '"' then none
    else if c = '\\' then rest.head?.map fun letter => readJsonEscape letter rest.tail
    else some (c, rest)

lemma readJsonChar_control {n : ℕ} (hn : n < 0x20) (rest : List Char) :
    readJsonChar (jsonEscapeControl n ++ rest) = some (Char.ofNat n, rest) := by
  interval_cases n <;> rfl

lemma readJsonChar_escape (c : Char) (rest : List Char) :
    readJsonChar (jsonEscape c ++ rest) = some (c, rest) := by
  by_cases hquote : c = '"'
  · subst hquote
    rfl
  by_cases hslash : c = '\\'
  · subst hslash
    rfl
  by_cases hcontrol : c.toNat < 0x20
  · rw [jsonEscape, if_neg hquote, if_neg hslash, if_pos hcontrol,
      readJsonChar_control hcontrol, Char.ofNat_toNat]
  · rw [jsonEscape, if_neg hquote, if_neg hslash, if_neg hcontrol, List.singleton_append,
      readJsonChar, if_neg hquote, if_neg hslash]

/-- A JSON string is found at the front of a text by its closing quote. -/
lemma jsonBody_prefix {s t x y : List Char}
    (h : s.flatMap jsonEscape ++ '"' :: x = t.flatMap jsonEscape ++ '"' :: y) :
    s = t ∧ x = y := by
  induction s generalizing t with
  | nil =>
    cases t with
    | nil => simpa using h
    | cons d t =>
      have hread := congrArg readJsonChar h
      simp only [List.flatMap_nil, List.nil_append, List.flatMap_cons, List.append_assoc,
        readJsonChar_escape] at hread
      exact absurd hread (by simp [readJsonChar])
  | cons c s ih =>
    cases t with
    | nil =>
      have hread := congrArg readJsonChar h
      simp only [List.flatMap_nil, List.nil_append, List.flatMap_cons, List.append_assoc,
        readJsonChar_escape] at hread
      exact absurd hread (by simp [readJsonChar])
    | cons d t =>
      have hread := congrArg readJsonChar h
      simp only [List.flatMap_cons, List.append_assoc, readJsonChar_escape, Option.some.injEq,
        Prod.mk.injEq] at hread
      obtain ⟨rfl, hrest⟩ := hread
      obtain ⟨rfl, hxy⟩ := ih hrest
      exact ⟨rfl, hxy⟩

/-- **JSON strings are a prefix code.** -/
theorem jsonString_prefixCode : PrefixCode jsonString := by
  intro s t x y h
  simp only [jsonString, List.cons_append, List.append_assoc, List.nil_append,
    List.cons.injEq, true_and] at h
  obtain ⟨hst, hxy⟩ := jsonBody_prefix h
  exact ⟨String.toList_inj.mp hst, hxy⟩

/-! ## Arrays -/

/-- The rest of a JSON array after its first element. -/
def jsonArrayTail (enc : α → List Char) : List α → List Char
  | [] => [']']
  | a :: l => ',' :: (enc a ++ jsonArrayTail enc l)

/-- A JSON array. -/
def jsonArray (enc : α → List Char) : List α → List Char
  | [] => ['[', ']']
  | a :: l => '[' :: (enc a ++ jsonArrayTail enc l)

lemma jsonArrayTail_prefixCode {enc : α → List Char} (h : PrefixCode enc) :
    PrefixCode (jsonArrayTail enc) := by
  intro l
  induction l with
  | nil =>
    intro m x y hlm
    cases m with
    | nil => simpa [jsonArrayTail] using hlm
    | cons b m => simp [jsonArrayTail] at hlm
  | cons a l ih =>
    intro m x y hlm
    cases m with
    | nil => simp [jsonArrayTail] at hlm
    | cons b m =>
      simp only [jsonArrayTail, List.cons_append, List.append_assoc, List.cons.injEq,
        true_and] at hlm
      obtain ⟨rfl, htail⟩ := h _ _ _ _ hlm
      obtain ⟨rfl, hxy⟩ := ih _ _ _ htail
      exact ⟨rfl, hxy⟩

/-- **JSON arrays are a prefix code**, when their elements are one and none begins with the
closing bracket. -/
theorem jsonArray_prefixCode {enc : α → List Char} (h : PrefixCode enc)
    (hhead : ∀ a x y, enc a ++ x ≠ ']' :: y) : PrefixCode (jsonArray enc) := by
  intro l m x y hlm
  cases l with
  | nil =>
    cases m with
    | nil => simpa [jsonArray] using hlm
    | cons b m =>
      simp only [jsonArray, List.cons_append, List.append_assoc, List.nil_append,
        List.cons.injEq, true_and] at hlm
      exact absurd hlm.symm (hhead b _ _)
  | cons a l =>
    cases m with
    | nil =>
      simp only [jsonArray, List.cons_append, List.append_assoc, List.nil_append,
        List.cons.injEq, true_and] at hlm
      exact absurd hlm (hhead a _ _)
    | cons b m =>
      simp only [jsonArray, List.cons_append, List.append_assoc, List.cons.injEq,
        true_and] at hlm
      obtain ⟨rfl, htail⟩ := h _ _ _ _ hlm
      obtain ⟨rfl, hxy⟩ := jsonArrayTail_prefixCode h _ _ _ _ htail
      exact ⟨rfl, hxy⟩

end Lib
