/-
# Bytes of a text

Reading bytes as UTF-8 when some of them may not be: every maximal stretch that begins a character
and does not complete it becomes one replacement character.  And cutting a text after a number of
bytes, which is only possible between two characters.
-/
import OzonSuite.Lib.PlainText

namespace Lib

/-- A message. -/
abbrev Bytes := List UInt8

/-- The bytes of a text. -/
def utf8Bytes (s : String) : Bytes := s.toList.flatMap String.utf8EncodeChar

lemma length_utf8Bytes_le (s : String) : (utf8Bytes s).length ≤ 4 * s.toList.length := by
  rw [utf8Bytes]
  induction s.toList with
  | nil => simp
  | cons c l ih =>
    have hsize := c.utf8Size_le_four
    rw [List.flatMap_cons, List.length_append, String.length_utf8EncodeChar, List.length_cons]
    omega

/-! ## Reading -/

/-- A character that has begun: how many bytes it still needs, its value so far, and what the next
byte may be. -/
structure Pending where
  owed : ℕ
  value : ℕ
  low : ℕ
  high : ℕ

/-- What a byte is at the start of a character. -/
inductive FirstByte
  | whole (c : Char)
  | begins (p : Pending)
  | invalid

/-- The range of the second byte rules out overlong forms, surrogates and what lies beyond
Unicode. -/
def firstByte (b : UInt8) : FirstByte :=
  let n := b.toNat
  if n < 0x80 then .whole (Char.ofNat n)
  else if n < 0xC2 then .invalid
  else if n < 0xE0 then .begins ⟨1, n % 0x20, 0x80, 0xBF⟩
  else if n < 0xF0 then
    .begins ⟨2, n % 0x10, if n = 0xE0 then 0xA0 else 0x80, if n = 0xED then 0x9F else 0xBF⟩
  else if n < 0xF5 then
    .begins ⟨3, n % 0x08, if n = 0xF0 then 0x90 else 0x80, if n = 0xF4 then 0x8F else 0xBF⟩
  else .invalid

/-- The bytes as characters, when a character may have begun. -/
def lossyFrom : Option Pending → Bytes → List Char
  | none, [] => []
  | some _, [] => ['\uFFFD']
  | none, b :: bytes =>
    match firstByte b with
    | .whole c => c :: lossyFrom none bytes
    | .begins p => lossyFrom (some p) bytes
    | .invalid => '\uFFFD' :: lossyFrom none bytes
  | some p, b :: bytes =>
    if p.low ≤ b.toNat ∧ b.toNat ≤ p.high then
      let value := p.value * 0x40 + b.toNat % 0x40
      if p.owed ≤ 1 then Char.ofNat value :: lossyFrom none bytes
      else lossyFrom (some ⟨p.owed - 1, value, 0x80, 0xBF⟩) bytes
    else
      -- the byte that does not continue the character starts the next one
      '\uFFFD' ::
        match firstByte b with
        | .whole c => c :: lossyFrom none bytes
        | .begins p => lossyFrom (some p) bytes
        | .invalid => '\uFFFD' :: lossyFrom none bytes

/-- The text that the bytes stand for, with replacement characters where they stand for none. -/
def fromUtf8Lossy (bytes : Bytes) : String := String.ofList (lossyFrom none bytes)

section RoundTrip

lemma toNat_byte {n : ℕ} (hn : n < 256) : (UInt8.ofNat n).toNat = n := UInt8.toNat_ofNat_of_lt' hn

/-- A byte that begins a character. -/
lemma lossyFrom_begins {n : ℕ} {p : Pending} (h : firstByte (UInt8.ofNat n) = .begins p)
    (bytes : Bytes) : lossyFrom none (UInt8.ofNat n :: bytes) = lossyFrom (some p) bytes := by
  rw [lossyFrom, h]

/-- A byte that continues a character. -/
lemma lossyFrom_continues {p : Pending} {n : ℕ} (hn : n < 256) (hlow : p.low ≤ n)
    (hhigh : n ≤ p.high) (bytes : Bytes) :
    lossyFrom (some p) (UInt8.ofNat n :: bytes) =
      if p.owed ≤ 1 then Char.ofNat (p.value * 0x40 + n % 0x40) :: lossyFrom none bytes
      else lossyFrom (some ⟨p.owed - 1, p.value * 0x40 + n % 0x40, 0x80, 0xBF⟩) bytes := by
  rw [lossyFrom, toNat_byte hn, if_pos ⟨hlow, hhigh⟩]

/-- A character is read back from its bytes, whatever follows. -/
lemma lossyFrom_encodeChar (c : Char) (bytes : Bytes) :
    lossyFrom none (String.utf8EncodeChar c ++ bytes) = c :: lossyFrom none bytes := by
  -- a character is no surrogate, so that its first byte never narrows the second too far
  have hvalid : c.val.toNat < 0xD800 ∨ 0xDFFF < c.val.toNat ∧ c.val.toNat < 0x110000 := c.valid
  have hchar : Char.ofNat c.val.toNat = c := Char.ofNat_toNat c
  simp only [String.utf8EncodeChar]
  generalize c.val.toNat = v at hvalid hchar
  subst hchar
  by_cases h1 : v ≤ 127
  -- one byte
  · rw [if_pos h1, List.singleton_append, lossyFrom, firstByte, toNat_byte (by omega)]
    rw [if_pos (by omega)]
  by_cases h2 : v ≤ 2047
  -- two bytes
  · simp only [if_neg h1, if_pos h2, List.cons_append, List.nil_append]
    have hfirst :
        firstByte (UInt8.ofNat (v / 64 % 32 + 192)) = .begins ⟨1, v / 64, 0x80, 0xBF⟩ := by
      rw [firstByte, toNat_byte (by omega)]
      rw [if_neg (by omega), if_neg (by omega), if_pos (by omega),
        show (v / 64 % 32 + 192) % 32 = v / 64 by omega]
    rw [lossyFrom_begins hfirst, lossyFrom_continues (by omega) (by simp only; omega)
      (by simp only; omega), if_pos (by simp)]
    congr 2
    simp only
    omega
  by_cases h3 : v ≤ 65535
  -- three bytes; the second is narrowed after E0, and after ED for the surrogates
  · simp only [if_neg h1, if_neg h2, if_pos h3, List.cons_append, List.nil_append]
    have hfirst : firstByte (UInt8.ofNat (v / 4096 % 16 + 224)) = .begins ⟨2, v / 4096,
        if v / 4096 = 0 then 0xA0 else 0x80, if v / 4096 = 13 then 0x9F else 0xBF⟩ := by
      rw [firstByte, toNat_byte (by omega)]
      rw [if_neg (by omega), if_neg (by omega), if_neg (by omega), if_pos (by omega),
        show (v / 4096 % 16 + 224) % 16 = v / 4096 by omega]
      congr 2
      · exact if_congr (by omega) rfl rfl
      · exact if_congr (by omega) rfl rfl
    rw [lossyFrom_begins hfirst, lossyFrom_continues (by omega) (by simp only; split <;> omega)
      (by simp only; split <;> omega), if_neg (by simp), lossyFrom_continues (by omega)
      (by simp only; omega) (by simp only; omega), if_pos (by simp)]
    congr 2
    simp only
    omega
  -- four bytes; the second is narrowed after F0 and F4
  · simp only [if_neg h1, if_neg h2, if_neg h3, List.cons_append, List.nil_append]
    have hfirst : firstByte (UInt8.ofNat (v / 262144 % 8 + 240)) = .begins ⟨3, v / 262144,
        if v / 262144 = 0 then 0x90 else 0x80, if v / 262144 = 4 then 0x8F else 0xBF⟩ := by
      rw [firstByte, toNat_byte (by omega)]
      rw [if_neg (by omega), if_neg (by omega), if_neg (by omega), if_neg (by omega),
        if_pos (by omega), show (v / 262144 % 8 + 240) % 8 = v / 262144 by omega]
      congr 2
      · exact if_congr (by omega) rfl rfl
      · exact if_congr (by omega) rfl rfl
    rw [lossyFrom_begins hfirst, lossyFrom_continues (by omega) (by simp only; split <;> omega)
      (by simp only; split <;> omega), if_neg (by simp), lossyFrom_continues (by omega)
      (by simp only; omega) (by simp only; omega), if_neg (by simp), lossyFrom_continues (by omega)
      (by simp only; omega) (by simp only; omega), if_pos (by simp)]
    congr 2
    simp only
    omega

lemma lossyFrom_encode (l : List Char) : lossyFrom none (l.flatMap String.utf8EncodeChar) = l := by
  induction l with
  | nil => rfl
  | cons c l ih => rw [List.flatMap_cons, lossyFrom_encodeChar, ih]

/-- **A text is read back from its bytes.** -/
theorem fromUtf8Lossy_encode (s : String) :
    fromUtf8Lossy (s.toList.flatMap String.utf8EncodeChar) = s := by
  rw [fromUtf8Lossy, lossyFrom_encode, String.ofList_toList]

lemma utf8Bytes_injective : Function.Injective utf8Bytes := fun a b h => by
  have hread := congrArg fromUtf8Lossy h
  rwa [utf8Bytes, utf8Bytes, fromUtf8Lossy_encode, fromUtf8Lossy_encode] at hread

end RoundTrip

/-! ## Lines -/

/-- The lines of a text, each without what ends it. -/
def linesOf (s : String) : List String :=
  let pieces := s.toList.splitOn '\n'
  let ended := pieces.dropLast.map fun l => if l.getLast? = some '\r' then l.dropLast else l
  (ended ++ (pieces.getLast?.filter (· ≠ [])).toList).map String.ofList

/-- A text without line breaks is one line. -/
lemma linesOf_of_notMem {l : List Char} (hne : l ≠ []) (h : '\n' ∉ l) :
    linesOf (String.ofList l) = [String.ofList l] := by
  have hsplit : l.splitOn '\n' = [l] := List.splitOn_eq_singleton h
  rw [linesOf, String.toList_ofList, hsplit]
  simp [Option.filter, hne]

/-! ## Cutting -/

/-- The first `n` bytes, if they end between two characters. -/
def bytePrefix : ℕ → List Char → Option (List Char)
  | 0, _ => some []
  | _ + 1, [] => none
  | n + 1, c :: l =>
    if c.utf8Size ≤ n + 1 then (bytePrefix (n + 1 - c.utf8Size) l).map (c :: ·) else none

/-- Some characters at the beginning of the text have `n` bytes together. -/
def BytesEnd (n : ℕ) (s : String) : Prop :=
  ∃ start, start <+: s.toList ∧ (start.map Char.utf8Size).sum = n

lemma bytePrefix_eq_some {n : ℕ} {l start : List Char} :
    bytePrefix n l = some start ↔ start <+: l ∧ (start.map Char.utf8Size).sum = n := by
  induction l generalizing n start with
  | nil =>
    cases n with
    | zero =>
      rw [bytePrefix, List.prefix_nil]
      constructor
      · rintro ⟨⟩
        exact ⟨rfl, rfl⟩
      · rintro ⟨rfl, -⟩
        rfl
    | succ n =>
      rw [bytePrefix, List.prefix_nil]
      constructor
      · rintro ⟨⟩
      · rintro ⟨rfl, h⟩
        simp at h
  | cons c l ih =>
    cases n with
    | zero =>
      rw [bytePrefix]
      constructor
      · rintro ⟨⟩
        exact ⟨List.nil_prefix, rfl⟩
      · rintro ⟨-, h⟩
        cases start with
        | nil => rfl
        | cons d start =>
          -- no character takes no byte
          have hd := d.utf8Size_pos
          rw [List.map_cons, List.sum_cons] at h
          omega
    | succ n =>
      rw [bytePrefix]
      constructor
      · intro h
        split at h
        · next hc =>
          obtain ⟨rest, hrest, rfl⟩ := Option.map_eq_some_iff.mp h
          obtain ⟨hstart, hsum⟩ := ih.mp hrest
          refine ⟨List.cons_prefix_cons.mpr ⟨rfl, hstart⟩, ?_⟩
          rw [List.map_cons, List.sum_cons]
          omega
        · cases h
      · rintro ⟨hstart, hsum⟩
        cases start with
        | nil => simp at hsum
        | cons d rest =>
          obtain ⟨rfl, hrest⟩ := List.cons_prefix_cons.mp hstart
          rw [List.map_cons, List.sum_cons] at hsum
          rw [if_pos (by omega), ih.mpr ⟨hrest, by omega⟩]
          rfl

lemma bytesEnd_iff {n : ℕ} {s : String} :
    BytesEnd n s ↔ ∃ start, bytePrefix n s.toList = some start := by
  simp only [BytesEnd, bytePrefix_eq_some]

instance (n : ℕ) (s : String) : Decidable (BytesEnd n s) :=
  decidable_of_iff ((bytePrefix n s.toList).isSome = true)
    (by rw [bytesEnd_iff, Option.isSome_iff_exists])

end Lib
