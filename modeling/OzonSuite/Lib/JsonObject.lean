/-
# JSON objects of strings

The compact text of a JSON object whose values are strings, a reader for such texts, and that the
reader undoes the writer.  A finite map of texts is written with its keys in their order.
-/
import OzonSuite.Lib.JsonText

namespace Lib

/-! ## Strings -/

/-- Read the rest of a JSON string after its opening quote. -/
def readJsonBody : ℕ → List Char → Option (List Char × List Char)
  | 0, _ => none
  | fuel + 1, text =>
    match readJsonChar text with
    | some (c, rest) => (readJsonBody fuel rest).map fun body => (c :: body.1, body.2)
    | none => if text.head? = some '"' then some ([], text.tail) else none

/-- Read a JSON string at the front of a text. -/
def readJsonString (text : List Char) : Option (String × List Char) :=
  if text.head? = some '"' then
    (readJsonBody text.length text.tail).map fun body => (String.ofList body.1, body.2)
  else none

lemma readJsonBody_escape (s rest : List Char) {fuel : ℕ} (h : s.length < fuel) :
    readJsonBody fuel (s.flatMap jsonEscape ++ '"' :: rest) = some (s, rest) := by
  induction s generalizing fuel with
  | nil =>
    obtain ⟨fuel, rfl⟩ := Nat.exists_eq_add_of_lt h
    simp [readJsonBody, readJsonChar]
  | cons c s ih =>
    obtain ⟨fuel, rfl⟩ : ∃ n, fuel = n + 1 := ⟨fuel - 1, by omega⟩
    rw [List.length_cons] at h
    rw [List.flatMap_cons, List.append_assoc, readJsonBody, readJsonChar_escape]
    simp [ih (by omega : s.length < fuel)]

lemma length_le_flatMap_jsonEscape (s : List Char) :
    s.length ≤ (s.flatMap jsonEscape).length := by
  induction s with
  | nil => exact le_refl _
  | cons c s ih =>
    have hone : 1 ≤ (jsonEscape c).length := by
      rw [jsonEscape]
      split_ifs
      · decide
      · decide
      · rw [jsonEscapeControl]
        split_ifs <;> simp
      · exact le_refl 1
    rw [List.flatMap_cons, List.length_append, List.length_cons]
    omega

/-- **A string is read back.** -/
lemma readJsonString_jsonString (s : String) (rest : List Char) :
    readJsonString (jsonString s ++ rest) = some (s, rest) := by
  have hlen := length_le_flatMap_jsonEscape s.toList
  have hbody : readJsonBody (jsonString s ++ rest).length
      (s.toList.flatMap jsonEscape ++ '"' :: rest) = some (s.toList, rest) := by
    refine readJsonBody_escape s.toList rest ?_
    simp only [jsonString, List.cons_append, List.length_cons, List.length_append]
    omega
  have htail : (jsonString s ++ rest).tail = s.toList.flatMap jsonEscape ++ '"' :: rest := by
    simp [jsonString]
  have hhead : (jsonString s ++ rest).head? = some '"' := rfl
  rw [readJsonString, if_pos hhead, htail, hbody]
  simp

/-! ## Objects -/

/-- An entry of an object. -/
def jsonEntry (entry : String × String) : List Char :=
  jsonString entry.1 ++ ':' :: jsonString entry.2

/-- An object after its opening brace. -/
def jsonEntries : List (String × String) → List Char
  | [] => ['}']
  | [entry] => jsonEntry entry ++ ['}']
  | entry :: next :: entries => jsonEntry entry ++ ',' :: jsonEntries (next :: entries)

/-- One entry at the beginning of a text, and what stands behind it. -/
def readJsonEntry (text : List Char) : Option ((String × String) × List Char) := do
  let (key, rest) ← readJsonString text
  if rest.head? = some ':' then
    let (value, rest) ← readJsonString rest.tail
    return ((key, value), rest)
  else none

/-- The entries up to the closing brace, with a bound on their number. -/
def readJsonEntries : ℕ → List Char → Option (List (String × String))
  | 0, _ => none
  | fuel + 1, text =>
    match readJsonEntry text with
    | none => if text = ['}'] then some [] else none
    | some (entry, rest) =>
      if rest = ['}'] then some [entry]
      else if rest.head? = some ',' then (readJsonEntries fuel rest.tail).map (entry :: ·)
      else none

lemma readJsonEntry_jsonEntry (entry : String × String) (rest : List Char) :
    readJsonEntry (jsonEntry entry ++ rest) = some (entry, rest) := by
  have hkey : readJsonString (jsonEntry entry ++ rest) =
      some (entry.1, ':' :: (jsonString entry.2 ++ rest)) := by
    rw [jsonEntry, List.append_assoc, List.cons_append, readJsonString_jsonString]
  rw [readJsonEntry, hkey]
  simp [readJsonString_jsonString]

/-- **The entries are read back.** -/
theorem readJsonEntries_jsonEntries (entries : List (String × String)) {fuel : ℕ}
    (h : entries.length < fuel) : readJsonEntries fuel (jsonEntries entries) = some entries := by
  induction entries generalizing fuel with
  | nil =>
    obtain ⟨fuel, rfl⟩ : ∃ n, fuel = n + 1 := ⟨fuel - 1, by omega⟩
    rfl
  | cons entry entries ih =>
    obtain ⟨fuel, rfl⟩ : ∃ n, fuel = n + 1 := ⟨fuel - 1, by omega⟩
    cases entries with
    | nil => rw [jsonEntries, readJsonEntries, readJsonEntry_jsonEntry]; simp
    | cons next entries =>
      rw [List.length_cons] at h
      rw [jsonEntries, readJsonEntries, readJsonEntry_jsonEntry]
      simp [ih (by omega : (next :: entries).length < fuel)]

lemma length_le_jsonEntries (entries : List (String × String)) :
    entries.length < (jsonEntries entries).length := by
  induction entries with
  | nil => decide
  | cons entry entries ih =>
    cases entries with
    | nil =>
      simp only [jsonEntries, jsonEntry, List.length_append, List.length_cons, List.length_nil]
      omega
    | cons next entries =>
      rw [List.length_cons (a := entry), jsonEntries, List.length_append,
        List.length_cons (a := ',')]
      omega

/-! ## Finite maps -/

/-- A finite map from texts to texts. -/
abbrev TextMap := Finmap fun _ : String => String

/-- The entries of a map, in the order of their keys. -/
def entriesOf (values : TextMap) : List (String × String) :=
  (values.keys.sort (· ≤ ·)).map fun key => (key, (values.lookup key).getD "")

/-- The map of entries. -/
def mapOf (entries : List (String × String)) : TextMap :=
  entries.foldr (fun entry values => values.insert entry.1 entry.2) ∅

lemma lookup_mapOf (value : String → String) (keys : List String) (key : String) :
    (mapOf (keys.map fun key => (key, value key))).lookup key =
      if key ∈ keys then some (value key) else none := by
  induction keys with
  | nil => exact Finmap.lookup_empty key
  | cons other keys ih =>
    have hcons : mapOf ((other :: keys).map fun key => (key, value key)) =
        (mapOf (keys.map fun key => (key, value key))).insert other (value other) := rfl
    rw [hcons]
    by_cases h : key = other
    · subst h
      simp
    · rw [Finmap.lookup_insert_of_ne _ h]
      simpa [h] using ih

/-- **A map is made of its entries.** -/
theorem mapOf_entriesOf (values : TextMap) : mapOf (entriesOf values) = values := by
  refine Finmap.ext_lookup fun key => ?_
  rw [entriesOf, lookup_mapOf]
  simp only [Finset.mem_sort, Finmap.mem_keys]
  by_cases h : key ∈ values
  · obtain ⟨value, hvalue⟩ := Finmap.mem_iff.mp h
    simp [h, hvalue]
  · simp [h, Finmap.lookup_eq_none.mpr h]

/-- The text of a map. -/
def jsonObject (values : TextMap) : String := String.ofList ('{' :: jsonEntries (entriesOf values))

/-- The map that a text is read as. -/
def readJsonObject (text : String) : Option TextMap :=
  if text.toList.head? = some '{' then
    (readJsonEntries text.toList.length text.toList.tail).map mapOf
  else none

/-- **A map is read back from its text.** -/
theorem readJsonObject_jsonObject (values : TextMap) :
    readJsonObject (jsonObject values) = some values := by
  have hlen := length_le_jsonEntries (entriesOf values)
  have hread : readJsonEntries (jsonEntries (entriesOf values)).length.succ
      (jsonEntries (entriesOf values)) = some (entriesOf values) :=
    readJsonEntries_jsonEntries _ (by omega)
  have hmap : readJsonObject (jsonObject values) =
      (readJsonEntries (jsonEntries (entriesOf values)).length.succ
        (jsonEntries (entriesOf values))).map mapOf := by
    simp [readJsonObject, jsonObject]
  rw [hmap, hread, Option.map_some, mapOf_entriesOf]

end Lib
