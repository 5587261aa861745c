/-
# The values of a category attribute

The dictionary of an attribute is read page by page, two hundred pages at most.  What is blank is
left out, but the next page is asked for by the greatest number on the page as it came, so that a
page of blank values loses nothing.  Of a server that pages a dictionary to its end, in no more
pages than that, the whole dictionary is read.
-/
import OzonSuite.Lib.Calls
import OzonSuite.Lib.Sequences
import OzonSuite.Node.OzonClient

namespace OzonSuite

open Lib

/-! ## Requests and answers -/

/-- A request for a page of values. -/
structure CategoryAttributeValuesRequest where
  descriptionCategoryId : ℕ
  typeId : ℕ
  attributeId : ℕ
  limit : ℕ
  lastValueId : ℕ
deriving DecidableEq

/-- An entry of a dictionary as it comes. -/
structure CategoryAttributeValueItem where
  id : ℕ
  value : String
deriving DecidableEq

/-- What comes of a request. -/
inductive ValuesAnswer
  /-- It cannot be sent. -/
  | failed (error : String)
  /-- A status that is not one of success, and the body, if it can be read. -/
  | refused (status : ℕ) (body : Option String)
  /-- The body is not what is expected. -/
  | unreadable (error : String)
  | page (result : List CategoryAttributeValueItem) (hasNext : Bool)
deriving DecidableEq

/-- A procedure that asks for pages of values. -/
abbrev ValuesCalls := Calls CategoryAttributeValuesRequest fun _ => ValuesAnswer

/-! ## Reading -/

/-- At most 500 characters of the words of a text. -/
def sanitizeApiErrorBody (body : String) : String :=
  String.ofList ((collapseText isWhitespace body).toList.take 500)

/-- An entry that is not blank, with its value trimmed. -/
def CategoryAttributeValueItem.entry (item : CategoryAttributeValueItem) :
    Option OzonCategoryAttributeValue :=
  (nonEmptyString item.value).map fun value => ⟨item.id, value⟩

/-- The pages that are left to read, after the ones that have been. -/
def readValues (request : ℕ → CategoryAttributeValuesRequest) :
    (pages lastValueId : ℕ) → List OzonCategoryAttributeValue →
      ValuesCalls (Except OzonConnectorError (List OzonCategoryAttributeValue))
  | 0, _, values => .done (.ok values)
  | pages + 1, lastValueId, values => .call (request lastValueId) fun
    | .failed error => .done (.error (.http error))
    | .refused status body => .done (.error (.apiStatus status
        (sanitizeApiErrorBody (body.getD "failed to read Ozon error body"))))
    | .unreadable error => .done (.error (.http error))
    | .page result hasNext =>
      let rawMax := (result.map (·.id)).max?
      let values := values ++ result.filterMap (·.entry)
      if !hasNext then .done (.ok values)
      else
        match rawMax with
        | some maxId => readValues request pages maxId values
        | none => .done (.ok values)

/-- The request for the values of an attribute after the one with the number. -/
def valuesRequest (descriptionCategoryId typeId attributeId lastValueId : ℕ) :
    CategoryAttributeValuesRequest where
  descriptionCategoryId := descriptionCategoryId
  typeId := typeId
  attributeId := attributeId
  limit := 5000
  lastValueId := lastValueId

/-- `url` is where the base URL leads. -/
def descriptionCategoryAttributeValues (url : Except String String)
    (descriptionCategoryId typeId attributeId : ℕ) :
    ValuesCalls (Except OzonConnectorError (List OzonCategoryAttributeValue)) :=
  match url with
  | .error error => .done (.error (.invalidBaseUrl error))
  | .ok _ => readValues (valuesRequest descriptionCategoryId typeId attributeId) 200 0 []

/-! ## A server that pages a dictionary -/

section Server

variable {σ : Type} (handle : CategoryAttributeValuesRequest → σ → ValuesAnswer × σ)
  (request : ℕ → CategoryAttributeValuesRequest) (entries : List CategoryAttributeValueItem)

/-- The server, in a state of its own, pages a dictionary to its end.  It has sent some of the
entries, it is asked for those after a number, and it needs so many pages at most.  A page has at
most 5000 of the entries after the number, in their order.  There is another page to come exactly if
there is an entry that has not been sent; then the page has an entry, and the next one is asked for
by the greatest number on it. -/
inductive PagesWithin : (pages : ℕ) → (sent : List CategoryAttributeValueItem) → (cursor : ℕ) →
    (s : σ) → Prop
  | last {pages sent cursor n s s'} (hlimit : n ≤ 5000)
      (hanswer : handle (request cursor) s =
        (.page ((after (·.id) cursor entries).take n) false, s'))
      (hend : ∀ entry ∈ entries, entry ∈ sent ++ (after (·.id) cursor entries).take n) :
      PagesWithin (pages + 1) sent cursor s
  | more {pages sent cursor n s s' greatest} (hlimit : n ≤ 5000)
      (hanswer : handle (request cursor) s =
        (.page ((after (·.id) cursor entries).take n) true, s'))
      (hremain : ∃ entry ∈ entries, entry ∉ sent ++ (after (·.id) cursor entries).take n)
      (hmem : greatest ∈ (after (·.id) cursor entries).take n)
      (hgreatest : ∀ entry ∈ (after (·.id) cursor entries).take n, entry.id ≤ greatest.id)
      (hnext : PagesWithin pages (sent ++ (after (·.id) cursor entries).take n) greatest.id s') :
      PagesWithin (pages + 1) sent cursor s

end Server

/-! ## What is read -/

section Reading

variable {σ : Type} {handle : CategoryAttributeValuesRequest → σ → ValuesAnswer × σ}
  {request : ℕ → CategoryAttributeValuesRequest} {entries sent : List CategoryAttributeValueItem}
  {cursor n : ℕ} {s : σ}

lemma readValues_length (pages lastValueId : ℕ) (values : List OzonCategoryAttributeValue) (s : σ) :
    ((readValues request pages lastValueId values).exchanges handle s).length ≤ pages := by
  induction pages generalizing lastValueId values s with
  | zero => exact le_rfl
  | succ pages ih =>
    simp only [readValues, Calls.exchanges_call, List.length_cons]
    refine Nat.succ_le_succ ?_
    cases (handle (request lastValueId) s).1 with
    | failed error => exact Nat.zero_le _
    | refused status body => exact Nat.zero_le _
    | unreadable error => exact Nat.zero_le _
    | page result hasNext =>
      cases hasNext with
      | false => exact Nat.zero_le _
      | true =>
        simp only [Bool.not_true, Bool.false_eq_true, if_false]
        cases (result.map (·.id)).max? with
        | none => exact Nat.zero_le _
        | some maxId => exact ih _ _ _

/-- When no entry is to come, the entries are the ones that have been sent. -/
lemma entries_of_last (hsorted : entries.Pairwise fun a b => a.id < b.id)
    (hsent : entries.filter (0 < ·.id) = sent ++ after (·.id) cursor entries)
    (hend : ∀ e ∈ entries, e ∈ sent ++ (after (·.id) cursor entries).take n) :
    sent ++ (after (·.id) cursor entries).take n = entries := by
  have hsub : (sent ++ (after (·.id) cursor entries).take n).Sublist entries := by
    refine List.Sublist.trans ?_ (hsent ▸ List.filter_sublist)
    exact (List.take_sublist n _).append_left sent
  have hnodup : entries.Nodup := hsorted.imp fun h => by
    rintro rfl
    exact lt_irrefl _ h
  exact hsub.eq_of_length_le (hnodup.subperm hend).length_le

/-- **The pages that are left.**  If the server comes to the end with the pages that may be asked
for, then what it has sent and what it sends is the whole dictionary. -/
lemma readValues_complete {pages : ℕ} (hsorted : entries.Pairwise fun a b => a.id < b.id)
    (hserver : PagesWithin handle request entries pages sent cursor s)
    (hsent : entries.filter (0 < ·.id) = sent ++ after (·.id) cursor entries) :
    ((readValues request pages cursor (sent.filterMap (·.entry))).run handle s).1 =
      .ok (entries.filterMap (·.entry)) := by
  induction hserver with
  | last _ hanswer hend =>
    simp only [readValues, Calls.run_call, hanswer, Bool.not_false, if_true, Calls.run_done]
    rw [← List.filterMap_append, entries_of_last hsorted hsent hend]
  | @more pages sent cursor n s s' greatest _ hanswer _ hmem hgreatest _ ih =>
    have hmax : (((after (·.id) cursor entries).take n).map CategoryAttributeValueItem.id).max? =
        some greatest.id := by
      refine List.max?_eq_some_iff.mpr ⟨List.mem_map_of_mem hmem, fun id hid => ?_⟩
      obtain ⟨entry, hentry, rfl⟩ := List.mem_map.mp hid
      exact hgreatest entry hentry
    simp only [readValues, Calls.run_call, hanswer, Bool.not_true, Bool.false_eq_true, if_false,
      hmax, ← List.filterMap_append]
    -- the cursor moves on by the page as it came
    have hrest : after (·.id) greatest.id entries = (after (·.id) cursor entries).drop n :=
      after_greatest hsorted ⟨greatest, hmem, rfl⟩ hgreatest
    refine ih ?_
    rw [hsent, hrest, List.append_assoc, List.take_append_drop]

/-- **The whole dictionary.**  There are two hundred requests at most; and of a server that pages a
dictionary in two hundred pages at most every entry that is not blank is read once, in its place,
with its value trimmed. -/
theorem category_attribute_values (handle : CategoryAttributeValuesRequest → σ → ValuesAnswer × σ)
    (s : σ) (url : Except String String) (descriptionCategoryId typeId attributeId : ℕ) :
    let reading := descriptionCategoryAttributeValues url descriptionCategoryId typeId attributeId
    (reading.exchanges handle s).length ≤ 200 ∧
      ∀ joined entries, url = .ok joined → entries.Pairwise (fun a b => a.id < b.id) →
        PagesWithin handle (valuesRequest descriptionCategoryId typeId attributeId) entries 200 [] 0
          s → (reading.run handle s).1 = .ok (entries.filterMap (·.entry)) := by
  cases url with
  | error e => exact ⟨Nat.zero_le _, fun _ _ hurl => by cases hurl⟩
  | ok url =>
    refine ⟨readValues_length _ _ _ _, fun _ entries _ hsorted hserver => ?_⟩
    exact readValues_complete hsorted hserver rfl

/-- A server that answers with one entry at a time. -/
def oneByOne (entries : List CategoryAttributeValueItem) (request : CategoryAttributeValuesRequest)
    (s : Unit) : ValuesAnswer × Unit :=
  let rest := after (·.id) request.lastValueId entries
  (.page (rest.take 1) (1 < rest.length), s)

/-- A page with nothing but a blank value is passed. -/
theorem category_attribute_values_blank_page :
    ((descriptionCategoryAttributeValues (.ok "https://api-seller.ozon.ru") 17 9 85).run
      (oneByOne [⟨3, " "⟩, ⟨8, " red "⟩]) ()).1 = .ok [⟨8, "red"⟩] := by
  refine (category_attribute_values (oneByOne [⟨3, " "⟩, ⟨8, " red "⟩]) ()
    (.ok "https://api-seller.ozon.ru") 17 9 85).2 _ [⟨3, " "⟩, ⟨8, " red "⟩] rfl (by decide) ?_
  have hfirst : oneByOne [⟨3, " "⟩, ⟨8, " red "⟩] (valuesRequest 17 9 85 0) () =
      (.page ((after (·.id) 0 [⟨3, " "⟩, ⟨8, " red "⟩]).take 1) true, ()) := by decide
  have hsecond : oneByOne [⟨3, " "⟩, ⟨8, " red "⟩] (valuesRequest 17 9 85 3) () =
      (.page ((after (·.id) 3 [⟨3, " "⟩, ⟨8, " red "⟩]).take 1) false, ()) := by decide
  have hgreatest : (⟨3, " "⟩ : CategoryAttributeValueItem) ∈
      (after (·.id) 0 [⟨3, " "⟩, ⟨8, " red "⟩]).take 1 := by decide
  exact .more (by decide) hfirst (by decide) hgreatest (by decide)
    (.last (by decide) hsecond (by decide))

end Reading

end OzonSuite
