/-
# Which product an answer is about

A product is looked up by one identifier.  The info endpoint answers with a list of items, in one
of two places, and the client takes the first of them for the product; what the item does not
carry is filled in from the lookup.  The writes of a push are addressed by what came back, so this
file asks when that is the product which was looked up.
-/
import OzonSuite.Node.CopyPush

namespace OzonSuite

open Lib

/-! ## The request and the answer -/

/-- A number of 64 bits without a sign, as Rust parses it. -/
def parseU64 (s : String) : Option ℕ := (parseUnsigned s).filter (· < 2 ^ 64)

/-- The number in a field, or none. -/
def parseOptionalU64Vec (value : Option String) (field : String) :
    Except OzonConnectorError (List ℕ) :=
  match value with
  | none => .ok []
  | some value => do
    let parsed ← okOr (parseU64 value)
      (OzonConnectorError.invalidProductLookup s!"{field} must be a positive integer")
    return [parsed]

/-- The request for the details of a product. -/
structure ProductInfoListRequest where
  productId : List ℕ
  offerId : List String
  sku : List ℕ
deriving DecidableEq

/-- The request for a lookup. -/
def ProductInfoListRequest.fromLookup (lookup : OzonProductLookup) :
    Except OzonConnectorError ProductInfoListRequest := do
  let productId ← parseOptionalU64Vec lookup.productId "product_id"
  let sku ← parseOptionalU64Vec lookup.sku "sku"
  return { productId := productId, offerId := lookup.offerId.toList, sku := sku }

/-- The lookup, as errors name it. -/
def lookupLabel (lookup : OzonProductLookup) : String :=
  (((lookup.productId.map fun value => s!"product_id={value}").or
    (lookup.offerId.map fun value => s!"offer_id={value}")).or
    (lookup.sku.map fun value => s!"sku={value}")).getD "empty lookup"

/-- An item of the info endpoint, with the stock number that the node itself does not read. -/
structure InfoListItem extends ProductInfoItem where
  sku : Option Json

/-- The answer, in either of its forms. -/
structure ProductInfoListResponse where
  items : List InfoListItem
  result : Option (List InfoListItem)

/-- The first item of either shape of the answer. -/
def ProductInfoListResponse.first? (body : ProductInfoListResponse) : Option InfoListItem :=
  body.items.head?.or (body.result.bind List.head?)

/-- The marketplace behind its endpoints, for every request that the client may send. -/
structure OzonHttp where
  infoList : ProductInfoListRequest → Except OzonConnectorError ProductInfoListResponse
  productInfoAttributes : OzonProductLookup → Except OzonConnectorError Json
  productInfoDescription : OzonProductLookup → Except OzonConnectorError Json

/-- The details of a product with its stock number. -/
structure IdentifiedDetail extends OzonProductDetail where
  sku : Option String

namespace OzonHttp

/-- The item for a lookup. -/
def productInfoList (ozon : OzonHttp) (lookup : OzonProductLookup) :
    Except OzonConnectorError InfoListItem := do
  let request ← ProductInfoListRequest.fromLookup lookup
  let body ← ozon.infoList request
  okOr body.first? (OzonConnectorError.productNotFound (lookupLabel lookup))

/-- The endpoints, as the node reads them. -/
def endpoints (ozon : OzonHttp) : OzonEndpoints where
  productInfoList lookup := (ozon.productInfoList lookup).map (·.toProductInfoItem)
  productInfoAttributes := ozon.productInfoAttributes
  productInfoDescription := ozon.productInfoDescription

/-- What the client returns for a lookup. -/
def productGet (ozon : OzonHttp) (lookup : OzonProductLookup) :
    Except OzonConnectorError IdentifiedDetail := do
  let detail ← ozon.endpoints.productGet lookup
  let item ← ozon.productInfoList lookup.normalized
  return { detail with sku := item.sku.bind firstNonEmptyString }

end OzonHttp

/-! ## Being the product that was looked up -/

/-- The details carry the identifier of the lookup; product and stock numbers are compared as
numbers. -/
structure IdentifiedDetail.IdentifiedBy (detail : IdentifiedDetail) (lookup : OzonProductLookup) :
    Prop where
  productId : ∀ p, lookup.productId = some p → parseU64 detail.productId = parseU64 p
  offerId : ∀ o, lookup.offerId = some o → detail.offerId = o
  sku : ∀ k, lookup.sku = some k → detail.sku.bind parseU64 = parseU64 k

/-- The item does not carry another identifier than that of the lookup. -/
structure InfoListItem.Answers (item : InfoListItem) (lookup : OzonProductLookup) : Prop where
  productId : ∀ p, lookup.productId = some p → item.id = none ∨ item.id = parseU64 p
  offerId : ∀ o, lookup.offerId = some o → item.offerId = none ∨ item.offerId = some o
  sku : ∀ k, lookup.sku = some k →
    (item.sku.bind firstNonEmptyString).bind parseU64 = parseU64 k

/-- A write reaches no other product than that with the given number.  Pictures are addressed by
the number of the product, an update of the copy by its offer id, under which `catalogue` says
what the shop has. -/
def OzonWrite.Hits (x : NodeCrates) (catalogue : ℕ → Option String) (number : Option ℕ) :
    OzonWrite → Prop
  | .picturesImport _ productId images => ∀ request,
      picturesImportRequest x productId images = .ok request →
      number.map Int.ofNat = some request.productId
  | .productUpdateCopy _ update => ∀ item, importItem update = .ok item →
      ∀ k, catalogue k = some item.offerId → number = some k

/-- The number of a product, as the text of a target gives it. -/
def targetNumber (productId : String) : Option ℕ := parseU64 (trim productId)

/-- The answer to a relist push: it names the product of the target by its number, or not at all.
An item without an offer id is refused, and a number that needs a sign cannot be sent. -/
def OzonHttp.AnswersRelist (ozon : OzonHttp) (target : RelistPushTarget) : Prop :=
  hasPrefix "http" (trim target.newPrimaryUrl) = true →
    ∀ m item n, targetNumber target.productId = some m →
      ozon.productInfoList (pushLookup target.productId) = .ok item → item.offerId.isSome →
      item.id = some n → n < 2 ^ 63 → n = m

/-- The answer to a push of a proposal: nothing else in the shop has the offer id that it carries.
A blank offer id cannot be sent. -/
def OzonHttp.AnswersModule3 (ozon : OzonHttp) (catalogue : ℕ → Option String)
    (target : Module3PushTarget) : Prop :=
  ∀ item offerId, ozon.productInfoList (pushLookup target.productId) = .ok item →
    item.offerId = some offerId → trim offerId ≠ "" →
    ∀ k, catalogue k = some (trim offerId) → targetNumber target.productId = some k

/-! ### Numbers -/

lemma parseU64_eq_some {s : String} {n : ℕ} :
    parseU64 s = some n ↔ parseUnsigned s = some n ∧ n < 2 ^ 64 := by
  rw [parseU64, Option.filter_eq_some_iff, decide_eq_true_iff]

lemma parseU64_toString {n m : ℕ} : parseU64 (toString n) = some m ↔ n = m ∧ n < 2 ^ 64 := by
  rw [parseU64_eq_some, parseUnsigned_toString, Option.some_inj]
  constructor
  · rintro ⟨rfl, h⟩
    exact ⟨rfl, h⟩
  · rintro ⟨rfl, h⟩
    exact ⟨rfl, h⟩

lemma parseOptionalU64Vec_ok {value : Option String} {field p : String} {parsed : List ℕ}
    (h : parseOptionalU64Vec value field = .ok parsed) (hvalue : value = some p) :
    ∃ n, parseU64 p = some n := by
  subst hvalue
  simp only [parseOptionalU64Vec, Except.bind_eq_ok, Except.okOr_eq_ok] at h
  obtain ⟨n, hn, -⟩ := h
  exact ⟨n, hn⟩

/-! ### Looking up -/

lemma OzonProductLookup.normalized_normalized (lookup : OzonProductLookup) :
    lookup.normalized.normalized = lookup.normalized := by
  have hoption : ∀ value : Option String,
      normalizeOptional (normalizeOptional value) = normalizeOptional value := by
    intro value
    cases value with
    | none => rfl
    | some value =>
      by_cases hblank : trim value = ""
      · simp [normalizeOptional, hblank, Option.filter]
      · simp [normalizeOptional, hblank, trim_trim, Option.filter]
  simp only [normalized, hoption]

lemma normalized_pushLookup (productId : String) :
    (pushLookup productId).normalized = pushLookup productId :=
  OzonProductLookup.normalized_normalized _

/-- What the client has found when it returns details. -/
structure LookedUp (ozon : OzonEndpoints) (lookup : OzonProductLookup) (detail : OzonProductDetail)
    (item : ProductInfoItem) : Prop where
  one : lookup.normalized.selectedIdentifierCount = 1
  listed : ozon.productInfoList lookup.normalized = .ok item
  productId : (item.id.map toString).or lookup.normalized.productId = some detail.productId
  offerId : item.offerId.or lookup.normalized.offerId = some detail.offerId

/-- The details are those of the item; what the other endpoints add leaves the identifiers. -/
lemma lookedUp_productGet {ozon : OzonEndpoints} {lookup : OzonProductLookup}
    {detail : OzonProductDetail} (h : ozon.productGet lookup = .ok detail) :
    ∃ item, LookedUp ozon lookup detail item := by
  simp only [OzonEndpoints.productGet, Except.bind_eq_ok] at h
  obtain ⟨lookup', hlookup, item, hitem, detail', hdetail, h⟩ := h
  simp only [validateLookup, Except.bind_eq_ok, Except.refuseIf_eq_ok] at hlookup
  obtain ⟨-, hone, hlookup⟩ := hlookup
  obtain rfl : lookup.normalized = lookup' := Except.ok.inj hlookup
  simp only [detailFromInfoItem, Except.bind_eq_ok, Except.okOr_eq_ok] at hdetail
  obtain ⟨productId, hproduct, offerId, hoffer, hdetail⟩ := hdetail
  obtain rfl := Except.ok.inj hdetail
  refine ⟨item, by_contra hone, hitem, ?_, ?_⟩
  · rw [hproduct, ← Except.ok.inj h]
    -- neither endpoint changes the identifiers
    split <;> split <;> rfl
  · rw [hoffer, ← Except.ok.inj h]
    split <;> split <;> rfl

lemma OzonHttp.productInfoList_ok {ozon : OzonHttp} {lookup : OzonProductLookup}
    {item : InfoListItem} (h : ozon.productInfoList lookup = .ok item) :
    (∀ p, lookup.productId = some p → ∃ n, parseU64 p = some n) ∧
      ∀ k, lookup.sku = some k → ∃ n, parseU64 k = some n := by
  simp only [productInfoList, ProductInfoListRequest.fromLookup, Except.bind_eq_ok] at h
  obtain ⟨request, ⟨products, hproducts, skus, hskus, -⟩, -⟩ := h
  exact ⟨fun p => parseOptionalU64Vec_ok hproducts, fun k => parseOptionalU64Vec_ok hskus⟩

lemma OzonHttp.productGet_ok {ozon : OzonHttp} {lookup : OzonProductLookup}
    {detail : IdentifiedDetail} (h : ozon.productGet lookup = .ok detail) :
    ∃ item, ozon.productInfoList lookup.normalized = .ok item ∧
      LookedUp ozon.endpoints lookup detail.toOzonProductDetail item.toProductInfoItem ∧
      detail.sku = item.sku.bind firstNonEmptyString := by
  simp only [productGet, Except.bind_eq_ok] at h
  obtain ⟨detail', hdetail, item, hitem, h⟩ := h
  obtain rfl := Except.ok.inj h
  obtain ⟨item', hfound⟩ := lookedUp_productGet hdetail
  have hsame : item.toProductInfoItem = item' := by
    have hlist := hfound.listed
    simp only [endpoints, hitem] at hlist
    exact Except.ok.inj hlist
  exact ⟨item, hitem, hsame ▸ hfound, rfl⟩

/-- The details are of the product that was looked up exactly when the item does not carry another
identifier. -/
lemma identifiedBy_iff {ozon : OzonHttp} {lookup : OzonProductLookup} {detail : IdentifiedDetail}
    {item : InfoListItem} (hitem : ozon.productInfoList lookup.normalized = .ok item)
    (hfound : LookedUp ozon.endpoints lookup detail.toOzonProductDetail item.toProductInfoItem)
    (hsku : detail.sku = item.sku.bind firstNonEmptyString) :
    detail.IdentifiedBy lookup.normalized ↔ item.Answers lookup.normalized := by
  -- the details take each identifier from the item, or from the lookup where the item has none
  have hproduct : ∀ p, lookup.normalized.productId = some p →
      (parseU64 detail.productId = parseU64 p ↔ item.id = none ∨ item.id = parseU64 p) := by
    intro p hp
    obtain ⟨n, hn⟩ := (OzonHttp.productInfoList_ok hitem).1 p hp
    have hdetail := hfound.productId
    rw [hp] at hdetail
    cases hid : item.id with
    | none =>
      rw [hid] at hdetail
      obtain rfl : p = detail.productId := Option.some.inj hdetail
      simp
    | some id =>
      rw [hid] at hdetail
      have hname : toString id = detail.productId := Option.some.inj hdetail
      rw [← hname, hn, parseU64_toString]
      constructor
      · rintro ⟨rfl, -⟩
        exact .inr rfl
      · rintro (h | h)
        · cases h
        · exact ⟨Option.some.inj h, Option.some.inj h ▸ (parseU64_eq_some.mp hn).2⟩
  have hoffer : ∀ o, lookup.normalized.offerId = some o →
      (detail.offerId = o ↔ item.offerId = none ∨ item.offerId = some o) := by
    intro o ho
    have hdetail := hfound.offerId
    rw [ho] at hdetail
    cases hid : item.offerId with
    | none =>
      rw [hid] at hdetail
      obtain rfl : o = detail.offerId := Option.some.inj hdetail
      simp
    | some offerId =>
      rw [hid] at hdetail
      obtain rfl : offerId = detail.offerId := Option.some.inj hdetail
      simp
  constructor
  · intro h
    exact ⟨fun p hp => (hproduct p hp).mp (h.productId p hp),
      fun o ho => (hoffer o ho).mp (h.offerId o ho), fun k hk => hsku ▸ h.sku k hk⟩
  · intro h
    exact ⟨fun p hp => (hproduct p hp).mpr (h.productId p hp),
      fun o ho => (hoffer o ho).mpr (h.offerId o ho), fun k hk => hsku ▸ h.sku k hk⟩

/-! ### The writes of a push -/

section Pushes

variable {x : NodeCrates} {w : NodeWorld} {ozon : OzonHttp} {i : ℕ} {credentials : OzonCredentials}
  {catalogue : ℕ → Option String} {s : LocalState}

/-- A number's text has no blanks around it. -/
lemma trim_toString (n : ℕ) : trim (toString n) = toString n := by
  refine trimText_of_forall fun c hc => ?_
  have hdigit : c.isDigit = true := by
    rw [show (toString n).toList = Nat.toDigits 10 n from Nat.toList_repr] at hc
    exact Nat.isDigit_of_mem_toDigits (by norm_num) (by norm_num) hc
  have hrange : 48 ≤ c.toNat ∧ c.toNat ≤ 57 := by
    simpa [Char.isDigit, UInt32.le_iff_toNat_le] using hdigit
  simp only [isWhitespace, Bool.or_eq_false_iff, Bool.and_eq_false_iff, decide_eq_false_iff_not,
    beq_eq_false_iff_ne]
  omega

/-- What the lookup of a push finds. -/
lemma lookedUp_push {productId : String} {detail : OzonProductDetail}
    (h : ozon.endpoints.productGet (pushLookup productId) = .ok detail) :
    ∃ item m, ozon.productInfoList (pushLookup productId) = .ok item ∧
      targetNumber productId = some m ∧ item.offerId = some detail.offerId ∧
      (item.id.map toString).getD (trim productId) = detail.productId := by
  obtain ⟨item', hfound⟩ := lookedUp_productGet h
  obtain ⟨hone, hlisted, hproduct, hoffer⟩ := hfound
  rw [normalized_pushLookup] at hone hlisted hproduct hoffer
  have hnumber : (pushLookup productId).productId = some (trim productId) := by
    by_cases hblank : trim productId = ""
    · simp [pushLookup, OzonProductLookup.normalized, normalizeOptional, Option.filter, hblank,
        OzonProductLookup.selectedIdentifierCount] at hone
    · simp [pushLookup, OzonProductLookup.normalized, normalizeOptional, Option.filter, hblank]
  obtain ⟨item, hitem, rfl⟩ : ∃ item, ozon.productInfoList (pushLookup productId) = .ok item ∧
      item.toProductInfoItem = item' := by
    cases hlist : ozon.productInfoList (pushLookup productId) with
    | error e => simp [OzonHttp.endpoints, hlist, Except.map] at hlisted
    | ok item =>
      refine ⟨item, rfl, ?_⟩
      simpa [OzonHttp.endpoints, hlist, Except.map] using hlisted
  obtain ⟨m, hm⟩ := (OzonHttp.productInfoList_ok hitem).1 _ hnumber
  refine ⟨item, m, hitem, hm, ?_, ?_⟩
  · rw [← hoffer]
    exact (Option.or_none).symm
  · rw [hnumber] at hproduct
    cases hid : item.id with
    | none =>
      rw [hid] at hproduct
      exact Option.some.inj hproduct
    | some n =>
      rw [hid] at hproduct
      exact Option.some.inj hproduct

/-- An answer that is listed and carries an offer id is enough for the client. -/
lemma productGet_push {productId : String} {m : ℕ} {item : InfoListItem}
    (hm : targetNumber productId = some m)
    (hitem : ozon.productInfoList (pushLookup productId) = .ok item)
    (hoffer : item.offerId.isSome) :
    ∃ detail, ozon.endpoints.productGet (pushLookup productId) = .ok detail := by
  have hblank : trim productId ≠ "" := by
    intro hblank
    rw [targetNumber, hblank] at hm
    have hempty : parseU64 "" = none := by decide
    rw [hempty] at hm
    cases hm
  have hlookup : pushLookup productId = ⟨some (trim productId), none, none⟩ := by
    simp [pushLookup, OzonProductLookup.normalized, normalizeOptional, Option.filter, hblank]
  obtain ⟨offerId, hoffer⟩ := Option.isSome_iff_exists.mp hoffer
  have hvalid : validateLookup (pushLookup productId) = .ok (pushLookup productId) := by
    rw [validateLookup, normalized_pushLookup, hlookup]
    rfl
  have hlist : ozon.endpoints.productInfoList (pushLookup productId) =
      .ok item.toProductInfoItem := by
    simp only [OzonHttp.endpoints, hitem]
    rfl
  have hdetail : ∃ detail, detailFromInfoItem (pushLookup productId) item.toProductInfoItem =
      .ok detail := by
    rw [hlookup, detailFromInfoItem, hoffer]
    cases item.id <;> exact ⟨_, rfl⟩
  obtain ⟨detail, hdetail⟩ := hdetail
  simp only [OzonEndpoints.productGet, Except.bind_eq_ok]
  exact ⟨_, _, hvalid, _, hlist, detail, hdetail, rfl⟩

/-- The request of a relist push: its number is that of the item, else that of the target. -/
lemma picturesImport_hits {productId : String} {images : List String} {m : ℕ}
    {id : Option ℕ} (htarget : targetNumber productId = some m) (himages : images ≠ []) :
    (OzonWrite.picturesImport credentials ((id.map toString).getD (trim productId)) images).Hits x
        catalogue (some m) ↔ ∀ n, id = some n → n < 2 ^ 63 → n = m := by
  have hparse : ∀ n, parseUnsigned (trim ((id.map toString).getD (trim productId))) = some n →
      ((OzonWrite.picturesImport credentials ((id.map toString).getD (trim productId)) images).Hits
        x catalogue (some m) ↔ (n < 2 ^ 63 → n = m)) := by
    intro n hn
    -- a number from 2^63 on is refused before the request is made
    have hnumber := parseI64_of_parseUnsigned hn
    constructor
    · intro h hlt
      have hrequest := h { productId := n, images := images, colorImage := "", images360 := [] } (by
        rw [if_pos hlt] at hnumber
        simp only [picturesImportRequest, hnumber, Except.bind_eq_ok, Except.okOr_eq_ok,
          Except.refuseIf_eq_ok]
        exact ⟨n, rfl, (), himages, rfl⟩)
      have hsame : (m : ℤ) = n := Option.some.inj hrequest
      omega
    · intro h request hrequest
      simp only [picturesImportRequest, Except.bind_eq_ok, Except.okOr_eq_ok] at hrequest
      obtain ⟨k, hk, _, -, hrequest⟩ := hrequest
      obtain rfl := Except.ok.inj hrequest
      rw [hnumber] at hk
      split at hk
      next hlt =>
        rw [← Option.some.inj hk, h hlt]
        rfl
      · cases hk
  -- the number is that of the item, if it has one
  cases id with
  | none =>
    have htext : parseUnsigned (trim (trim productId)) = some m := by
      rw [trim_trim]
      exact (parseU64_eq_some.mp htarget).1
    rw [hparse m htext]
    simp
  | some n =>
    rw [hparse n (by rw [Option.map_some, Option.getD_some, trim_toString, parseUnsigned_toString])]
    simp

/-- The item of an update carries the offer id, unless that is blank. -/
lemma productUpdateCopy_hits {number : Option ℕ} {update : OzonProductCopyUpdate} :
    (OzonWrite.productUpdateCopy credentials update).Hits x catalogue number ↔
      (trim update.offerId ≠ "" → ∀ k, catalogue k = some (trim update.offerId) →
        number = some k) := by
  simp only [OzonWrite.Hits, importItem, Except.bind_eq_ok, Except.refuseIf_eq_ok]
  constructor
  · intro h hblank k hk
    exact h _ ⟨(), hblank, rfl⟩ k hk
  · rintro h item ⟨_, hblank, hitem⟩ k hk
    obtain rfl := Except.ok.inj hitem
    exact h hblank k hk

/-- **The product that was asked for.**  The details that the client returns carry the identifier
of the lookup exactly when the first item of the answer does not carry another one.  A relist push
writes to no other product than its target exactly when the item, where it can be sent at all, has
no other number; a confirmed push of a proposal that has read all it needs, exactly when nothing
else in the shop has the item's offer id. -/
theorem pushes_hit_the_product (x : NodeCrates) (ozon : OzonHttp) :
    (∀ lookup detail, ozon.productGet lookup = .ok detail →
      ∃ item, ozon.productInfoList lookup.normalized = .ok item ∧
        (detail.IdentifiedBy lookup.normalized ↔ item.Answers lookup.normalized)) ∧
    ∀ (w : NodeWorld) (i : ℕ) (credentials : OzonCredentials) (catalogue : ℕ → Option String)
      (s : LocalState), w.productGet i credentials = ozon.endpoints.productGet →
      (∀ target, ∃ written,
        (finalState (relistPushOne w i credentials target s)).writes = s.writes ++ written ∧
        ((∀ call ∈ written, call.Hits x catalogue (targetNumber target.productId)) ↔
          ozon.AnswersRelist target)) ∧
      ∀ target confirm, ∃ written,
        (finalState (module3PushOne x w i credentials target confirm s)).writes =
          s.writes ++ written ∧
        ((∀ call ∈ written, call.Hits x catalogue (targetNumber target.productId)) ↔
          (confirm = true →
            (∃ found s', module3Read x w i credentials target s = .ok found s') →
            ozon.AnswersModule3 catalogue target)) := by
  refine ⟨fun lookup detail h => ?_, fun w i credentials catalogue s hget =>
    ⟨fun target => ?_, fun target confirm => ?_⟩⟩
  · obtain ⟨item, hitem, hfound, hsku⟩ := OzonHttp.productGet_ok h
    exact ⟨item, hitem, identifiedBy_iff hitem hfound hsku⟩
  -- a relist push writes once, after it has read the product
  · have hpush := @relistPushOne_writes w i credentials target s
    rcases hpush with ⟨hwrites, hno⟩ | ⟨hurl, detail, hdetail, hwrites⟩
    · refine ⟨[], by rw [hwrites, List.append_nil], fun _ => ?_, fun _ => by simp⟩
      intro hurl m item n hm hitem hoffer _ _
      rcases hno with hno | hno
      · rw [hno] at hurl
        cases hurl
      · obtain ⟨detail, hdetail⟩ := productGet_push hm hitem hoffer
        exact absurd (hget ▸ hdetail) (hno detail)
    · refine ⟨_, hwrites, ?_⟩
      rw [hget] at hdetail
      obtain ⟨item, m, hitem, hm, hoffer, hproduct⟩ := lookedUp_push hdetail
      rw [List.forall_mem_singleton, ← hproduct, hm,
        picturesImport_hits hm (relistImages_ne_nil _ _)]
      constructor
      · intro h hurl' m' item' n hm' hitem' _ hid hlt
        obtain rfl : item = item' := Except.ok.inj (hitem.symm.trans hitem')
        rw [h n hid hlt]
        exact Option.some.inj (hm.symm.trans hm')
      · intro h n hid hlt
        exact h hurl m item n hm hitem (by rw [hoffer]; rfl) hid hlt
  · cases confirm with
    | false =>
      exact ⟨[], by rw [finalState_module3PushOne_dryRun, List.append_nil], by simp⟩
    | true =>
      cases hread : module3Read x w i credentials target s with
      | error e s' =>
        refine ⟨[], by rw [writes_module3PushOne_of_error hread, List.append_nil], ?_⟩
        simp
      | ok found s' =>
        obtain ⟨product, dictionary, values⟩ := found
        -- the offer id in the request is the one that the item has
        have hlive := (module3Read_ok hread).live
        rw [hget] at hlive
        obtain ⟨item, m, hitem, hm, hoffer, -⟩ := lookedUp_push hlive
        refine ⟨_, writes_module3PushOne_of_read hread, ?_⟩
        rw [List.forall_mem_singleton]
        have hupdate : (module3Update x product target.proposal dictionary
            fun id => values.lookup id).offerId = product.offerId := rfl
        rw [productUpdateCopy_hits, hupdate]
        constructor
        · intro h _ _ item' offerId hitem' hoffer' hblank k hk
          obtain rfl : item = item' := Except.ok.inj (hitem.symm.trans hitem')
          obtain rfl : product.offerId = offerId := Option.some.inj (hoffer.symm.trans hoffer')
          exact h hblank k hk
        · intro h hblank k hk
          exact h rfl ⟨_, s', rfl⟩ item product.offerId hitem hoffer hblank k hk

end Pushes

/-! ### An answer about another product -/

/-- An item of the given number. -/
def answeredItem (id : Option ℕ) : InfoListItem :=
  { id := id
    offerId := some "SKU-42"
    name := some "Example"
    descriptionCategoryId := some 17
    typeId := some 91
    primaryImage := .string "https://cdn.example/p.jpg"
    images := .null
    images360 := .null
    colorImage := .null
    sku := none }

/-- A marketplace that answers every lookup with that item. -/
def answering (id : Option ℕ) : OzonHttp where
  infoList _ := .ok { items := [answeredItem id], result := none }
  productInfoAttributes _ := .error (.http "offline")
  productInfoDescription _ := .error (.http "offline")

lemma answering_ok {id : Option ℕ} {lookup : OzonProductLookup} {item : InfoListItem}
    (h : (answering id).productInfoList lookup = .ok item) : item = answeredItem id := by
  simp only [OzonHttp.productInfoList, answering, Except.bind_eq_ok, Except.okOr_eq_ok] at h
  obtain ⟨request, -, body, hbody, hfirst⟩ := h
  obtain rfl := Except.ok.inj hbody
  exact (Option.some.inj hfirst).symm

/-- A node that reads from it. -/
def answeredWorld (id : Option ℕ) : NodeWorld :=
  { laptopWorld with productGet := fun _ _ => (answering id).endpoints.productGet }

/-- The item carries the number of the target: the details are of that product, and a relist push
writes to it alone. -/
theorem pushes_hit_the_product_answered :
    (∃ detail, (answering (some 42)).productGet ⟨some "42", none, none⟩ = .ok detail ∧
      detail.IdentifiedBy (OzonProductLookup.normalized ⟨some "42", none, none⟩)) ∧
    ∃ written, (finalState (relistPushOne (answeredWorld (some 42)) 0 ⟨"client", "key"⟩
        ⟨"42", "https://cdn.example/new.jpg"⟩ laptopNode)).writes = laptopNode.writes ++ written ∧
      ∀ call ∈ written, call.Hits leaseCrates (fun _ => none) (targetNumber "42") := by
  have h := pushes_hit_the_product leaseCrates (answering (some 42))
  have hnumber : targetNumber "42" = some 42 := by decide +kernel
  constructor
  · have hok :
        ((answering (some 42)).productGet ⟨some "42", none, none⟩).toOption.isSome = true := by
      decide +kernel
    cases hget : (answering (some 42)).productGet ⟨some "42", none, none⟩ with
    | error e =>
      rw [hget] at hok
      cases hok
    | ok detail =>
      obtain ⟨item, hitem, hiff⟩ := h.1 _ _ hget
      refine ⟨detail, rfl, hiff.mpr ?_⟩
      rw [answering_ok hitem]
      refine ⟨fun p hp => .inr ?_, nofun, nofun⟩
      rw [← Option.some.inj hp]
      decide +kernel
  · obtain ⟨written, hwrites, hhits⟩ := (h.2 (answeredWorld (some 42)) 0 ⟨"client", "key"⟩
      (fun _ => none) laptopNode rfl).1 ⟨"42", "https://cdn.example/new.jpg"⟩
    refine ⟨written, hwrites, hhits.mpr fun _ m item n hm hitem _ hid _ => ?_⟩
    rw [answering_ok hitem] at hid
    obtain rfl : m = 42 := Option.some.inj (hm.symm.trans hnumber)
    exact (Option.some.inj hid).symm

/-- The item carries another number, and a relist push writes to that product. -/
theorem relist_push_hits_another_product :
    ¬ ∀ (x : NodeCrates) (ozon : OzonHttp) (w : NodeWorld) (i : ℕ) (credentials : OzonCredentials)
        (catalogue : ℕ → Option String) (target : RelistPushTarget) (s : LocalState),
      w.productGet i credentials = ozon.endpoints.productGet →
      ∀ call ∈ (finalState (relistPushOne w i credentials target s)).writes,
        call ∈ s.writes ∨ call.Hits x catalogue (targetNumber target.productId) := by
  intro h
  have hwrites : (finalState (relistPushOne (answeredWorld (some 43)) 0 ⟨"client", "key"⟩
      ⟨"42", "https://cdn.example/new.jpg"⟩ laptopNode)).writes =
      [.picturesImport ⟨"client", "key"⟩ "43"
        ["https://cdn.example/new.jpg", "https://cdn.example/p.jpg"]] := by decide +kernel
  rcases h leaseCrates (answering (some 43)) (answeredWorld (some 43)) 0 ⟨"client", "key"⟩
    (fun _ => none) ⟨"42", "https://cdn.example/new.jpg"⟩ laptopNode rfl _
    (by rw [hwrites]; exact List.mem_singleton_self _) with hold | hhits
  · cases hold
  · have hnumber := hhits
      { productId := 43
        images := ["https://cdn.example/new.jpg", "https://cdn.example/p.jpg"]
        colorImage := ""
        images360 := [] } (by decide +kernel)
    revert hnumber
    decide +kernel

end OzonSuite
