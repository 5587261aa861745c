/-
# The marketplace client

What the HTTP client of the connector reads out of the marketplace's answers, and what it sends for
a write.  The details of a product are put together from three endpoints; a write goes out as one
request that names the product and replaces what it mentions.
-/
import OzonSuite.Node.State

namespace OzonSuite

open Lib

/-! ## Values of an answer -/

/-- The text, trimmed, unless it is blank. -/
def nonEmptyString (value : String) : Option String :=
  let value := trim value
  if value = "" then none else some value

mutual

/-- The text of a value: of an object, that of its `url`, `value` or `name`. -/
def firstNonEmptyString : Json → Option String
  | .string value => nonEmptyString value
  | .number text => some text
  | .object fields =>
    let texts := fieldStrings fields
    (texts.lookup "url").join.or ((texts.lookup "value").join.or (texts.lookup "name").join)
  | .null | .bool _ | .array _ => none

/-- The fields of an object, each with the text of its value. -/
def fieldStrings : List (String × Json) → List (String × Option String)
  | [] => []
  | (key, value) :: fields => (key, firstNonEmptyString value) :: fieldStrings fields

end

/-- Append what is not there yet. -/
def mergeUnique (target incoming : List String) : List String :=
  incoming.foldl (fun target value => if value ∈ target then target else target ++ [value]) target

/-- The values without repetitions. -/
def orderedUnique (values : List String) : List String := mergeUnique [] values

/-- The texts in a value, without repetitions. -/
def stringsFromValue : Json → List String
  | .array values => orderedUnique (values.filterMap firstNonEmptyString)
  | value => (firstNonEmptyString value).toList

/-- The values of an attribute. -/
def extractAttributeValues : Json → List String
  | .array values => orderedUnique (values.filterMap fun value =>
      ((firstNonEmptyString (value.index "value")).or
        (firstNonEmptyString (value.index "name"))).or (firstNonEmptyString value))
  | value => stringsFromValue value

/-- The attributes of an item. -/
def extractAttributes (value : Json) : List OzonProductAttribute :=
  match (value.get? "attributes").bind Json.asArray with
  | some attributes =>
    (attributes.map fun a =>
      { id := (a.get? "id").bind Json.asU64
        name := firstNonEmptyString (a.index "name")
        values := extractAttributeValues (a.index "values") : OzonProductAttribute }).filter
      fun a => a.id.isSome || a.name.isSome || !a.values.isEmpty
  | none => []

/-- The first item of an answer. -/
def firstAttributeItem (value : Json) : Option Json :=
  let result := (value.get? "result").getD value
  (((result.get? "items").bind Json.asArray).bind List.head?).or
    (result.asArray.bind List.head?)

/-- The description in an answer. -/
def parseProductDescription (body : Json) : Option String :=
  let scope := (body.get? "result").getD body
  firstNonEmptyString (scope.index "description")

/-! ## The details of a product -/

/-- An item of the info endpoint, as far as the node reads it. -/
structure ProductInfoItem where
  id : Option ℕ
  offerId : Option String
  name : Option String
  descriptionCategoryId : Option ℕ
  typeId : Option ℕ
  primaryImage : Json
  images : Json
  images360 : Json
  colorImage : Json

/-- What the attributes endpoint adds. -/
structure ProductAttributesSupplement where
  attributes : List OzonProductAttribute
  primaryImage : Option String
  galleryImages : List String
  images360 : List String
  colorImage : Option String

/-- What an item of the attributes adds to the details. -/
def ProductAttributesSupplement.fromValue (value : Json) : ProductAttributesSupplement :=
  { attributes := extractAttributes value
    primaryImage := (stringsFromValue (value.index "primary_image")).head?
    galleryImages := stringsFromValue (value.index "images")
    images360 := stringsFromValue (value.index "images360")
    colorImage := (stringsFromValue (value.index "color_image")).head? }

/-- Append the images that are not there yet, with their role. -/
def pushImages (images : List OzonProductImage) (urls : List String)
    (role : OzonProductImageRole) : List OzonProductImage :=
  urls.foldl
    (fun images url =>
      if images.any (·.url = url) then images
      else images ++ [{ url := url, role := role, position := images.length % 2 ^ 16 }])
    images

/-- The images of all roles, in the order of their roles. -/
def imagesByRole (primaryImage : Option String) (galleryImages : List String)
    (colorImage : Option String) (images360 : List String) : List OzonProductImage :=
  let images := pushImages [] primaryImage.toList .primary
  let images := pushImages images galleryImages .gallery
  let images := pushImages images colorImage.toList .color
  pushImages images images360 .spin360

/-- The details in an item of the info endpoint. -/
def detailFromInfoItem (lookup : OzonProductLookup) (item : ProductInfoItem) :
    Except OzonConnectorError OzonProductDetail := do
  let productId ← okOr ((item.id.map toString).or lookup.productId)
    (OzonConnectorError.unexpectedResponse "missing product id")
  let offerId ← okOr (item.offerId.or lookup.offerId)
    (OzonConnectorError.unexpectedResponse "missing offer id")
  let primaryImage := (stringsFromValue item.primaryImage).head?
  let galleryImages := stringsFromValue item.images
  let images360 := stringsFromValue item.images360
  let colorImage := (stringsFromValue item.colorImage).head?
  return {
    productId, offerId, primaryImage, galleryImages, images360, colorImage
    name := item.name
    descriptionCategoryId := item.descriptionCategoryId
    typeId := item.typeId
    description := none
    images := imagesByRole primaryImage galleryImages colorImage images360
    attributes := [] }

/-- The details with what the attributes add. -/
def applyAttributeSupplement (detail : OzonProductDetail)
    (supplement : ProductAttributesSupplement) : OzonProductDetail :=
  let primaryImage := detail.primaryImage.or supplement.primaryImage
  let galleryImages := mergeUnique detail.galleryImages supplement.galleryImages
  let images360 := mergeUnique detail.images360 supplement.images360
  let colorImage := detail.colorImage.or supplement.colorImage
  { detail with
    primaryImage, galleryImages, images360, colorImage
    attributes := supplement.attributes
    images := imagesByRole primaryImage galleryImages colorImage images360 }

/-- How many identifiers a lookup has. -/
def OzonProductLookup.selectedIdentifierCount (lookup : OzonProductLookup) : ℕ :=
  (lookup.productId.toList ++ lookup.offerId.toList ++ lookup.sku.toList).length

/-- The check that a lookup has exactly one identifier. -/
def validateLookup (lookup : OzonProductLookup) :
    Except OzonConnectorError OzonProductLookup := do
  let lookup := lookup.normalized
  refuseIf (lookup.selectedIdentifierCount ≠ 1) (OzonConnectorError.invalidProductLookup
    "provide exactly one of product_id, offer_id, or sku")
  return lookup

/-- What the endpoints of the marketplace answer about a product. -/
structure OzonEndpoints where
  productInfoList : OzonProductLookup → Except OzonConnectorError ProductInfoItem
  productInfoAttributes : OzonProductLookup → Except OzonConnectorError Json
  productInfoDescription : OzonProductLookup → Except OzonConnectorError Json

/-- The details of a product.  Only the first endpoint has to answer; what the others fail to add
is missing. -/
def OzonEndpoints.productGet (ozon : OzonEndpoints) (lookup : OzonProductLookup) :
    Except OzonConnectorError OzonProductDetail := do
  let lookup ← validateLookup lookup
  let infoItem ← ozon.productInfoList lookup
  let detail ← detailFromInfoItem lookup infoItem
  let byId : OzonProductLookup :=
    { productId := some detail.productId, offerId := none, sku := none }
  let detail :=
    match (ozon.productInfoAttributes byId).map firstAttributeItem with
    | .ok (some item) => applyAttributeSupplement detail (.fromValue item)
    | _ => detail
  let detail :=
    match (ozon.productInfoDescription byId).map parseProductDescription with
    | .ok (some description) => { detail with description := some description }
    | _ => detail
  return detail

/-- The lookup by which a push reads the live product. -/
def pushLookup (productId : String) : OzonProductLookup :=
  OzonProductLookup.normalized { productId := some productId, offerId := none, sku := none }

/-! ## Writes -/

/-- What an import of pictures sends. -/
structure PicturesImportRequest where
  productId : ℤ
  images : List String
  colorImage : String
  images360 : List String
deriving DecidableEq

/-- The request that an import of pictures sends. -/
def picturesImportRequest (x : NodeCrates) (productId : String) (images : List String) :
    Except OzonConnectorError PicturesImportRequest := do
  let productNumber ← okOr (parseI64 (trim productId)) (OzonConnectorError.invalidProductLookup
    s!"product_id must be numeric to import pictures, got {x.debugText productId}")
  refuseIf (images = []) (OzonConnectorError.invalidProductLookup
    "pictures_import requires at least one image URL")
  return { productId := productNumber, images := images, colorImage := "", images360 := [] }

/-- A value of an attribute that is sent. -/
structure ImportAttributeValue where
  dictionaryValueId : Option ℕ
  value : Option String
deriving DecidableEq

/-- An attribute that is sent. -/
structure ImportAttribute where
  id : ℕ
  values : List ImportAttributeValue
deriving DecidableEq

/-- An item that is sent. -/
structure ImportItem where
  offerId : String
  name : Option String
  attributes : List ImportAttribute
deriving DecidableEq

/-- A resolved value, as it is sent. -/
def ImportAttributeValue.fromResolved : OzonResolvedValue → ImportAttributeValue
  | .dictionary dictionaryValueId => { dictionaryValueId := some dictionaryValueId, value := none }
  | .freeText value => { dictionaryValueId := none, value := some value }

/-- A resolved attribute, as it is sent. -/
def ImportAttribute.fromResolved (resolved : OzonResolvedAttribute) : ImportAttribute :=
  { id := resolved.attributeId, values := resolved.values.map .fromResolved }

/-- The attribute of the description. -/
def ozonDescriptionAttributeId : ℕ := 4191

/-- The description, as the annotation attribute. -/
def ImportAttribute.description (text : String) : ImportAttribute :=
  { id := ozonDescriptionAttributeId
    values := [{ dictionaryValueId := none, value := some text }] }

/-- The item that an update of the copy sends. -/
def importItem (update : OzonProductCopyUpdate) : Except OzonConnectorError ImportItem := do
  let offerId := trim update.offerId
  refuseIf (offerId = "") (OzonConnectorError.invalidProductLookup
    "product_update_copy requires a non-empty offer_id")
  let attributes := update.attributes.map ImportAttribute.fromResolved
  let description := (update.description.map trim).filter (· ≠ "")
  return {
    offerId := offerId
    name := (update.name.map trim).filter (· ≠ "")
    attributes := attributes ++ (description.map ImportAttribute.description).toList }

/-! ## The images of a product -/

/-- What merging appends: the values that are new, each of them once, in their order. -/
lemma mergeUnique_spec (target incoming : List String) :
    ∃ rest, mergeUnique target incoming = target ++ rest ∧ rest.Sublist incoming ∧ rest.Nodup ∧
      ∀ value, value ∈ rest ↔ value ∈ incoming ∧ value ∉ target := by
  induction incoming generalizing target with
  | nil => exact ⟨[], by simp [mergeUnique], .slnil, .nil, by simp⟩
  | cons a incoming ih =>
    have hstep : mergeUnique target (a :: incoming) =
        mergeUnique (if a ∈ target then target else target ++ [a]) incoming := rfl
    by_cases ha : a ∈ target
    · obtain ⟨rest, hrest, hsub, hnodup, hmem⟩ := ih target
      rw [hstep, if_pos ha]
      refine ⟨rest, hrest, hsub.cons a, hnodup, fun value => ?_⟩
      rw [hmem, List.mem_cons]
      constructor
      · rintro ⟨h, hnot⟩
        exact ⟨.inr h, hnot⟩
      · rintro ⟨rfl | h, hnot⟩
        · exact absurd ha hnot
        · exact ⟨h, hnot⟩
    -- a new value goes to the end of the target, where it keeps others like it out
    · obtain ⟨rest, hrest, hsub, hnodup, hmem⟩ := ih (target ++ [a])
      rw [hstep, if_neg ha]
      refine ⟨a :: rest, by simp [hrest], hsub.cons_cons a, ?_, fun value => ?_⟩
      · refine List.nodup_cons.mpr ⟨fun h => ?_, hnodup⟩
        exact ((hmem a).mp h).2 (by simp)
      · rw [List.mem_cons, hmem, List.mem_cons, List.mem_append, List.mem_singleton]
        constructor
        · rintro (rfl | ⟨h, hnot⟩)
          · exact ⟨.inl rfl, ha⟩
          · exact ⟨.inr h, fun h' => hnot (.inl h')⟩
        · rintro ⟨rfl | h, hnot⟩
          · exact .inl rfl
          · by_cases hv : value = a
            · exact .inl hv
            · exact .inr ⟨h, fun h' => h'.elim hnot hv⟩

lemma map_url_pushImages (images : List OzonProductImage) (urls : List String)
    (role : OzonProductImageRole) :
    (pushImages images urls role).map (·.url) = mergeUnique (images.map (·.url)) urls := by
  induction urls generalizing images with
  | nil => rfl
  | cons url urls ih =>
    have hany : images.any (·.url = url) = true ↔ url ∈ images.map (·.url) := by simp
    have hstep : pushImages images (url :: urls) role = pushImages
      (if images.any (·.url = url) then images
        else images ++ [{ url := url, role := role, position := images.length % 2 ^ 16 }])
      urls role := rfl
    rw [hstep, ih]
    by_cases h : images.any (·.url = url) = true
    · rw [if_pos h, show mergeUnique (images.map (·.url)) (url :: urls) = mergeUnique
        (if url ∈ images.map (·.url) then images.map (·.url) else images.map (·.url) ++ [url]) urls
        from rfl, if_pos (hany.mp h)]
    · rw [if_neg h, show mergeUnique (images.map (·.url)) (url :: urls) = mergeUnique
        (if url ∈ images.map (·.url) then images.map (·.url) else images.map (·.url) ++ [url]) urls
        from rfl, if_neg fun h' => h (hany.mpr h'), List.map_append]
      rfl

/-- The images listed are those of the four roles. -/
def OzonProductDetail.ImagesListed (detail : OzonProductDetail) : Prop :=
  detail.images = imagesByRole detail.primaryImage detail.galleryImages detail.colorImage
    detail.images360

/-- The details that the client puts together list the images of the four roles. -/
lemma imagesListed_productGet {ozon : OzonEndpoints} {lookup : OzonProductLookup}
    {detail : OzonProductDetail} (h : ozon.productGet lookup = .ok detail) :
    detail.ImagesListed := by
  simp only [OzonEndpoints.productGet, Except.bind_eq_ok] at h
  obtain ⟨lookup', -, infoItem, -, detail', hdetail, h⟩ := h
  have hlisted : detail'.ImagesListed := by
    simp only [detailFromInfoItem, Except.bind_eq_ok] at hdetail
    obtain ⟨productId, -, offerId, -, hdetail⟩ := hdetail
    cases hdetail
    rfl
  obtain rfl := Except.ok.inj h
  -- neither endpoint leaves the list as it was put together before
  split <;> split <;> first | exact hlisted | rfl

end OzonSuite
