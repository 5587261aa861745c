/-
# The marketplace, as the local node sees it

The types of the `ozon-connector` crate that the node works with, and the operations of its write
connector.
-/
import OzonSuite.Lib.AsciiText

namespace OzonSuite

open Lib

/-- A text that is blank counts as absent. -/
def normalizeOptional (value : Option String) : Option String :=
  (value.map trim).filter (· ≠ "")

/-- The credentials of a seller. -/
structure OzonCredentials where
  clientId : String
  apiKey : String
deriving DecidableEq

/-- A product in a list. -/
structure OzonProductSummary where
  productId : String
  offerId : String
  name : Option String
deriving DecidableEq

/-- A page of a list of products. -/
structure OzonProductListPage where
  products : List OzonProductSummary
  total : ℕ
  lastId : Option String
deriving DecidableEq

/-- What a product is looked up by. -/
structure OzonProductLookup where
  productId : Option String
  offerId : Option String
  sku : Option String
deriving DecidableEq

/-- The lookup without blank identifiers. -/
def OzonProductLookup.normalized (lookup : OzonProductLookup) : OzonProductLookup :=
  { productId := normalizeOptional lookup.productId
    offerId := normalizeOptional lookup.offerId
    sku := normalizeOptional lookup.sku }

/-- An attribute of a product with its values. -/
structure OzonProductAttribute where
  id : Option ℕ
  name : Option String
  values : List String
deriving DecidableEq

/-- What an image of a product is for. -/
inductive OzonProductImageRole
  | primary
  | gallery
  | color
  | spin360
deriving DecidableEq

/-- An image of a product. -/
structure OzonProductImage where
  url : String
  role : OzonProductImageRole
  position : ℕ
deriving DecidableEq

/-- The details of a product, as far as the node reads them. -/
structure OzonProductDetail where
  productId : String
  offerId : String
  name : Option String
  descriptionCategoryId : Option ℕ
  typeId : Option ℕ
  description : Option String
  primaryImage : Option String
  images : List OzonProductImage
  galleryImages : List String
  images360 : List String
  colorImage : Option String
  attributes : List OzonProductAttribute
deriving DecidableEq

/-- Why the connector has failed. -/
inductive OzonConnectorError
  | invalidBaseUrl (url : String)
  | invalidProductLookup (lookup : String)
  | productNotFound (lookup : String)
  | apiStatus (status : ℕ) (body : String)
  | unexpectedResponse (text : String)
  | http (text : String)
deriving DecidableEq

/-- The `Display` form. -/
def OzonConnectorError.text : OzonConnectorError → String
  | invalidBaseUrl url => s!"invalid Ozon API base URL: {url}"
  | invalidProductLookup lookup => s!"invalid Ozon product lookup: {lookup}"
  | productNotFound lookup => s!"Ozon product not found for {lookup}"
  | apiStatus status body => s!"Ozon API returned status {status}: {body}"
  | unexpectedResponse text => s!"unexpected Ozon API response: {text}"
  | http text => text

/-! ## The write side -/

/-- An attribute of a category. -/
structure OzonCategoryAttribute where
  id : ℕ
  name : String
  /-- Zero means free text. -/
  dictionaryId : ℕ
deriving DecidableEq

/-- The values of the attribute are those of a dictionary. -/
def OzonCategoryAttribute.isDictionary (a : OzonCategoryAttribute) : Bool := a.dictionaryId != 0

/-- A value of the dictionary of an attribute. -/
structure OzonCategoryAttributeValue where
  valueId : ℕ
  value : String
deriving DecidableEq

/-- A value as it is written: an entry of a dictionary, or a text. -/
inductive OzonResolvedValue
  | dictionary (dictionaryValueId : ℕ)
  | freeText (value : String)
deriving DecidableEq

/-- An attribute as it is written. -/
structure OzonResolvedAttribute where
  attributeId : ℕ
  values : List OzonResolvedValue
deriving DecidableEq

/-- An update of the copy of a product. -/
structure OzonProductCopyUpdate where
  offerId : String
  name : Option String
  description : Option String
  attributes : List OzonResolvedAttribute
deriving DecidableEq

/-- What the marketplace says to an update. -/
structure OzonProductCopyUpdateResult where
  offerId : String
  accepted : Bool
  taskId : Option String
deriving DecidableEq

/-- What the marketplace says to an import of pictures. -/
structure OzonPicturesImport where
  productId : String
  pictures : List String
deriving DecidableEq

/-- A call of an operation of the write connector that changes the shop. -/
inductive OzonWrite
  | picturesImport (credentials : OzonCredentials) (productId : String) (images : List String)
  | productUpdateCopy (credentials : OzonCredentials) (update : OzonProductCopyUpdate)
deriving DecidableEq

end OzonSuite
