/-
# Pushing rows back to the marketplace

The rows of a filled workbook are pushed back: first a plan is made for each of the first rows, and
then, if the push is to be applied, the plans are carried out one after the other.  A plan replaces
the pictures of a product, and may submit the whole product again under a new title.  What the
client answers is any JSON value, and a call may fail; a failure ends the push.  What is printed is
left out.
-/
import OzonSuite.Excel.ConfigFile
import OzonSuite.Excel.Extract
import OzonSuite.Lib.Scripts

namespace OzonSuite.Excel

open Lib

/-! ## Python values -/

/-- What a value is told apart by in a set: numbers and truth values by their size. -/
inductive Key
  | none
  | num (x : ℚ)
  | str (s : String)
  | other (typeName : String) (truthy : Bool)
deriving DecidableEq

namespace Data

/-- The key of a value; lists and mappings have none. -/
def key : Data → Option Key
  | none => some .none
  | bool b => some (.num (if b then 1 else 0))
  | int n => some (.num n)
  | float x => some (.num x)
  | str s => some (.str s)
  | list _ | dict _ => Option.none
  | other name b => some (.other name b)

/-- `a or b`. -/
def orElse (a b : Data) : Data := if a.truthy then a else b

/-- What a loop over a value goes through. -/
def elements : Data → Except Failure (List Data)
  | list l => .ok l
  | dict d => .ok (d.map Prod.fst)
  | str s => .ok (s.toList.map fun c => str (String.ofList [c]))
  | _ => .error (.raised "TypeError")

/-- A value that has a `get`. -/
def asDict : Data → Except Failure Dict
  | dict d => .ok d
  | _ => .error (.raised "AttributeError")

/-- `value[0]`. -/
def head : Data → Except Failure Data
  | list (v :: _) => .ok v
  | list [] => .error (.raised "IndexError")
  | str s =>
    match s.toList with
    | c :: _ => .ok (str (String.ofList [c]))
    | [] => .error (.raised "IndexError")
  | dict _ => .error (.raised "KeyError")
  | _ => .error (.raised "TypeError")

end Data

/-- `d[key] = value`. -/
def Dict.set (d : Dict) (key : String) (value : Data) : Dict :=
  if d.any fun e => e.1.isStr key then
    d.map fun e => if e.1.isStr key then (e.1, value) else e
  else d ++ [(.str key, value)]

/-! ## The client -/

/-- A request to the marketplace. -/
inductive ClientCall
  | productInfoByOffer (offerIds : List String)
  | productAttributes (productId : Data)
  | picturesImport (productId : Data) (images : List Data)
  | productImport (items : List Dict)
  | productImportInfo (taskId : Data)

/-- The calls that change a product. -/
def ClientCall.isWrite : ClientCall → Bool
  | .picturesImport _ _ | .productImport _ => true
  | .productInfoByOffer _ | .productAttributes _ | .productImportInfo _ => false

/-- A push: requests, each of which may fail. -/
abbrev PushM := Script ClientCall (fun _ => Except Failure Data) Failure

/-! ## Products and plans -/

/-- What the marketplace has of a product now. -/
structure ProductInfo where
  productId : Data
  name : Data
  primaryImage : Data
  images : List Data

/-- What a push is going to do for one product. -/
structure Plan where
  offerId : String
  row : ℕ
  productId : Data
  resolved : Bool
  imageUrls : List String
  primary : Option String
  imagesToSet : List Data
  keepExisting : Bool
  title : Option String
  /-- The product under its new title, if the title is pushed. -/
  titleItem : Option Dict
  titleSkipReason : Option String
  currentPrimary : Data
  skipReason : Option String

/-- The options of the command. -/
structure PushOptions where
  apply : Bool
  limit : Option ℤ
  keepExisting : Bool
  pushTitle : Bool
  noImages : Bool
  poll : ℤ
deriving DecidableEq

/-! ## Resolving the products -/

section Push

variable (x : PythonData)

/-- A product as it is listed, under its offer; one without an offer is passed over. -/
def readProduct (item : Data) : Except Failure (Option (String × ProductInfo)) := do
  let item ← item.asDict
  let offerId := Dict.get item "offer_id"
  if offerId.isNone then return none
  let images ← ((Dict.get item "images").orElse (.list [])).elements
  return some (x.text offerId, {
    productId := (Dict.get item "id").orElse (Dict.get item "product_id")
    name := (Dict.get item "name").orElse (.str "")
    primaryImage := (Dict.get item "primary_image").orElse (.str "")
    images := images })

/-- The products by their offers, the last one first. -/
def resolveProductIds (offerIds : List String) : PushM (List (String × ProductInfo)) := do
  if offerIds = [] then return []
  let answer ← Script.ask (.productInfoByOffer offerIds)
  let items ← MonadExcept.ofExcept answer.elements
  let products ← MonadExcept.ofExcept (items.mapM (readProduct x))
  return (products.filterMap id).reverse

/-! ## Planning -/

/-- The images that are not there yet, behind those that are. -/
def appendMissing : (existing images : List Data) → List Key → Except Failure (List Data)
  | [], images, _ => .ok images
  | u :: existing, images, seen =>
    if u.truthy then
      match u.key with
      | none => .error (.raised "TypeError")
      | some key =>
        if key ∈ seen then appendMissing existing images seen
        else appendMissing existing (images ++ [u]) (key :: seen)
    else appendMissing existing images seen

/-- `build_image_list`. -/
def buildImageList (rowUrls : List String) (existingImages : List Data) (keepExisting : Bool) :
    Except Failure (List Data) :=
  if keepExisting then appendMissing existingImages (rowUrls.map .str) (rowUrls.map .str)
  else .ok (rowUrls.map .str)

/-- The attribute of the name. -/
def nameAttributeId : ℤ := 4180

/-- The attribute is that of the name. -/
def isNameAttribute (a : Dict) : Bool :=
  (Dict.get a "id").key = some (.num nameAttributeId) ||
    (Dict.get a "attribute_id").key = some (.num nameAttributeId)

/-- An attribute of a product that is given a title. -/
def retitleAttribute (newTitle : String) (a : Data) : Except Failure Data := do
  let d ← a.asDict
  if isNameAttribute d then
    return .dict (Dict.set d "values" (.list [.dict [(.str "value", .str newTitle)]]))
  else return a

/-- `value in (None, "", [])`. -/
def isMissing : Data → Bool
  | .none => true
  | .str s => s = ""
  | .list l => l.isEmpty
  | _ => false

/-- What a product must have to be submitted again. -/
def missingFields (attrs : Dict) : List String :=
  (["offer_id", "attributes"].filter fun f => isMissing (Dict.get attrs f)) ++
    if (Dict.get attrs "category_id").truthy || (Dict.get attrs "description_category_id").truthy ||
        (Dict.get attrs "type_id").truthy then []
    else ["category_id/description_category_id+type_id"]

/-- `build_title_import_item`: the product under its new title, or why it is not submitted. -/
def buildTitleImportItem (attrs : Data) (newTitle : String) :
    Except Failure (Except String Dict) := do
  if attrs.truthy = false then return .error "no attributes returned"
  let attrs ← attrs.asDict
  let missing := missingFields attrs
  if missing ≠ [] then
    let shown := x.repr (.list (missing.map .str))
    return .error s!"attributes missing {shown}; skipping to avoid corruption"
  let attributes ← ((Dict.get attrs "attributes").orElse (.list [])).elements
  let newAttrs ← attributes.mapM (retitleAttribute newTitle)
  return .ok (Dict.set (Dict.set attrs "name" (.str newTitle)) "attributes" (.list newAttrs))

/-- The plan for one row. -/
def planProduct (row : PushRow) (resolved : List (String × ProductInfo))
    (keepExisting pushTitle : Bool) : PushM Plan := do
  let plan : Plan :=
    { offerId := row.offerId
      row := row.row
      productId := .none
      resolved := false
      imageUrls := row.imageUrls
      primary := row.imageUrls.head?
      imagesToSet := []
      keepExisting := keepExisting
      title := row.title
      titleItem := none
      titleSkipReason := none
      currentPrimary := .none
      skipReason := none }
  match resolved.lookup row.offerId with
  | none => return { plan with skipReason := some "offer_id not found via /v3/product/info/list" }
  | some info => do
    let images ← MonadExcept.ofExcept (buildImageList row.imageUrls info.images keepExisting)
    let plan := { plan with
      productId := info.productId
      resolved := true
      currentPrimary := info.primaryImage
      imagesToSet := images }
    match row.title with
    | some title =>
      if pushTitle then do
        let attrs ← Script.ask (.productAttributes info.productId)
        match ← MonadExcept.ofExcept (buildTitleImportItem x attrs title) with
        | .error reason => return { plan with titleSkipReason := some reason }
        | .ok item => return { plan with titleItem := some item }
      else return plan
    | none => return plan

/-! ## Carrying out a plan -/

/-- What the marketplace says of a picture. -/
structure PictureState where
  url : Data
  state : Data
  isPrimary : Data

/-- What came of the writes for one product. -/
structure ApplyResult where
  offerId : String
  productId : Data
  pictures : List PictureState
  /-- The task of a title, and the states it was found in. -/
  titleTask : Option (Data × List Data)

/-- A picture in an answer. -/
def readPicture (p : Data) : Except Failure PictureState := do
  let p ← p.asDict
  return {
    url := Dict.get p "url"
    state := Dict.get p "state"
    isPrimary := Dict.get p "is_primary" }

/-- The first part of carrying out a plan. -/
def applyImages (plan : Plan) (noImages : Bool) : PushM (List PictureState) := do
  if plan.imagesToSet ≠ [] ∧ noImages = false then
    let result ← Script.ask (.picturesImport plan.productId plan.imagesToSet)
    let result ← MonadExcept.ofExcept result.asDict
    let pics ← MonadExcept.ofExcept ((Dict.get result "pictures").orElse (.list [])).elements
    MonadExcept.ofExcept (pics.mapM readPicture)
  else return []

/-- Ask what has become of the import of a title. -/
def pollTitle (taskId : Data) (poll : ℤ) : PushM (List Data) :=
  (List.range (max 1 poll).toNat).mapM fun _ => do
    let info ← Script.ask (.productImportInfo taskId)
    let status ← MonadExcept.ofExcept info.asDict
    return (Dict.get status "status").orElse info

/-- The second part. -/
def applyTitle (plan : Plan) (poll : ℤ) : PushM (Option (Data × List Data)) :=
  match plan.titleItem with
  | some item => do
    let taskId ← Script.ask (.productImport [item])
    let statuses ← pollTitle taskId poll
    return some (taskId, statuses)
  | none => return none

/-- The writes for one product. -/
def applyProduct (plan : Plan) (poll : ℤ) (noImages : Bool) : PushM ApplyResult := do
  let pictures ← applyImages plan noImages
  let titleTask ← applyTitle plan poll
  return {
    offerId := plan.offerId
    productId := plan.productId
    pictures := pictures
    titleTask := titleTask }

/-- What a product looks like after the push. -/
structure Confirmation where
  offerId : String
  newPrimary : Data
  expectedPrimary : Option String
  isMatch : Bool

/-- Look at a product again. -/
def confirmProduct (plan : Plan) : PushM Confirmation := do
  let items ← Script.ask (.productInfoByOffer [plan.offerId])
  let info ← if items.truthy then MonadExcept.ofExcept items.head else pure (.dict [])
  let info ← MonadExcept.ofExcept info.asDict
  let newPrimary := (Dict.get info "primary_image").orElse (.str "")
  return {
    offerId := plan.offerId
    newPrimary := newPrimary
    expectedPrimary := plan.primary
    isMatch := plan.primary.any fun expected => expected ≠ "" && newPrimary.isStr expected }

/-! ## The whole push -/

/-- What the command reports. -/
structure PushReport where
  plans : List Plan
  results : List ApplyResult
  confirmations : List Confirmation

/-- The rows that a push looks at. -/
def touchedRows (rows : List PushRow) : Option ℤ → List PushRow
  | some limit => rows.take (max 0 limit).toNat
  | none => rows

/-- The first pass. -/
def planRows (rows : List PushRow) (options : PushOptions) : PushM (List Plan) := do
  let touched := touchedRows rows options.limit
  let resolved ← resolveProductIds x (touched.map (·.offerId))
  touched.mapM fun row => planProduct x row resolved options.keepExisting options.pushTitle

/-- The second pass. -/
def applyPlans (plans : List Plan) (options : PushOptions) :
    PushM (List ApplyResult × List Confirmation) :=
  if options.apply then do
    let results ← (plans.filter (·.resolved)).mapM fun plan =>
      applyProduct plan options.poll options.noImages
    let confirmations ← (plans.filter fun plan =>
      plan.resolved && plan.primary.any (· ≠ "")).mapM confirmProduct
    return (results, confirmations)
  else return ([], [])

/-- The command. -/
def runPush (rows : List PushRow) (options : PushOptions) : PushM PushReport := do
  let plans ← planRows x rows options
  let (results, confirmations) ← applyPlans plans options
  return { plans := plans, results := results, confirmations := confirmations }

end Push

end OzonSuite.Excel
