/-
# Replacing the primary image of a product

A relist push reads the live product and imports its images with a new one in front.  The import
replaces the whole set of pictures, so what it does not mention is gone.
-/
import OzonSuite.Node.LeaseSafety
import OzonSuite.Node.OzonClient

namespace OzonSuite

open Lib

/-- A product with its new primary image. -/
structure RelistPushTarget where
  productId : String
  newPrimaryUrl : String
deriving DecidableEq

/-- What a push answers for one product. -/
structure RelistPushResult where
  productId : String
  primaryUrl : String
  imageCount : ℕ
  ok : Bool
  error : Option String
deriving DecidableEq

/-- The new primary image, and after it the images of the product that are other images. -/
def relistImages (newPrimary : String) (product : OzonProductDetail) : List String :=
  product.images.foldl
    (fun images image =>
      if image.url ≠ newPrimary && !images.contains image.url then images ++ [image.url]
      else images)
    [newPrimary]

/-- Push one product; `i` is its place in the batch. -/
def relistPushOne (w : NodeWorld) (i : ℕ) (credentials : OzonCredentials)
    (target : RelistPushTarget) : EStateM String LocalState RelistPushResult := do
  let newPrimary := trim target.newPrimaryUrl
  refuseIf (hasPrefix "http" newPrimary = false) "new primary URL is not a valid http(s) URL"
  let product ← ofExcept ((w.productGet i credentials (pushLookup target.productId)).mapError
    fun e => s!"read product failed: {e.text}")
  recordWrite (.picturesImport credentials product.productId (relistImages newPrimary product))
  let result ← ofExcept ((w.picturesImport i).mapError
    fun e => s!"pictures import failed: {e.text}")
  return {
    productId := product.productId
    primaryUrl := newPrimary
    imageCount := result.pictures.length % 2 ^ 32
    ok := true
    error := none }

/-! ## The pictures of a product -/

/-- The pictures of a product in the shop; the first image is the primary one. -/
structure ProductPictures where
  images : List String
  colorImage : Option String
  images360 : List String
deriving DecidableEq

/-- The pictures of the live product. -/
def OzonProductDetail.pictures (detail : OzonProductDetail) : ProductPictures :=
  { images := detail.primaryImage.toList ++ detail.galleryImages
    colorImage := detail.colorImage
    images360 := detail.images360 }

/-- The pictures that an import leaves the product with: it replaces the whole set. -/
def PicturesImportRequest.pictures (request : PicturesImportRequest) : ProductPictures :=
  { images := request.images
    colorImage := (some request.colorImage).filter (· ≠ "")
    images360 := request.images360 }

/-- The pictures are those of before with a new primary image: in front the new one, then every
image of before once and in order, and the colour image and the spin as they were. -/
structure KeepsPictures (before after : ProductPictures) (newPrimary : String) : Prop where
  images : ∃ rest, after.images = newPrimary :: rest ∧ rest.Sublist before.images ∧ rest.Nodup ∧
    ∀ url, url ∈ rest ↔ url ∈ before.images ∧ url ≠ newPrimary
  colorImage : after.colorImage = before.colorImage
  images360 : after.images360 = before.images360

/-- The images that a push imports are merged behind the new primary image. -/
lemma relistImages_eq (newPrimary : String) (product : OzonProductDetail) :
    relistImages newPrimary product = mergeUnique [newPrimary] (product.images.map (·.url)) := by
  have hfold : ∀ (images : List OzonProductImage) (acc : List String), newPrimary ∈ acc →
      images.foldl
        (fun images image =>
          if image.url ≠ newPrimary && !images.contains image.url then images ++ [image.url]
          else images) acc = mergeUnique acc (images.map (·.url)) := by
    intro images
    induction images with
    | nil => intro acc _; rfl
    | cons image images ih =>
      intro acc hacc
      rw [List.foldl_cons, List.map_cons, show mergeUnique acc (image.url :: images.map (·.url)) =
        mergeUnique (if image.url ∈ acc then acc else acc ++ [image.url]) (images.map (·.url))
        from rfl]
      by_cases himage : image.url ∈ acc
      · rw [if_neg (by simp [himage]), if_pos himage]
        exact ih acc hacc
      · have hne : image.url ≠ newPrimary := fun h => himage (h ▸ hacc)
        rw [if_pos (by simp [himage, hne]), if_neg himage]
        exact ih _ (List.mem_append_left _ hacc)
  exact hfold product.images [newPrimary] (by simp)

lemma relistImages_ne_nil (newPrimary : String) (product : OzonProductDetail) :
    relistImages newPrimary product ≠ [] := by
  obtain ⟨rest, hrest, -⟩ := mergeUnique_spec [newPrimary] (product.images.map (·.url))
  simp [relistImages_eq, hrest]

/-- Where there is neither a colour image nor a spin, the images listed are the primary image and
the gallery. -/
lemma mem_images_of_plain {detail : OzonProductDetail} (hlisted : detail.ImagesListed)
    (hcolor : detail.colorImage = none) (hspin : detail.images360 = []) :
    (detail.images.map (·.url)).Sublist detail.pictures.images ∧
      ∀ url, url ∈ detail.images.map (·.url) ↔ url ∈ detail.pictures.images := by
  have hurls : detail.images.map (·.url) =
      mergeUnique (mergeUnique [] detail.primaryImage.toList) detail.galleryImages := by
    rw [hlisted, imagesByRole, hcolor, hspin]
    simp only [map_url_pushImages]
    rfl
  obtain ⟨primary, hprimary, hsub, -, hmem⟩ := mergeUnique_spec [] detail.primaryImage.toList
  obtain ⟨gallery, hgallery, hsub', -, hmem'⟩ := mergeUnique_spec primary detail.galleryImages
  rw [hurls, hprimary, List.nil_append, hgallery]
  refine ⟨hsub.append hsub', fun url => ?_⟩
  rw [List.mem_append, hmem', hmem, OzonProductDetail.pictures, List.mem_append]
  simp only [List.not_mem_nil, not_false_eq_true, and_true]
  constructor
  · rintro (h | ⟨h, -⟩)
    · exact .inl h
    · exact .inr h
  · rintro (h | h)
    · exact .inl h
    · by_cases h' : url ∈ detail.primaryImage.toList
      · exact .inl h'
      · exact .inr ⟨h, h'⟩

/-- The import that a push asks for keeps the pictures of the product exactly when it has neither
a colour image nor a spin. -/
lemma keepsPictures_iff {x : NodeCrates} {detail : OzonProductDetail} {newPrimary : String}
    {request : PicturesImportRequest} (hlisted : detail.ImagesListed)
    (hrequest : picturesImportRequest x detail.productId (relistImages newPrimary detail) =
      .ok request) :
    KeepsPictures detail.pictures request.pictures newPrimary ↔
      detail.colorImage = none ∧ detail.images360 = [] := by
  simp only [picturesImportRequest, Except.bind_eq_ok] at hrequest
  obtain ⟨productNumber, -, _, -, hrequest⟩ := hrequest
  obtain rfl := Except.ok.inj hrequest
  constructor
  · intro h
    exact ⟨h.colorImage.symm, h.images360.symm⟩
  · rintro ⟨hcolor, hspin⟩
    obtain ⟨hsub, hmem⟩ := mem_images_of_plain hlisted hcolor hspin
    obtain ⟨rest, hrest, hsub', hnodup, hmem'⟩ :=
      mergeUnique_spec [newPrimary] (detail.images.map (·.url))
    refine ⟨⟨rest, ?_, hsub'.trans hsub, hnodup, fun url => ?_⟩, hcolor.symm, hspin.symm⟩
    · change relistImages newPrimary detail = newPrimary :: rest
      rw [relistImages_eq, hrest]
      rfl
    · rw [hmem', hmem, List.mem_singleton]

/-! ## What is written -/

/-- A relist push writes nothing, or the pictures of the product that the client returned. -/
lemma relistPushOne_writes {w : NodeWorld} {i : ℕ} {credentials : OzonCredentials}
    {target : RelistPushTarget} {s : LocalState} :
    (finalState (relistPushOne w i credentials target s)).writes = s.writes ∧
        (hasPrefix "http" (trim target.newPrimaryUrl) = false ∨
          ∀ detail, w.productGet i credentials (pushLookup target.productId) ≠ .ok detail) ∨
      hasPrefix "http" (trim target.newPrimaryUrl) = true ∧
        ∃ detail, w.productGet i credentials (pushLookup target.productId) = .ok detail ∧
          (finalState (relistPushOne w i credentials target s)).writes = s.writes ++
            [.picturesImport credentials detail.productId
              (relistImages (trim target.newPrimaryUrl) detail)] := by
  by_cases hurl : hasPrefix "http" (trim target.newPrimaryUrl) = true
  · have hcheck : (refuseIf (hasPrefix "http" (trim target.newPrimaryUrl) = false)
        "new primary URL is not a valid http(s) URL" : EStateM String LocalState Unit) s =
        .ok () s := refuseIf_eq_ok.mpr ⟨by simp [hurl], rfl⟩
    cases hget : w.productGet i credentials (pushLookup target.productId) with
    | error e =>
      refine .inl ⟨?_, .inr fun detail h => by cases h⟩
      rw [relistPushOne, finalState_bind_ok hcheck, hget]
      rfl
    | ok detail =>
      refine .inr ⟨hurl, detail, rfl, ?_⟩
      have hread : (ofExcept ((Except.ok detail : Except OzonConnectorError _).mapError
          fun e => s!"read product failed: {e.text}") : EStateM String LocalState _) s =
          .ok detail s := ofExcept_eq_ok.mpr ⟨rfl, rfl⟩
      rw [relistPushOne, finalState_bind_ok hcheck, hget, finalState_bind_ok hread,
        finalState_bind_ok (a := ()) (m := recordWrite _) (modify_eq_ok.mpr rfl), finalState_bind]
      -- whatever the import answers, it has been asked for
      cases w.picturesImport i <;> rfl
  · refine .inl ⟨?_, .inl (by simpa using hurl)⟩
    rw [relistPushOne, finalState_bind]
    simp only [hurl, refuseIf]
    rfl

/-- **Pictures kept.**  A push of a product that the marketplace's endpoints describe imports the
product's pictures with the new primary image in front and nothing else changed exactly when the
product has neither a colour image nor a spin. -/
theorem relist_push_keeps_pictures {x : NodeCrates} {w : NodeWorld} {ozon : OzonEndpoints} {i : ℕ}
    {credentials : OzonCredentials} {target : RelistPushTarget} {detail : OzonProductDetail}
    (hget : w.productGet i credentials = ozon.productGet)
    (hlive : ozon.productGet (pushLookup target.productId) = .ok detail)
    (haccepted : hasPrefix "http" (trim target.newPrimaryUrl) = true) (s : LocalState) :
    ∃ images, (finalState (relistPushOne w i credentials target s)).writes =
        s.writes ++ [.picturesImport credentials detail.productId images] ∧
      ∀ request, picturesImportRequest x detail.productId images = .ok request →
        (KeepsPictures detail.pictures request.pictures (trim target.newPrimaryUrl) ↔
          detail.colorImage = none ∧ detail.images360 = []) := by
  refine ⟨relistImages (trim target.newPrimaryUrl) detail, ?_, fun request hrequest =>
    keepsPictures_iff (imagesListed_productGet hlive) hrequest⟩
  have hpush := @relistPushOne_writes w i credentials target s
  rcases hpush with ⟨-, hno | hno⟩ | ⟨-, detail', hdetail, hwrites⟩
  · rw [haccepted] at hno
    cases hno
  · exact absurd (hget ▸ hlive) (hno detail)
  · rw [hget, hlive] at hdetail
    obtain rfl := Except.ok.inj hdetail
    exact hwrites

/-! ### A product with a colour image and a spin -/

/-- Endpoints that describe one product, with the given colour image and spin. -/
def describedProduct (colorImage images360 : Json) : OzonEndpoints where
  productInfoList _ := .ok
    { id := some 42
      offerId := some "SKU-42"
      name := some "Example"
      descriptionCategoryId := some 17
      typeId := some 91
      primaryImage := .array [.string "https://cdn.example/p.jpg"]
      images := .array [.string "https://cdn.example/p.jpg", .string "https://cdn.example/g.jpg"]
      images360 := images360
      colorImage := colorImage }
  productInfoAttributes _ := .error (.http "offline")
  productInfoDescription _ := .error (.http "offline")

/-- The details of that product. -/
def describedDetail (colorImage : Option String) (images360 : List String) : OzonProductDetail :=
  { productId := "42"
    offerId := "SKU-42"
    name := some "Example"
    descriptionCategoryId := some 17
    typeId := some 91
    description := none
    primaryImage := some "https://cdn.example/p.jpg"
    images := imagesByRole (some "https://cdn.example/p.jpg")
      ["https://cdn.example/p.jpg", "https://cdn.example/g.jpg"] colorImage images360
    galleryImages := ["https://cdn.example/p.jpg", "https://cdn.example/g.jpg"]
    images360 := images360
    colorImage := colorImage
    attributes := [] }

/-- A product without them gets a new primary image. -/
theorem relist_push_keeps_pictures_plain :
    ∃ images, (finalState (relistPushOne
        { laptopWorld with productGet := fun _ _ => (describedProduct .null .null).productGet } 0
        ⟨"client", "key"⟩ ⟨"42", "https://cdn.example/new.jpg"⟩ laptopNode)).writes =
        [.picturesImport ⟨"client", "key"⟩ "42" images] ∧
      ∀ request, picturesImportRequest leaseCrates "42" images = .ok request →
        KeepsPictures (describedDetail none []).pictures request.pictures
          "https://cdn.example/new.jpg" := by
  have hlive : (describedProduct .null .null).productGet (pushLookup "42") =
      .ok (describedDetail none []) := by decide +kernel
  have htrim : trim "https://cdn.example/new.jpg" = "https://cdn.example/new.jpg" := by
    decide +kernel
  obtain ⟨images, hwrites, hkeeps⟩ := @relist_push_keeps_pictures leaseCrates
    { laptopWorld with productGet := fun _ _ => (describedProduct .null .null).productGet } _ 0
    ⟨"client", "key"⟩ ⟨"42", "https://cdn.example/new.jpg"⟩ _ rfl hlive (by decide +kernel)
    laptopNode
  refine ⟨images, hwrites, fun request hrequest => ?_⟩
  rw [← htrim]
  exact (hkeeps request hrequest).mpr ⟨rfl, rfl⟩

/-- The import clears a colour image. -/
theorem relist_push_clears_color_image :
    ¬ ∀ (x : NodeCrates) (ozon : OzonEndpoints) (lookup : OzonProductLookup)
        (detail : OzonProductDetail) (newPrimary : String) (request : PicturesImportRequest),
      ozon.productGet lookup = .ok detail → hasPrefix "http" newPrimary = true →
      picturesImportRequest x detail.productId (relistImages newPrimary detail) = .ok request →
      KeepsPictures detail.pictures request.pictures newPrimary := by
  intro h
  have hkeeps := h leaseCrates
    (describedProduct (.string "https://cdn.example/c.jpg") .null) (pushLookup "42")
    (describedDetail (some "https://cdn.example/c.jpg") []) "https://cdn.example/new.jpg"
    { productId := 42
      images := ["https://cdn.example/new.jpg", "https://cdn.example/p.jpg",
        "https://cdn.example/g.jpg", "https://cdn.example/c.jpg"]
      colorImage := ""
      images360 := [] }
    (by decide +kernel) (by decide +kernel) (by decide +kernel)
  have hcolor : (none : Option String) = some "https://cdn.example/c.jpg" := hkeeps.colorImage
  cases hcolor

end OzonSuite
