/-
# The images of a product

The details of a product list the images of four roles, one role after the other, each image once
and at its index; what the attributes endpoint adds is merged into the roles, and the list is made
anew without losing an image.
-/
import OzonSuite.Node.OzonClient

namespace OzonSuite

open Lib

/-! ## What is wanted -/

/-- The place of a role in the list. -/
def OzonProductImageRole.rank : OzonProductImageRole → ℕ
  | primary => 0
  | gallery => 1
  | color => 2
  | spin360 => 3

/-- The URLs of the four roles. -/
def OzonProductDetail.sources (detail : OzonProductDetail) : List String :=
  detail.primaryImage.toList ++ detail.galleryImages ++ detail.colorImage.toList ++ detail.images360

/-- The list of the images of a product is in order. -/
structure OzonProductDetail.ImagesOrdered (detail : OzonProductDetail) : Prop where
  distinct : (detail.images.map (·.url)).Nodup
  positions : ∀ i (image : OzonProductImage), detail.images[i]? = some image → image.position = i
  roles : (detail.images.map (·.role.rank)).Pairwise (· ≤ ·)
  primary_once : detail.images.countP (·.role = .primary) ≤ 1
  primary_first : ∀ url ∈ detail.primaryImage,
    detail.images.head? = some ⟨url, .primary, 0⟩
  primary_only : ∀ image ∈ detail.images, image.role = .primary →
    detail.primaryImage = some image.url
  listed : ∀ url ∈ detail.sources, url ∈ detail.images.map (·.url)

/-! ## Pushing images -/

section Pushing

variable {images : List OzonProductImage} {urls target incoming : List String}
  {role : OzonProductImageRole} {url : String}

lemma mem_mergeUnique : url ∈ mergeUnique target incoming ↔ url ∈ target ∨ url ∈ incoming := by
  obtain ⟨rest, hrest, -, -, hmem⟩ := mergeUnique_spec target incoming
  rw [hrest, List.mem_append, hmem]
  tauto

lemma nodup_mergeUnique (h : target.Nodup) : (mergeUnique target incoming).Nodup := by
  obtain ⟨rest, hrest, -, hnodup, hmem⟩ := mergeUnique_spec target incoming
  rw [hrest]
  exact List.nodup_append.mpr ⟨h, hnodup, fun a ha b hb hab => ((hmem b).mp hb).2 (hab ▸ ha)⟩

/-- What is pushed has the role that it is pushed with. -/
lemma exists_pushImages (images : List OzonProductImage) (urls : List String)
    (role : OzonProductImageRole) : ∃ rest, pushImages images urls role = images ++ rest ∧
      ∀ image ∈ rest, image.role = role := by
  induction urls generalizing images with
  | nil => exact ⟨[], (List.append_nil _).symm, by simp⟩
  | cons url urls ih =>
    have hstep : pushImages images (url :: urls) role = pushImages
      (if images.any (·.url = url) then images
        else images ++ [{ url := url, role := role, position := images.length % 2 ^ 16 }])
      urls role := rfl
    rw [hstep]
    split_ifs
    · exact ih images
    · obtain ⟨rest, hrest, hrole⟩ := ih (images ++ [⟨url, role, images.length % 2 ^ 16⟩])
      refine ⟨_ :: rest, by rw [hrest, List.append_assoc, List.singleton_append], ?_⟩
      exact List.forall_mem_cons.mpr ⟨rfl, hrole⟩

/-- Every image has its index for a position, as far as sixteen bits go. -/
def Positioned (images : List OzonProductImage) : Prop :=
  ∀ i (image : OzonProductImage), images[i]? = some image → image.position = i % 2 ^ 16

lemma Positioned.push (h : Positioned images) (urls : List String) (role : OzonProductImageRole) :
    Positioned (pushImages images urls role) := by
  induction urls generalizing images with
  | nil => exact h
  | cons url urls ih =>
    refine ih ?_
    dsimp only
    split_ifs
    · exact h
    · intro i image hi
      rw [List.getElem?_append] at hi
      split_ifs at hi with hlt
      · exact h i image hi
      · -- the image that is pushed is the last one
        have hbound := (List.getElem?_eq_some_iff.mp hi).1
        rw [List.length_singleton] at hbound
        obtain rfl : i = images.length := by omega
        rw [Nat.sub_self] at hi
        obtain rfl := Option.some.inj hi
        rfl

end Pushing

/-! ## The list -/

section Images

variable (primaryImage : Option String) (galleryImages : List String) (colorImage : Option String)
  (images360 : List String)

lemma urls_imagesByRole :
    ((imagesByRole primaryImage galleryImages colorImage images360).map (·.url)).Nodup ∧
      ∀ url, url ∈ (imagesByRole primaryImage galleryImages colorImage images360).map (·.url) ↔
        url ∈ primaryImage.toList ++ galleryImages ++ colorImage.toList ++ images360 := by
  simp only [imagesByRole, map_url_pushImages]
  refine ⟨nodup_mergeUnique (nodup_mergeUnique (nodup_mergeUnique (nodup_mergeUnique
    List.nodup_nil))), fun url => ?_⟩
  simp only [mem_mergeUnique, List.mem_append, List.map_nil, List.not_mem_nil, false_or]

/-- The parts of the list. -/
lemma exists_imagesByRole : ∃ gallery color spin360,
    imagesByRole primaryImage galleryImages colorImage images360 =
      primaryImage.toList.map (fun url => ⟨url, .primary, 0⟩) ++ gallery ++ color ++ spin360 ∧
    (∀ image ∈ gallery, image.role = .gallery) ∧ (∀ image ∈ color, image.role = .color) ∧
    ∀ image ∈ spin360, image.role = .spin360 := by
  have hprimary : pushImages [] primaryImage.toList .primary =
      primaryImage.toList.map (fun url => (⟨url, .primary, 0⟩ : OzonProductImage)) := by
    cases primaryImage <;> rfl
  obtain ⟨gallery, hgallery, hgalleryRole⟩ := exists_pushImages
    (pushImages [] primaryImage.toList .primary) galleryImages .gallery
  obtain ⟨color, hcolor, hcolorRole⟩ := exists_pushImages
    (pushImages [] primaryImage.toList .primary ++ gallery) colorImage.toList .color
  obtain ⟨spin360, hspin360, hspin360Role⟩ := exists_pushImages
    (pushImages [] primaryImage.toList .primary ++ gallery ++ color) images360 .spin360
  refine ⟨gallery, color, spin360, ?_, hgalleryRole, hcolorRole, hspin360Role⟩
  simp only [imagesByRole]
  rw [hgallery, hcolor, hspin360, hprimary]

variable {primaryImage galleryImages colorImage images360}

/-- **The list.**  The images of a product are in order when they are listed role by role. -/
lemma OzonProductDetail.ImagesListed.ordered {detail : OzonProductDetail}
    (h : detail.ImagesListed) (hfew : detail.images.length ≤ 2 ^ 16) : detail.ImagesOrdered := by
  obtain ⟨hnodup, hmem⟩ := urls_imagesByRole detail.primaryImage detail.galleryImages
    detail.colorImage detail.images360
  obtain ⟨gallery, color, spin360, hparts, hgallery, hcolor, hspin360⟩ := exists_imagesByRole
    detail.primaryImage detail.galleryImages detail.colorImage detail.images360
  -- each role is pushed behind the one before, so the positions count up
  have hpositioned : Positioned detail.images := by
    rw [h]
    exact Positioned.push (.push (.push (.push (by simp [Positioned]) _ _) _ _) _ _) _ _
  rw [← h] at hnodup hmem hparts
  -- only the first part can have the primary image
  have hothers : ∀ {part : List OzonProductImage} {role : OzonProductImageRole},
      (∀ image ∈ part, image.role = role) → role ≠ .primary →
        part.countP (·.role = .primary) = 0 := fun hrole hne =>
    List.countP_eq_zero.mpr fun image himage => by simp [hrole image himage, hne]
  refine ⟨hnodup, fun i image hi => ?_, ?_, ?_, fun url hurl => ?_, fun image himage hrole => ?_,
    fun url hurl => (hmem url).mpr hurl⟩
  · have hlt : i < detail.images.length := (List.getElem?_eq_some_iff.mp hi).1
    rw [hpositioned i image hi, Nat.mod_eq_of_lt (by omega)]
  · have hranks : ∀ {part : List OzonProductImage} {role : OzonProductImageRole},
        (∀ image ∈ part, image.role = role) →
          part.map (·.role.rank) = List.replicate part.length role.rank := fun hrole =>
      List.map_eq_replicate_iff.mpr fun image himage => congrArg _ (hrole image himage)
    rw [hparts]
    simp only [List.map_append, hranks hgallery, hranks hcolor, hranks hspin360]
    have hlater : ∀ b, ¬ color = [] ∧ b = 2 ∨ ¬ spin360 = [] ∧ b = 3 → 1 ≤ b := by
      rintro b (⟨-, rfl⟩ | ⟨-, rfl⟩)
      · decide
      · decide
    cases detail.primaryImage <;>
      simpa [List.pairwise_append, List.pairwise_replicate, OzonProductImageRole.rank] using
        fun _ => hlater
  · rw [hparts]
    simp only [List.countP_append, hothers hgallery (by decide), hothers hcolor (by decide),
      hothers hspin360 (by decide)]
    cases detail.primaryImage <;> simp
  · rw [hparts, hurl]
    rfl
  · have hmem := hparts ▸ himage
    simp only [List.mem_append] at hmem
    rcases hmem with ((hmem | hmem) | hmem) | hmem
    · obtain ⟨url, hurl, rfl⟩ := List.mem_map.mp hmem
      exact Option.mem_toList.mp hurl
    · rw [hgallery image hmem] at hrole
      cases hrole
    · rw [hcolor image hmem] at hrole
      cases hrole
    · rw [hspin360 image hmem] at hrole
      cases hrole

/-- What the attributes endpoint adds takes no image away. -/
lemma sources_applyAttributeSupplement (detail : OzonProductDetail)
    (supplement : ProductAttributesSupplement) {url : String} (h : url ∈ detail.sources) :
    url ∈ (applyAttributeSupplement detail supplement).sources := by
  simp only [OzonProductDetail.sources, applyAttributeSupplement, List.mem_append,
    mem_mergeUnique, Option.mem_toList] at h ⊢
  rcases h with ((h | h) | h) | h
  · exact .inl (.inl (.inl (by rw [h]; rfl)))
  · exact .inl (.inl (.inr (.inl h)))
  · exact .inl (.inr (by rw [h]; rfl))
  · exact .inr (.inl h)

/-- **Images.**  The images of a product are in order, before and after the attributes endpoint has
added its own, and the URLs that were listed before are listed still. -/
theorem product_images {lookup : OzonProductLookup} {item : ProductInfoItem}
    {detail : OzonProductDetail} (h : detailFromInfoItem lookup item = .ok detail)
    (hfew : detail.images.length < 65536) :
    detail.ImagesOrdered ∧ ∀ supplement,
      (applyAttributeSupplement detail supplement).images.length < 65536 →
        (applyAttributeSupplement detail supplement).ImagesOrdered ∧
        ∀ image ∈ detail.images,
          image.url ∈ (applyAttributeSupplement detail supplement).images.map (·.url) := by
  have hlisted : detail.ImagesListed := by
    simp only [detailFromInfoItem, Except.bind_eq_ok] at h
    obtain ⟨productId, -, offerId, -, h⟩ := h
    obtain rfl := Except.ok.inj h
    rfl
  refine ⟨hlisted.ordered (by omega), fun supplement hfew' => ?_⟩
  have hordered := OzonProductDetail.ImagesListed.ordered
    (show (applyAttributeSupplement detail supplement).ImagesListed from rfl) (by omega)
  refine ⟨hordered, fun image himage => hordered.listed _ ?_⟩
  refine sources_applyAttributeSupplement detail supplement ?_
  rw [OzonProductDetail.ImagesListed] at hlisted
  rw [hlisted] at himage
  exact ((urls_imagesByRole _ _ _ _).2 _).mp (List.mem_map_of_mem himage)

/-- A picture that is both the primary one and in the gallery is listed once, and one that only the
attributes endpoint has comes after it. -/
theorem product_images_repeated :
    ∃ detail, detailFromInfoItem ⟨some "7", none, none⟩ ⟨some 7, some "OF-7", none, none, none,
        .string "https://a/1.jpg", .array [.string "https://a/1.jpg", .string "https://a/2.jpg"],
        .null, .null⟩ = .ok detail ∧
      detail.ImagesOrdered ∧
      (applyAttributeSupplement detail ⟨[], some "https://a/3.jpg", ["https://a/3.jpg"], [],
        none⟩).ImagesOrdered := by
  have hdetail : ∃ detail, detailFromInfoItem ⟨some "7", none, none⟩ ⟨some 7, some "OF-7", none,
      none, none, .string "https://a/1.jpg",
      .array [.string "https://a/1.jpg", .string "https://a/2.jpg"], .null, .null⟩ = .ok detail ∧
      detail.images.length < 65536 ∧ (applyAttributeSupplement detail ⟨[], some "https://a/3.jpg",
        ["https://a/3.jpg"], [], none⟩).images.length < 65536 := ⟨_, rfl, by decide, by decide⟩
  obtain ⟨detail, h, hfew, hfew'⟩ := hdetail
  obtain ⟨hordered, hsupplement⟩ := product_images h hfew
  exact ⟨detail, h, hordered, (hsupplement _ hfew').1⟩

end Images

end OzonSuite
