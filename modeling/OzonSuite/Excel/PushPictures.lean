/-
# Keeping the pictures of a product

A push replaces all the pictures of a product; if the existing ones are to be kept, they are sent
along behind those of the row.  The existing ones are the primary image and the images beside it,
which may hold the primary image as well or not.
-/
import OzonSuite.Excel.Accepted
import OzonSuite.Excel.PushWrites

namespace OzonSuite.Excel

open Lib

/-! ## What is kept -/

/-- The images that are sent begin with those of the row, have every image of the product exactly
once, and none of them twice. -/
structure KeepsPictures (row : PushRow) (info : ProductInfo) (sent : List Data) : Prop where
  first : row.imageUrls.map Data.str <+: sent
  once : ∀ u, u = info.primaryImage ∨ u ∈ info.images → u.truthy = true →
    (sent.map Data.key).count u.key = 1
  distinct : (sent.map Data.key).Nodup

section Append

variable {existing images out : List Data} {seen : List Key}

/-- The images that are appended: they are existing ones, none of them is there already, and no
existing one is left out. -/
lemma appendMissing_spec (h : appendMissing existing images seen = .ok out)
    (hseen : ∀ k, k ∈ seen ↔ some k ∈ images.map Data.key) :
    ∃ added, out = images ++ added ∧ (added.map Data.key).Nodup ∧
      (∀ a ∈ added, a ∈ existing ∧ a.truthy = true ∧ a.key ∉ images.map Data.key) ∧
      ∀ u ∈ existing, u.truthy = true → u.key ∈ out.map Data.key := by
  induction existing generalizing images seen with
  | nil =>
    obtain rfl := Except.ok.inj h
    exact ⟨[], (List.append_nil _).symm, List.nodup_nil, by simp, by simp⟩
  | cons u existing ih =>
    rw [appendMissing] at h
    by_cases hu : u.truthy = true
    · rw [if_pos hu] at h
      cases hkey : u.key with
      | none => simp [hkey] at h
      | some k =>
        simp only [hkey] at h
        by_cases hk : k ∈ seen
        · -- it is there already
          rw [if_pos hk] at h
          obtain ⟨added, rfl, hnodup, hadded, hall⟩ := ih h hseen
          refine ⟨added, rfl, hnodup, fun a ha => ?_, fun v hv hvt => ?_⟩
          · exact ⟨List.mem_cons_of_mem u (hadded a ha).1, (hadded a ha).2⟩
          · rcases List.mem_cons.mp hv with rfl | hv
            · rw [hkey, List.map_append]
              exact List.mem_append_left _ ((hseen k).mp hk)
            · exact hall v hv hvt
        · rw [if_neg hk] at h
          have hseen' : ∀ k', k' ∈ k :: seen ↔ some k' ∈ (images ++ [u]).map Data.key := by
            intro k'
            simp [hseen, hkey, or_comm, eq_comm]
          obtain ⟨added, rfl, hnodup, hadded, hall⟩ := ih h hseen'
          refine ⟨u :: added, by simp, ?_, fun a ha => ?_, fun v hv hvt => ?_⟩
          · rw [List.map_cons, List.nodup_cons]
            refine ⟨fun hmem => ?_, hnodup⟩
            obtain ⟨a, ha, heq⟩ := List.mem_map.mp hmem
            exact (hadded a ha).2.2 (by simp [heq])
          · rcases List.mem_cons.mp ha with rfl | ha
            · exact ⟨List.mem_cons_self, hu, hkey ▸ fun hmem => hk ((hseen k).mpr hmem)⟩
            · obtain ⟨hmem, htruthy, hnew⟩ := hadded a ha
              refine ⟨List.mem_cons_of_mem u hmem, htruthy, fun himages => hnew ?_⟩
              rw [List.map_append]
              exact List.mem_append_left _ himages
          · rcases List.mem_cons.mp hv with rfl | hv
            · simp
            · exact hall v hv hvt
    · rw [if_neg hu] at h
      obtain ⟨added, rfl, hnodup, hadded, hall⟩ := ih h hseen
      refine ⟨added, rfl, hnodup, fun a ha => ?_, fun v hv hvt => ?_⟩
      · exact ⟨List.mem_cons_of_mem u (hadded a ha).1, (hadded a ha).2⟩
      · rcases List.mem_cons.mp hv with rfl | hv
        · exact absurd hvt hu
        · exact hall v hv hvt

end Append

/-! ## The list that is sent -/

section Sent

variable {row : PushRow} {info : ProductInfo} {sent : List Data}

/-- The images of the product that count as images. -/
def ProductInfo.currentImages (info : ProductInfo) : List Data := info.images.filter (·.truthy)

/-- The list that is made keeps the pictures just when the row has no address twice, and the primary
image is among the others or there is none. -/
lemma keepsPictures_iff (h : buildImageList row.imageUrls info.images true = .ok sent) :
    KeepsPictures row info sent ↔ row.imageUrls.Nodup ∧ (info.primaryImage.truthy = true →
      info.primaryImage.key ∈ (row.imageUrls.map Data.str ++ info.currentImages).map Data.key) := by
  have hrow : (row.imageUrls.map Data.str).map Data.key = row.imageUrls.map (some ∘ Key.str) := by
    rw [List.map_map]
    rfl
  have hinjective : Function.Injective (some ∘ Key.str) :=
    (Option.some_injective _).comp fun _ _ heq => Key.str.inj heq
  rw [buildImageList, if_pos rfl] at h
  obtain ⟨added, rfl, hnodup, hadded, hall⟩ := appendMissing_spec h fun k => by
    simp [hrow]
  have hdistinct : ((row.imageUrls.map Data.str ++ added).map Data.key).Nodup ↔
      row.imageUrls.Nodup := by
    rw [List.map_append, List.nodup_append', hrow, List.nodup_map_iff hinjective]
    refine ⟨And.left, fun hurls => ⟨hurls, hnodup, fun k hk hk' => ?_⟩⟩
    obtain ⟨a, ha, rfl⟩ := List.mem_map.mp hk'
    exact (hadded a ha).2.2 (hrow ▸ hk)
  constructor
  · intro hkeeps
    refine ⟨hdistinct.mp hkeeps.distinct, fun htruthy => ?_⟩
    have hsent : info.primaryImage.key ∈ (row.imageUrls.map Data.str ++ added).map Data.key :=
      List.count_pos_iff.mp (by rw [hkeeps.once _ (.inl rfl) htruthy]; exact Nat.one_pos)
    rw [List.map_append, List.mem_append] at hsent ⊢
    refine hsent.imp_right fun hmem => ?_
    obtain ⟨a, ha, heq⟩ := List.mem_map.mp hmem
    exact heq ▸ List.mem_map_of_mem (List.mem_filter.mpr ⟨(hadded a ha).1, (hadded a ha).2.1⟩)
  · rintro ⟨hurls, hprimary⟩
    have hsent : ∀ u ∈ info.images, u.truthy = true →
        u.key ∈ (row.imageUrls.map Data.str ++ added).map Data.key := hall
    refine ⟨List.prefix_append _ _, fun u hu htruthy => ?_, hdistinct.mpr hurls⟩
    refine List.count_eq_one_of_mem (hdistinct.mpr hurls) ?_
    rcases hu with rfl | hu
    · -- the primary image is one of the row, or one of the others
      have hmem := hprimary htruthy
      rw [List.map_append, List.mem_append] at hmem
      rcases hmem with hmem | hmem
      · rw [List.map_append]
        exact List.mem_append_left _ hmem
      · obtain ⟨a, ha, heq⟩ := List.mem_map.mp hmem
        obtain ⟨himage, htrue⟩ := List.mem_filter.mp ha
        exact heq ▸ hsent a himage htrue
    · exact hsent u hu htruthy

/-- Nothing is sent just when the row has no images and the product has none. -/
lemma buildImageList_eq_nil_iff (h : buildImageList row.imageUrls info.images true = .ok sent) :
    sent = [] ↔ row.imageUrls = [] ∧ info.currentImages = [] := by
  rw [buildImageList, if_pos rfl] at h
  obtain ⟨added, rfl, -, hadded, hall⟩ := appendMissing_spec h fun k => by simp [Data.key]
  rw [List.append_eq_nil_iff, List.map_eq_nil_iff]
  refine and_congr_right fun hrow => ⟨?_, fun hnone => ?_⟩
  · rintro rfl
    refine List.filter_eq_nil_iff.mpr fun u hu htruthy => ?_
    have hmem := hall u hu htruthy
    rw [hrow] at hmem
    cases hmem
  · refine List.eq_nil_iff_forall_not_mem.mpr fun a ha => ?_
    obtain ⟨himage, htruthy, -⟩ := hadded a ha
    have hcurrent : a ∈ info.currentImages := List.mem_filter.mpr ⟨himage, htruthy⟩
    rw [hnone] at hcurrent
    cases hcurrent

variable {σ : Type} {handle : ClientCall → σ → Except Failure Data × σ} {s : σ} {plan : Plan}
  {poll : ℤ} {noImages : Bool} {productId : Data}

/-- What carrying out a plan sends. -/
lemma picturesImport_mem_writes :
    .picturesImport productId sent ∈ (applyProduct plan poll noImages).writes handle
        ClientCall.isWrite s ↔
      plan.imagesToSet ≠ [] ∧ noImages = false ∧ productId = plan.productId ∧
        sent = plan.imagesToSet := by
  constructor
  · intro hmem
    have hwrites : (applyProduct plan poll noImages).Writes handle ClientCall.isWrite s _ :=
      applyProduct_writes
    have hplanned := hwrites.1.subset hmem
    rw [Plan.writes, List.mem_append] at hplanned
    rcases hplanned with himages | htitle
    · split at himages
      · next hsend =>
        obtain ⟨rfl, rfl⟩ := ClientCall.picturesImport.inj (List.mem_singleton.mp himages)
        exact ⟨hsend.1, hsend.2, rfl, rfl⟩
      · cases himages
    · simp at htitle
  · rintro ⟨hne, hpush, rfl, rfl⟩
    let call : ClientCall := .picturesImport plan.productId plan.imagesToSet
    -- the pictures are the first thing that is sent
    have hasked : (Script.ask call : PushM Data).exchanges handle s <+:
        (applyProduct plan poll noImages).exchanges handle s := by
      refine List.IsPrefix.trans ?_ Script.exchanges_prefix_bind
      rw [applyImages, if_pos ⟨hne, hpush⟩]
      exact Script.exchanges_prefix_bind
    refine List.mem_filter.mpr ⟨List.mem_map.mpr ⟨⟨call, (handle call s).1⟩, ?_, rfl⟩, rfl⟩
    exact hasked.subset (List.mem_singleton_self _)

end Sent

/-- **Keeping the existing pictures loses none** just when images are not pushed at all, or there is
nothing to send, or the row has no address twice and the primary image of the product is among its
other images or those of the row. -/
theorem keep_existing_iff (x : PythonData) {σ : Type}
    (handle : ClientCall → σ → Except Failure Data × σ) (s s' s'' : σ) (row : PushRow)
    (info : ProductInfo) (resolved : List (String × ProductInfo)) (pushTitle noImages : Bool)
    (poll : ℤ) (plan : Plan) (hinfo : resolved.lookup row.offerId = some info)
    (hplan : (planProduct x row resolved true pushTitle).play handle s = (.ok plan, s')) :
    (∀ productId sent, .picturesImport productId sent ∈
        (applyProduct plan poll noImages).writes handle ClientCall.isWrite s'' →
      KeepsPictures row info sent) ↔
      noImages = true ∨ (row.imageUrls = [] ∧ info.currentImages = []) ∨
      (row.imageUrls.Nodup ∧ (info.primaryImage.truthy = true → info.primaryImage.key ∈
        (row.imageUrls.map Data.str ++ info.currentImages).map Data.key)) := by
  obtain ⟨-, -, -, -, hlist, -⟩ := planProduct_found hinfo hplan
  have hnothing := buildImageList_eq_nil_iff hlist
  have hkeeps := keepsPictures_iff hlist
  simp only [picturesImport_mem_writes]
  constructor
  · intro hall
    by_cases hskip : noImages = true ∨ plan.imagesToSet = []
    · exact hskip.imp_right fun hnil => .inl (hnothing.mp hnil)
    · rw [not_or, Bool.not_eq_true] at hskip
      exact .inr (.inr (hkeeps.mp (hall _ _ ⟨hskip.2, hskip.1, rfl, rfl⟩)))
  · rintro hcond productId sent ⟨hne, hpush, -, rfl⟩
    rcases hcond with hno | hnone | hgood
    · exact absurd (hpush.symm.trans hno) (by decide)
    · exact absurd (hnothing.mpr hnone) hne
    · exact hkeeps.mpr hgood

/-! ### A kettle -/

/-- The row has one new picture. -/
def kettleRow : PushRow :=
  { row := 4
    offerId := "SKU-1001"
    imageUrls := ["https://new.test/1001.jpg"]
    title := none
    imageCoords := ["C4"] }

/-- The product has a primary image, and the given ones beside it. -/
def kettle (images : List String) : ProductInfo :=
  { productId := .int 1001
    name := .str "kettle"
    primaryImage := .str "https://img.ozon.test/1001/main.jpg"
    images := images.map .str }

/-- A client that answers everything with an empty mapping. -/
def quietClient (_ : ClientCall) (s : Unit) : Except Failure Data × Unit := (.ok (.dict []), s)

/-- What is known of the products. -/
def kettleProducts (images : List String) : List (String × ProductInfo) :=
  [("SKU-1001", kettle images)]

/-- The images with the primary image among them. -/
def listedPrimary : List String :=
  ["https://img.ozon.test/1001/main.jpg", "https://img.ozon.test/1001/a1.jpg"]

/-- The primary image is among the images of the product, and nothing is lost. -/
theorem keep_existing_listed_primary :
    ∃ plan, (planProduct plainData kettleRow (kettleProducts listedPrimary) true false).play
        quietClient () = (.ok plan, ()) ∧
      ∀ productId sent, .picturesImport productId sent ∈
          (applyProduct plan 1 false).writes quietClient ClientCall.isWrite () →
        KeepsPictures kettleRow (kettle listedPrimary) sent := by
  obtain ⟨plan, hplan⟩ : ∃ plan, (planProduct plainData kettleRow (kettleProducts listedPrimary)
      true false).play quietClient () = (.ok plan, ()) := ⟨_, rfl⟩
  exact ⟨plan, hplan, (keep_existing_iff plainData quietClient () () () kettleRow _ _ false false 1
    plan rfl hplan).mpr (.inr (.inr ⟨by decide, fun _ => by decide⟩))⟩

/-- The primary image stands beside the others, and the push drops it. -/
theorem primary_image_dropped :
    ¬ ∀ (x : PythonData) (σ : Type) (handle : ClientCall → σ → Except Failure Data × σ)
      (s s' s'' : σ) (row : PushRow) (info : ProductInfo) (resolved : List (String × ProductInfo))
      (pushTitle noImages : Bool) (poll : ℤ) (plan : Plan) (productId : Data) (sent : List Data),
      resolved.lookup row.offerId = some info →
      (planProduct x row resolved true pushTitle).play handle s = (.ok plan, s') →
      .picturesImport productId sent ∈
        (applyProduct plan poll noImages).writes handle ClientCall.isWrite s'' →
      KeepsPictures row info sent := by
  intro h
  have hkeeps := h plainData Unit quietClient () () () kettleRow
    (kettle ["https://img.ozon.test/1001/a1.jpg", "https://img.ozon.test/1001/p2.jpg"])
    (kettleProducts ["https://img.ozon.test/1001/a1.jpg", "https://img.ozon.test/1001/p2.jpg"])
    false false 1 _ _ _ rfl rfl (picturesImport_mem_writes.mpr ⟨by decide, rfl, rfl, rfl⟩)
  have honce := hkeeps.once _ (.inl rfl) (by decide)
  revert honce
  decide

end OzonSuite.Excel
