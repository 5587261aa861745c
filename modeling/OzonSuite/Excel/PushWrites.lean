/-
# What a push writes

A push plans first and writes afterwards, so what it writes can be read off its plans, whatever the
client answers and wherever the push ends.  And a plan can be read off its row: it belongs to one of
the first rows, its product was listed under the offer of the row, and a product that is submitted
again is the one that was fetched, under its new title.
-/
import OzonSuite.Excel.Push

namespace OzonSuite.Excel

open Lib

/-! ## Plans -/

/-- The writes of a plan: its images, unless images are not to be pushed, and then its title. -/
def Plan.writes (noImages : Bool) (plan : Plan) : List ClientCall :=
  (if plan.imagesToSet ≠ [] ∧ noImages = false then
    [.picturesImport plan.productId plan.imagesToSet] else []) ++
  (plan.titleItem.map fun item => .productImport [item]).toList

/-- The writes of a push. -/
def plannedWrites (options : PushOptions) (plans : List Plan) : List ClientCall :=
  if options.apply then (plans.filter (·.resolved)).flatMap (·.writes options.noImages) else []

/-- An attribute, and what has become of it: the values of the title are the new one, and everything
else is as it was. -/
inductive RetitledAttribute (title : String) : Data → Data → Prop
  | kept {a : Dict} (h : isNameAttribute a = false) : RetitledAttribute title (.dict a) (.dict a)
  | renamed {a a' : Dict} (h : isNameAttribute a = true)
      (hvalues : Dict.get a' "values" = .list [.dict [(.str "value", .str title)]])
      (hrest : ∀ key, key ≠ "values" → Dict.get? a' key = Dict.get? a key) :
      RetitledAttribute title (.dict a) (.dict a')

/-- A product as it was fetched, and as it is submitted: but for the name, and for the values of the
title among the attributes, everything is as it was. -/
structure Retitled (attrs : Dict) (title : String) (item : Dict) : Prop where
  name : Dict.get item "name" = .str title
  attributes : ∃ old new, ((Dict.get attrs "attributes").orElse (.list [])).elements = .ok old ∧
    Dict.get item "attributes" = .list new ∧ List.Forall₂ (RetitledAttribute title) old new
  rest : ∀ key, key ≠ "name" → key ≠ "attributes" → Dict.get? item key = Dict.get? attrs key

/-- The calls of a push, each with its answer. -/
abbrev Exchanges := List ((_ : ClientCall) × Except Failure Data)

/-- The client has listed a product under an offer, when it was asked first of all. -/
def Exchanges.Listed (x : PythonData) (exchanged : Exchanges) (offerIds : List String)
    (offerId : String) (info : ProductInfo) : Prop :=
  ∃ answer rest items, exchanged = ⟨.productInfoByOffer offerIds, .ok answer⟩ :: rest ∧
    answer.elements = .ok items ∧ ∃ item ∈ items, readProduct x item = .ok (some (offerId, info))

/-- A plan for a row, made from what the client has answered. -/
structure PlanOf (x : PythonData) (options : PushOptions) (exchanged : Exchanges)
    (offerIds : List String) (row : PushRow) (plan : Plan) : Prop where
  offer : plan.offerId = row.offerId ∧ plan.row = row.row
  /-- A row resolves exactly if its offer was listed. -/
  found : plan.resolved = true ↔ ∃ info, exchanged.Listed x offerIds row.offerId info
  /-- The images are those of the row, with those of its product behind them if they are kept. -/
  images : plan.resolved = true → ∃ info, exchanged.Listed x offerIds row.offerId info ∧
    plan.productId = info.productId ∧
    buildImageList row.imageUrls info.images options.keepExisting = .ok plan.imagesToSet
  /-- The title is that of the row, on a product that is complete enough to be submitted again. -/
  title : ∀ item ∈ plan.titleItem, options.pushTitle = true ∧ ∃ title attrs,
    row.title = some title ∧ ⟨.productAttributes plan.productId, .ok (.dict attrs)⟩ ∈ exchanged ∧
    missingFields attrs = [] ∧ Retitled attrs title item

/-! ## Mappings -/

section Mappings

variable {d : Dict} {key key' : String} {value : Data}

lemma isStr_iff {v : Data} : v.isStr key = true ↔ v = .str key := by
  cases v <;> simp [Data.isStr]

lemma get?_cons (e : Data × Data) :
    Dict.get? (e :: d) key = if e.1.isStr key then some e.2 else Dict.get? d key := by
  rw [Dict.get?, List.find?_cons]
  cases e.1.isStr key <;> rfl

lemma get?_append_of_ne (h : key' ≠ key) :
    Dict.get? (d ++ [(.str key, value)]) key' = Dict.get? d key' := by
  have hkey : (Data.str key).isStr key' = false := by simpa [Data.isStr] using Ne.symm h
  induction d with
  | nil => rw [List.nil_append, get?_cons, hkey, if_neg (by decide)]
  | cons e d ih => rw [List.cons_append, get?_cons, get?_cons, ih]

lemma get?_append_self (h : (d.any fun e => e.1.isStr key) = false) :
    Dict.get? (d ++ [(.str key, value)]) key = some value := by
  induction d with
  | nil =>
    have hkey : (Data.str key).isStr key = true := isStr_iff.mpr rfl
    rw [List.nil_append, get?_cons, hkey, if_pos rfl]
  | cons e d ih =>
    rw [List.any_cons, Bool.or_eq_false_iff] at h
    rw [List.cons_append, get?_cons, h.1, if_neg (by decide), ih h.2]

lemma get?_set_self : Dict.get? (Dict.set d key value) key = some value := by
  rw [Dict.set]
  split
  · next h =>
    induction d with
    | nil => cases h
    | cons e d ih =>
      rw [List.map_cons, get?_cons]
      cases he : e.1.isStr key with
      | true => simp [he]
      | false =>
        rw [List.any_cons, he, Bool.false_or] at h
        simpa [he] using ih h
  · next h => exact get?_append_self (Bool.eq_false_iff.mpr h)

lemma get?_set_of_ne (h : key' ≠ key) :
    Dict.get? (Dict.set d key value) key' = Dict.get? d key' := by
  rw [Dict.set]
  split
  · clear * - h
    induction d with
    | nil => rfl
    | cons e d ih =>
      rw [List.map_cons, get?_cons, get?_cons, ih]
      cases he : e.1.isStr key with
      | false => simp
      | true =>
        have hkey : e.1.isStr key' = false := by
          rw [isStr_iff.mp he]
          simpa [Data.isStr] using Ne.symm h
        simp [hkey]
  · exact get?_append_of_ne h

end Mappings

/-! ## Titles -/

section Titles

variable {x : PythonData} {title : String}

lemma retitleAttribute_spec {a a' : Data} (h : retitleAttribute title a = .ok a') :
    RetitledAttribute title a a' := by
  cases a with
  | dict d =>
    obtain ⟨d', hd, h⟩ := Except.bind_eq_ok.mp h
    obtain rfl := Except.ok.inj hd
    cases hname : isNameAttribute d with
    | true =>
      rw [if_pos hname] at h
      obtain rfl := Except.ok.inj h
      refine .renamed hname ?_ fun key hkey => get?_set_of_ne hkey
      rw [Dict.get, get?_set_self]
      rfl
    | false =>
      rw [if_neg (by simp [hname])] at h
      obtain rfl := Except.ok.inj h
      exact .kept hname
  | none | bool _ | int _ | float _ | str _ | list _ | other _ _ => cases h

/-- What is submitted again is complete enough, and but for its title it is what was fetched. -/
lemma buildTitleImportItem_spec {attrs : Data} {item : Dict}
    (h : buildTitleImportItem x attrs title = .ok (.ok item)) :
    ∃ d, attrs = .dict d ∧ missingFields d = [] ∧ Retitled d title item := by
  simp only [buildTitleImportItem] at h
  split at h
  · cases h
  · obtain ⟨d, hd, h⟩ := Except.bind_eq_ok.mp h
    split at h
    · cases h
    · next hcomplete =>
      obtain ⟨old, hold, h⟩ := Except.bind_eq_ok.mp h
      obtain ⟨new, hnew, h⟩ := Except.bind_eq_ok.mp h
      obtain rfl := Except.ok.inj (Except.ok.inj h)
      have hattrs : attrs = .dict d := by
        cases attrs with
        | dict d' => rw [Except.ok.inj hd]
        | none | bool _ | int _ | float _ | str _ | list _ | other _ _ => cases hd
      refine ⟨d, hattrs, not_not.mp hcomplete, ?_, ⟨old, new, hold, ?_, ?_⟩,
        fun key hname hattr => ?_⟩
      · rw [Dict.get, get?_set_of_ne (by decide), get?_set_self]
        rfl
      · rw [Dict.get, get?_set_self]
        rfl
      · exact (Except.forall₂_mapM hnew).imp fun _ _ => retitleAttribute_spec
      · rw [get?_set_of_ne hattr, get?_set_of_ne hname]

end Titles

/-! ## What each part writes -/

section Writes

variable {x : PythonData} {σ : Type} {handle : ClientCall → σ → Except Failure Data × σ} {s s' : σ}

lemma resolveProductIds_writes {offerIds : List String} :
    (resolveProductIds x offerIds).Writes handle ClientCall.isWrite s [] := by
  rw [resolveProductIds]
  split
  · exact .pure
  · refine .bind_read (.ask_read rfl) fun answer _ _ => ?_
    refine .bind_read (.ofExcept _) fun items _ _ => ?_
    exact .bind_read (.ofExcept _) fun products _ _ => .pure

lemma planProduct_writes {row : PushRow} {resolved : List (String × ProductInfo)}
    {keepExisting pushTitle : Bool} :
    (planProduct x row resolved keepExisting pushTitle).Writes handle ClientCall.isWrite s [] := by
  simp only [planProduct]
  split
  · exact .pure
  · refine .bind_read (.ofExcept _) fun images _ _ => ?_
    split
    · split
      · refine .bind_read (.ask_read rfl) fun attrs _ _ => ?_
        refine .bind_read (.ofExcept _) fun item _ _ => ?_
        split <;> exact .pure
      · exact .pure
    · exact .pure

/-- The first pass only reads. -/
lemma planRows_writes {rows : List PushRow} {options : PushOptions} :
    (planRows x rows options).Writes handle ClientCall.isWrite s [] := by
  refine .bind_read resolveProductIds_writes fun resolved s' _ => ?_
  exact .mapM_read fun row _ _ => planProduct_writes

lemma applyImages_writes {plan : Plan} {noImages : Bool} :
    (applyImages plan noImages).Writes handle ClientCall.isWrite s
      (if plan.imagesToSet ≠ [] ∧ noImages = false then
        [.picturesImport plan.productId plan.imagesToSet] else []) := by
  rw [applyImages]
  split
  · have hrest : ∀ (result : Data) (s' : σ), (do
        let result ← MonadExcept.ofExcept result.asDict
        let pics ← MonadExcept.ofExcept ((Dict.get result "pictures").orElse (.list [])).elements
        MonadExcept.ofExcept (pics.mapM readPicture) : PushM _).Writes handle ClientCall.isWrite s'
          [] := fun result s' =>
      .bind_read (.ofExcept _) fun result _ _ =>
        .bind_read (.ofExcept _) fun pics _ _ => .ofExcept _
    exact (Script.Writes.ask_write rfl).bind fun result s' _ => hrest result s'
  · exact .pure

lemma pollTitle_writes {taskId : Data} {poll : ℤ} :
    (pollTitle taskId poll).Writes handle ClientCall.isWrite s [] := by
  refine .mapM_read fun _ _ s' => .bind_read (.ask_read rfl) fun info _ _ => ?_
  exact .bind_read (.ofExcept _) fun status _ _ => .pure

lemma applyTitle_writes {plan : Plan} {poll : ℤ} :
    (applyTitle plan poll).Writes handle ClientCall.isWrite s
      (plan.titleItem.map fun item => .productImport [item]).toList := by
  rw [applyTitle]
  cases plan.titleItem with
  | none => exact .pure
  | some item =>
    exact (Script.Writes.ask_write rfl).bind fun taskId s' _ =>
      .bind_read pollTitle_writes fun statuses _ _ => .pure

/-- A plan is carried out by its writes. -/
lemma applyProduct_writes {plan : Plan} {poll : ℤ} {noImages : Bool} :
    (applyProduct plan poll noImages).Writes handle ClientCall.isWrite s (plan.writes noImages) :=
  applyImages_writes.bind fun pictures s' _ => by
    have hlast : ∀ titleTask s'', (pure { offerId := plan.offerId, productId := plan.productId
                                          pictures := pictures, titleTask := titleTask } :
        PushM ApplyResult).Writes handle ClientCall.isWrite s'' [] := fun _ _ => .pure
    have htitle : (applyTitle plan poll).Writes handle ClientCall.isWrite s' _ := applyTitle_writes
    have hboth := htitle.bind fun titleTask s'' _ => hlast titleTask s''
    rwa [List.append_nil] at hboth

lemma confirmProduct_writes {plan : Plan} :
    (confirmProduct plan).Writes handle ClientCall.isWrite s [] := by
  refine .bind_read (.ask_read rfl) fun items _ _ => ?_
  dsimp only
  split
  · exact .bind_read (.ofExcept _) fun info _ _ => .bind_read (.ofExcept _) fun info _ _ => .pure
  · exact .bind_read .pure fun info _ _ => .bind_read (.ofExcept _) fun info _ _ => .pure

/-- The second pass writes what is planned. -/
lemma applyPlans_writes {plans : List Plan} {options : PushOptions} :
    (applyPlans plans options).Writes handle ClientCall.isWrite s
      (plannedWrites options plans) := by
  rw [applyPlans, plannedWrites]
  split
  · have hconfirm : ∀ (results : List ApplyResult) (s' : σ), (do
        let confirmations ← (plans.filter fun plan =>
          plan.resolved && plan.primary.any (· ≠ "")).mapM confirmProduct
        return (results, confirmations) : PushM _).Writes handle ClientCall.isWrite s' [] :=
      fun results s' =>
        .bind_read (.mapM_read fun plan _ _ => confirmProduct_writes) fun confirmations _ _ => .pure
    have hloop : ((plans.filter (·.resolved)).mapM fun plan =>
        applyProduct plan options.poll options.noImages).Writes handle ClientCall.isWrite s
          ((plans.filter (·.resolved)).flatMap (·.writes options.noImages)) :=
      .mapM fun plan _ _ => applyProduct_writes
    have hboth := hloop.bind fun results s' _ => hconfirm results s'
    rwa [List.append_nil] at hboth
  · exact .pure

end Writes

/-! ## What is planned -/

section Planning

variable {x : PythonData} {σ : Type} {handle : ClientCall → σ → Except Failure Data × σ} {s s' : σ}
  {exchanged : Exchanges} {offerIds : List String}

/-- The products are those of the one answer. -/
lemma resolveProductIds_ok {resolved : List (String × ProductInfo)} (hsome : offerIds ≠ [])
    (h : (resolveProductIds x offerIds).play handle s = (.ok resolved, s')) :
    ∃ answer items products, (resolveProductIds x offerIds).exchanges handle s =
        [⟨.productInfoByOffer offerIds, .ok answer⟩] ∧
      answer.elements = .ok items ∧ items.mapM (readProduct x) = .ok products ∧
      (products.filterMap id).reverse = resolved := by
  rw [resolveProductIds, if_neg hsome] at h ⊢
  obtain ⟨answer, s₁, hanswer, h⟩ := Script.play_bind_eq_ok.mp h
  obtain ⟨items, s₂, hitems, h⟩ := Script.play_bind_eq_ok.mp h
  obtain ⟨products, s₃, hproducts, h⟩ := Script.play_bind_eq_ok.mp h
  have hresolved := congrArg Prod.fst h
  refine ⟨answer, items, products, ?_, ?_, ?_, Except.ok.inj hresolved⟩
  · rw [Script.exchanges_bind_of_ok hanswer, Script.exchanges_ask hanswer,
      Script.exchanges_bind_of_ok hitems, Script.exchanges_ofExcept,
      Script.exchanges_bind_of_ok hproducts, Script.exchanges_ofExcept, Script.exchanges_pure]
    rfl
  · rw [Script.play_ofExcept] at hitems
    exact congrArg Prod.fst hitems
  · rw [Script.play_ofExcept] at hproducts
    exact congrArg Prod.fst hproducts

/-- A product that resolved was listed. -/
lemma listed_of_resolved {resolved : List (String × ProductInfo)} (hsome : offerIds ≠ [])
    (h : (resolveProductIds x offerIds).play handle s = (.ok resolved, s'))
    (hfirst : (resolveProductIds x offerIds).exchanges handle s <+: exchanged) {offerId : String}
    {info : ProductInfo} (hfound : resolved.lookup offerId = some info) :
    exchanged.Listed x offerIds offerId info := by
  obtain ⟨answer, items, products, hexchanges, hitems, hproducts, rfl⟩ :=
    resolveProductIds_ok hsome h
  obtain ⟨rest, rfl⟩ := hexchanges ▸ hfirst
  obtain ⟨before, behind, hsplit, -⟩ := List.lookup_eq_some_iff.mp hfound
  have hproduct : some (offerId, info) ∈ products := by
    have hmem : (offerId, info) ∈ (products.filterMap id).reverse := by
      rw [hsplit]
      exact List.mem_append_right _ List.mem_cons_self
    simpa using hmem
  obtain ⟨item, hitem, hread⟩ := Except.exists_of_mem_mapM hproducts hproduct
  exact ⟨answer, rest, items, rfl, hitems, item, hitem, hread⟩

/-- A product that was listed has resolved. -/
lemma resolved_of_listed {resolved : List (String × ProductInfo)} (hsome : offerIds ≠ [])
    (h : (resolveProductIds x offerIds).play handle s = (.ok resolved, s'))
    (hfirst : (resolveProductIds x offerIds).exchanges handle s <+: exchanged) {offerId : String}
    {info : ProductInfo} (hlisted : exchanged.Listed x offerIds offerId info) :
    ∃ info', resolved.lookup offerId = some info' := by
  obtain ⟨answer, items, products, hexchanges, hitems, hproducts, rfl⟩ :=
    resolveProductIds_ok hsome h
  obtain ⟨rest, rfl⟩ := hexchanges ▸ hfirst
  obtain ⟨answer', rest', items', hsame, hitems', item, hitem, hread⟩ := hlisted
  obtain ⟨hcall, -⟩ := List.cons.inj hsame
  obtain rfl : answer = answer' := by simpa using hcall
  obtain rfl := Except.ok.inj (hitems.symm.trans hitems')
  have hmem : (offerId, info) ∈ (products.filterMap id).reverse := by
    simpa using Except.mem_of_mapM hproducts hitem hread
  rw [← Option.isSome_iff_exists, Option.isSome_iff_ne_none, Ne, List.lookup_eq_none_iff]
  intro hnone
  simpa using hnone _ hmem

/-- The plan for a row whose product has been found: the images are those of the row and of the
product, and if there is a title, it is that of the row on the product as it was fetched. -/
lemma planProduct_found {row : PushRow} {resolved : List (String × ProductInfo)}
    {keepExisting pushTitle : Bool} {info : ProductInfo} {plan : Plan}
    (hinfo : resolved.lookup row.offerId = some info)
    (h : (planProduct x row resolved keepExisting pushTitle).play handle s = (.ok plan, s')) :
    plan.offerId = row.offerId ∧ plan.row = row.row ∧ plan.resolved = true ∧
      plan.productId = info.productId ∧
      buildImageList row.imageUrls info.images keepExisting = .ok plan.imagesToSet ∧
      ∀ item ∈ plan.titleItem, pushTitle = true ∧ ∃ title attrs, row.title = some title ∧
        ⟨.productAttributes info.productId, .ok (.dict attrs)⟩ ∈
          (planProduct x row resolved keepExisting pushTitle).exchanges handle s ∧
        missingFields attrs = [] ∧ Retitled attrs title item := by
  have hpure : ∀ {p : Plan} {s₁ : σ},
      Script.play handle (pure p : PushM Plan) s₁ = (.ok plan, s') → p = plan := by
    intro p s₁ hp
    rw [Script.play_pure] at hp
    exact Except.ok.inj (congrArg Prod.fst hp)
  simp only [planProduct, hinfo] at h ⊢
  obtain ⟨images, s₁, himages, h⟩ := Script.play_bind_eq_ok.mp h
  rw [Script.exchanges_bind_of_ok himages]
  rw [Script.play_ofExcept] at himages
  have hlist := congrArg Prod.fst himages
  cases htitle : row.title with
  | none =>
    simp only [htitle] at h
    obtain rfl := hpure h
    exact ⟨rfl, rfl, rfl, rfl, hlist, fun item hitem => by cases hitem⟩
  | some title =>
    simp only [htitle] at h ⊢
    cases pushTitle with
    | false =>
      simp only [Bool.false_eq_true, ite_false] at h
      obtain rfl := hpure h
      exact ⟨rfl, rfl, rfl, rfl, hlist, fun item hitem => by cases hitem⟩
    | true =>
      simp only [ite_true] at h ⊢
      obtain ⟨attrs, s₂, hattrs, h⟩ := Script.play_bind_eq_ok.mp h
      obtain ⟨answer, s₃, hitem, h⟩ := Script.play_bind_eq_ok.mp h
      rw [Script.play_ofExcept] at hitem
      cases answer with
      | error reason =>
        -- the product is too thin
        obtain rfl := hpure h
        exact ⟨rfl, rfl, rfl, rfl, hlist, fun item hitem => by cases hitem⟩
      | ok item =>
        obtain rfl := hpure h
        obtain ⟨d, rfl, hcomplete, hretitled⟩ := buildTitleImportItem_spec (congrArg Prod.fst hitem)
        refine ⟨rfl, rfl, rfl, rfl, hlist, ?_⟩
        rintro _ ⟨rfl⟩
        refine ⟨trivial, title, d, rfl, List.mem_append_right _ ?_, hcomplete, hretitled⟩
        exact Script.exchanges_prefix_bind.subset (Script.mem_exchanges_of_ask hattrs)

/-- A plan is one for its row. -/
lemma planProduct_planOf {row : PushRow} {resolved : List (String × ProductInfo)}
    {options : PushOptions} {plan : Plan}
    (hlisted : ∀ info, resolved.lookup row.offerId = some info →
      exchanged.Listed x offerIds row.offerId info)
    (hresolved : ∀ info, exchanged.Listed x offerIds row.offerId info →
      ∃ info', resolved.lookup row.offerId = some info')
    (h : (planProduct x row resolved options.keepExisting options.pushTitle).play handle s =
      (.ok plan, s'))
    (hsub : (planProduct x row resolved options.keepExisting options.pushTitle).exchanges handle s ⊆
      exchanged) : PlanOf x options exchanged offerIds row plan := by
  cases hlookup : resolved.lookup row.offerId with
  | none =>
    simp only [planProduct, hlookup, Script.play_pure] at h
    obtain rfl := Except.ok.inj (congrArg Prod.fst h)
    refine ⟨⟨rfl, rfl⟩, iff_of_false Bool.false_ne_true ?_, fun h => absurd h Bool.false_ne_true,
      fun item hitem => by cases hitem⟩
    rintro ⟨info, hinfo⟩
    obtain ⟨info', hinfo'⟩ := hresolved info hinfo
    rw [hlookup] at hinfo'
    cases hinfo'
  | some info =>
    obtain ⟨hoffer, hrow, hfound, hproduct, hlist, htitle⟩ := planProduct_found hlookup h
    have hinfo := hlisted info hlookup
    refine ⟨⟨hoffer, hrow⟩, iff_of_true hfound ⟨info, hinfo⟩,
      fun _ => ⟨info, hinfo, hproduct, hlist⟩, fun item hitem => ?_⟩
    obtain ⟨hpush, title, attrs, hrowTitle, hfetched, hretitled⟩ := htitle item hitem
    exact ⟨hpush, title, attrs, hrowTitle, hsub (hproduct ▸ hfetched), hretitled⟩

lemma touchedRows_eq {rows : List PushRow} {limit : Option ℤ} :
    touchedRows rows limit = rows.take (limit.elim rows.length Int.toNat) := by
  cases limit with
  | none => exact (List.take_length).symm
  | some limit =>
    have hclamp : (max 0 limit).toNat = limit.toNat := by omega
    rw [touchedRows, hclamp]
    rfl

/-- The first pass makes a plan for every one of the first rows. -/
lemma planRows_planOf {rows : List PushRow} {options : PushOptions} {plans : List Plan}
    (h : (planRows x rows options).play handle s = (.ok plans, s'))
    (hfirst : (planRows x rows options).exchanges handle s <+: exchanged) :
    List.Forall₂ (PlanOf x options exchanged
      ((rows.take (options.limit.elim rows.length Int.toNat)).map (·.offerId)))
      (rows.take (options.limit.elim rows.length Int.toNat)) plans := by
  rw [planRows] at h hfirst
  rw [touchedRows_eq] at h hfirst
  generalize rows.take (options.limit.elim rows.length Int.toNat) = touched at h hfirst ⊢
  obtain ⟨resolved, s₁, hresolved, h⟩ := Script.play_bind_eq_ok.mp h
  have hprefix := Script.exchanges_prefix_bind.trans hfirst
  have hsub := (Script.exchanges_bind_of_ok hresolved ▸ hfirst).subset
  rw [List.append_subset] at hsub
  have hall := Script.forall₂_of_play_mapM h
  by_cases hnone : touched = []
  · subst touched
    cases hall
    exact .nil
  · have hsome : touched.map (·.offerId) ≠ [] := mt List.map_eq_nil_iff.mp hnone
    refine hall.imp ?_
    rintro row plan ⟨s₂, s₃, hplan, hplanSub⟩
    exact planProduct_planOf (fun info => listed_of_resolved hsome hresolved hprefix)
      (fun info => resolved_of_listed hsome hresolved hprefix) hplan
      (List.Subset.trans hplanSub hsub.2)

end Planning

/-- **A push writes what was planned.**  A dry run writes nothing.  Whatever the client answers and
wherever the push ends, there are plans for the first rows, as many as the limit allows at most, in
their order, such that it has made the first of the writes that they plan for the products that
resolved; a push that comes to its end has planned for all of these rows and reports the plans, and
if it is applied, it has made all the writes. -/
theorem push_writes_planned (x : PythonData) {σ : Type}
    (handle : ClientCall → σ → Except Failure Data × σ) (s : σ) (rows : List PushRow)
    (options : PushOptions) :
    (options.apply = false → (runPush x rows options).writes handle ClientCall.isWrite s = []) ∧
    ∃ plans,
      List.Forall₂ (PlanOf x options ((runPush x rows options).exchanges handle s)
          ((rows.take (options.limit.elim rows.length Int.toNat)).map (·.offerId)))
        ((rows.take (options.limit.elim rows.length Int.toNat)).take plans.length) plans ∧
      (runPush x rows options).writes handle ClientCall.isWrite s <+:
        (plans.filter (·.resolved)).flatMap (·.writes options.noImages) ∧
      ∀ report s', (runPush x rows options).play handle s = (.ok report, s') →
        report.plans = plans ∧
        plans.length = (rows.take (options.limit.elim rows.length Int.toNat)).length ∧
        (options.apply = true → (runPush x rows options).writes handle ClientCall.isWrite s =
          (plans.filter (·.resolved)).flatMap (·.writes options.noImages)) := by
  cases hplans : (planRows x rows options).play handle s with
  | mk r s₁ =>
    cases r with
    | error e =>
      -- the push ends in the first pass
      have hnone : (runPush x rows options).writes handle ClientCall.isWrite s = [] := by
        rw [runPush, Script.writes, Script.exchanges_bind_of_error hplans]
        exact List.prefix_nil.mp planRows_writes.1
      refine ⟨fun _ => hnone, [], .nil, hnone ▸ List.prefix_rfl, fun report s' hreport => ?_⟩
      rw [runPush, Script.play_bind_of_error hplans] at hreport
      cases hreport
    | ok plans =>
      have hwrites : (runPush x rows options).Writes handle ClientCall.isWrite s
          (plannedWrites options plans) := by
        refine planRows_writes.bind_read fun plans' s' h => ?_
        obtain ⟨rfl, rfl⟩ : plans = plans' ∧ s₁ = s' := by simpa [hplans] using h
        have hlast : ∀ (r : List ApplyResult × List Confirmation) s',
            (pure { plans := plans, results := r.1, confirmations := r.2 } :
              PushM PushReport).Writes handle ClientCall.isWrite s' [] := fun _ _ => .pure
        have hsecond : (applyPlans plans options).Writes handle ClientCall.isWrite s₁ _ :=
          applyPlans_writes
        have hboth := hsecond.bind fun r s' _ => hlast r s'
        rwa [List.append_nil] at hboth
      have hplanned : plannedWrites options plans <+:
          (plans.filter (·.resolved)).flatMap (·.writes options.noImages) := by
        rw [plannedWrites]
        split
        · exact List.prefix_rfl
        · exact List.nil_prefix
      have hread : (planRows x rows options).exchanges handle s <+:
          (runPush x rows options).exchanges handle s := Script.exchanges_prefix_bind
      have hall := planRows_planOf hplans hread
      refine ⟨fun hdry => ?_, plans, ?_, hwrites.1.trans hplanned, fun report s' hreport => ?_⟩
      · have hnone : plannedWrites options plans = [] := by
          rw [plannedWrites, if_neg (by simp [hdry])]
        exact List.prefix_nil.mp (hnone ▸ hwrites.1)
      · rwa [List.take_of_length_le hall.length_eq.le]
      · have hmade := hwrites.2 report s' hreport
        rw [runPush, Script.play_bind_of_ok hplans] at hreport
        obtain ⟨results, s₂, -, hreport⟩ := Script.play_bind_eq_ok.mp hreport
        obtain rfl := Except.ok.inj (congrArg Prod.fst hreport)
        refine ⟨rfl, hall.length_eq.symm, fun happly => ?_⟩
        rw [hmade, plannedWrites, if_pos happly]

end OzonSuite.Excel
