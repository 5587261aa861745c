/-
# Writing the copy of a product

A push of a proposal reads the live product and the dictionaries of its category, shows what it
would change, and writes it when it is told to.  The preview and the import are made from the same
values, but the import leaves out what is empty.
-/
import OzonSuite.Node.CopyMatch
import OzonSuite.Node.Relist

namespace OzonSuite

open Lib

/-- The longest title. -/
def module3TitleMax : ℕ := 200

/-- The longest description. -/
def module3DescriptionMax : ℕ := 1800

/-- A product with the proposal for it. -/
structure Module3PushTarget where
  productId : String
  proposal : Module3Fields
deriving DecidableEq

/-- A text before and after. -/
structure Module3FieldChange where
  before : String
  after : String
deriving DecidableEq

/-- What a preview shows. -/
structure Module3PushPreview where
  title : Module3FieldChange
  description : Module3FieldChange
  attributesToWrite : List Module3MatchedAttribute
  dropped : List Module3DroppedItem
deriving DecidableEq

/-- What a push answers for one product. -/
structure Module3PushItem where
  productId : String
  offerId : String
  preview : Option Module3PushPreview
  written : Bool
  taskId : Option String
  error : Option String
deriving DecidableEq

/-- The text cut to a number of characters, at a blank if there is one. -/
def wordBoundaryTruncate (value : String) (maxChars : ℕ) : String :=
  let trimmed := (trim value).toList
  if trimmed.length ≤ maxChars then trim value
  else
    let cut := trimmed.take maxChars
    let cut := if ' ' ∈ cut then (cut.rdropWhile (· ≠ ' ')).dropLast else cut
    trimTextEnd isWhitespace (String.ofList cut)

/-- The live product, the dictionary of its category, and the dictionaries of values that the
proposal needs. -/
def module3Read (x : NodeCrates) (w : NodeWorld) (i : ℕ) (credentials : OzonCredentials)
    (target : Module3PushTarget) :
    EStateM String LocalState (OzonProductDetail × List OzonCategoryAttribute ×
      List (ℕ × List OzonCategoryAttributeValue)) := do
  let product ← ofExcept ((w.productGet i credentials (pushLookup target.productId)).mapError
    fun e => s!"read product failed: {e.text}")
  let categoryId ← okOr product.descriptionCategoryId
    "product has no description_category_id; cannot resolve attributes"
  let typeId ← okOr product.typeId "product has no type_id; cannot resolve attributes"
  let dictionary ← ofExcept ((w.categoryAttributes i credentials categoryId typeId).mapError
    fun e => s!"read category attributes failed: {e.text}")
  let values ← (module3ReferencedDictionaryIds x dictionary target.proposal.attributes).mapM
    fun attributeId => do
      let values ← ofExcept
        ((w.categoryAttributeValues i credentials categoryId typeId attributeId).mapError
          fun e => s!"read attribute values failed: {e.text}")
      return (attributeId, values)
  return (product, dictionary, values)

section Pure

variable (x : NodeCrates) (product : OzonProductDetail) (proposal : Module3Fields)
  (dictionary : List OzonCategoryAttribute)
  (valuesByAttribute : ℕ → Option (List OzonCategoryAttributeValue))

/-- The title that is written. -/
def module3AfterTitle : String := wordBoundaryTruncate (trim proposal.title) module3TitleMax

/-- The description that is written. -/
def module3AfterDescription : String :=
  wordBoundaryTruncate (trim proposal.description) module3DescriptionMax

/-- The preview of a push. -/
def module3Preview : Module3PushPreview :=
  let outcome := module3MatchAttributes x dictionary valuesByAttribute proposal.attributes
  { title := { before := product.name.getD "", after := module3AfterTitle proposal }
    description :=
      { before := product.description.getD "", after := module3AfterDescription proposal }
    attributesToWrite := outcome.matched
    dropped := outcome.dropped }

/-- The update that a push sends. -/
def module3Update : OzonProductCopyUpdate :=
  let outcome := module3MatchAttributes x dictionary valuesByAttribute proposal.attributes
  { offerId := product.offerId
    name := (some (module3AfterTitle proposal)).filter (· ≠ "")
    description := (some (module3AfterDescription proposal)).filter (· ≠ "")
    attributes := outcome.resolved }

end Pure

/-- Push one product; `i` is its place in the batch. -/
def module3PushOne (x : NodeCrates) (w : NodeWorld) (i : ℕ) (credentials : OzonCredentials)
    (target : Module3PushTarget) (confirm : Bool) :
    EStateM String LocalState Module3PushItem := do
  let (product, dictionary, values) ← module3Read x w i credentials target
  let preview := module3Preview x product target.proposal dictionary fun id => values.lookup id
  if confirm then
    recordWrite (.productUpdateCopy credentials
      (module3Update x product target.proposal dictionary fun id => values.lookup id))
    let result ← ofExcept ((w.productUpdateCopy i).mapError
      fun e => s!"product update failed: {e.text}")
    return {
      productId := product.productId
      offerId := product.offerId
      preview := some preview
      written := result.accepted
      taskId := result.taskId
      error := none }
  else
    return {
      productId := product.productId
      offerId := product.offerId
      preview := some preview
      written := false
      taskId := none
      error := none }

/-! ## Cutting a text -/

/-- What is left of a text after cutting is the beginning of the trimmed text, trimmed at its
end. -/
lemma toList_wordBoundaryTruncate (value : String) {maxChars : ℕ} (hmax : 0 < maxChars) :
    ∃ q, q <+: trimList isWhitespace value.toList ∧
      (wordBoundaryTruncate value maxChars).toList = q.rdropWhile isWhitespace ∧
      (trimList isWhitespace value.toList ≠ [] → q ≠ []) := by
  have htrim : (trim value).toList = trimList isWhitespace value.toList := by
    simp [trim, trimText]
  unfold wordBoundaryTruncate
  simp only [htrim]
  split
  · refine ⟨_, List.prefix_rfl, ?_, id⟩
    rw [htrim]
    exact (List.rdropWhile_idempotent _ _).symm
  · refine ⟨_, ?_, by rw [trimTextEnd, String.toList_ofList, String.toList_ofList], fun hne => ?_⟩
    · split
      · exact (List.dropLast_prefix _).trans
          ((List.rdropWhile_prefix _ _).trans (List.take_prefix _ _))
      · exact List.take_prefix _ _
    · obtain ⟨a, t, ht⟩ := List.exists_cons_of_ne_nil hne
      have ha : isWhitespace a = false := head_trimList (l := value.toList) (by rw [ht]; simp)
      obtain ⟨n, rfl⟩ := Nat.exists_eq_succ_of_ne_zero hmax.ne'
      rw [ht, List.take_succ_cons]
      split
      · -- the first character is not blank, so the cut is behind it
        next hmem =>
        intro hnil
        have hlast := List.rdropWhile_last_not (fun c => decide (c ≠ ' ')) (a :: t.take n)
        generalize hr : (a :: t.take n).rdropWhile (fun c => decide (c ≠ ' ')) = r at hnil hlast
        have hpre := List.rdropWhile_prefix (fun c => decide (c ≠ ' ')) (a :: t.take n)
        cases r with
        | nil =>
          have hall := List.rdropWhile_eq_nil_iff.mp hr ' ' hmem
          simp at hall
        | cons b r =>
          rw [hr] at hpre
          obtain rfl : b = a := by
            obtain ⟨rest, hrest⟩ := hpre
            simpa using congrArg List.head? hrest
          have hsingle : r = [] := by
            cases r with
            | nil => rfl
            | cons c r => simp at hnil
          subst hsingle
          have hblank : b = ' ' := by
            by_contra hb
            exact hlast (by simp) (decide_eq_true hb)
          rw [hblank] at ha
          exact absurd ha (by decide)
      · simp

/-- A text that has been cut is trimmed. -/
lemma trim_wordBoundaryTruncate (value : String) {maxChars : ℕ} (hmax : 0 < maxChars) :
    trim (wordBoundaryTruncate value maxChars) = wordBoundaryTruncate value maxChars := by
  obtain ⟨q, hq, hlist, -⟩ := toList_wordBoundaryTruncate value hmax
  rw [trim, trimText, hlist, trimList_rdropWhile hq, ← hlist, String.ofList_toList]

/-- Cutting leaves nothing only of a blank text. -/
lemma wordBoundaryTruncate_eq_empty (value : String) {maxChars : ℕ} (hmax : 0 < maxChars) :
    wordBoundaryTruncate value maxChars = "" ↔ trim value = "" := by
  obtain ⟨q, hq, hlist, hne⟩ := toList_wordBoundaryTruncate value hmax
  have hleft : wordBoundaryTruncate value maxChars = "" ↔ q.rdropWhile isWhitespace = [] := by
    rw [← hlist, String.toList_eq_nil_iff]
  have hright : trim value = "" ↔ trimList isWhitespace value.toList = [] := by
    rw [← String.toList_eq_nil_iff, trim, trimText, String.toList_ofList]
  rw [hleft, hright]
  constructor
  · intro hnil
    by_contra htrim
    exact rdropWhile_ne_nil hq (hne htrim) hnil
  · intro hnil
    rw [hnil] at hq
    rw [List.prefix_nil.mp hq]
    rfl

/-! ## What is read and written -/

section Runs

variable {x : NodeCrates} {w : NodeWorld} {i : ℕ} {credentials : OzonCredentials}
  {target : Module3PushTarget} {confirm : Bool} {s : LocalState}

/-- What the reads of a push have found. -/
structure Module3Found (w : NodeWorld) (i : ℕ) (credentials : OzonCredentials)
    (target : Module3PushTarget) (product : OzonProductDetail)
    (dictionary : List OzonCategoryAttribute)
    (values : List (ℕ × List OzonCategoryAttributeValue)) : Prop where
  live : w.productGet i credentials (pushLookup target.productId) = .ok product
  category : ∃ categoryId typeId, product.descriptionCategoryId = some categoryId ∧
    product.typeId = some typeId ∧
    w.categoryAttributes i credentials categoryId typeId = .ok dictionary ∧
    ∀ entry ∈ values,
      w.categoryAttributeValues i credentials categoryId typeId entry.1 = .ok entry.2

/-- Reading changes nothing. -/
lemma finalState_module3Read : finalState (module3Read x w i credentials target s) = s := by
  have htrans : ∀ a b c : LocalState, a = b → b = c → a = c := fun _ _ _ => Eq.trans
  suffices h : Moves Eq (module3Read x w i credentials target) from (h s).symm
  refine .bind htrans (.refl_of Eq.refl fun _ => by simp) fun product => ?_
  refine .bind htrans (.refl_of Eq.refl fun _ => by simp) fun categoryId => ?_
  refine .bind htrans (.refl_of Eq.refl fun _ => by simp) fun typeId => ?_
  refine .bind htrans (.refl_of Eq.refl fun _ => by simp) fun dictionary => ?_
  refine .bind htrans (.mapM Eq.refl htrans fun attributeId _ => ?_) fun values =>
    .refl_of Eq.refl fun _ => rfl
  exact .bind htrans (.refl_of Eq.refl fun _ => by simp) fun _ => .refl_of Eq.refl fun _ => rfl

lemma module3Read_ok {product : OzonProductDetail} {dictionary : List OzonCategoryAttribute}
    {values : List (ℕ × List OzonCategoryAttributeValue)} {s' : LocalState}
    (h : module3Read x w i credentials target s = .ok (product, dictionary, values) s') :
    Module3Found w i credentials target product dictionary values := by
  simp only [module3Read, bind_eq_ok, ofExcept_eq_ok, okOr_eq_ok, Except.mapError_eq_ok,
    pure_eq_ok] at h
  obtain ⟨product', _, ⟨hproduct, -⟩, categoryId, _, ⟨hcategory, -⟩, typeId, _, ⟨htype, -⟩,
    dictionary', _, ⟨hdictionary, -⟩, values', _, hvalues, heq, -⟩ := h
  obtain ⟨rfl, rfl, rfl⟩ : product' = product ∧ dictionary' = dictionary ∧ values' = values := by
    simpa using heq
  refine ⟨hproduct, categoryId, typeId, hcategory, htype, hdictionary, ?_⟩
  refine mapM_eq_ok (fun attributeId _ _ entry _ hentry => ?_) hvalues
  simp only [bind_eq_ok, ofExcept_eq_ok, Except.mapError_eq_ok, pure_eq_ok] at hentry
  obtain ⟨found, _, ⟨hfound, -⟩, rfl, -⟩ := hentry
  exact hfound

/-- A push that is not told to write changes nothing. -/
lemma finalState_module3PushOne_dryRun :
    finalState (module3PushOne x w i credentials target false s) = s := by
  have hread : finalState (module3Read x w i credentials target s) = s := finalState_module3Read
  rw [module3PushOne, finalState_bind]
  cases h : module3Read x w i credentials target s with
  | error e s' =>
    rw [h] at hread
    exact hread
  | ok found s' =>
    rw [h] at hread
    exact hread

/-- A push whose reads fail writes nothing. -/
lemma writes_module3PushOne_of_error {e : String} {s' : LocalState}
    (h : module3Read x w i credentials target s = .error e s') :
    (finalState (module3PushOne x w i credentials target confirm s)).writes = s.writes := by
  have hread : finalState (module3Read x w i credentials target s) = s := finalState_module3Read
  rw [h] at hread
  rw [module3PushOne, finalState_bind, h]
  exact congrArg LocalState.writes hread

/-- A confirmed push that has read what it needs asks for the update that its preview shows. -/
lemma writes_module3PushOne_of_read {product : OzonProductDetail}
    {dictionary : List OzonCategoryAttribute}
    {values : List (ℕ × List OzonCategoryAttributeValue)} {s' : LocalState}
    (h : module3Read x w i credentials target s = .ok (product, dictionary, values) s') :
    (finalState (module3PushOne x w i credentials target true s)).writes = s.writes ++
      [.productUpdateCopy credentials (module3Update x product target.proposal dictionary
        fun id => values.lookup id)] := by
  have hread : finalState (module3Read x w i credentials target s) = s := finalState_module3Read
  rw [h] at hread
  obtain rfl : s' = s := hread
  rw [module3PushOne, finalState_bind_ok h]
  simp only [if_true]
  rw [finalState_bind_ok (a := ()) (m := recordWrite _) (modify_eq_ok.mpr rfl), finalState_bind]
  -- whatever the import answers, it has been asked for
  cases w.productUpdateCopy i <;> rfl

/-- A push writes nothing, or the one update that its preview shows. -/
lemma module3PushOne_writes :
    (finalState (module3PushOne x w i credentials target confirm s)).writes = s.writes ∨
      ∃ product dictionary values, confirm = true ∧
        Module3Found w i credentials target product dictionary values ∧
        (finalState (module3PushOne x w i credentials target confirm s)).writes = s.writes ++
          [.productUpdateCopy credentials (module3Update x product target.proposal dictionary
            fun id => values.lookup id)] := by
  cases confirm with
  | false => exact .inl (by rw [finalState_module3PushOne_dryRun])
  | true =>
    cases h : module3Read x w i credentials target s with
    | error e s' => exact .inl (writes_module3PushOne_of_error h)
    | ok found s' =>
      obtain ⟨product, dictionary, values⟩ := found
      exact .inr ⟨product, dictionary, values, rfl, module3Read_ok h,
        writes_module3PushOne_of_read h⟩

/-- **Nothing is written with a guessed id.**  For every proposal, dictionary and table of values,
what is resolved and what is previewed are in step, each attribute and each value of them taken
from the dictionary by name.  And whatever a push writes has been resolved so, from the dictionary
and the values that it has read for the live product. -/
theorem module3_writes_nothing_guessed (x : NodeCrates) :
    (∀ dictionary valuesByAttribute proposal,
      List.Forall₂ (AttributeMatch x valuesByAttribute dictionary proposal)
        (module3MatchAttributes x dictionary valuesByAttribute proposal).resolved
        (module3MatchAttributes x dictionary valuesByAttribute proposal).matched) ∧
    ∀ w i credentials target confirm s,
      ∀ call ∈ (finalState (module3PushOne x w i credentials target confirm s)).writes,
        call ∈ s.writes ∨ ∃ product dictionary values update matched,
          Module3Found w i credentials target product dictionary values ∧
          call = .productUpdateCopy credentials update ∧
          List.Forall₂ (AttributeMatch x (fun id => values.lookup id) dictionary
            target.proposal.attributes) update.attributes matched := by
  refine ⟨fun dictionary _ proposal => matchAttributes_inStep dictionary proposal, ?_⟩
  intro w i credentials target confirm s call hcall
  rcases module3PushOne_writes (x := x) (w := w) (i := i) (s := s) with
    h | ⟨product, dictionary, values, -, hfound, h⟩
  · exact .inl (h ▸ hcall)
  · rw [h] at hcall
    rcases List.mem_append.mp hcall with hcall | hcall
    · exact .inl hcall
    · obtain rfl := List.mem_singleton.mp hcall
      exact .inr ⟨product, dictionary, values, _, _, hfound, rfl, matchAttributes_inStep _ _⟩

end Runs

/-! ## The preview and the import -/

/-- The texts of attribute values, as the preview shows them. -/
inductive Displays (valuesByAttribute : ℕ → Option (List OzonCategoryAttributeValue))
    (attributeId : ℕ) : ImportAttributeValue → String → Prop
  | dictionary {entries : List OzonCategoryAttributeValue} {entry : OzonCategoryAttributeValue}
      (hentries : valuesByAttribute attributeId = some entries) (hentry : entry ∈ entries) :
      Displays valuesByAttribute attributeId
        { dictionaryValueId := some entry.valueId, value := none } entry.value
  | freeText (text : String) :
      Displays valuesByAttribute attributeId { dictionaryValueId := none, value := some text } text

/-- The description that an import leaves a product with.  If the import mentions the annotation
attribute it must do so with one text. -/
inductive DescriptionAfter (before : String) (attributes : List ImportAttribute) : String → Prop
  | unmentioned (h : ∀ a ∈ attributes, a.id ≠ ozonDescriptionAttributeId) :
      DescriptionAfter before attributes before
  | written {text : String} (hmentioned : ∃ a ∈ attributes, a.id = ozonDescriptionAttributeId)
      (h : ∀ a ∈ attributes, a.id = ozonDescriptionAttributeId →
        a = ImportAttribute.description text) :
      DescriptionAfter before attributes text

/-- Applied to the live product, the import yields what the preview shows: it is about this
product, title and description become those of the preview, and the attributes are those of the
preview, with the description. -/
structure PreviewHonoured (valuesByAttribute : ℕ → Option (List OzonCategoryAttributeValue))
    (product : OzonProductDetail) (preview : Module3PushPreview) (item : ImportItem) : Prop where
  sameProduct : item.offerId = product.offerId
  title : item.name.getD (product.name.getD "") = preview.title.after
  description : DescriptionAfter (product.description.getD "") item.attributes
    preview.description.after
  attributes : ∃ written description, item.attributes = written ++ description ∧
    List.Forall₂ (fun (a : ImportAttribute) (m : Module3MatchedAttribute) =>
      a.id = m.attributeId ∧ List.Forall₂ (Displays valuesByAttribute a.id) a.values m.values)
      written preview.attributesToWrite ∧
    (description = [] ∨ description = [.description preview.description.after])

/-- When the import honours the preview: the offer id has no blanks around it, a blank title or
description meets a product that has none, and no proposed attribute is resolved to the annotation
attribute with another text than the description. -/
structure CopyPushFaithful (x : NodeCrates) (product : OzonProductDetail)
    (proposal : Module3Fields) (dictionary : List OzonCategoryAttribute)
    (valuesByAttribute : ℕ → Option (List OzonCategoryAttributeValue)) : Prop where
  offerId : trim product.offerId = product.offerId
  title : trim proposal.title = "" → product.name.getD "" = ""
  description : trim proposal.description = "" → product.description.getD "" = ""
  annotation : ∀ attr ∈ proposal.attributes, ∀ resolved,
    resolveAttribute x valuesByAttribute dictionary attr = some resolved →
    resolved.attributeId = ozonDescriptionAttributeId →
    resolved.values = [.freeText (module3AfterDescription proposal)]

section Import

variable {x : NodeCrates} {product : OzonProductDetail} {proposal : Module3Fields}
  {dictionary : List OzonCategoryAttribute}
  {valuesByAttribute : ℕ → Option (List OzonCategoryAttributeValue)}

lemma afterTitle_eq_empty : module3AfterTitle proposal = "" ↔ trim proposal.title = "" := by
  rw [module3AfterTitle, wordBoundaryTruncate_eq_empty _ (by decide), trim_trim]

lemma afterDescription_eq_empty :
    module3AfterDescription proposal = "" ↔ trim proposal.description = "" := by
  rw [module3AfterDescription, wordBoundaryTruncate_eq_empty _ (by decide), trim_trim]

lemma trim_afterTitle : trim (module3AfterTitle proposal) = module3AfterTitle proposal :=
  trim_wordBoundaryTruncate (trim proposal.title) (show 0 < module3TitleMax by decide)

lemma trim_afterDescription :
    trim (module3AfterDescription proposal) = module3AfterDescription proposal :=
  trim_wordBoundaryTruncate (trim proposal.description) (show 0 < module3DescriptionMax by decide)

/-- A text that has been cut is sent as it is, or not at all. -/
lemma filter_trim_eq {text : String} (h : trim text = text) :
    ((((some text).filter (· ≠ "")).map trim).filter (· ≠ "") : Option String) =
      if text = "" then none else some text := by
  by_cases hempty : text = "" <;> simp [hempty, h]

/-- The item that an update sends. -/
lemma importItem_module3Update {item : ImportItem}
    (h : importItem (module3Update x product proposal dictionary valuesByAttribute) = .ok item) :
    item.offerId = trim product.offerId ∧
      item.name = (if module3AfterTitle proposal = "" then none
        else some (module3AfterTitle proposal)) ∧
      item.attributes =
        (module3MatchAttributes x dictionary valuesByAttribute
          proposal.attributes).resolved.map ImportAttribute.fromResolved ++
        (if module3AfterDescription proposal = "" then []
          else [.description (module3AfterDescription proposal)]) := by
  simp only [importItem, module3Update, Except.bind_eq_ok] at h
  rw [filter_trim_eq trim_afterTitle, filter_trim_eq trim_afterDescription] at h
  obtain ⟨_, -, h⟩ := h
  generalize module3AfterTitle proposal = title at h ⊢
  generalize module3AfterDescription proposal = description at h ⊢
  obtain rfl := Except.ok.inj h
  refine ⟨rfl, rfl, ?_⟩
  by_cases hempty : description = "" <;> simp [hempty]

/-- A resolved attribute is sent as the description only if its one value is that text. -/
lemma fromResolved_eq_description {r : OzonResolvedAttribute} {text : String} :
    ImportAttribute.fromResolved r = .description text ↔
      r.attributeId = ozonDescriptionAttributeId ∧ r.values = [.freeText text] := by
  obtain ⟨id, values⟩ := r
  simp only [ImportAttribute.fromResolved, ImportAttribute.description, ImportAttribute.mk.injEq]
  refine and_congr_right fun _ => ?_
  rcases values with _ | ⟨v, _ | ⟨v', values⟩⟩
  · simp
  · cases v <;> simp [ImportAttributeValue.fromResolved]
  · simp

/-- No value is resolved to an empty text. -/
lemma resolveAttribute_values_ne {attr : Module3Attribute} {r : OzonResolvedAttribute}
    (h : resolveAttribute x valuesByAttribute dictionary attr = some r) :
    r.values ≠ [.freeText ""] := by
  unfold resolveAttribute at h
  split at h
  · cases h
  · obtain ⟨definition, -, h⟩ := Option.bind_eq_some_iff.mp h
    simp only at h
    split at h
    · cases h
    · obtain rfl := Option.some.inj h
      intro hvalues
      simp only at hvalues
      have hmem : OzonResolvedValue.freeText "" ∈
          attr.values.filterMap (resolveValue x valuesByAttribute definition) := by
        rw [hvalues]
        exact List.mem_singleton.mpr rfl
      obtain ⟨rawValue, -, hresolve⟩ := List.mem_filterMap.mp hmem
      unfold resolveValue at hresolve
      split at hresolve
      · cases hresolve
      · next hempty =>
        split at hresolve
        · obtain ⟨entry, -, hentry⟩ := Option.map_eq_some_iff.mp hresolve
          cases hentry
        · exact hempty (by simpa using hresolve)

lemma descriptionAfter_cases {before text : String} {attributes : List ImportAttribute} :
    DescriptionAfter before attributes text ↔
      (text = before ∧ ∀ a ∈ attributes, a.id ≠ ozonDescriptionAttributeId) ∨
      ((∃ a ∈ attributes, a.id = ozonDescriptionAttributeId) ∧
        ∀ a ∈ attributes, a.id = ozonDescriptionAttributeId →
          a = ImportAttribute.description text) := by
  constructor
  · intro h
    cases h with
    | unmentioned h => exact .inl ⟨rfl, h⟩
    | written hmentioned h => exact .inr ⟨hmentioned, h⟩
  · rintro (⟨rfl, h⟩ | ⟨hmentioned, h⟩)
    · exact .unmentioned h
    · exact .written hmentioned h

/-- What the import leaves as the description. -/
lemma descriptionAfter_iff (before text : String) (resolved : List OzonResolvedAttribute)
    (hne : ∀ r ∈ resolved, r.values ≠ [.freeText ""]) :
    DescriptionAfter before
        (resolved.map ImportAttribute.fromResolved ++
          (if text = "" then [] else [.description text])) text ↔
      (text = "" → before = "") ∧
        ∀ r ∈ resolved, r.attributeId = ozonDescriptionAttributeId →
          r.values = [.freeText text] := by
  by_cases hempty : text = ""
  -- nothing is written apart from the attributes, none of which is empty
  · subst hempty
    simp only [if_true, List.append_nil]
    constructor
    · intro h
      rcases descriptionAfter_cases.mp h with ⟨hbefore, h⟩ | ⟨⟨a, ha, hid⟩, h⟩
      · refine ⟨fun _ => hbefore.symm, fun r hr hid => ?_⟩
        exact absurd hid (h _ (List.mem_map_of_mem hr))
      · obtain ⟨r, hr, rfl⟩ := List.mem_map.mp ha
        exact absurd (fromResolved_eq_description.mp (h _ ha hid)).2 (hne r hr)
    · rintro ⟨hbefore, hannotated⟩
      obtain rfl := hbefore trivial
      refine .unmentioned fun a ha hid => ?_
      obtain ⟨r, hr, rfl⟩ := List.mem_map.mp ha
      exact hne r hr (hannotated r hr hid)
  · rw [if_neg hempty]
    constructor
    · intro h
      refine ⟨fun h' => absurd h' hempty, fun r hr hid => ?_⟩
      rcases descriptionAfter_cases.mp h with ⟨-, h⟩ | ⟨-, h⟩
      · exact absurd rfl (h (.description text)
          (List.mem_append_right _ (List.mem_singleton.mpr rfl)))
      · have hr' := h _ (List.mem_append_left _ (List.mem_map_of_mem hr)) hid
        exact (fromResolved_eq_description.mp hr').2
    · rintro ⟨-, hannotated⟩
      -- the text of its own comes last and agrees with the annotation
      refine .written ⟨.description text, by simp, rfl⟩ fun a ha hid => ?_
      rcases List.mem_append.mp ha with ha | ha
      · obtain ⟨r, hr, rfl⟩ := List.mem_map.mp ha
        exact fromResolved_eq_description.mpr ⟨hid, hannotated r hr hid⟩
      · exact List.mem_singleton.mp ha

/-- What is written of an attribute shows as in the preview. -/
lemma displays_of_match {proposed : List Module3Attribute} {r : OzonResolvedAttribute}
    {m : Module3MatchedAttribute}
    (h : AttributeMatch x valuesByAttribute dictionary proposed r m) :
    (ImportAttribute.fromResolved r).id = m.attributeId ∧
      List.Forall₂ (Displays valuesByAttribute (ImportAttribute.fromResolved r).id)
        (ImportAttribute.fromResolved r).values m.values := by
  refine ⟨h.sameId, ?_⟩
  obtain ⟨attr, -, definition, -, -, hid, -, hvalues⟩ := h.matched
  simp only [ImportAttribute.fromResolved]
  rw [List.forall₂_map_left_iff]
  refine hvalues.imp fun v text hv => ?_
  cases hv with
  | dictionary _ hentries hentry _ _ => exact .dictionary (hid ▸ hentries) hentry
  | freeText _ _ _ => exact .freeText _

lemma title_module3Preview :
    (module3Preview x product proposal dictionary valuesByAttribute).title.after =
      module3AfterTitle proposal := by
  simp only [module3Preview]

lemma description_module3Preview :
    (module3Preview x product proposal dictionary valuesByAttribute).description.after =
      module3AfterDescription proposal := by
  simp only [module3Preview]

lemma attributes_module3Preview :
    (module3Preview x product proposal dictionary valuesByAttribute).attributesToWrite =
      (module3MatchAttributes x dictionary valuesByAttribute proposal.attributes).matched := by
  simp only [module3Preview]

/-- The import of an update honours the preview exactly under the condition. -/
lemma previewHonoured_iff {item : ImportItem}
    (h : importItem (module3Update x product proposal dictionary valuesByAttribute) = .ok item) :
    PreviewHonoured valuesByAttribute product
        (module3Preview x product proposal dictionary valuesByAttribute) item ↔
      CopyPushFaithful x product proposal dictionary valuesByAttribute := by
  obtain ⟨hofferId, hname, hattributes⟩ := importItem_module3Update h
  have hresolved := @resolved_matchAttributes x valuesByAttribute dictionary proposal.attributes
  -- no attribute is resolved to an empty text, which is what an emptied description looks like
  have hne : ∀ r ∈ (module3MatchAttributes x dictionary valuesByAttribute
      proposal.attributes).resolved, r.values ≠ [.freeText ""] := by
    intro r hr
    rw [hresolved] at hr
    obtain ⟨attr, -, hattr⟩ := List.mem_filterMap.mp hr
    exact resolveAttribute_values_ne hattr
  have hdescription := descriptionAfter_iff (product.description.getD "")
    (module3AfterDescription proposal) _ hne
  rw [← hattributes] at hdescription
  constructor
  · intro hp
    obtain ⟨hsame, htitle, hdescriptionAfter, -⟩ := hp
    rw [title_module3Preview, hname] at htitle
    rw [description_module3Preview] at hdescriptionAfter
    obtain ⟨hbefore, hannotated⟩ := hdescription.mp hdescriptionAfter
    refine ⟨hofferId ▸ hsame, fun hblank => ?_, fun hblank => ?_, ?_⟩
    · have hempty := afterTitle_eq_empty.mpr hblank
      rw [if_pos hempty, hempty] at htitle
      exact htitle
    · exact hbefore (afterDescription_eq_empty.mpr hblank)
    · intro attr hattr resolved hresolve hid
      refine hannotated resolved ?_ hid
      rw [hresolved]
      exact List.mem_filterMap.mpr ⟨attr, hattr, hresolve⟩
  · intro hc
    refine ⟨hofferId.trans hc.offerId, ?_, ?_, ?_⟩
    · rw [title_module3Preview, hname]
      by_cases hempty : module3AfterTitle proposal = ""
      · rw [if_pos hempty, hempty]
        exact hc.title (afterTitle_eq_empty.mp hempty)
      · rw [if_neg hempty, Option.getD_some]
    · rw [description_module3Preview]
      refine hdescription.mpr ⟨fun hempty => ?_, fun r hr hid => ?_⟩
      · exact hc.description (afterDescription_eq_empty.mp hempty)
      · rw [hresolved] at hr
        obtain ⟨attr, hattr, hresolve⟩ := List.mem_filterMap.mp hr
        exact hc.annotation attr hattr r hresolve hid
    · rw [attributes_module3Preview, description_module3Preview]
      refine ⟨_, _, hattributes, ?_, ?_⟩
      · rw [List.forall₂_map_left_iff]
        exact (matchAttributes_inStep dictionary proposal.attributes).imp
          fun r m hm => displays_of_match hm
      · by_cases hempty : module3AfterDescription proposal = ""
        · exact .inl (if_pos hempty)
        · exact .inr (if_neg hempty)

end Import

/-- **Preview fidelity.**  Without a confirmation a push changes nothing.  With one, when the live
product and its dictionaries have been read, it writes one update; and the import that this update
sends, applied to the live product, yields the preview that is returned with it exactly when the
inputs are faithful. -/
theorem module3_push_honours_preview (x : NodeCrates) (w : NodeWorld) (i : ℕ)
    (credentials : OzonCredentials) (target : Module3PushTarget) (s : LocalState) :
    finalState (module3PushOne x w i credentials target false s) = s ∧
    ∀ product dictionary values s',
      module3Read x w i credentials target s = .ok (product, dictionary, values) s' →
      ∃ preview update,
        (∀ result s'', module3PushOne x w i credentials target true s = .ok result s'' →
          result.preview = some preview) ∧
        (finalState (module3PushOne x w i credentials target true s)).writes =
          s.writes ++ [.productUpdateCopy credentials update] ∧
        ∀ item, importItem update = .ok item →
          (PreviewHonoured (fun id => values.lookup id) product preview item ↔
            CopyPushFaithful x product target.proposal dictionary fun id => values.lookup id) := by
  refine ⟨finalState_module3PushOne_dryRun, fun product dictionary values s' h => ?_⟩
  have hread : finalState (module3Read x w i credentials target s) = s := finalState_module3Read
  rw [h] at hread
  obtain rfl : s' = s := hread
  refine ⟨_, _, fun result s'' hresult => ?_, ?_, fun item hitem => previewHonoured_iff hitem⟩
  · simp only [module3PushOne, bind_eq_ok, h, if_true, ofExcept_eq_ok, pure_eq_ok] at hresult
    obtain ⟨_, _, hfound, _, _, -, _, _, -, rfl, -⟩ := hresult
    cases hfound
    rfl
  · exact writes_module3PushOne_of_read h

/-- A blank title: the preview shows it, and the import leaves the title as it is. -/
theorem module3_push_keeps_title :
    ¬ ∀ (x : NodeCrates) (product : OzonProductDetail) (proposal : Module3Fields)
        (dictionary : List OzonCategoryAttribute)
        (valuesByAttribute : ℕ → Option (List OzonCategoryAttributeValue)) (item : ImportItem),
      importItem (module3Update x product proposal dictionary valuesByAttribute) = .ok item →
      PreviewHonoured valuesByAttribute product
        (module3Preview x product proposal dictionary valuesByAttribute) item := by
  intro h
  have hpreview := h leaseCrates (describedDetail none [])
    { title := " ", description := "Text", attributes := [], typeCategory := "" } [] (fun _ => none)
    { offerId := "SKU-42", name := none, attributes := [.description "Text"] } (by decide +kernel)
  have htitle : (none : Option String).getD "Example" = _ := hpreview.title
  rw [title_module3Preview] at htitle
  revert htitle
  decide +kernel

end OzonSuite
