/-
# The attributes of an import

An import of the copy names each attribute by its id: those that the proposal is matched to, one
after the other, and the description, which is an attribute as well.  Matching looks at one
proposed attribute at a time, and the client appends the description without looking at the rest.
-/
import OzonSuite.Node.CopyPush

namespace OzonSuite

open Lib

section Distinct

variable (x : NodeCrates) (valuesByAttribute : ℕ → Option (List OzonCategoryAttributeValue))
  (dictionary : List OzonCategoryAttribute)

/-- A proposed attribute is written: its name finds the entry, and one of its values survives, a
free text if it is not blank, and a value of a dictionary if it is found there. -/
structure WrittenAs (attr : Module3Attribute) (definition : OzonCategoryAttribute) : Prop where
  named : trim attr.name ≠ ""
  found : module3Definition x dictionary attr.name = some definition
  value : ∃ rawValue ∈ attr.values, trim rawValue ≠ "" ∧
    (definition.isDictionary = true → ∃ entries, valuesByAttribute definition.id = some entries ∧
      ∃ entry ∈ entries, module3Normalize x entry.value = module3Normalize x rawValue)

/-- No attribute is mentioned twice: the attributes that are written have different names, and
with a description none of them is the annotation attribute. -/
structure MentionedOnce (proposal : Module3Fields) : Prop where
  names : proposal.attributes.Pairwise fun a b =>
    (∃ definition, WrittenAs x valuesByAttribute dictionary a definition) →
    (∃ definition, WrittenAs x valuesByAttribute dictionary b definition) →
    module3Normalize x a.name ≠ module3Normalize x b.name
  annotation : trim proposal.description ≠ "" → ∀ attr ∈ proposal.attributes, ∀ definition,
    WrittenAs x valuesByAttribute dictionary attr definition →
    definition.id ≠ ozonDescriptionAttributeId

variable {x valuesByAttribute dictionary}

lemma module3Definition_trim (name : String) :
    module3Definition x dictionary (trim name) = module3Definition x dictionary name := by
  simp only [module3Definition, module3Normalize_trim]

/-- The entry that a name finds is one of the dictionary, with that name. -/
lemma module3Definition_eq_some {name : String} {definition : OzonCategoryAttribute}
    (h : module3Definition x dictionary name = some definition) :
    definition ∈ dictionary ∧
      module3Normalize x definition.name = module3Normalize x name := by
  refine ⟨List.mem_of_find?_eq_some h, ?_⟩
  simpa using List.find?_some h

/-- A value is resolved exactly if it survives. -/
lemma resolveValue_isSome {definition : OzonCategoryAttribute} {rawValue : String} :
    (∃ v, resolveValue x valuesByAttribute definition rawValue = some v) ↔
      trim rawValue ≠ "" ∧ (definition.isDictionary = true →
        ∃ entries, valuesByAttribute definition.id = some entries ∧
          ∃ entry ∈ entries, module3Normalize x entry.value = module3Normalize x rawValue) := by
  unfold resolveValue
  by_cases hempty : trim rawValue = ""
  · simp [hempty]
  · rw [if_neg hempty]
    by_cases hdictionary : definition.isDictionary = true
    · simp only [hdictionary, if_true, module3Normalize_trim, Option.map_eq_some_iff,
        Option.bind_eq_some_iff]
      constructor
      · rintro ⟨v, entry, ⟨entries, hentries, hfind⟩, -⟩
        refine ⟨hempty, fun _ => ⟨entries, hentries, entry, List.mem_of_find?_eq_some hfind, ?_⟩⟩
        simpa using List.find?_some hfind
      · rintro ⟨-, h⟩
        obtain ⟨entries, hentries, entry, hentry, hsame⟩ := h trivial
        cases hfind : entries.find? fun entry =>
            module3Normalize x entry.value = module3Normalize x rawValue with
        | none =>
          exact absurd (decide_eq_true hsame) (List.find?_eq_none.mp hfind entry hentry)
        | some found => exact ⟨_, found, ⟨entries, hentries, hfind⟩, rfl⟩
    · simp [hdictionary, hempty]

/-- What a proposed attribute is resolved to has the id of the entry that it is written as. -/
lemma resolveAttribute_id {attr : Module3Attribute} {r : OzonResolvedAttribute}
    (h : resolveAttribute x valuesByAttribute dictionary attr = some r) :
    ∃ definition, WrittenAs x valuesByAttribute dictionary attr definition ∧
      r.attributeId = definition.id := by
  unfold resolveAttribute at h
  split at h
  · cases h
  · next hname =>
    obtain ⟨definition, hfound, h⟩ := Option.bind_eq_some_iff.mp h
    simp only at h
    split at h
    · cases h
    · next hvalues =>
      obtain rfl := Option.some.inj h
      obtain ⟨v, hv⟩ := List.exists_mem_of_ne_nil _ hvalues
      obtain ⟨rawValue, hraw, hresolve⟩ := List.mem_filterMap.mp hv
      rw [module3Definition_trim] at hfound
      exact ⟨definition, ⟨hname, hfound, rawValue, hraw, resolveValue_isSome.mp ⟨v, hresolve⟩⟩,
        rfl⟩

lemma WrittenAs.resolved {attr : Module3Attribute} {definition : OzonCategoryAttribute}
    (h : WrittenAs x valuesByAttribute dictionary attr definition) :
    ∃ r, resolveAttribute x valuesByAttribute dictionary attr = some r ∧
      r.attributeId = definition.id := by
  obtain ⟨rawValue, hraw, hsurvives⟩ := h.value
  obtain ⟨v, hv⟩ := resolveValue_isSome.mpr hsurvives
  have hmem : v ∈ attr.values.filterMap (resolveValue x valuesByAttribute definition) :=
    List.mem_filterMap.mpr ⟨rawValue, hraw, hv⟩
  refine ⟨⟨definition.id, attr.values.filterMap (resolveValue x valuesByAttribute definition)⟩,
    ?_, rfl⟩
  rw [resolveAttribute, if_neg h.named, module3Definition_trim, h.found, Option.bind_some]
  exact if_neg (List.ne_nil_of_mem hmem)

/-- In a dictionary with distinct ids two attributes are written under one id exactly if they have
the same name. -/
lemma WrittenAs.id_eq_iff (hdistinct : (dictionary.map (·.id)).Nodup) {a b : Module3Attribute}
    {definition definition' : OzonCategoryAttribute}
    (ha : WrittenAs x valuesByAttribute dictionary a definition)
    (hb : WrittenAs x valuesByAttribute dictionary b definition') :
    definition.id = definition'.id ↔ module3Normalize x a.name = module3Normalize x b.name := by
  obtain ⟨hmem, hname⟩ := module3Definition_eq_some ha.found
  obtain ⟨hmem', hname'⟩ := module3Definition_eq_some hb.found
  constructor
  · intro hid
    obtain rfl := List.inj_on_of_nodup_map hdistinct hmem hmem' hid
    exact hname.symm.trans hname'
  · intro hsame
    have hfound :
        module3Definition x dictionary a.name = module3Definition x dictionary b.name := by
      simp only [module3Definition, hsame]
    rw [ha.found, hb.found] at hfound
    rw [Option.some.inj hfound]

/-- The matched attributes have different ids exactly if they have different names. -/
lemma nodup_resolved_iff (hdistinct : (dictionary.map (·.id)).Nodup)
    (proposal : List Module3Attribute) :
    ((proposal.filterMap (resolveAttribute x valuesByAttribute dictionary)).map
        (·.attributeId)).Nodup ↔
      proposal.Pairwise fun a b =>
        (∃ definition, WrittenAs x valuesByAttribute dictionary a definition) →
        (∃ definition, WrittenAs x valuesByAttribute dictionary b definition) →
        module3Normalize x a.name ≠ module3Normalize x b.name := by
  rw [List.Nodup, List.pairwise_map, List.pairwise_filterMap]
  refine List.Pairwise.iff fun a b => ?_
  constructor
  · rintro h ⟨definition, ha⟩ ⟨definition', hb⟩ hsame
    obtain ⟨r, hr, hid⟩ := ha.resolved
    obtain ⟨r', hr', hid'⟩ := hb.resolved
    refine h r hr r' hr' ?_
    rw [hid, hid']
    exact (ha.id_eq_iff hdistinct hb).mpr hsame
  · intro h r hr r' hr' hsame
    obtain ⟨definition, ha, hid⟩ := resolveAttribute_id hr
    obtain ⟨definition', hb, hid'⟩ := resolveAttribute_id hr'
    refine h ⟨definition, ha⟩ ⟨definition', hb⟩ ((ha.id_eq_iff hdistinct hb).mp ?_)
    rw [← hid, ← hid', hsame]

/-- No matched attribute is the annotation attribute. -/
lemma annotation_resolved_iff (proposal : List Module3Attribute) :
    ozonDescriptionAttributeId ∉
        (proposal.filterMap (resolveAttribute x valuesByAttribute dictionary)).map
          (·.attributeId) ↔
      ∀ attr ∈ proposal, ∀ definition, WrittenAs x valuesByAttribute dictionary attr definition →
        definition.id ≠ ozonDescriptionAttributeId := by
  constructor
  · intro h attr hattr definition hwritten hid
    obtain ⟨r, hr, hrid⟩ := hwritten.resolved
    exact h (List.mem_map.mpr ⟨r, List.mem_filterMap.mpr ⟨attr, hattr, hr⟩, hrid.trans hid⟩)
  · intro h hmem
    obtain ⟨r, hr, hid⟩ := List.mem_map.mp hmem
    obtain ⟨attr, hattr, hresolve⟩ := List.mem_filterMap.mp hr
    obtain ⟨definition, hwritten, hrid⟩ := resolveAttribute_id hresolve
    exact h attr hattr definition hwritten (hrid.symm.trans hid)

/-- The ids of an import, in their order. -/
lemma ids_importItem {product : OzonProductDetail} {proposal : Module3Fields} {item : ImportItem}
    (h : importItem (module3Update x product proposal dictionary valuesByAttribute) = .ok item) :
    item.attributes.map (·.id) =
      (proposal.attributes.filterMap (resolveAttribute x valuesByAttribute dictionary)).map
          (·.attributeId) ++
        (if trim proposal.description = "" then [] else [ozonDescriptionAttributeId]) := by
  obtain ⟨-, -, hattributes⟩ := importItem_module3Update h
  rw [hattributes, List.map_append, List.map_map, resolved_matchAttributes]
  simp only [afterDescription_eq_empty]
  split <;> rfl

lemma nodup_importItem_iff {product : OzonProductDetail} {proposal : Module3Fields}
    {item : ImportItem} (hdistinct : (dictionary.map (·.id)).Nodup)
    (h : importItem (module3Update x product proposal dictionary valuesByAttribute) = .ok item) :
    (item.attributes.map (·.id)).Nodup ↔
      MentionedOnce x valuesByAttribute dictionary proposal := by
  have hnames : ((proposal.attributes.filterMap (resolveAttribute x valuesByAttribute
      dictionary)).map (·.attributeId)).Nodup ↔ _ :=
    nodup_resolved_iff hdistinct proposal.attributes
  have hnote : ozonDescriptionAttributeId ∉ (proposal.attributes.filterMap (resolveAttribute x
      valuesByAttribute dictionary)).map (·.attributeId) ↔ _ :=
    annotation_resolved_iff proposal.attributes
  rw [ids_importItem h]
  by_cases hblank : trim proposal.description = ""
  · rw [if_pos hblank, List.append_nil, hnames]
    constructor
    · intro h
      exact ⟨h, fun hne => absurd hblank hne⟩
    · intro h
      exact h.names
  · rw [if_neg hblank, ← List.concat_eq_append, List.nodup_concat, hnames, hnote]
    constructor
    · rintro ⟨hnote, hnames⟩
      exact ⟨hnames, fun _ => hnote⟩
    · intro h
      exact ⟨h.annotation hblank, h.names⟩

end Distinct

/-- **Distinct attributes.**  For every proposal, table of values and dictionary with distinct ids,
the attributes of the import have distinct ids exactly if the proposal mentions none of them
twice.  And what a confirmed push writes is such an import, for the dictionary and the values that
it has read. -/
theorem module3_push_attributes_distinct (x : NodeCrates) :
    (∀ product proposal dictionary valuesByAttribute item,
      (dictionary.map (·.id)).Nodup →
      importItem (module3Update x product proposal dictionary valuesByAttribute) = .ok item →
      ((item.attributes.map (·.id)).Nodup ↔
        MentionedOnce x valuesByAttribute dictionary proposal)) ∧
    ∀ w i credentials target s,
      ∀ call ∈ (finalState (module3PushOne x w i credentials target true s)).writes,
        call ∈ s.writes ∨ ∃ product dictionary values,
          Module3Found w i credentials target product dictionary values ∧
          call = .productUpdateCopy credentials (module3Update x product target.proposal
            dictionary fun id => values.lookup id) := by
  refine ⟨fun product proposal dictionary valuesByAttribute item hdistinct hitem =>
    nodup_importItem_iff hdistinct hitem, ?_⟩
  intro w i credentials target s call hcall
  have hwrites : (finalState (module3PushOne x w i credentials target true s)).writes = _ ∨ _ :=
    module3PushOne_writes
  rcases hwrites with h | ⟨product, dictionary, values, -, hfound, h⟩
  · exact .inl (h ▸ hcall)
  · rw [h, List.mem_append, List.mem_singleton] at hcall
    exact hcall.imp_right fun hcall => ⟨product, dictionary, values, hfound, hcall⟩

/-- A category with a free text for the colour. -/
def colorDictionary : List OzonCategoryAttribute := [⟨85, "Color", 0⟩]

/-- One attribute and a description. -/
theorem module3_push_attributes_distinct_color :
    ([⟨85, [⟨none, some "red"⟩]⟩, .description "Text"].map ImportAttribute.id).Nodup := by
  have hitem : importItem (module3Update leaseCrates (describedDetail none [])
      { title := " ", description := "Text", attributes := [⟨"Color", ["red"]⟩],
        typeCategory := "" } colorDictionary fun _ => none) =
      .ok { offerId := "SKU-42", name := none,
            attributes := [⟨85, [⟨none, some "red"⟩]⟩, .description "Text"] } := by
    decide +kernel
  refine ((module3_push_attributes_distinct leaseCrates).1 _ _ _ _ _ (by decide) hitem).mpr
    ⟨List.pairwise_singleton _ _, ?_⟩
  intro _ attr hattr definition hwritten hid
  have hmem := (module3Definition_eq_some hwritten.found).1
  rw [List.mem_singleton.mp hmem] at hid
  revert hid
  decide

/-- A name that is proposed twice, in different letters, is written twice. -/
theorem module3_push_repeats_attribute :
    ¬ ∀ (x : NodeCrates) (w : NodeWorld) (i : ℕ) (credentials : OzonCredentials)
        (target : Module3PushTarget) (s : LocalState),
      (∀ i credentials categoryId typeId dictionary,
        w.categoryAttributes i credentials categoryId typeId = .ok dictionary →
        (dictionary.map (·.id)).Nodup) →
      ∀ update, OzonWrite.productUpdateCopy credentials update ∈
          (finalState (module3PushOne x w i credentials target true s)).writes →
        OzonWrite.productUpdateCopy credentials update ∉ s.writes →
        ∀ item, importItem update = .ok item → (item.attributes.map (·.id)).Nodup := by
  intro h
  have hnodup := h leaseCrates
    { laptopWorld with
      productGet := fun _ _ _ => .ok (describedDetail none [])
      categoryAttributes := fun _ _ _ _ => .ok colorDictionary } 0 ⟨"client", "key"⟩
    { productId := "42"
      proposal :=
        { title := " ", description := " ",
          attributes := [⟨"Color", ["red"]⟩, ⟨"color", ["blue"]⟩], typeCategory := "" } }
    laptopNode
    (fun _ _ _ _ dictionary hdictionary => by
      obtain rfl := Except.ok.inj hdictionary
      decide)
    { offerId := "SKU-42"
      name := none
      description := none
      attributes := [⟨85, [.freeText "red"]⟩, ⟨85, [.freeText "blue"]⟩] }
    (by decide +kernel) (by decide)
    { offerId := "SKU-42"
      name := none
      attributes := [⟨85, [⟨none, some "red"⟩]⟩, ⟨85, [⟨none, some "blue"⟩]⟩] } (by decide +kernel)
  revert hnodup
  decide

end OzonSuite
