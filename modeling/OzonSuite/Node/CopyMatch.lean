/-
# Matching a proposal against a category

A proposal for the copy of a product has attributes by name, with values as texts.  Before anything
is written, names and values are looked up in the dictionary of the product's category; what is not
found there is dropped and reported.
-/
import OzonSuite.Node.State

namespace OzonSuite

open Lib

/-! ## Types -/

/-- An attribute that a model proposes. -/
structure Module3Attribute where
  name : String
  values : List String
deriving DecidableEq

/-- What a model proposes for a product. -/
structure Module3Fields where
  title : String
  description : String
  attributes : List Module3Attribute
  typeCategory : String
deriving DecidableEq

/-- What of a proposal is not written, and why. -/
structure Module3DroppedItem where
  name : String
  /-- The value that is dropped, if it is not the whole attribute. -/
  value : Option String
  reason : String
deriving DecidableEq

/-- An attribute that is written, as the preview shows it. -/
structure Module3MatchedAttribute where
  attributeId : ℕ
  name : String
  values : List String
deriving DecidableEq

/-- What becomes of the attributes of a proposal. -/
structure Module3MatchOutcome where
  resolved : List OzonResolvedAttribute
  matched : List Module3MatchedAttribute
  dropped : List Module3DroppedItem
deriving DecidableEq

/-- The values of one attribute on the way through them. -/
structure Module3Values where
  resolved : List OzonResolvedValue
  matched : List String
  dropped : List Module3DroppedItem
deriving DecidableEq

/-! ## Matching -/

section Matching

variable (x : NodeCrates)

/-- Names and values are compared without regard to case and to the amount of white space. -/
def module3Normalize (value : String) : String := x.toLowercase (collapseText isWhitespace value)

/-- The entry of the dictionary that a name finds. -/
def module3Definition (dictionary : List OzonCategoryAttribute) (name : String) :
    Option OzonCategoryAttribute :=
  dictionary.find? fun candidate => module3Normalize x candidate.name = module3Normalize x name

variable (dictionary : List OzonCategoryAttribute)
  (valuesByAttribute : ℕ → Option (List OzonCategoryAttributeValue))

/-- One value of an attribute. -/
def module3MatchValue (rawName : String) (definition : OzonCategoryAttribute)
    (acc : Module3Values) (rawValue : String) : Module3Values :=
  let value := trim rawValue
  if value = "" then acc
  else if definition.isDictionary then
    let candidate := (valuesByAttribute definition.id).bind fun values =>
      values.find? fun entry => module3Normalize x entry.value = module3Normalize x value
    match candidate with
    | some entry =>
      { acc with
        resolved := acc.resolved ++ [.dictionary entry.valueId]
        matched := acc.matched ++ [entry.value] }
    | none =>
      { acc with
        dropped := acc.dropped ++ [⟨rawName, some value, "value not in attribute dictionary"⟩] }
  else
    { acc with
      resolved := acc.resolved ++ [.freeText value]
      matched := acc.matched ++ [value] }

/-- One attribute of the proposal. -/
def module3MatchAttribute (out : Module3MatchOutcome) (attr : Module3Attribute) :
    Module3MatchOutcome :=
  let rawName := trim attr.name
  if rawName = "" then
    { out with dropped := out.dropped ++ [⟨"", none, "empty attribute name"⟩] }
  else
    match module3Definition x dictionary rawName with
    | none =>
      { out with
        dropped := out.dropped ++
          [⟨rawName, none, "attribute name not in category dictionary"⟩] }
    | some definition =>
      let values := attr.values.foldl
        (module3MatchValue x valuesByAttribute rawName definition) ⟨[], [], out.dropped⟩
      if values.resolved = [] then
        -- the values of a dictionary are reported one by one
        if definition.isDictionary then { out with dropped := values.dropped }
        else
          { out with
            dropped := values.dropped ++ [⟨rawName, none, "no non-empty values to write"⟩] }
      else
        { resolved := out.resolved ++ [⟨definition.id, values.resolved⟩]
          matched := out.matched ++ [⟨definition.id, definition.name, values.matched⟩]
          dropped := values.dropped }

/-- Match the attributes of a proposal with those of a category. -/
def module3MatchAttributes (proposal : List Module3Attribute) : Module3MatchOutcome :=
  proposal.foldl (module3MatchAttribute x dictionary valuesByAttribute) ⟨[], [], []⟩

/-- The dictionaries of values that the proposal needs, each of them once. -/
def module3ReferencedDictionaryIds (proposal : List Module3Attribute) : List ℕ :=
  proposal.foldl
    (fun ids attr =>
      if module3Normalize x (trim attr.name) = "" then ids
      else
        match module3Definition x dictionary (trim attr.name) with
        | some definition =>
          if definition.isDictionary && !ids.contains definition.id then ids ++ [definition.id]
          else ids
        | none => ids)
    []

end Matching

/-! ## What is matched -/

section Match

variable (x : NodeCrates) (valuesByAttribute : ℕ → Option (List OzonCategoryAttributeValue))

/-- How a value that is written, and its display text, come from the values proposed for an
attribute: a dictionary's value by an entry that has the text of a proposed one, and a free text
as it is proposed. -/
inductive ValueMatch (definition : OzonCategoryAttribute) (proposed : List String) :
    OzonResolvedValue → String → Prop
  | dictionary {entries : List OzonCategoryAttributeValue} {entry : OzonCategoryAttributeValue}
      {rawValue : String} (hdictionary : definition.isDictionary = true)
      (hentries : valuesByAttribute definition.id = some entries) (hentry : entry ∈ entries)
      (hraw : rawValue ∈ proposed)
      (hmatch : module3Normalize x entry.value = module3Normalize x rawValue) :
      ValueMatch definition proposed (.dictionary entry.valueId) entry.value
  | freeText {rawValue : String} (hdictionary : definition.isDictionary = false)
      (hraw : rawValue ∈ proposed) (hne : trim rawValue ≠ "") :
      ValueMatch definition proposed (.freeText (trim rawValue)) (trim rawValue)

/-- How an attribute that is written, and its row of the preview, come from the proposal: by an
entry of the dictionary with the name of a proposed attribute, and value by value. -/
structure AttributeMatch (dictionary : List OzonCategoryAttribute)
    (proposal : List Module3Attribute) (r : OzonResolvedAttribute)
    (m : Module3MatchedAttribute) : Prop where
  sameId : r.attributeId = m.attributeId
  nonempty : r.values ≠ []
  matched : ∃ attr ∈ proposal, ∃ definition ∈ dictionary,
    module3Normalize x definition.name = module3Normalize x attr.name ∧
      r.attributeId = definition.id ∧ m.name = definition.name ∧
      List.Forall₂ (ValueMatch x valuesByAttribute definition attr.values) r.values m.values

variable {x valuesByAttribute}

lemma module3Normalize_trim (s : String) : module3Normalize x (trim s) = module3Normalize x s := by
  rw [module3Normalize, trim, collapseText_trimText, module3Normalize]

/-- One more value keeps the two lists in step. -/
lemma matchValue_inStep {definition : OzonCategoryAttribute} {proposed : List String}
    {rawName rawValue : String} {acc : Module3Values} (hraw : rawValue ∈ proposed)
    (h : List.Forall₂ (ValueMatch x valuesByAttribute definition proposed) acc.resolved
      acc.matched) :
    List.Forall₂ (ValueMatch x valuesByAttribute definition proposed)
      (module3MatchValue x valuesByAttribute rawName definition acc rawValue).resolved
      (module3MatchValue x valuesByAttribute rawName definition acc rawValue).matched := by
  unfold module3MatchValue
  by_cases hempty : trim rawValue = ""
  · simpa [hempty] using h
  · simp only [hempty, if_false]
    by_cases hdictionary : definition.isDictionary = true
    · simp only [hdictionary, if_true]
      split
      · next entry hcandidate =>
        obtain ⟨entries, hentries, hfind⟩ := Option.bind_eq_some_iff.mp hcandidate
        have hmatch : module3Normalize x entry.value = module3Normalize x (trim rawValue) := by
          simpa using List.find?_some hfind
        rw [module3Normalize_trim] at hmatch
        exact List.rel_append h (.cons (.dictionary hdictionary hentries
          (List.mem_of_find?_eq_some hfind) hraw hmatch) .nil)
      · exact h
    · simp only [hdictionary]
      exact List.rel_append h
        (.cons (.freeText (Bool.eq_false_iff.mpr hdictionary) hraw hempty) .nil)

lemma matchValues_inStep (definition : OzonCategoryAttribute) (rawName : String)
    (dropped : List Module3DroppedItem) (values : List String) :
    List.Forall₂ (ValueMatch x valuesByAttribute definition values)
      (values.foldl (module3MatchValue x valuesByAttribute rawName definition)
        ⟨[], [], dropped⟩).resolved
      (values.foldl (module3MatchValue x valuesByAttribute rawName definition)
        ⟨[], [], dropped⟩).matched := by
  refine List.foldlRecOn values (motive := fun acc : Module3Values =>
    List.Forall₂ (ValueMatch x valuesByAttribute definition values) acc.resolved acc.matched)
    _ .nil fun acc h rawValue hraw => ?_
  exact matchValue_inStep hraw h

/-- One more attribute keeps the preview in step with what is written. -/
lemma matchAttribute_inStep {dictionary : List OzonCategoryAttribute}
    {proposal : List Module3Attribute} {attr : Module3Attribute} {out : Module3MatchOutcome}
    (hattr : attr ∈ proposal)
    (h : List.Forall₂ (AttributeMatch x valuesByAttribute dictionary proposal) out.resolved
      out.matched) :
    List.Forall₂ (AttributeMatch x valuesByAttribute dictionary proposal)
      (module3MatchAttribute x dictionary valuesByAttribute out attr).resolved
      (module3MatchAttribute x dictionary valuesByAttribute out attr).matched := by
  unfold module3MatchAttribute
  by_cases hname : trim attr.name = ""
  · simpa only [hname, if_true] using h
  · simp only [hname, if_false]
    cases hfind : module3Definition x dictionary (trim attr.name) with
    | none => exact h
    | some definition =>
      simp only
      have hvalues : List.Forall₂ (ValueMatch x valuesByAttribute definition attr.values) _ _ :=
        matchValues_inStep definition (trim attr.name) out.dropped attr.values
      generalize attr.values.foldl (module3MatchValue x valuesByAttribute (trim attr.name)
        definition) ⟨[], [], out.dropped⟩ = values at hvalues ⊢
      by_cases hempty : values.resolved = []
      · rw [if_pos hempty]
        split <;> exact h
      · rw [if_neg hempty]
        have hsame : module3Normalize x definition.name = module3Normalize x attr.name := by
          rw [← module3Normalize_trim attr.name]
          simpa using List.find?_some hfind
        exact List.rel_append h (.cons
          ⟨rfl, hempty, attr, hattr, definition, List.mem_of_find?_eq_some hfind, hsame, rfl, rfl,
            hvalues⟩ .nil)

/-- **Nothing is guessed.**  What is resolved and what is previewed are in step, and every
attribute and every value of them comes from the dictionary by name. -/
theorem matchAttributes_inStep (dictionary : List OzonCategoryAttribute)
    (proposal : List Module3Attribute) :
    List.Forall₂ (AttributeMatch x valuesByAttribute dictionary proposal)
      (module3MatchAttributes x dictionary valuesByAttribute proposal).resolved
      (module3MatchAttributes x dictionary valuesByAttribute proposal).matched := by
  refine List.foldlRecOn proposal (motive := fun out : Module3MatchOutcome =>
    List.Forall₂ (AttributeMatch x valuesByAttribute dictionary proposal) out.resolved out.matched)
    _ .nil fun out h attr hattr => ?_
  exact matchAttribute_inStep hattr h

/-! ### What each attribute is resolved to -/

variable (x valuesByAttribute)

/-- What a proposed value is resolved to, if it is. -/
def resolveValue (definition : OzonCategoryAttribute) (rawValue : String) :
    Option OzonResolvedValue :=
  if trim rawValue = "" then none
  else if definition.isDictionary then
    ((valuesByAttribute definition.id).bind fun values => values.find? fun entry =>
      module3Normalize x entry.value = module3Normalize x (trim rawValue)).map
      fun entry => .dictionary entry.valueId
  else some (.freeText (trim rawValue))

/-- What a proposed attribute is resolved to, if it is. -/
def resolveAttribute (dictionary : List OzonCategoryAttribute) (attr : Module3Attribute) :
    Option OzonResolvedAttribute :=
  if trim attr.name = "" then none
  else
    (module3Definition x dictionary (trim attr.name)).bind fun definition =>
      let values := attr.values.filterMap (resolveValue x valuesByAttribute definition)
      if values = [] then none else some ⟨definition.id, values⟩

variable {x valuesByAttribute}

lemma resolved_matchValue (rawName : String) (definition : OzonCategoryAttribute)
    (acc : Module3Values) (rawValue : String) :
    (module3MatchValue x valuesByAttribute rawName definition acc rawValue).resolved =
      acc.resolved ++ (resolveValue x valuesByAttribute definition rawValue).toList := by
  unfold module3MatchValue resolveValue
  by_cases hempty : trim rawValue = ""
  · simp [hempty]
  · simp only [hempty, if_false]
    split
    · split <;> rename_i h <;> rw [h] <;> simp
    · rfl

lemma resolved_matchValues (rawName : String) (definition : OzonCategoryAttribute)
    (values : List String) (acc : Module3Values) :
    (values.foldl (module3MatchValue x valuesByAttribute rawName definition) acc).resolved =
      acc.resolved ++ values.filterMap (resolveValue x valuesByAttribute definition) := by
  induction values generalizing acc with
  | nil => simp
  | cons rawValue values ih =>
    rw [List.foldl_cons, ih, resolved_matchValue, List.append_assoc, List.filterMap_cons]
    cases resolveValue x valuesByAttribute definition rawValue <;> rfl

lemma resolved_matchAttribute (dictionary : List OzonCategoryAttribute)
    (out : Module3MatchOutcome) (attr : Module3Attribute) :
    (module3MatchAttribute x dictionary valuesByAttribute out attr).resolved =
      out.resolved ++ (resolveAttribute x valuesByAttribute dictionary attr).toList := by
  unfold module3MatchAttribute resolveAttribute
  by_cases hname : trim attr.name = ""
  · simp [hname]
  · simp only [hname, if_false]
    cases module3Definition x dictionary (trim attr.name) with
    | none => simp
    | some definition =>
      simp only [Option.bind_some]
      rw [resolved_matchValues, List.nil_append]
      split
      · split <;> simp
      · rfl

/-- What is resolved, attribute by attribute. -/
lemma resolved_matchAttributes (dictionary : List OzonCategoryAttribute)
    (proposal : List Module3Attribute) :
    (module3MatchAttributes x dictionary valuesByAttribute proposal).resolved =
      proposal.filterMap (resolveAttribute x valuesByAttribute dictionary) := by
  have hfold : ∀ out : Module3MatchOutcome,
      (proposal.foldl (module3MatchAttribute x dictionary valuesByAttribute) out).resolved =
        out.resolved ++ proposal.filterMap (resolveAttribute x valuesByAttribute dictionary) := by
    induction proposal with
    | nil => simp
    | cons attr proposal ih =>
      intro out
      rw [List.foldl_cons, ih, resolved_matchAttribute, List.append_assoc, List.filterMap_cons]
      cases resolveAttribute x valuesByAttribute dictionary attr <;> rfl
  exact hfold ⟨[], [], []⟩

end Match

end OzonSuite
