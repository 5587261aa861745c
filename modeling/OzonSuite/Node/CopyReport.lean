/-
# What the matching of a proposal reports

A person who reviews a push sees what will be written and what has been dropped.  Both lists can be
dealt out to the attributes of the proposal so that each of them, and each of its values, is
accounted for; but of an attribute of a dictionary that has no value at all, nothing is reported.
-/
import OzonSuite.Node.CopyMatch
import OzonSuite.Node.LeaseSafety

namespace OzonSuite

open Lib

/-! ## What is wanted -/

section Report

variable (x : NodeCrates)

/-- What is reported of an attribute accounts for it: there is a row about it, no row is about
another one, and unless it is dropped as a whole, its values that are not blank are those of the
rows, up to their spelling. -/
structure AttributeAccounted (attr : Module3Attribute) (matched : List Module3MatchedAttribute)
    (dropped : List Module3DroppedItem) : Prop where
  reported : matched ≠ [] ∨ dropped ≠ []
  matched_named : ∀ m ∈ matched, module3Normalize x m.name = module3Normalize x attr.name
  dropped_named : ∀ d ∈ dropped, d.name = trim attr.name
  values : (∃ d ∈ dropped, d.value = none) ∨
    ((attr.values.filter fun value => trim value ≠ "").map (module3Normalize x)).Perm
      ((matched.flatMap (·.values)).map (module3Normalize x) ++
        (dropped.filterMap (·.value)).map (module3Normalize x))

/-- The rows of a report can be dealt out to the attributes of a proposal, in order, so that each
of these is accounted for. -/
def ReportAccounts (proposal : List Module3Attribute) (out : Module3MatchOutcome) : Prop :=
  ∃ rows : Module3Attribute → List Module3MatchedAttribute × List Module3DroppedItem,
    out.matched = proposal.flatMap (fun attr => (rows attr).1) ∧
    out.dropped = proposal.flatMap (fun attr => (rows attr).2) ∧
    ∀ attr ∈ proposal, AttributeAccounted x attr (rows attr).1 (rows attr).2

/-- An attribute that the dictionary lists with values to choose from is proposed with a value. -/
def HasValues (dictionary : List OzonCategoryAttribute) (attr : Module3Attribute) : Prop :=
  trim attr.name ≠ "" →
    ∀ definition, module3Definition x dictionary (trim attr.name) = some definition →
      definition.isDictionary = true → ∃ value ∈ attr.values, trim value ≠ ""

end Report

/-! ## What is reported, attribute by attribute -/

section Rows

variable (x : NodeCrates) (valuesByAttribute : ℕ → Option (List OzonCategoryAttributeValue))

/-- What is reported of one value. -/
def valueRows (rawName : String) (definition : OzonCategoryAttribute) (rawValue : String) :
    List String × List Module3DroppedItem :=
  let values := module3MatchValue x valuesByAttribute rawName definition ⟨[], [], []⟩ rawValue
  (values.matched, values.dropped)

/-- What is reported of one attribute. -/
def attributeRows (dictionary : List OzonCategoryAttribute) (attr : Module3Attribute) :
    List Module3MatchedAttribute × List Module3DroppedItem :=
  let out := module3MatchAttribute x dictionary valuesByAttribute ⟨[], [], []⟩ attr
  (out.matched, out.dropped)

variable {x valuesByAttribute} {dictionary : List OzonCategoryAttribute} {rawName : String}
  {definition : OzonCategoryAttribute} {attr : Module3Attribute}

variable (rawName) in
lemma rows_matchValue (acc : Module3Values) (rawValue : String) :
    (module3MatchValue x valuesByAttribute rawName definition acc rawValue).matched =
        acc.matched ++ (valueRows x valuesByAttribute rawName definition rawValue).1 ∧
      (module3MatchValue x valuesByAttribute rawName definition acc rawValue).dropped =
        acc.dropped ++ (valueRows x valuesByAttribute rawName definition rawValue).2 := by
  unfold valueRows module3MatchValue
  by_cases hempty : trim rawValue = ""
  · simp [hempty]
  · simp only [hempty, if_false]
    split
    · split <;> simp
    · simp

lemma rows_matchValues (values : List String) (acc : Module3Values) :
    (values.foldl (module3MatchValue x valuesByAttribute rawName definition) acc).matched =
        acc.matched ++
          values.flatMap (fun v => (valueRows x valuesByAttribute rawName definition v).1) ∧
      (values.foldl (module3MatchValue x valuesByAttribute rawName definition) acc).dropped =
        acc.dropped ++
          values.flatMap (fun v => (valueRows x valuesByAttribute rawName definition v).2) := by
  induction values generalizing acc with
  | nil => simp
  | cons v values ih =>
    obtain ⟨hmatched, hdropped⟩ :=
      ih (module3MatchValue x valuesByAttribute rawName definition acc v)
    obtain ⟨hmatched', hdropped'⟩ := rows_matchValue rawName acc v
    simp only [List.foldl_cons, List.flatMap_cons]
    rw [hmatched, hdropped, hmatched', hdropped', List.append_assoc, List.append_assoc]
    exact ⟨rfl, rfl⟩

lemma rows_matchAttribute (out : Module3MatchOutcome) (attr : Module3Attribute) :
    (module3MatchAttribute x dictionary valuesByAttribute out attr).matched =
        out.matched ++ (attributeRows x valuesByAttribute dictionary attr).1 ∧
      (module3MatchAttribute x dictionary valuesByAttribute out attr).dropped =
        out.dropped ++ (attributeRows x valuesByAttribute dictionary attr).2 := by
  unfold attributeRows module3MatchAttribute
  by_cases hname : trim attr.name = ""
  · simp [hname]
  · simp only [hname, if_false]
    cases module3Definition x dictionary (trim attr.name) with
    | none => simp
    | some definition =>
      simp only [resolved_matchValues, (rows_matchValues attr.values _).1,
        (rows_matchValues attr.values _).2, List.nil_append]
      split
      · split <;> simp
      · simp

variable (x valuesByAttribute)

/-- The rows of a report are those of the attributes, one after the other. -/
lemma rows_matchAttributes (dictionary : List OzonCategoryAttribute)
    (proposal : List Module3Attribute) :
    (module3MatchAttributes x dictionary valuesByAttribute proposal).matched =
        proposal.flatMap (fun attr => (attributeRows x valuesByAttribute dictionary attr).1) ∧
      (module3MatchAttributes x dictionary valuesByAttribute proposal).dropped =
        proposal.flatMap (fun attr => (attributeRows x valuesByAttribute dictionary attr).2) := by
  have hfold : ∀ out : Module3MatchOutcome,
      (proposal.foldl (module3MatchAttribute x dictionary valuesByAttribute) out).matched =
          out.matched ++
            proposal.flatMap (fun attr => (attributeRows x valuesByAttribute dictionary attr).1) ∧
        (proposal.foldl (module3MatchAttribute x dictionary valuesByAttribute) out).dropped =
          out.dropped ++ proposal.flatMap fun attr =>
            (attributeRows x valuesByAttribute dictionary attr).2 := by
    induction proposal with
    | nil => simp
    | cons attr proposal ih =>
      intro out
      obtain ⟨hmatched, hdropped⟩ :=
        ih (module3MatchAttribute x dictionary valuesByAttribute out attr)
      obtain ⟨hmatched', hdropped'⟩ := rows_matchAttribute out attr
      simp only [List.foldl_cons, List.flatMap_cons]
      rw [hmatched, hdropped, hmatched', hdropped', List.append_assoc, List.append_assoc]
      exact ⟨rfl, rfl⟩
  exact hfold ⟨[], [], []⟩

variable (rawName definition)

/-- A value that is not blank is written or dropped. -/
lemma valueRows_cases (rawValue : String) :
    (trim rawValue = "" ∧ valueRows x valuesByAttribute rawName definition rawValue = ([], [])) ∨
      (trim rawValue ≠ "" ∧ (resolveValue x valuesByAttribute definition rawValue).isSome ∧
        ∃ text, module3Normalize x text = module3Normalize x rawValue ∧
          valueRows x valuesByAttribute rawName definition rawValue = ([text], [])) ∨
      (trim rawValue ≠ "" ∧ resolveValue x valuesByAttribute definition rawValue = none ∧
        valueRows x valuesByAttribute rawName definition rawValue =
          ([], [⟨rawName, some (trim rawValue), "value not in attribute dictionary"⟩])) := by
  unfold valueRows module3MatchValue resolveValue
  by_cases hempty : trim rawValue = ""
  · exact .inl ⟨hempty, by simp [hempty]⟩
  · right
    simp only [hempty, if_false]
    by_cases hdictionary : definition.isDictionary = true
    · simp only [hdictionary, if_true]
      split
      · next entry hentry =>
        left
        obtain ⟨entries, -, hfind⟩ := Option.bind_eq_some_iff.mp hentry
        have hsame : module3Normalize x entry.value = module3Normalize x (trim rawValue) := by
          simpa using List.find?_some hfind
        refine ⟨hempty, by rw [hentry]; rfl, entry.value, ?_, rfl⟩
        rw [hsame, module3Normalize_trim]
      · next hnone => exact .inr ⟨hempty, by rw [hnone]; rfl, rfl⟩
    · simp only [hdictionary]
      exact .inl ⟨hempty, rfl, trim rawValue, module3Normalize_trim rawValue, rfl⟩

/-- The values of an attribute are those of its rows. -/
lemma values_perm (values : List String) :
    ((values.filter fun value => trim value ≠ "").map (module3Normalize x)).Perm
      ((values.flatMap fun v => (valueRows x valuesByAttribute rawName definition v).1).map
          (module3Normalize x) ++
        ((values.flatMap fun v =>
          (valueRows x valuesByAttribute rawName definition v).2).filterMap (·.value)).map
            (module3Normalize x)) := by
  induction values with
  | nil => simp
  | cons v values ih =>
    rcases valueRows_cases x valuesByAttribute rawName definition v with
      ⟨hblank, hrows⟩ | ⟨hne, -, text, hsame, hrows⟩ | ⟨hne, -, hrows⟩
    · simpa [hblank, hrows] using ih
    · simp only [List.filter_cons, hne, ne_eq, not_false_eq_true, decide_true, if_true,
        List.map_cons, List.flatMap_cons, hrows, List.cons_append, List.nil_append, ← hsame]
      exact ih.cons _
    · simp only [List.filter_cons, hne, ne_eq, not_false_eq_true, decide_true, if_true,
        List.map_cons, List.flatMap_cons, hrows, List.cons_append, List.nil_append,
        List.filterMap_cons, module3Normalize_trim]
      exact (ih.cons _).trans List.perm_middle.symm

variable {rawName definition}

/-- The rows of an attribute. -/
lemma attributeRows_cases (dictionary : List OzonCategoryAttribute) (attr : Module3Attribute) :
    (trim attr.name = "" ∧ attributeRows x valuesByAttribute dictionary attr =
      ([], [⟨"", none, "empty attribute name"⟩])) ∨
    (module3Definition x dictionary (trim attr.name) = none ∧
      attributeRows x valuesByAttribute dictionary attr =
        ([], [⟨trim attr.name, none, "attribute name not in category dictionary"⟩])) ∨
    ∃ definition, trim attr.name ≠ "" ∧
      module3Definition x dictionary (trim attr.name) = some definition ∧
      attributeRows x valuesByAttribute dictionary attr =
        let texts := attr.values.flatMap fun v =>
          (valueRows x valuesByAttribute (trim attr.name) definition v).1
        let items := attr.values.flatMap fun v =>
          (valueRows x valuesByAttribute (trim attr.name) definition v).2
        if attr.values.filterMap (resolveValue x valuesByAttribute definition) = [] then
          if definition.isDictionary then ([], items)
          else ([], items ++ [⟨trim attr.name, none, "no non-empty values to write"⟩])
        else ([⟨definition.id, definition.name, texts⟩], items) := by
  by_cases hname : trim attr.name = ""
  · exact .inl ⟨hname, by simp [attributeRows, module3MatchAttribute, hname]⟩
  · cases hfound : module3Definition x dictionary (trim attr.name) with
    | none =>
      exact .inr (.inl ⟨rfl, by simp only [attributeRows, module3MatchAttribute, hname, hfound,
        if_false, List.nil_append]⟩)
    | some definition =>
      refine .inr (.inr ⟨definition, hname, rfl, ?_⟩)
      simp only [attributeRows, module3MatchAttribute, hname, hfound, if_false,
        resolved_matchValues, (rows_matchValues attr.values _).1,
        (rows_matchValues attr.values _).2, List.nil_append]
      split_ifs <;> rfl

variable {x valuesByAttribute}

/-- The values of an attribute that are dropped are named. -/
lemma of_mem_items {values : List String} {d : Module3DroppedItem}
    (hd : d ∈ values.flatMap fun v => (valueRows x valuesByAttribute rawName definition v).2) :
    d.name = rawName ∧ d.value ≠ none := by
  obtain ⟨v, -, hd⟩ := List.mem_flatMap.mp hd
  rcases valueRows_cases x valuesByAttribute rawName definition v with
    ⟨-, hrows⟩ | ⟨-, -, text, -, hrows⟩ | ⟨-, -, hrows⟩
  · rw [hrows] at hd
    cases hd
  · rw [hrows] at hd
    cases hd
  · rw [hrows] at hd
    obtain rfl := List.mem_singleton.mp hd
    exact ⟨rfl, by simp⟩

/-- There is a value to write exactly if one is resolved. -/
lemma texts_eq_nil_iff {values : List String} :
    values.flatMap (fun v => (valueRows x valuesByAttribute rawName definition v).1) = [] ↔
      values.filterMap (resolveValue x valuesByAttribute definition) = [] := by
  rw [List.flatMap_eq_nil_iff, List.filterMap_eq_nil_iff]
  refine forall₂_congr fun v _ => ?_
  rcases valueRows_cases x valuesByAttribute rawName definition v with
    ⟨hblank, hrows⟩ | ⟨-, hsome, text, -, hrows⟩ | ⟨-, hnone, hrows⟩
  · simp [hrows, resolveValue, hblank]
  · rw [hrows]
    exact iff_of_false (by simp) (Option.ne_none_iff_isSome.mpr hsome)
  · rw [hrows]
    exact iff_of_true rfl hnone

/-- **One attribute.**  The rows of an attribute account for it, if it has values. -/
lemma attributeRows_accounted (h : HasValues x dictionary attr) :
    AttributeAccounted x attr (attributeRows x valuesByAttribute dictionary attr).1
      (attributeRows x valuesByAttribute dictionary attr).2 := by
  rcases attributeRows_cases x valuesByAttribute dictionary attr with
    ⟨hname, hrows⟩ | ⟨-, hrows⟩ | ⟨definition, hname, hfound, hrows⟩
  · rw [hrows]
    exact ⟨.inr (by simp), by simp, by simp [hname], .inl ⟨_, List.mem_singleton_self _, rfl⟩⟩
  · rw [hrows]
    exact ⟨.inr (by simp), by simp, by simp, .inl ⟨_, List.mem_singleton_self _, rfl⟩⟩
  · have hperm := values_perm x valuesByAttribute (trim attr.name) definition attr.values
    rw [hrows]
    by_cases hnil : attr.values.filterMap (resolveValue x valuesByAttribute definition) = []
    · rw [texts_eq_nil_iff.mpr hnil, List.map_nil, List.nil_append] at hperm
      by_cases hdictionary : definition.isDictionary = true
      · simp only [hnil, hdictionary, if_true]
        refine ⟨.inr ?_, by simp, fun d hd => (of_mem_items hd).1, .inr (by simpa using hperm)⟩
        -- the value that there is has not been resolved, so it is reported
        intro hnone
        obtain ⟨v, hv, hne⟩ := h hname definition hfound hdictionary
        rw [hnone, List.filterMap_nil, List.map_nil] at hperm
        have hempty := List.map_eq_nil_iff.mp hperm.eq_nil
        exact hne (by simpa using List.filter_eq_nil_iff.mp hempty v hv)
      · simp only [hnil, hdictionary, if_true]
        refine ⟨.inr (by simp), by simp, fun d hd => ?_,
          .inl ⟨_, List.mem_append_right _ (List.mem_singleton_self _), rfl⟩⟩
        rcases List.mem_append.mp hd with hd | hd
        · exact (of_mem_items hd).1
        · rw [List.mem_singleton.mp hd]
    · simp only [hnil, if_false]
      refine ⟨.inl (by simp), fun m hm => ?_, fun d hd => (of_mem_items hd).1,
        .inr (by simpa using hperm)⟩
      have hsame : module3Normalize x definition.name = module3Normalize x (trim attr.name) := by
        simpa using List.find?_some hfound
      rw [List.mem_singleton.mp hm, ← module3Normalize_trim attr.name]
      exact hsame

/-- A row that drops a whole attribute is not about one with values to choose from. -/
lemma of_mem_dropped {d : Module3DroppedItem}
    (hd : d ∈ (attributeRows x valuesByAttribute dictionary attr).2) (hwhole : d.value = none)
    (hname : d.name ≠ "") (hfound : module3Definition x dictionary d.name = some definition) :
    definition.isDictionary = false := by
  rcases attributeRows_cases x valuesByAttribute dictionary attr with
    ⟨-, hrows⟩ | ⟨hnone, hrows⟩ | ⟨definition', -, hfound', hrows⟩
  · rw [hrows] at hd
    obtain rfl := List.mem_singleton.mp hd
    exact absurd rfl hname
  · rw [hrows] at hd
    obtain rfl := List.mem_singleton.mp hd
    rw [hnone] at hfound
    cases hfound
  · rw [hrows] at hd
    simp only at hd
    split_ifs at hd with hnil hdictionary
    · exact absurd hwhole (of_mem_items hd).2
    · rcases List.mem_append.mp hd with hd | hd
      · exact absurd hwhole (of_mem_items hd).2
      · obtain rfl := List.mem_singleton.mp hd
        obtain rfl := Option.some.inj (hfound'.symm.trans hfound)
        exact Bool.eq_false_iff.mpr hdictionary
    · exact absurd hwhole (of_mem_items hd).2

/-- A row of what is written has a value. -/
lemma of_mem_matched {m : Module3MatchedAttribute}
    (hm : m ∈ (attributeRows x valuesByAttribute dictionary attr).1) : m.values ≠ [] := by
  rcases attributeRows_cases x valuesByAttribute dictionary attr with
    ⟨-, hrows⟩ | ⟨-, hrows⟩ | ⟨definition', -, -, hrows⟩
  · rw [hrows] at hm
    cases hm
  · rw [hrows] at hm
    cases hm
  · rw [hrows] at hm
    simp only at hm
    split_ifs at hm with hnil hdictionary
    · cases hm
    · cases hm
    · obtain rfl := List.mem_singleton.mp hm
      exact fun h => hnil (texts_eq_nil_iff.mp h)

end Rows

/-! ## The report -/

section Report

variable {x : NodeCrates} {valuesByAttribute : ℕ → Option (List OzonCategoryAttributeValue)}
  {dictionary : List OzonCategoryAttribute}

/-- **Nothing vanishes.**  The report accounts for every attribute and every value exactly if each
attribute that the dictionary lists with values to choose from is proposed with a value. -/
theorem matchAttributes_accounts (proposal : List Module3Attribute) :
    ReportAccounts x proposal (module3MatchAttributes x dictionary valuesByAttribute proposal) ↔
      ∀ attr ∈ proposal, HasValues x dictionary attr := by
  obtain ⟨hmatched, hdropped⟩ := rows_matchAttributes x valuesByAttribute dictionary proposal
  constructor
  · rintro ⟨rows, hmatched', hdropped', haccounted⟩ attr hattr hname definition hfound hdictionary
    obtain ⟨hreported, -, hnamed, hvalues⟩ := haccounted attr hattr
    by_contra hblank
    push Not at hblank
    -- the attribute is not dropped as a whole, and has no value to be written or dropped
    have hpartial : ∀ d ∈ (rows attr).2, d.value ≠ none := by
      intro d hd hwhole
      have hmem : d ∈ proposal.flatMap fun a => (rows a).2 := List.mem_flatMap.mpr ⟨attr, hattr, hd⟩
      rw [← hdropped', hdropped] at hmem
      obtain ⟨a, -, hd'⟩ := List.mem_flatMap.mp hmem
      rw [← hnamed d hd] at hname hfound
      rw [of_mem_dropped hd' hwhole hname hfound] at hdictionary
      cases hdictionary
    rcases hvalues with ⟨d, hd, hwhole⟩ | hperm
    · exact hpartial d hd hwhole
    · have hnil : attr.values.filter (fun value => trim value ≠ "") = [] :=
        List.filter_eq_nil_iff.mpr fun v hv => by simpa using hblank v hv
      rw [hnil, List.map_nil] at hperm
      obtain ⟨htexts, hitems⟩ := List.append_eq_nil_iff.mp hperm.nil_eq.symm
      rcases hreported with hne | hne
      · obtain ⟨m, hm⟩ := List.exists_mem_of_ne_nil _ hne
        have hmem : m ∈ proposal.flatMap fun a => (rows a).1 :=
          List.mem_flatMap.mpr ⟨attr, hattr, hm⟩
        rw [← hmatched', hmatched] at hmem
        obtain ⟨a, -, hm'⟩ := List.mem_flatMap.mp hmem
        exact of_mem_matched hm' (List.flatMap_eq_nil_iff.mp (List.map_eq_nil_iff.mp htexts) m hm)
      · obtain ⟨d, hd⟩ := List.exists_mem_of_ne_nil _ hne
        exact hpartial d hd (List.filterMap_eq_nil_iff.mp (List.map_eq_nil_iff.mp hitems) d hd)
  · intro hvalues
    exact ⟨attributeRows x valuesByAttribute dictionary, hmatched, hdropped,
      fun attr hattr => attributeRows_accounted (hvalues attr hattr)⟩

/-- A color that is proposed with no value but a blank one leaves no trace. -/
theorem matchAttributes_loses_color :
    ¬ ∀ (x : NodeCrates) (dictionary : List OzonCategoryAttribute)
      (valuesByAttribute : ℕ → Option (List OzonCategoryAttributeValue))
      (proposal : List Module3Attribute), ReportAccounts x proposal
        (module3MatchAttributes x dictionary valuesByAttribute proposal) := by
  intro h
  obtain ⟨rows, hmatched, hdropped, haccounted⟩ := h leaseCrates [⟨85, "Color", 1⟩]
    (fun _ => some [⟨7, "red"⟩]) [⟨"Color", [" "]⟩]
  have hnothing : module3MatchAttributes leaseCrates [⟨85, "Color", 1⟩] (fun _ => some [⟨7, "red"⟩])
      [⟨"Color", [" "]⟩] = ⟨[], [], []⟩ := by decide
  rw [hnothing] at hmatched hdropped
  simp only [List.flatMap_cons, List.flatMap_nil, List.append_nil] at hmatched hdropped
  rcases (haccounted _ (List.mem_singleton_self _)).reported with hne | hne
  · exact hne hmatched.symm
  · exact hne hdropped.symm

end Report

end OzonSuite
