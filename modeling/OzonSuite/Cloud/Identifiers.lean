/-
# The identifiers of accounts

An account is found by an e-mail address, a telephone number or a Nebula ID.  Each has a parser that
brings what a person typed into one form; the form is what is stored and looked up.  What the
parsers accept is a small grammar, and what they give is left alone when it is parsed again.
-/
import OzonSuite.Cloud.StripeSignature
import OzonSuite.Lib.UnicodeCase

namespace OzonSuite

open Lib

/-! ## The parsers -/

/-- The errors of the domain crate that the parsers meet. -/
inductive IdentifierError
  | invalidEmail
  | invalidPhoneNumber
  | invalidNebulaId
deriving DecidableEq

/-- An e-mail address. -/
@[ext]
structure Email where
  text : String
deriving DecidableEq

/-- A telephone number. -/
@[ext]
structure PhoneNumber where
  text : String
deriving DecidableEq

/-- A Nebula ID. -/
@[ext]
structure NebulaId where
  text : String
deriving DecidableEq

/-- The address in a text. -/
def Email.parse (k : LetterClasses) (value : String) : Except IdentifierError Email := do
  let value := toLowercase k (trim value)
  refuseIf (' ' ∈ value.toList) IdentifierError.invalidEmail
  let (localPart, domain) ← okOr (splitOnce '@' value) IdentifierError.invalidEmail
  refuseIf (localPart = "" ∨ '@' ∈ domain.toList) IdentifierError.invalidEmail
  let labels := domain.toList.splitOn '.'
  refuseIf (labels.length < 2 ∨ [] ∈ labels) IdentifierError.invalidEmail
  return ⟨value⟩

/-- The loop over the characters; `index` counts them, `normalized` is what has been kept. -/
def PhoneNumber.scan (index : ℕ) (normalized : List Char) : List Char → Option (List Char)
  | [] => some normalized
  | ch :: chars =>
    if ch.isDigit ∨ (ch = '+' ∧ index = 0) then scan (index + 1) (normalized ++ [ch]) chars
    else if ch ∈ [' ', '-', '(', ')'] then scan (index + 1) normalized chars
    else none

/-- The number in a text. -/
def PhoneNumber.parse (raw : String) : Except IdentifierError PhoneNumber := do
  let normalized ← okOr (scan 0 [] (trim raw).toList) IdentifierError.invalidPhoneNumber
  let digitCount := (normalized.filter Char.isDigit).length
  refuseIf (¬ (6 ≤ digitCount ∧ digitCount ≤ 15) ∨ normalized = ['+'])
    IdentifierError.invalidPhoneNumber
  refuseIf ('+' ∈ normalized ∧ normalized.head? ≠ some '+') IdentifierError.invalidPhoneNumber
  return ⟨String.ofList normalized⟩

/-- What the parser asks of the parts between hyphens. -/
def nebulaParts : List (List Char) → Bool
  | [start, year, code] =>
    start == ['N', 'E', 'B', 'U', 'L', 'A'] &&
      (byteLength (String.ofList year) == 4 && year.all Char.isDigit) &&
      (8 ≤ byteLength (String.ofList code) && byteLength (String.ofList code) ≤ 40 &&
        code.all Char.isAlphanum)
  | _ => false

/-- The Nebula ID in a text. -/
def NebulaId.parse (value : String) : Except IdentifierError NebulaId := do
  let value := toUppercase (trim value)
  refuseIf (¬ nebulaParts (value.toList.splitOn '-')) IdentifierError.invalidNebulaId
  return ⟨value⟩

/-! ## The grammars -/

/-- One `@`, something before it, and behind it at least two labels with points between them, none
of them empty. -/
def EmailShape (chars : List Char) : Prop :=
  ∃ localPart labels, chars = localPart ++ '@' :: ['.'].intercalate labels ∧ localPart ≠ [] ∧
    '@' ∉ localPart ∧ '@' ∉ ['.'].intercalate labels ∧ 2 ≤ labels.length ∧
    ∀ label ∈ labels, label ≠ [] ∧ '.' ∉ label

/-- The grammar of addresses: the shape, and no white space of any kind. -/
def EmailGrammar (chars : List Char) : Prop :=
  EmailShape chars ∧ ∀ c ∈ chars, isWhitespace c = false

/-- The grammar of telephone numbers, and what is kept of them: the plus sign if there is one, and
the digits in their order. -/
def PhoneGrammar (chars kept : List Char) : Prop :=
  ∃ plus signs, chars = plus ++ signs ∧ (plus = [] ∨ plus = ['+']) ∧
    (∀ c ∈ signs, c.isDigit = true ∨ c ∈ [' ', '-', '(', ')']) ∧
    (6 ≤ (signs.filter Char.isDigit).length ∧ (signs.filter Char.isDigit).length ≤ 15) ∧
    kept = plus ++ signs.filter Char.isDigit

/-! ## Addresses -/

section Addresses

variable {k : LetterClasses} {value : String} {domain : List Char}

/-- A domain is cut into labels at its points, and put together from them. -/
lemma exists_labels : (2 ≤ (domain.splitOn '.').length ∧ [] ∉ domain.splitOn '.') ↔
    ∃ labels, domain = ['.'].intercalate labels ∧ 2 ≤ labels.length ∧
      ∀ label ∈ labels, label ≠ [] ∧ '.' ∉ label := by
  constructor
  · rintro ⟨htwo, hempty⟩
    refine ⟨domain.splitOn '.', (List.intercalate_splitOn '.').symm, htwo, fun label hmem => ?_⟩
    refine ⟨fun hnil => hempty (hnil ▸ hmem), fun hpoint => ?_⟩
    rw [List.splitOn_eq_splitOnP] at hmem
    have hnot := not_of_mem_splitOnP hmem '.' hpoint
    simp at hnot
  · rintro ⟨labels, rfl, htwo, hlabels⟩
    have hne : labels ≠ [] := by
      rintro rfl
      exact absurd htwo (by decide)
    rw [List.splitOn_intercalate '.' (fun label hmem => (hlabels label hmem).2) hne]
    exact ⟨htwo, fun hnil => (hlabels [] hnil).1 rfl⟩

/-- What the parser of addresses accepts: the shape, and no blank. -/
lemma parse_email_eq_ok {email : Email} :
    Email.parse k value = .ok email ↔ email.text = toLowercase k (trim value) ∧
      ' ' ∉ email.text.toList ∧ EmailShape email.text.toList := by
  obtain ⟨text⟩ := email
  simp only [Email.parse, Except.bind_eq_ok, Except.refuseIf_eq_ok, Except.okOr_eq_ok,
    Prod.exists, splitOnce_eq_some, not_or]
  constructor
  · rintro ⟨-, hblank, localPart, domain, ⟨hsplit, hlocal⟩, -, ⟨hne, hat⟩, -, ⟨htwo, hempty⟩, hok⟩
    obtain rfl := Email.mk.inj (Except.ok.inj hok)
    obtain ⟨labels, hdomain, hlabels⟩ := exists_labels.mp ⟨not_lt.mp htwo, hempty⟩
    refine ⟨rfl, hblank, localPart.toList, labels, ?_, ?_, hlocal, ?_, hlabels⟩
    · rw [hsplit, hdomain]
    · rwa [ne_eq, String.toList_eq_nil_iff]
    · rwa [← hdomain]
  · rintro ⟨rfl, hblank, localPart, labels, hsplit, hne, hlocal, hat, hlabels⟩
    obtain ⟨htwo, hempty⟩ := exists_labels.mpr ⟨labels, rfl, hlabels⟩
    refine ⟨(), hblank, String.ofList localPart, String.ofList (['.'].intercalate labels),
      ?_, (), ?_, (), ?_, rfl⟩
    · simpa using ⟨hsplit, hlocal⟩
    · simpa using ⟨hne, hat⟩
    · simpa using ⟨htwo, hempty⟩

end Addresses

/-! ## Telephone numbers -/

section Numbers

variable {normalized chars kept : List Char}

/-- Behind the first character a plus sign is refused like any other sign. -/
lemma scan_tail {index : ℕ} (hindex : 0 < index) :
    PhoneNumber.scan index normalized chars = some kept ↔
      (∀ c ∈ chars, c.isDigit = true ∨ c ∈ [' ', '-', '(', ')']) ∧
        kept = normalized ++ chars.filter Char.isDigit := by
  induction chars generalizing index normalized with
  | nil =>
    rw [PhoneNumber.scan, List.filter_nil, List.append_nil, Option.some.injEq]
    exact ⟨fun h => ⟨nofun, h.symm⟩, fun h => h.2.symm⟩
  | cons ch chars ih =>
    have hstart : ¬ (ch = '+' ∧ index = 0) := fun h => absurd h.2 (Nat.ne_of_gt hindex)
    rw [PhoneNumber.scan, List.forall_mem_cons]
    by_cases hdigit : ch.isDigit = true
    · rw [if_pos (.inl hdigit), ih (Nat.succ_pos _), List.filter_cons_of_pos hdigit,
        List.append_assoc, List.singleton_append]
      simp [hdigit]
    · rw [if_neg (not_or.mpr ⟨hdigit, hstart⟩), List.filter_cons_of_neg hdigit]
      by_cases hsign : ch ∈ [' ', '-', '(', ')']
      · rw [if_pos hsign, ih (Nat.succ_pos _)]
        simp only [hsign, or_true, true_and]
      · rw [if_neg hsign]
        simp only [hdigit, hsign, or_self, false_and, reduceCtorEq]

lemma scan_start : PhoneNumber.scan 0 [] chars = some kept ↔
    ∃ plus signs, chars = plus ++ signs ∧ (plus = [] ∨ plus = ['+']) ∧
      (∀ c ∈ signs, c.isDigit = true ∨ c ∈ [' ', '-', '(', ')']) ∧
      kept = plus ++ signs.filter Char.isDigit := by
  cases chars with
  | nil =>
    rw [PhoneNumber.scan]
    constructor
    · rintro ⟨⟩
      exact ⟨[], [], rfl, .inl rfl, nofun, rfl⟩
    · rintro ⟨plus, signs, hnil, -, -, rfl⟩
      obtain ⟨rfl, rfl⟩ := List.append_eq_nil_iff.mp hnil.symm
      rfl
  | cons ch chars =>
    constructor
    · intro h
      rw [PhoneNumber.scan] at h
      -- only at the start a plus sign is kept; from then on the scan knows digits and signs
      by_cases hplus : ch = '+'
      · rw [if_pos (.inr ⟨hplus, rfl⟩), scan_tail (Nat.succ_pos _)] at h
        exact ⟨['+'], chars, by rw [hplus]; rfl, .inr rfl, h.1, by rw [h.2, hplus]; rfl⟩
      · by_cases hdigit : ch.isDigit = true
        · rw [if_pos (.inl hdigit), scan_tail (Nat.succ_pos _)] at h
          refine ⟨[], ch :: chars, rfl, .inl rfl, ?_, ?_⟩
          · exact List.forall_mem_cons.mpr ⟨.inl hdigit, h.1⟩
          · rw [List.filter_cons_of_pos hdigit, h.2]
            rfl
        · rw [if_neg (by simp [hdigit, hplus])] at h
          split_ifs at h with hsign
          · rw [scan_tail (Nat.succ_pos _)] at h
            refine ⟨[], ch :: chars, rfl, .inl rfl, ?_, ?_⟩
            · exact List.forall_mem_cons.mpr ⟨.inr hsign, h.1⟩
            · rw [List.filter_cons_of_neg hdigit, h.2]
    · rintro ⟨plus, signs, hchars, hplus, hsigns, rfl⟩
      rw [PhoneNumber.scan]
      rcases hplus with rfl | rfl
      -- the number begins without a plus sign
      · obtain rfl : signs = ch :: chars := hchars.symm
        obtain ⟨hch, hrest⟩ := List.forall_mem_cons.mp hsigns
        by_cases hdigit : ch.isDigit = true
        · rw [if_pos (.inl hdigit), scan_tail (Nat.succ_pos _), List.filter_cons_of_pos hdigit]
          exact ⟨hrest, rfl⟩
        · have hsign := hch.resolve_left hdigit
          have hplus : ch ≠ '+' := by
            rintro rfl
            exact absurd hsign (by decide)
          rw [if_neg (by simp [hdigit, hplus]), if_pos hsign, scan_tail (Nat.succ_pos _),
            List.filter_cons_of_neg hdigit]
          exact ⟨hrest, rfl⟩
      · obtain ⟨rfl, rfl⟩ := List.cons.inj hchars
        rw [if_pos (.inr ⟨rfl, rfl⟩), scan_tail (Nat.succ_pos _)]
        exact ⟨hsigns, rfl⟩

/-- **The numbers that are accepted, and what is kept of them.** -/
lemma parse_phone_eq_ok {raw : String} {phone : PhoneNumber} :
    PhoneNumber.parse raw = .ok phone ↔ PhoneGrammar (trim raw).toList phone.text.toList := by
  obtain ⟨text⟩ := phone
  simp only [PhoneNumber.parse, Except.bind_eq_ok, Except.refuseIf_eq_ok, Except.okOr_eq_ok,
    scan_start, PhoneGrammar]
  -- the plus sign is no digit, so it does not count
  have hkept : ∀ plus signs : List Char, (plus = [] ∨ plus = ['+']) →
      (plus ++ signs.filter Char.isDigit).filter Char.isDigit = signs.filter Char.isDigit := by
    rintro plus signs (rfl | rfl)
    · rw [List.nil_append, List.filter_filter]
      simp
    · simp [List.filter_filter]
  constructor
  · rintro ⟨kept, ⟨plus, signs, hchars, hplus, hsigns, rfl⟩, -, hcount, -, -, hok⟩
    obtain rfl := PhoneNumber.mk.inj (Except.ok.inj hok)
    rw [hkept plus signs hplus, not_or, not_not] at hcount
    exact ⟨plus, signs, hchars, hplus, hsigns, hcount.1, by rw [String.toList_ofList]⟩
  · rintro ⟨plus, signs, hchars, hplus, hsigns, hcount, hresult⟩
    refine ⟨_, ⟨plus, signs, hchars, hplus, hsigns, rfl⟩, (), ?_, (), ?_, ?_⟩
    · rw [hkept plus signs hplus, not_or, not_not]
      refine ⟨hcount, fun honly => ?_⟩
      have hlen := congrArg (List.filter Char.isDigit) honly
      rw [hkept plus signs hplus] at hlen
      rw [hlen] at hcount
      exact absurd hcount (by decide)
    · rintro ⟨hmem, hhead⟩
      rcases hplus with rfl | rfl
      · rw [List.nil_append, List.mem_filter] at hmem
        exact absurd hmem.2 (by decide)
      · exact hhead rfl
    · rw [← hresult, String.ofList_toList]
      rfl

end Numbers

/-! ## What is accepted -/

/-- **The grammars of identifiers.**  A telephone number is accepted if and only if it is of its
grammar, and what is kept is what the grammar says.  For an address that is so unless it has white
space inside, none of it a blank, and is of the right shape otherwise. -/
theorem identifier_grammars_iff (k : LetterClasses) (value : String) :
    (((∃ email, Email.parse k value = .ok email) ↔
          EmailGrammar (toLowercase k (trim value)).toList) ↔
        ¬ (EmailShape (toLowercase k (trim value)).toList ∧
          ' ' ∉ (toLowercase k (trim value)).toList ∧
            ∃ c ∈ (toLowercase k (trim value)).toList, isWhitespace c = true)) ∧
      ∀ phone, PhoneNumber.parse value = .ok phone ↔
        PhoneGrammar (trim value).toList phone.text.toList := by
  refine ⟨?_, fun phone => parse_phone_eq_ok⟩
  have haccept : (∃ email, Email.parse k value = .ok email) ↔
      ' ' ∉ (toLowercase k (trim value)).toList ∧
        EmailShape (toLowercase k (trim value)).toList := by
    constructor
    · rintro ⟨email, hparse⟩
      obtain ⟨htext, haccepted⟩ := parse_email_eq_ok.mp hparse
      rwa [htext] at haccepted
    · intro haccepted
      exact ⟨⟨toLowercase k (trim value)⟩, parse_email_eq_ok.mpr ⟨rfl, haccepted⟩⟩
  rw [haccept, EmailGrammar]
  constructor
  · rintro hexact ⟨hshape, hblank, c, hc, hwhite⟩
    rw [(hexact.mp ⟨hblank, hshape⟩).2 c hc] at hwhite
    cases hwhite
  · intro hplain
    constructor
    · rintro ⟨hblank, hshape⟩
      refine ⟨hshape, fun c hc => ?_⟩
      by_contra hwhite
      exact hplain ⟨hshape, hblank, c, hc, by simpa using hwhite⟩
    · rintro ⟨hshape, hwhite⟩
      refine ⟨fun hblank => ?_, hshape⟩
      exact absurd (hwhite ' ' hblank) (by decide)

/-- An address with a tab inside is accepted. -/
theorem email_with_tab_accepted :
    ¬ ∀ (k : LetterClasses) (value : String), (∃ email, Email.parse k value = .ok email) ↔
      EmailGrammar (toLowercase k (trim value)).toList := by
  intro h
  have hlower : toLowercase asciiLetters (trim "a\tb@x.y") = "a\tb@x.y" := by decide +kernel
  have hparse : Email.parse asciiLetters "a\tb@x.y" = .ok ⟨"a\tb@x.y"⟩ := by decide +kernel
  have hgrammar := (h asciiLetters "a\tb@x.y").mp ⟨_, hparse⟩
  rw [hlower] at hgrammar
  exact absurd (hgrammar.2 '\t' (by decide)) (by decide)

/-! ## Parsing twice -/

/-- A trimmed text in lower case is trimmed. -/
lemma trim_toLowercase_trim (k : LetterClasses) (value : String) :
    trim (toLowercase k (trim value)) = toLowercase k (trim value) := by
  have hkept : ∀ before c behind, ∀ d ∈ lowerAt k before c behind,
      isWhitespace d = isWhitespace c := fun _ _ _ _ hd => isWhitespace_of_mem_lowerAt k hd
  have htrimmed : trimList isWhitespace (trim value).toList = (trim value).toList := by
    rw [trim, trimText, String.toList_ofList, trimList_trimList]
  rw [trim, trimText, toLowercase, String.toList_ofList, trimList_lowerFrom k hkept htrimmed]

lemma parse_email_text {k : LetterClasses} {value : String} {email : Email}
    (h : Email.parse k value = .ok email) : Email.parse k email.text = .ok email := by
  obtain ⟨htext, haccepted⟩ := parse_email_eq_ok.mp h
  refine parse_email_eq_ok.mpr ⟨?_, haccepted⟩
  rw [htext, trim_toLowercase_trim, toLowercase_toLowercase]

lemma parse_phone_text {raw : String} {phone : PhoneNumber}
    (h : PhoneNumber.parse raw = .ok phone) : PhoneNumber.parse phone.text = .ok phone := by
  obtain ⟨plus, signs, -, hplus, -, hcount, hkept⟩ := parse_phone_eq_ok.mp h
  have hdigits : ∀ c ∈ signs.filter Char.isDigit, c.isDigit = true :=
    fun c hc => (List.mem_filter.mp hc).2
  have hplain : ∀ c ∈ phone.text.toList, isWhitespace c = false := by
    intro c hc
    rw [hkept, List.mem_append] at hc
    rcases hc with hc | hc
    · rcases hplus with rfl | rfl
      · cases hc
      · rw [List.mem_singleton.mp hc]
        decide
    · have hrange := isAlphanum_range (c := c) (by simp [Char.isAlphanum, hdigits c hc])
      simp only [isWhitespace, Bool.or_eq_false_iff, Bool.and_eq_false_iff,
        decide_eq_false_iff_not, beq_eq_false_iff_ne, not_le]
      omega
  have hagain : (signs.filter Char.isDigit).filter Char.isDigit = signs.filter Char.isDigit :=
    List.filter_eq_self.mpr hdigits
  rw [parse_phone_eq_ok, trim, trimText_of_forall hplain]
  refine ⟨plus, signs.filter Char.isDigit, hkept, hplus, fun c hc => .inl (hdigits c hc), ?_, ?_⟩
  · rwa [hagain]
  · rw [hagain, hkept]

lemma parse_nebula_eq_ok {value : String} {id : NebulaId} :
    NebulaId.parse value = .ok id ↔ id.text = toUppercase (trim value) ∧
      nebulaParts (id.text.toList.splitOn '-') = true := by
  obtain ⟨text⟩ := id
  simp only [NebulaId.parse, Except.bind_eq_ok, Except.refuseIf_eq_ok, not_not]
  constructor
  · rintro ⟨-, hparts, hok⟩
    obtain rfl := NebulaId.mk.inj (Except.ok.inj hok)
    exact ⟨rfl, hparts⟩
  · rintro ⟨rfl, hparts⟩
    exact ⟨(), hparts, rfl⟩

/-- A Nebula ID consists of letters and digits of ASCII, and hyphens. -/
lemma chars_of_nebulaParts {l : List Char} (h : nebulaParts (l.splitOn '-') = true) :
    ∀ c ∈ l, c.isAlphanum = true ∨ c = '-' := by
  have hjoin : ['-'].intercalate (l.splitOn '-') = l := List.intercalate_splitOn '-'
  match hparts : l.splitOn '-', h with
  | [start, year, code], h =>
    simp only [nebulaParts, Bool.and_eq_true, beq_iff_eq, List.all_eq_true] at h
    obtain ⟨⟨hstart, -, hyear⟩, -, hcode⟩ := h
    rw [hparts, hstart] at hjoin
    intro c hc
    rw [← hjoin] at hc
    simp only [List.intercalate_cons_cons, List.intercalate_singleton, List.mem_append,
      List.mem_singleton] at hc
    rcases hc with (hc | hc) | (hc | hc) | hc
    · simp only [List.mem_cons, List.not_mem_nil, or_false] at hc
      rcases hc with rfl | rfl | rfl | rfl | rfl | rfl <;> exact .inl (by decide)
    · exact .inr hc
    · exact .inl (by simp [Char.isAlphanum, hyear c hc])
    · exact .inr hc
    · exact .inl (hcode c hc)

lemma parse_nebula_text {value : String} {id : NebulaId} (h : NebulaId.parse value = .ok id) :
    NebulaId.parse id.text = .ok id := by
  obtain ⟨htext, hparts⟩ := parse_nebula_eq_ok.mp h
  have hchars := chars_of_nebulaParts hparts
  have hcodes : ∀ c ∈ id.text.toList, c.toNat < 0x80 ∧ isWhitespace c = false := by
    intro c hc
    rcases hchars c hc with halnum | rfl
    · have hrange := isAlphanum_range halnum
      simp only [isWhitespace, Bool.or_eq_false_iff, Bool.and_eq_false_iff,
        decide_eq_false_iff_not, beq_eq_false_iff_ne, not_le]
      omega
    · decide
  have hfixed : id.text.toList.flatMap upperMap.map = id.text.toList := by
    have hone : ∀ c ∈ id.text.toList, upperMap.map c = [c] := by
      intro c hc
      have hsource := hc
      rw [htext, toUppercase, String.toList_ofList, List.mem_flatMap] at hsource
      obtain ⟨d, -, hd⟩ := hsource
      exact upper_of_ascii (hcodes c hc).1 (not_small_of_mem_upper hd)
    rw [List.flatMap_congr hone, List.flatMap_singleton']
  refine parse_nebula_eq_ok.mpr ⟨?_, hparts⟩
  rw [trim, trimText_of_forall fun c hc => (hcodes c hc).2, toUppercase, hfixed,
    String.ofList_toList]

end OzonSuite
