/-
# URLs

A library for URLs, as far as a program uses it: it parses a text, tells the parts of what it has
parsed, sets the fragment and prints.  The library is a parameter; what the standard says of it is
stated here as properties that such a library may have.  And the text of a URL: the part before the
query, the query itself, and what becomes of them when something is appended.
-/
import OzonSuite.Lib.PercentText

namespace Lib

/-- What a library reads out of an address: the parts of a URL, and its text when a part is
replaced. -/
structure UrlLibrary (Url : Type) where
  parse : String → Option Url
  scheme : Url → String
  host : Url → Option String
  /-- The port, or the one that the scheme stands for. -/
  port : Url → Option ℕ
  path : Url → String
  query : Url → Option String
  fragment : Url → Option String
  setFragment : Url → String → Url
  text : Url → String

/-! ## The text of a URL -/

/-- Control characters and blanks are cut off at both ends. -/
def isC0OrSpace (c : Char) : Bool := c.toNat ≤ 0x20

/-- Tabs and line breaks are left out wherever they stand. -/
def isTabOrNewline (c : Char) : Bool := c = '\t' || c = '\n' || c = '\r'

/-- The characters that a URL is parsed from. -/
def urlInput (s : String) : List Char :=
  (trimList isC0OrSpace s.toList).filter fun c => !isTabOrNewline c

/-- A query or a fragment begins. -/
def isCut (c : Char) : Bool := c = '?' || c = '#'

/-- What stands before the query and the fragment. -/
def beforeQuery (l : List Char) : List Char := l.takeWhile fun c => !isCut c

/-- The query, without the fragment. -/
def queryPart (l : List Char) : Option (List Char) :=
  match l.dropWhile fun c => !isCut c with
  | '?' :: rest => some (rest.takeWhile (· ≠ '#'))
  | _ => none

/-- The bytes that stand in the query of a web address as they are. -/
def queryKeeps (b : UInt8) : Bool :=
  0x21 ≤ b && b ≤ 0x7E && b ≠ 0x22 && b ≠ 0x23 && b ≠ 0x27 && b ≠ 0x3C && b ≠ 0x3E

/-- A query as it stands in the address. -/
def encodeQuery (l : List Char) : List Char :=
  percentEncode queryKeeps (l.flatMap String.utf8EncodeChar)

/-- A character that stands in a query as it is. -/
def isQueryChar (c : Char) : Bool := c.toNat < 128 && queryKeeps (UInt8.ofNat c.toNat)

/-- What the standard says of a web address that has been parsed: the query is the encoded part of
the text between the first question mark and the first number sign, and the path is determined, by
`pathOf`, from the text before them. -/
structure UrlLibrary.ReadsAddresses {Url : Type} (url : UrlLibrary Url)
    (pathOf : List Char → String) : Prop where
  query : ∀ s u, url.parse s = some u → url.scheme u = "https" ∨ url.scheme u = "http" →
    url.query u = (queryPart (urlInput s)).map fun l => String.ofList (encodeQuery l)
  path : ∀ s u, url.parse s = some u → url.scheme u = "https" ∨ url.scheme u = "http" →
    url.path u = pathOf (beforeQuery (urlInput s))

/-- A character that stands in a fragment as it is. -/
def isFragmentChar (c : Char) : Bool :=
  0x21 ≤ c.toNat && c.toNat ≤ 0x7E && c ≠ '"' && c ≠ '<' && c ≠ '>' && c ≠ '\x60'

/-- What the standard says of a URL whose fragment is set: its other parts stay, the fragment is the
given one if it consists of characters that stand in a fragment as they are, and what is printed of
it is parsed again. -/
structure UrlLibrary.SetsFragments {Url : Type} (url : UrlLibrary Url) : Prop where
  parse_text : ∀ s u f, url.parse s = some u →
    url.parse (url.text (url.setFragment u f)) = some (url.setFragment u f)
  scheme : ∀ u f, url.scheme (url.setFragment u f) = url.scheme u
  host : ∀ u f, url.host (url.setFragment u f) = url.host u
  port : ∀ u f, url.port (url.setFragment u f) = url.port u
  path : ∀ u f, url.path (url.setFragment u f) = url.path u
  fragment : ∀ u f, (∀ c ∈ f.toList, isFragmentChar c = true) →
    url.fragment (url.setFragment u f) = some f

/-! ## Queries -/

section Queries

variable {l m : List Char} {c : Char}

lemma isQueryChar_of_mem_encodeQuery (h : c ∈ encodeQuery l) : isQueryChar c = true := by
  rcases mem_percentEncode h with ⟨b, hb, rfl⟩ | hc
  · have key : ∀ n < 128, queryKeeps (UInt8.ofNat n) = true →
        isQueryChar (Char.ofNat n) = true := by decide
    have hascii : b.toNat < 128 := by
      simp only [queryKeeps, Bool.and_eq_true, decide_eq_true_eq, UInt8.le_iff_toNat_le] at hb
      have hlast : b.toNat ≤ 0x7E := hb.1.1.1.1.1.2
      omega
    refine key b.toNat hascii ?_
    rwa [UInt8.ofNat_toNat]
  · have key : ("%0123456789ABCDEF".toList.all isQueryChar) = true := by decide
    exact List.all_eq_true.mp key c hc

lemma encodeQuery_of_forall (h : ∀ c ∈ l, isQueryChar c = true) : encodeQuery l = l := by
  refine percentEncode_of_forall fun c hc => ?_
  simpa [isQueryChar] using h c hc

lemma length_le_encodeQuery (l : List Char) : l.length ≤ (encodeQuery l).length := by
  refine le_trans ?_ (length_le_percentEncode _)
  induction l with
  | nil => exact le_rfl
  | cons c l ih =>
    have hone : 0 < (String.utf8EncodeChar c).length := by
      rw [String.length_utf8EncodeChar]
      exact c.utf8Size_pos
    rw [List.flatMap_cons, List.length_append, List.length_cons]
    omega

/-- A character of a query is not cut off, is not left out, and begins no fragment. -/
lemma isQueryChar_spec (h : isQueryChar c = true) :
    isC0OrSpace c = false ∧ isTabOrNewline c = false ∧ c ≠ '#' := by
  have key : ∀ n < 128, isQueryChar (Char.ofNat n) = true → isC0OrSpace (Char.ofNat n) = false ∧
      isTabOrNewline (Char.ofNat n) = false ∧ Char.ofNat n ≠ '#' := by decide
  have hascii : c.toNat < 128 := by
    simp only [isQueryChar, Bool.and_eq_true, decide_eq_true_eq] at h
    exact h.1
  have hc := key c.toNat hascii
  rw [Char.ofNat_toNat] at hc
  exact hc h

end Queries

/-! ## What is appended to a URL -/

/-- What is read of a text at the front of a URL. -/
def urlFront (l : List Char) : List Char :=
  (l.dropWhile isC0OrSpace).filter fun c => !isTabOrNewline c

/-- What is read of a text at the end of a URL. -/
def urlEnd (l : List Char) : List Char :=
  (l.rdropWhile isC0OrSpace).filter fun c => !isTabOrNewline c

section Append

variable {front behind query : List Char} {c : Char}

lemma dropWhile_append_cons {p : Char → Bool} (hc : p c = false) (front behind : List Char) :
    (front ++ c :: behind).dropWhile p = front.dropWhile p ++ c :: behind := by
  induction front with
  | nil => simp [hc]
  | cons d front ih =>
    by_cases hd : p d = true
    · simpa [hd] using ih
    · simp [hd]

/-- Behind the front, from an ordinary character on, only the end is cut. -/
lemma urlInput_append (hspace : isC0OrSpace c = false) (htab : isTabOrNewline c = false)
    (s t : String) (ht : t.toList = c :: behind) :
    urlInput (s ++ t) = urlFront s.toList ++ c :: urlEnd behind := by
  have hend : ∀ l : List Char, (l ++ c :: behind).rdropWhile isC0OrSpace =
      l ++ c :: behind.rdropWhile isC0OrSpace := by
    intro l
    have hreverse := dropWhile_append_cons hspace behind.reverse l.reverse
    simp only [List.rdropWhile, List.reverse_append, List.reverse_cons, List.append_assoc,
      List.singleton_append, hreverse, List.reverse_reverse]
  rw [urlInput, String.toList_append, ht, trimList, dropWhile_append_cons hspace, hend,
    List.filter_append, List.filter_cons]
  simp [htab, urlFront, urlEnd]

lemma urlFront_concat (hspace : isC0OrSpace c = false) (htab : isTabOrNewline c = false) :
    urlFront (front ++ [c]) = urlFront front ++ [c] := by
  rw [urlFront, dropWhile_append_cons hspace, List.filter_append, urlFront]
  simp [htab]

lemma mem_urlFront (hspace : isC0OrSpace c = false) (htab : isTabOrNewline c = false) :
    c ∈ urlFront front ↔ c ∈ front := by
  have hdrop : c ∈ front.dropWhile isC0OrSpace ↔ c ∈ front := by
    induction front with
    | nil => simp
    | cons d front ih =>
      by_cases hd : isC0OrSpace d = true
      · have hne : c ≠ d := by
          rintro rfl
          simp [hspace] at hd
        simpa [hd, hne] using ih
      · simp [hd]
  simp [urlFront, hdrop, htab]

/-- No query and no fragment begins in what is read of a text, just when none begins in the text. -/
lemma forall_isCut_urlFront :
    (∀ c ∈ urlFront front, isCut c = false) ↔ ∀ c ∈ front, isCut c = false := by
  have key : ∀ c, isCut c = true → (c ∈ urlFront front ↔ c ∈ front) := by
    intro c hc
    have hcases : c = '?' ∨ c = '#' := by simpa [isCut] using hc
    rcases hcases with rfl | rfl <;> exact mem_urlFront (by decide) (by decide)
  constructor
  all_goals
    intro h c hc
    by_contra hcut
    rw [Bool.not_eq_false] at hcut
  · exact absurd (h c ((key c hcut).mpr hc)) (by simp [hcut])
  · exact absurd (h c ((key c hcut).mp hc)) (by simp [hcut])

/-- Of a text of query characters nothing is cut off or left out. -/
lemma urlEnd_of_forall (h : ∀ c ∈ query, isQueryChar c = true) : urlEnd query = query := by
  have hdrop : query.rdropWhile isC0OrSpace = query := by
    refine List.rdropWhile_eq_self_iff.mpr fun hne => ?_
    simpa using (isQueryChar_spec (h _ (List.getLast_mem hne))).1
  rw [urlEnd, hdrop, List.filter_eq_self]
  intro c hc
  simp [(isQueryChar_spec (h c hc)).2.1]

lemma takeWhile_of_forall (h : ∀ c ∈ query, isQueryChar c = true) :
    query.takeWhile (· ≠ '#') = query := by
  rw [List.takeWhile_eq_self_iff]
  intro c hc
  simpa using (isQueryChar_spec (h c hc)).2.2

lemma takeWhile_append_of_mem (h : c ∈ front) (behind : List Char) :
    (front ++ behind).takeWhile (· ≠ c) = front.takeWhile (· ≠ c) := by
  induction front with
  | nil => simp at h
  | cons d front ih =>
    by_cases hd : d = c
    · simp [hd]
    · have hmem : c ∈ front := by
        rcases List.mem_cons.mp h with heq | hmem
        · exact absurd heq.symm hd
        · exact hmem
      rw [List.cons_append, List.takeWhile_cons, List.takeWhile_cons, ih hmem]

/-- The part before the query is the same whatever query is appended. -/
lemma beforeQuery_append : beforeQuery (front ++ '/' :: '?' :: behind) =
    beforeQuery (front ++ ['/']) := by
  have hslash : isCut '/' = false := by decide
  have hmark : isCut '?' = true := by decide
  rw [beforeQuery, beforeQuery, List.takeWhile_append, List.takeWhile_append]
  split <;> simp [hslash, hmark]

/-- **The query that a URL has after one has been appended.**  It is the appended one just when that
one consists of query characters, and the URL had neither query nor fragment, or had this very query
and a fragment before. -/
theorem query_append_iff :
    (queryPart (front ++ '/' :: '?' :: urlEnd query)).map encodeQuery = some query ↔
      (∀ c ∈ query, isQueryChar c = true) ∧
      ((∀ c ∈ front, isCut c = false) ∨
        '#' ∈ front ∧ (queryPart (front ++ ['/'])).map encodeQuery = some query) := by
  have hslash : isCut '/' = false := by decide
  have hmark : isCut '?' = true := by decide
  have hplain : ∀ l, encodeQuery l = query → ∀ c ∈ query, isQueryChar c = true := by
    rintro l rfl c hc
    exact isQueryChar_of_mem_encodeQuery hc
  have happend : ∀ l : List Char, (front ++ l).dropWhile (fun c => !isCut c) =
      if (front.dropWhile fun c => !isCut c).isEmpty then l.dropWhile fun c => !isCut c
      else (front.dropWhile fun c => !isCut c) ++ l := fun l => List.dropWhile_append
  have hsplit := List.takeWhile_append_dropWhile (p := fun c => !isCut c) (l := front)
  cases hcut : front.dropWhile fun c => !isCut c with
  | nil =>
    have hfront : ∀ c ∈ front, isCut c = false := by
      simpa using List.dropWhile_eq_nil_iff.mp hcut
    simp only [queryPart, happend, hcut, List.isEmpty_nil, ite_true, List.dropWhile_cons, hslash,
      hmark, Bool.not_false, Bool.not_true, Bool.false_eq_true, ite_false, Option.map_some,
      Option.some.injEq]
    constructor
    · intro h
      exact ⟨hplain _ h, .inl hfront⟩
    · rintro ⟨hquery, -⟩
      rw [urlEnd_of_forall hquery, takeWhile_of_forall hquery, encodeQuery_of_forall hquery]
  | cons d rest =>
    have hd : isCut d = true := by
      have hne : (front.dropWhile fun c => !isCut c) ≠ [] := by simp [hcut]
      have hhead := List.head_dropWhile_not (fun c => !isCut c) hne
      simpa [hcut] using hhead
    have hmem : d ∈ front := by
      rw [← hsplit, hcut]
      exact List.mem_append_right _ List.mem_cons_self
    have hnot : ¬ ∀ c ∈ front, isCut c = false := fun h => by
      simp [h d hmem] at hd
    have hcases : d = '?' ∨ d = '#' := by simpa [isCut] using hd
    simp only [queryPart, happend, hcut, List.isEmpty_cons, Bool.false_eq_true, ite_false,
      List.cons_append]
    rcases hcases with rfl | rfl
    · -- the URL has a query of its own
      simp only [Option.map_some, Option.some.injEq]
      have hfront : '#' ∈ front ↔ '#' ∈ rest := by
        have hbefore : '#' ∉ front.takeWhile fun c => !isCut c := fun h => by
          have hno := List.mem_takeWhile_imp h
          simp [isCut] at hno
        rw [← hsplit, hcut]
        simp [hbefore]
      rw [hfront]
      by_cases hfragment : '#' ∈ rest
      · rw [takeWhile_append_of_mem hfragment, takeWhile_append_of_mem hfragment]
        simp only [hnot, false_or, hfragment, true_and]
        exact ⟨fun h => ⟨hplain _ h, h⟩, And.right⟩
      · have hlong : encodeQuery ((rest ++ '/' :: '?' :: urlEnd query).takeWhile (· ≠ '#')) ≠
            query := by
          intro h
          have hquery := hplain _ h
          have hrest : ∀ c ∈ rest, decide (c ≠ '#') = true := fun c hc => by
            simpa using fun heq : c = '#' => hfragment (heq ▸ hc)
          have htake : ('/' :: '?' :: query).takeWhile (· ≠ '#') = '/' :: '?' :: query := by
            rw [List.takeWhile_cons_of_pos (by decide), List.takeWhile_cons_of_pos (by decide),
              takeWhile_of_forall hquery]
          rw [List.takeWhile_append_of_pos hrest, urlEnd_of_forall hquery, htake] at h
          have hle := length_le_encodeQuery (rest ++ '/' :: '?' :: query)
          rw [h, List.length_append, List.length_cons, List.length_cons] at hle
          omega
        simp only [hnot, hfragment, false_and, or_false, and_false, iff_false]
        exact hlong
    · -- the URL has a fragment and no query
      simp [hnot]

end Append

/-! ## Parameters -/

/-- Names with their values, the values encoded. -/
def writeParams (keep : UInt8 → Bool) (params : List (List Char × Bytes)) : List Char :=
  ['&'].intercalate (params.map fun param => param.1 ++ '=' :: percentEncode keep param.2)

/-- A text is split at `&`, and each part at its first `=`; the values are decoded. -/
def readParams (l : List Char) : List (List Char × Bytes) :=
  (l.splitOn '&').map fun part =>
    (part.takeWhile (· ≠ '='), percentDecode ((part.dropWhile (· ≠ '=')).drop 1))

section Params

variable {keep : UInt8 → Bool} {params : List (List Char × Bytes)}

/-- A character that is written stands between the parameters, or in a name, or behind it, or in an
encoded value. -/
lemma mem_writeParams {c : Char} (h : c ∈ writeParams keep params) :
    c = '&' ∨ ∃ param ∈ params, c ∈ param.1 ∨ c = '=' ∨ c ∈ percentEncode keep param.2 := by
  induction params with
  | nil => simp [writeParams] at h
  | cons param params ih =>
    have hhead : c ∈ param.1 ++ '=' :: percentEncode keep param.2 →
        ∃ param' ∈ param :: params,
          c ∈ param'.1 ∨ c = '=' ∨ c ∈ percentEncode keep param'.2 := fun hc =>
      ⟨param, List.mem_cons_self, by simpa using hc⟩
    cases params with
    | nil => exact .inr (hhead (by simpa [writeParams] using h))
    | cons next rest =>
      have hsplit : writeParams keep (param :: next :: rest) =
          (param.1 ++ '=' :: percentEncode keep param.2) ++ ['&'] ++
            writeParams keep (next :: rest) := List.intercalate_cons_cons
      rw [hsplit, List.mem_append, List.mem_append, List.mem_singleton] at h
      rcases h with (hc | rfl) | hc
      · exact .inr (hhead hc)
      · exact .inl rfl
      · refine (ih hc).imp_right ?_
        rintro ⟨param', hmem, hparam'⟩
        exact ⟨param', List.mem_cons_of_mem param hmem, hparam'⟩

lemma amp_notMem_percentEncode (hamp : keep 0x26 = false) (hkeep : Keepable keep) (bytes : Bytes) :
    '&' ∉ percentEncode keep bytes := by
  intro h
  rcases mem_percentEncode h with ⟨b, hb, heq⟩ | hdigit
  · have hascii := (hkeep b hb).1
    have hbytes := utf8EncodeChar_byte hascii
    rw [← heq] at hbytes
    have hb' : b = 0x26 := (List.cons.inj hbytes).1.symm
    rw [hb', hamp] at hb
    cases hb
  · revert hdigit
    decide

/-- The parts between the ampersands are the parameters. -/
lemma splitOn_writeParams (hkeep : Keepable keep) (hamp : keep 0x26 = false)
    (hnames : ∀ param ∈ params, '&' ∉ param.1) (hne : params ≠ []) :
    (writeParams keep params).splitOn '&' =
      params.map fun param => param.1 ++ '=' :: percentEncode keep param.2 := by
  refine List.splitOn_intercalate '&' (fun part hpart => ?_) (by simpa using hne)
  obtain ⟨param, hparam, rfl⟩ := List.mem_map.mp hpart
  simp [hnames param hparam, amp_notMem_percentEncode hamp hkeep]

/-- **Parameters are read as they were written**, whatever is in their values. -/
theorem readParams_writeParams (hkeep : Keepable keep) (hamp : keep 0x26 = false)
    (hnames : ∀ param ∈ params, '&' ∉ param.1 ∧ '=' ∉ param.1) (hne : params ≠ []) :
    readParams (writeParams keep params) = params := by
  have hsplit := splitOn_writeParams hkeep hamp (fun param hparam => (hnames param hparam).1) hne
  rw [readParams, hsplit, List.map_map]
  refine (List.map_congr_left fun param hparam => ?_).trans (List.map_id params)
  obtain ⟨name, value⟩ := param
  have hname : ∀ c ∈ name, decide (c ≠ '=') = true := fun c hc => by
    simpa using fun heq : c = '=' => (hnames _ hparam).2 (heq ▸ hc)
  have hvalue := percentDecode_percentEncode hkeep value []
  simp only [List.append_nil] at hvalue
  simp only [Function.comp_apply, id_eq, List.takeWhile_append_of_pos hname,
    List.dropWhile_append_of_pos hname, List.takeWhile_cons, List.dropWhile_cons, ne_eq,
    not_true_eq_false, decide_false, Bool.false_eq_true, ite_false, List.append_nil,
    List.drop_succ_cons, List.drop_zero, hvalue]
  simp [percentDecode]

end Params

end Lib
