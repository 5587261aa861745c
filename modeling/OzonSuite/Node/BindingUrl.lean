/-
# The binding URL

A pairing hands three texts to the OpenClaw page in the fragment of a URL: the code, and where the
code is claimed and the manifest is read.  The node checks the base URL when it starts, the shell
checks the URL before it opens it, and the page reads the fragment.  This file takes the three texts
all the way.
-/
import OzonSuite.Lib.Urls
import OzonSuite.Node.PairingClaims

namespace OzonSuite

open Lib

variable {Url : Type}

/-! ## The two checks -/

/-- The node accepts the base URL from its environment. -/
def validateOpenclawBindUrl (url : UrlLibrary Url) (value : String) : Except String Unit := do
  let u ← okOr (url.parse value) "OZON_OPENCLAW_BIND_URL must be a valid URL"
  refuseIf (url.path u ≠ "/openclaw/import")
    "OZON_OPENCLAW_BIND_URL must point to /openclaw/import"
  let host := (url.host u).getD ""
  let allowed :=
    (url.scheme u = "https" ∧ (host = "ozonclaw.jl696.cn" ∨ host = "www.ozonclaw.jl696.cn") ∧
      url.port u = some 443) ∨
    (url.scheme u = "http" ∧ (host = "127.0.0.1" ∨ host = "localhost") ∧ url.port u = some 18789)
  refuseIf (¬ allowed) ("OZON_OPENCLAW_BIND_URL must be " ++
    "https://ozonclaw.jl696.cn/openclaw/import or http://127.0.0.1:18789/openclaw/import")

/-- What stands before the code in the fragment of a binding link. -/
def pairingCodePrefix : String := "ozon66_pairing_code="

/-- The shell accepts a URL to open. -/
def validateOpenclawBindingUrl (url : UrlLibrary Url) (bindUrl : String) : Except String Unit := do
  let parsed ← okOr (url.parse bindUrl) "invalid binding URL"
  refuseIf (url.path parsed ≠ "/openclaw/import") "binding URL path is not allowed"
  let host := (url.host parsed).getD ""
  let originAllowed :=
    (url.scheme parsed = "https" ∧
      (host = "ozonclaw.jl696.cn" ∨ host = "www.ozonclaw.jl696.cn") ∧
      url.port parsed = some 443) ∨
    (url.scheme parsed = "http" ∧ (host = "127.0.0.1" ∨ host = "localhost") ∧
      url.port parsed = some 18789)
  refuseIf (¬ originAllowed) "binding URL origin is not allowed"
  let fragment ← okOr (url.fragment parsed) "binding URL is missing pairing fragment"
  refuseIf ((fragment.toList.splitOn '&').all fun part =>
      !pairingCodePrefix.toList.isPrefixOf part)
    "binding URL is missing pairing code"

/-! ## Reading the fragment -/

/-- The page splits the fragment at `&` and each part at its first `=`, and decodes the values. -/
def fragmentParams (fragment : String) : List (String × String) :=
  (readParams fragment.toList).map fun param =>
    (String.ofList param.1, fromUtf8Lossy param.2)

/-! ## The encoder of the node -/

/-- The bytes that the node leaves as they are. -/
def isUnreserved (b : UInt8) : Bool :=
  b.toNat < 128 &&
    ((Char.ofNat b.toNat).isAlphanum || Char.ofNat b.toNat ∈ ['-', '_', '.', '~'])

lemma keepable_isUnreserved : Keepable isUnreserved := by
  intro b hb
  simp only [isUnreserved, Bool.and_eq_true, decide_eq_true_eq] at hb
  refine ⟨hb.1, ?_⟩
  rintro rfl
  revert hb
  decide

lemma percentEncodeByte_eq (b : UInt8) :
    percentEncodeByte b = if isUnreserved b then [Char.ofNat b.toNat] else percentByte b := by
  have hdigit : ∀ n < 16, nibbleToHex n = upperHexDigit n := by decide
  have hb : b.toNat < 256 := UInt8.toNat_lt_size b
  rw [percentEncodeByte, percentByte, hdigit _ (by omega), hdigit _ (by omega)]
  refine if_congr ?_ rfl rfl
  simp [isUnreserved]

lemma percentEncodeUrlComponent_eq (value : String) :
    (percentEncodeUrlComponent value).toList = percentEncode isUnreserved (utf8Bytes value) := by
  rw [percentEncodeUrlComponent, String.toList_ofList, percentEncode, utf8Bytes]
  congr 1
  funext b
  exact percentEncodeByte_eq b

/-- The names and the values of the fragment. -/
def bindingParams (pairingCode claimUrl manifestUrl : String) : List (List Char × Bytes) :=
  [("ozon66_pairing_code".toList, utf8Bytes pairingCode), ("claim_url".toList, utf8Bytes claimUrl),
    ("manifest_url".toList, utf8Bytes manifestUrl)]

section Fragment

variable {pairingCode claimUrl manifestUrl : String}

/-- What the node writes into the fragment. -/
lemma toList_fragment :
    (s!"ozon66_pairing_code={percentEncodeUrlComponent pairingCode}" ++
      s!"&claim_url={percentEncodeUrlComponent claimUrl}" ++
      s!"&manifest_url={percentEncodeUrlComponent manifestUrl}").toList =
      writeParams isUnreserved (bindingParams pairingCode claimUrl manifestUrl) := by
  simp only [writeParams, bindingParams, List.map_cons, List.map_nil,
    ← percentEncodeUrlComponent_eq]
  simp [toString, String.toList_append]

lemma isFragmentChar_of_mem {bytes : Bytes} {c : Char} (h : c ∈ percentEncode isUnreserved bytes) :
    isFragmentChar c = true := by
  rcases mem_percentEncode h with ⟨b, hb, rfl⟩ | hdigit
  · have key : ∀ n < 128, isUnreserved (UInt8.ofNat n) = true →
        isFragmentChar (Char.ofNat n) = true := by decide
    refine key b.toNat (keepable_isUnreserved b hb).1 ?_
    rwa [UInt8.ofNat_toNat]
  · have key : "%0123456789ABCDEF".toList.all isFragmentChar = true := by decide
    exact List.all_eq_true.mp key c hdigit

/-- The names consist of plain characters. -/
lemma name_bindingParams {param : List Char × Bytes}
    (h : param ∈ bindingParams pairingCode claimUrl manifestUrl) :
    '&' ∉ param.1 ∧ '=' ∉ param.1 ∧ ∀ c ∈ param.1, isFragmentChar c = true := by
  have hall : '&' ∉ param.1 ∧ '=' ∉ param.1 ∧ param.1.all isFragmentChar = true := by
    simp only [bindingParams, List.mem_cons, List.not_mem_nil, or_false] at h
    rcases h with rfl | rfl | rfl <;> dsimp only <;> decide
  exact ⟨hall.1, hall.2.1, List.all_eq_true.mp hall.2.2⟩

/-- Nothing that the node writes into the fragment is encoded once more. -/
lemma isFragmentChar_of_mem_writeParams {c : Char}
    (h : c ∈ writeParams isUnreserved (bindingParams pairingCode claimUrl manifestUrl)) :
    isFragmentChar c = true := by
  rcases mem_writeParams h with rfl | ⟨param, hparam, hc | rfl | hc⟩
  · decide
  · exact (name_bindingParams hparam).2.2 c hc
  · decide
  · exact isFragmentChar_of_mem hc

/-- The page reads back what the node has written. -/
lemma fragmentParams_writeParams : fragmentParams (String.ofList
    (writeParams isUnreserved (bindingParams pairingCode claimUrl manifestUrl))) =
    [("ozon66_pairing_code", pairingCode), ("claim_url", claimUrl),
      ("manifest_url", manifestUrl)] := by
  have hread : readParams (writeParams isUnreserved
      (bindingParams pairingCode claimUrl manifestUrl)) =
      bindingParams pairingCode claimUrl manifestUrl :=
    readParams_writeParams keepable_isUnreserved (by decide)
      (fun param hparam => ⟨(name_bindingParams hparam).1, (name_bindingParams hparam).2.1⟩)
      (by simp [bindingParams])
  rw [fragmentParams, String.toList_ofList, hread]
  simp [bindingParams, utf8Bytes, fromUtf8Lossy_encode]

/-- The shell finds the code in what the node has written. -/
lemma exists_code_part : ((writeParams isUnreserved
    (bindingParams pairingCode claimUrl manifestUrl)).splitOn '&').all (fun part =>
      !pairingCodePrefix.toList.isPrefixOf part) = false := by
  rw [splitOn_writeParams keepable_isUnreserved (by decide)
    (fun param hparam => (name_bindingParams hparam).1) (by simp [bindingParams]),
    List.all_eq_false]
  refine ⟨_, List.mem_map_of_mem List.mem_cons_self, ?_⟩
  have hcode : pairingCodePrefix.toList = "ozon66_pairing_code".toList ++ ['='] := by decide
  have happend : "ozon66_pairing_code".toList ++
      '=' :: percentEncode isUnreserved (utf8Bytes pairingCode) =
        pairingCodePrefix.toList ++ percentEncode isUnreserved (utf8Bytes pairingCode) := by
    rw [hcode, List.append_assoc, List.singleton_append]
  rw [Bool.not_eq_true', Bool.not_eq_false, List.isPrefixOf_iff_prefix, happend]
  exact List.prefix_append _ _

end Fragment

/-! ## The whole way -/

/-- The node sets fragments with its URL library, and fails on what that cannot parse. -/
def PairingCrates.UsesUrls (x : PairingCrates) (url : UrlLibrary Url) : Prop :=
  ∀ s f, x.withFragment s f = (url.parse s).map fun u => url.text (url.setFragment u f)

/-- **The binding URL arrives.**  From a base URL that the node accepts, and for any three texts, it
makes a URL that the shell accepts and in whose fragment the page reads the three texts under their
three names. -/
theorem binding_url_round_trip (x : PairingCrates) (url : UrlLibrary Url) (hurl : url.SetsFragments)
    (hnode : x.UsesUrls url) (baseUrl pairingCode claimUrl manifestUrl : String)
    (hbase : validateOpenclawBindUrl url baseUrl = .ok ()) :
    ∃ bindUrl parsed fragment,
      buildOpenclawBindUrl x baseUrl pairingCode claimUrl manifestUrl = .ok bindUrl ∧
      validateOpenclawBindingUrl url bindUrl = .ok () ∧
      url.parse bindUrl = some parsed ∧ url.fragment parsed = some fragment ∧
      fragmentParams fragment = [("ozon66_pairing_code", pairingCode), ("claim_url", claimUrl),
        ("manifest_url", manifestUrl)] := by
  simp only [validateOpenclawBindUrl, Except.bind_eq_ok, Except.okOr_eq_ok, Except.refuseIf_eq_ok]
    at hbase
  obtain ⟨u, hparse, -, hpath, horigin⟩ := hbase
  let l := writeParams isUnreserved (bindingParams pairingCode claimUrl manifestUrl)
  let bound := url.setFragment u (String.ofList l)
  have hbound : url.parse (url.text bound) = some bound := hurl.parse_text baseUrl u _ hparse
  have hfragment : url.fragment bound = some (String.ofList l) :=
    hurl.fragment u _ fun c hc => isFragmentChar_of_mem_writeParams (by simpa using hc)
  refine ⟨url.text bound, bound, String.ofList l, ?_, ?_, hbound, hfragment,
    fragmentParams_writeParams⟩
  · rw [buildOpenclawBindUrl, hnode, hparse, ← String.ofList_toList (s := _ ++ _), toList_fragment]
    rfl
  · simp only [validateOpenclawBindingUrl, Except.bind_eq_ok, Except.okOr_eq_ok,
      Except.refuseIf_eq_ok]
    refine ⟨bound, hbound, (), ?_, (), ?_, String.ofList l, hfragment, ?_⟩
    · rwa [hurl.path]
    · rwa [hurl.scheme, hurl.host, hurl.port]
    · rw [String.toList_ofList, exists_code_part]
      decide

/-! ### A page with all the separators -/

/-- The page on this machine, with a fragment or without one. -/
def localPage : String := "http://127.0.0.1:18789/openclaw/import"

/-- A library that knows one address, with any fragment. -/
def localPages : UrlLibrary (Option (List Char)) where
  parse s :=
    if s.toList.takeWhile (· ≠ '#') = localPage.toList then
      some (match s.toList.dropWhile (· ≠ '#') with
        | [] => none
        | _ :: fragment => some (fragment.filter isFragmentChar))
    else none
  scheme _ := "http"
  host _ := some "127.0.0.1"
  port _ := some 18789
  path _ := "/openclaw/import"
  query _ := none
  fragment u := u.map String.ofList
  setFragment _ f := some (f.toList.filter isFragmentChar)
  text u := String.ofList (localPage.toList ++ (u.map ('#' :: ·)).getD [])

lemma localPages_setsFragments : localPages.SetsFragments where
  parse_text s u f _ := by
    have hpage : ∀ c ∈ localPage.toList, decide (c ≠ '#') = true :=
      List.all_eq_true.mp (by decide)
    simp only [localPages, Option.map_some, Option.getD_some, String.toList_ofList,
      List.takeWhile_append_of_pos hpage, List.dropWhile_append_of_pos hpage]
    simp
  scheme _ _ := rfl
  host _ _ := rfl
  port _ _ := rfl
  path _ _ := rfl
  fragment u f h := by
    have hfilter : f.toList.filter isFragmentChar = f.toList := List.filter_eq_self.mpr h
    simp [localPages, hfilter]

/-- The libraries of the node, with that one for addresses. -/
def localPageCrates : PairingCrates :=
  { leaseCrates with
    withFragment := fun s f => (localPages.parse s).map fun u =>
      localPages.text (localPages.setFragment u f) }

/-- The base URL has a fragment already, and the texts have separators, a percent sign and letters
that are longer than a byte. -/
theorem binding_url_round_trip_separators :
    ∃ bindUrl parsed fragment,
      buildOpenclawBindUrl localPageCrates (localPage ++ "#old") "a&b=c" "100%" "код" =
        .ok bindUrl ∧
      validateOpenclawBindingUrl localPages bindUrl = .ok () ∧
      localPages.parse bindUrl = some parsed ∧ localPages.fragment parsed = some fragment ∧
      fragmentParams fragment =
        [("ozon66_pairing_code", "a&b=c"), ("claim_url", "100%"), ("manifest_url", "код")] :=
  binding_url_round_trip localPageCrates localPages localPages_setsFragments (fun _ _ => rfl)
    (localPage ++ "#old") "a&b=c" "100%" "код" (by decide)

end OzonSuite
