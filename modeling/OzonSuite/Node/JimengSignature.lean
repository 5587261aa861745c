/-
# The signature of a request to Jimeng

Jimeng checks a signature over the method, the path, the query, the host and the body of a request.
The node signs what it means to send; what is sent is made from the URL by the HTTP client.  This
file says when the two are the same.
-/
import OzonSuite.Lib.Urls
import OzonSuite.Node.ModelRegistry
import OzonSuite.Node.VideoFrames

namespace OzonSuite

open Lib

variable {Url : Type}

/-! ## What is sent -/

/-- The method, as a request spells it. -/
def HttpMethod.name : HttpMethod → String
  | .get => "GET"
  | .post => "POST"

/-- A request, as the server sees it. -/
structure SentRequest where
  method : String
  path : String
  query : Option String
  host : Option String
  headers : List (String × String)
  body : Option Bytes

/-- `execute_video_spec`, up to the answer: the URL is parsed, a host that is given as a header is
sent as it is given, and the body is written out. -/
def sentRequest (x : VideoCrates) (url : UrlLibrary Url) (spec : HttpSpec) : Option SentRequest :=
  (url.parse spec.url).bind fun u =>
    if url.scheme u = "https" ∨ url.scheme u = "http" then some
      { method := spec.method.name
        path := url.path u
        query := url.query u
        host := (spec.headers.lookup "Host").or (url.host u)
        headers := spec.headers
        body := spec.body.map x.jsonBytes }
    else none

/-! ## What is signed -/

/-- What is signed of a request that creates a job. -/
def jimengCreateSigned (x : VideoCrates) (i : CreateInputs) (now : ℤ) : VolcSigV4Input :=
  jimengSigningInput x i.apiKey i.extra (trimBase i.baseUrl) "POST" "/"
    (jimengQuery i.extra (jimengCreateAction i.extra)) (x.jsonBytes (jimengCreateBody i)) now

/-- What is signed of a request for the status of a job. -/
def jimengPollSigned (x : VideoCrates) (i : PollInputs) (now : ℤ) : VolcSigV4Input :=
  jimengSigningInput x i.apiKey i.extra (trimBase i.baseUrl) "POST" "/"
    (jimengQuery i.extra "CVSync2AsyncGetResult") (x.jsonBytes (jimengPollBody i)) now

/-- What is signed is what is sent. -/
structure Covers (input : VolcSigV4Input) (sent : SentRequest) : Prop where
  method : input.method = sent.method
  path : input.canonicalUri = sent.path
  query : sent.query = some input.canonicalQuery
  host : sent.host = some input.host
  body : sent.body = some input.body

/-- What a server that knows the secret signs of a request, to compare it with the signature that
the request carries. -/
def SentRequest.resigned (sent : SentRequest) (accessKey secretKey region service : String) :
    VolcSigV4Input :=
  { accessKey := accessKey
    secretKey := secretKey
    region := region
    service := service
    host := sent.host.getD ""
    method := sent.method
    canonicalUri := sent.path
    canonicalQuery := sent.query.getD ""
    body := sent.body.getD []
    xDate := (sent.headers.lookup "X-Date").getD "" }

/-- The server finds the signature that it computes itself. -/
def SentRequest.Verifies (x : VideoCrates) (sent : SentRequest) (input : VolcSigV4Input) : Prop :=
  sent.headers.lookup "Authorization" = some ((sent.resigned input.accessKey input.secretKey
    input.region input.service).authorization x)

/-! ## When the signature covers the request -/

/-- A query that is appended to a base URL is sent as it stands, to the root: it consists of query
characters; the base URL has no path of its own; and it has neither a query nor a fragment, or has
this very query, with a fragment behind it. -/
structure Signable (pathOf : List Char → String) (base query : String) : Prop where
  plain : ∀ c ∈ query.toList, isQueryChar c = true
  root : pathOf (beforeQuery (urlInput (base ++ "/"))) = "/"
  own : (∀ c ∈ base.toList, isCut c = false) ∨ '#' ∈ base.toList ∧
    (queryPart (urlInput (base ++ "/"))).map encodeQuery = some query.toList

section Coverage

variable {x : VideoCrates} {url : UrlLibrary Url} {pathOf : List Char → String}
  {input : VolcSigV4Input} {sent : SentRequest} {base : String} {body : Json}

/-- A request that goes to the root of a base URL, with what is signed of it. -/
def signedSpec (x : VideoCrates) (base : String) (input : VolcSigV4Input) (body : Json) :
    HttpSpec :=
  { method := .post
    url := base ++ "/?" ++ input.canonicalQuery
    headers := volcSigv4 x input ++ [jsonContent]
    body := some body }

/-- A server that computes the signature of what it sees comes to the one that the request
carries. -/
lemma verifies_of_covers (hheaders : sent.headers = volcSigv4 x input ++ [jsonContent])
    (h : Covers input sent) : sent.Verifies x input := by
  have hinput : sent.resigned input.accessKey input.secretKey input.region input.service =
      input := by
    simp [SentRequest.resigned, hheaders, volcSigv4, List.lookup_cons, h.host, h.query, h.body,
      ← h.method, ← h.path]
  rw [SentRequest.Verifies, hinput, hheaders]
  simp [volcSigv4, List.lookup_cons]

/-- What is sent of such a request: the method, the host and the body are those that were signed,
and the path and the query are those of the URL. -/
lemma sentRequest_signedSpec (hurl : url.ReadsAddresses pathOf)
    (h : sentRequest x url (signedSpec x base input body) = some sent) :
    sent = { method := "POST"
             path := pathOf (beforeQuery (urlInput (base ++ "/?" ++ input.canonicalQuery)))
             query := (queryPart (urlInput (base ++ "/?" ++ input.canonicalQuery))).map fun l =>
               String.ofList (encodeQuery l)
             host := some input.host
             headers := volcSigv4 x input ++ [jsonContent]
             body := some (x.jsonBytes body) } := by
  obtain ⟨u, hparse, hsome⟩ := Option.bind_eq_some_iff.mp h
  split at hsome
  · next hscheme =>
    obtain rfl := Option.some.inj hsome
    rw [hurl.path _ u hparse hscheme, hurl.query _ u hparse hscheme]
    simp [signedSpec, HttpMethod.name, volcSigv4]
  · cases hsome

/-- **When the signature covers a request that goes to the root of a base URL.** -/
theorem covers_iff (hurl : url.ReadsAddresses pathOf) (hbody : input.body = x.jsonBytes body)
    (hmethod : input.method = "POST") (huri : input.canonicalUri = "/")
    (h : sentRequest x url (signedSpec x base input body) = some sent) :
    (Covers input sent ↔ Signable pathOf base input.canonicalQuery) ∧
      (Covers input sent → sent.Verifies x input) := by
  obtain rfl := sentRequest_signedSpec hurl h
  refine ⟨?_, verifies_of_covers rfl⟩
  have hfront : urlFront (base ++ "/").toList = urlFront base.toList ++ ['/'] := by
    rw [String.toList_append]
    exact urlFront_concat (by decide) (by decide)
  have hslash : urlInput (base ++ "/") = urlFront base.toList ++ ['/'] :=
    urlInput_append (c := '/') (by decide) (by decide) base "/" rfl
  -- what is sent is the front of the base URL, a slash and the canonical query
  have hinput : urlInput (base ++ "/?" ++ input.canonicalQuery) =
      urlFront base.toList ++ '/' :: '?' :: urlEnd input.canonicalQuery.toList := by
    have hassoc : base ++ "/?" ++ input.canonicalQuery =
        (base ++ "/") ++ ("?" ++ input.canonicalQuery) := by
      simp only [String.append_assoc, show "/?" = "/" ++ "?" from rfl]
    rw [hassoc, urlInput_append (c := '?') (by decide) (by decide) _ _
      (by rw [String.toList_append]; rfl), hfront, List.append_assoc]
    rfl
  -- the query arrives if the base has neither a query nor a fragment, or has this query and a
  -- fragment that takes the rest
  have hquery : (∃ l, queryPart (urlInput (base ++ "/?" ++ input.canonicalQuery)) = some l ∧
      String.ofList (encodeQuery l) = input.canonicalQuery) ↔
      (∀ c ∈ input.canonicalQuery.toList, isQueryChar c = true) ∧
      ((∀ c ∈ base.toList, isCut c = false) ∨ '#' ∈ base.toList ∧
        (queryPart (urlInput (base ++ "/"))).map encodeQuery =
          some input.canonicalQuery.toList) := by
    have hfragment : '#' ∈ urlFront base.toList ↔ '#' ∈ base.toList :=
      mem_urlFront (by decide) (by decide)
    rw [hinput, hslash, ← forall_isCut_urlFront, ← hfragment, ← query_append_iff,
      Option.map_eq_some_iff]
    refine exists_congr fun l => and_congr_right fun _ => ?_
    rw [← String.toList_inj, String.toList_ofList]
  have hpath : beforeQuery (urlInput (base ++ "/?" ++ input.canonicalQuery)) =
      beforeQuery (urlInput (base ++ "/")) := by
    rw [hinput, hslash, beforeQuery_append]
  rw [hpath]
  constructor
  · intro hcovers
    obtain ⟨hplain, hown⟩ := hquery.mp (Option.map_eq_some_iff.mp hcovers.query)
    exact ⟨hplain, hcovers.path.symm.trans huri, hown⟩
  · intro hsignable
    exact ⟨hmethod, huri.trans hsignable.root.symm,
      Option.map_eq_some_iff.mpr (hquery.mpr ⟨hsignable.plain, hsignable.own⟩), rfl,
      congrArg some hbody.symm⟩

lemma covers_create (hurl : url.ReadsAddresses pathOf) {i : CreateInputs} {now : ℤ}
    (h : sentRequest x url (buildCreate x .jimeng i now) = some sent) :
    (Covers (jimengCreateSigned x i now) sent ↔
      Signable pathOf (trimBase i.baseUrl) (jimengQuery i.extra (jimengCreateAction i.extra))) ∧
    (Covers (jimengCreateSigned x i now) sent → sent.Verifies x (jimengCreateSigned x i now)) :=
  covers_iff hurl rfl rfl rfl h

end Coverage

/-- **When the signature of Jimeng covers the request.**  Of a request that creates a job or asks
for its status, and that is sent, the method, the path, the query, the host and the body are those
that were signed just when the query is signable under the base URL; and then a server that computes
the signature of what it sees comes to the one that the request carries. -/
theorem jimeng_signature_covers_iff (x : VideoCrates) (url : UrlLibrary Url)
    (pathOf : List Char → String) (hurl : url.ReadsAddresses pathOf) :
    (∀ (i : CreateInputs) (now : ℤ) (sent : SentRequest),
      sentRequest x url (buildCreate x .jimeng i now) = some sent →
      (Covers (jimengCreateSigned x i now) sent ↔
        Signable pathOf (trimBase i.baseUrl)
          (jimengQuery i.extra (jimengCreateAction i.extra))) ∧
      (Covers (jimengCreateSigned x i now) sent →
        sent.Verifies x (jimengCreateSigned x i now))) ∧
    ∀ (i : PollInputs) (now : ℤ) (sent : SentRequest),
      sentRequest x url (buildPoll x .jimeng i now) = some sent →
      (Covers (jimengPollSigned x i now) sent ↔
        Signable pathOf (trimBase i.baseUrl) (jimengQuery i.extra "CVSync2AsyncGetResult")) ∧
      (Covers (jimengPollSigned x i now) sent → sent.Verifies x (jimengPollSigned x i now)) :=
  ⟨fun _ _ _ h => covers_create hurl h,
    fun _ _ _ h => covers_iff hurl rfl rfl rfl h⟩

/-- Addresses that begin with `https://`: the path is what follows the host. -/
def addressPath (l : List Char) : String :=
  match (l.drop 8).dropWhile (· ≠ '/') with
  | [] => "/"
  | path => String.ofList path

/-- A library that reads such addresses. -/
def addresses : UrlLibrary (List Char) where
  parse s := some (urlInput s)
  scheme _ := "https"
  host l := some (String.ofList (((beforeQuery l).drop 8).takeWhile (· ≠ '/')))
  port _ := some 443
  path l := addressPath (beforeQuery l)
  query l := (queryPart l).map fun query => String.ofList (encodeQuery query)
  fragment _ := none
  setFragment l _ := l
  text := String.ofList

lemma addresses_reads : addresses.ReadsAddresses addressPath where
  query _ _ h _ := by rw [← Option.some.inj h]; rfl
  path _ _ h _ := by rw [← Option.some.inj h]; rfl

/-- A clip that is made by Jimeng. -/
def jimengClip (baseUrl : String) : CreateInputs :=
  { turnClip none with baseUrl := baseUrl, apiKey := "ak:sk" }

/-- The query of a clip without parameters of its own. -/
lemma jimengClip_plain (c : Char)
    (h : c ∈ (jimengQuery [] (jimengCreateAction [])).toList) : isQueryChar c = true := by
  have key : (jimengQuery [] (jimengCreateAction [])).toList.all isQueryChar = true := by decide
  exact List.all_eq_true.mp key c h

/-- A base URL that is a host alone. -/
theorem jimeng_signature_covers_host :
    ∃ sent, sentRequest unsignedCrates addresses
        (buildCreate unsignedCrates .jimeng (jimengClip "https://api.volc.io") 0) = some sent ∧
      Covers (jimengCreateSigned unsignedCrates (jimengClip "https://api.volc.io") 0) sent := by
  refine ⟨_, rfl, (((jimeng_signature_covers_iff unsignedCrates addresses addressPath
    addresses_reads).1 (jimengClip "https://api.volc.io") 0 _ rfl).1).mpr ?_⟩
  refine ⟨jimengClip_plain, by decide, .inl fun c hc => ?_⟩
  have key : (trimBase "https://api.volc.io").toList.all (fun c => !isCut c) = true := by decide
  simpa using List.all_eq_true.mp key c hc

/-- A base URL with a path: the root is signed, and the request goes to the path. -/
theorem relay_path_not_covered :
    ¬ ∀ (Url : Type) (crates : NodeCrates) (x : VideoCrates) (url : UrlLibrary Url)
      (pathOf : List Char → String) (value : String) (i : CreateInputs) (now : ℤ)
      (sent : SentRequest), url.ReadsAddresses pathOf →
      (∀ s, crates.parseUrl s = (url.parse s).map fun u => (url.scheme u, (url.host u).getD "")) →
      normalizeProviderBaseUrl crates value = .ok i.baseUrl →
      sentRequest x url (buildCreate x .jimeng i now) = some sent →
      Covers (jimengCreateSigned x i now) sent := by
  intro h
  let crates : NodeCrates :=
    { leaseCrates with
      parseUrl := fun s =>
        (addresses.parse s).map fun u => (addresses.scheme u, (addresses.host u).getD "") }
  obtain ⟨sent, hsent⟩ : ∃ sent, sentRequest unsignedCrates addresses
      (buildCreate unsignedCrates .jimeng (jimengClip "https://relay.io/volc") 0) = some sent :=
    ⟨_, rfl⟩
  have hcovers := h (List Char) crates unsignedCrates addresses addressPath
    "https://relay.io/volc" (jimengClip "https://relay.io/volc") 0 sent addresses_reads
    (fun _ => rfl) (by decide) hsent
  have hsignable := (covers_create addresses_reads hsent).1.mp hcovers
  have hroot := hsignable.root
  revert hroot
  decide

end OzonSuite
