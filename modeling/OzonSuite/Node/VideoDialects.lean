/-
# The dialects of cloud video

A video is made by a provider from a first frame, perhaps a last frame, and a prompt.  Every vendor
has its own form of the request that creates the job and of the request that asks for its status;
two of them want it signed.  This file has the requests of all dialects, and what a vendor finds of
the frames and of the prompt in a body of its form.
-/
import OzonSuite.Lib.Utf8
import OzonSuite.Node.OzonClient

namespace OzonSuite

open Lib

/-! ## Requests -/

/-- The method of a request. -/
inductive HttpMethod
  | get
  | post
deriving DecidableEq

/-- A request, as the HTTP client is told to send it. -/
structure HttpSpec where
  method : HttpMethod
  url : String
  headers : List (String × String)
  body : Option Json

/-- A request, with the pairs that the client adds to the query of its URL. -/
structure OutboundRequest extends HttpSpec where
  query : List (String × String)

/-- The header with a key. -/
def bearer (apiKey : String) : String × String := ("Authorization", "Bearer " ++ apiKey)

/-- Put the key on a request in the style of the provider. -/
def applyAuth (request : OutboundRequest) (auth : AuthStyle) (apiKey : String) : OutboundRequest :=
  match auth with
  | .bearer => { request with headers := request.headers ++ [bearer apiKey] }
  | .header name => { request with headers := request.headers ++ [(name, apiKey)] }
  | .query name => { request with query := request.query ++ [(name, apiKey)] }

/-- The address without slashes at its end. -/
def trimBase (baseUrl : String) : String := trimTextEnd (· = '/') baseUrl

/-- The address names the version already. -/
def endsWithV1 (base : String) : Bool := "/v1".toList.isSuffixOf base.toList

/-- The path of a kind of provider. -/
def ProviderKind.suffix : ProviderKind → String
  | .openAiImages => "images/generations"
  | .openAiImagesEdit => "images/edits"
  | .openAiCompatChat => "chat/completions"
  | .cloudVideo => "video/generations"

/-- The address of a kind of provider. -/
def endpointFor (kind : ProviderKind) (baseUrl : String) : String :=
  let base := trimBase baseUrl
  if endsWithV1 base then base ++ "/" ++ kind.suffix else base ++ "/v1/" ++ kind.suffix

namespace Json

/-- The text of a value that is one. -/
def asString : Json → Option String
  | string value => some value
  | _ => none

/-- `body[key] = value`; the order of the fields of an object means nothing. -/
def set (body : Json) (key : String) (value : Json) : Json :=
  match body with
  | object fields => object ((key, value) :: fields.filter (·.1 ≠ key))
  | other => other

/-- The text of a field. -/
def textAt (key : String) (value : Json) : Option String := (value.get? key).bind asString

/-- Set a field where there is a value for it. -/
def setSome (body : Json) (key : String) (value : Option Json) : Json :=
  match value with
  | some value => body.set key value
  | none => body

end Json

/-! ## The library functions -/

/-- What the dialects take from libraries: encodings, hashes, and the printed form of a time. -/
structure VideoCrates where
  jsonBytes : Json → Bytes
  base64Url : Bytes → String
  hmacSha256 : (key message : Bytes) → Bytes
  sha256Hex : Bytes → String
  hexEncode : Bytes → String
  /-- The number that a text is read as, where it is one. -/
  parseFloat : String → Option Json
  /-- A time in seconds, in the basic form of ISO 8601. -/
  formatXDate : ℤ → String

/-- The parameters of a dialect, as the entry of the registry has them. -/
abbrev Extra := List (String × String)

/-- A parameter that is not blank, without the blanks around it. -/
def Extra.text (extra : Extra) (key : String) : Option String :=
  ((extra.lookup key).filter (trim · ≠ "")).map trim

/-- A further setting, or its default. -/
def extraOr (extra : Extra) (key default : String) : String := (extra.text key).getD default

/-- A secret is split at its first colon. -/
def splitAkSk (secret : String) : String × String :=
  match secret.toList.dropWhile (· ≠ ':') with
  | [] => (secret, "")
  | _ :: rest => (String.ofList (secret.toList.takeWhile (· ≠ ':')), String.ofList rest)

/-- The token that Kling asks for. -/
def klingJwt (x : VideoCrates) (accessKey secretKey : String) (now : ℤ) : String :=
  let header := x.base64Url (x.jsonBytes
    (.object [("alg", .string "HS256"), ("typ", .string "JWT")]))
  let payload := x.base64Url (x.jsonBytes
    (.object [("iss", .string accessKey), ("exp", .number (toString (now + 1800))),
      ("nbf", .number (toString (now - 5)))]))
  let signingInput := header ++ "." ++ payload
  signingInput ++ "." ++ x.base64Url (x.hmacSha256 (utf8Bytes secretKey) (utf8Bytes signingInput))

/-! ## The signature of a request -/

/-- What is signed of a request, and with what. -/
structure VolcSigV4Input where
  accessKey : String
  secretKey : String
  region : String
  service : String
  host : String
  method : String
  canonicalUri : String
  canonicalQuery : String
  body : Bytes
  xDate : String

/-- The headers that the signature covers. -/
def volcSignedHeaders : String := "host;x-content-sha256;x-date"

namespace VolcSigV4Input

/-- The digest of the body. -/
def payloadHash (x : VideoCrates) (input : VolcSigV4Input) : String := x.sha256Hex input.body

/-- The text that stands for the request. -/
def canonicalRequest (x : VideoCrates) (input : VolcSigV4Input) : String :=
  "\n".intercalate [input.method, input.canonicalUri, input.canonicalQuery,
    "host:" ++ input.host ++ "\nx-content-sha256:" ++ input.payloadHash x ++ "\nx-date:" ++
      input.xDate ++ "\n",
    volcSignedHeaders, input.payloadHash x]

/-- The day of the request. -/
def date (input : VolcSigV4Input) : String := String.ofList (input.xDate.toList.take 8)

/-- What the signing key is for. -/
def scope (input : VolcSigV4Input) : String :=
  "/".intercalate [input.date, input.region, input.service, "request"]

/-- The text that is signed. -/
def stringToSign (x : VideoCrates) (input : VolcSigV4Input) : String :=
  "\n".intercalate ["HMAC-SHA256", input.xDate, input.scope,
    x.sha256Hex (utf8Bytes (input.canonicalRequest x))]

/-- The key of the signature is derived from the secret, the day, the region and the service. -/
def signingKey (x : VideoCrates) (input : VolcSigV4Input) : Bytes :=
  let kDate := x.hmacSha256 (utf8Bytes input.secretKey) (utf8Bytes input.date)
  let kRegion := x.hmacSha256 kDate (utf8Bytes input.region)
  let kService := x.hmacSha256 kRegion (utf8Bytes input.service)
  x.hmacSha256 kService (utf8Bytes "request")

/-- The signature in hexadecimal. -/
def signature (x : VideoCrates) (input : VolcSigV4Input) : String :=
  x.hexEncode (x.hmacSha256 (input.signingKey x) (utf8Bytes (input.stringToSign x)))

/-- The header with the signature. -/
def authorization (x : VideoCrates) (input : VolcSigV4Input) : String :=
  "HMAC-SHA256 Credential=" ++ input.accessKey ++ "/" ++ input.scope ++ ", SignedHeaders=" ++
    volcSignedHeaders ++ ", Signature=" ++ input.signature x

end VolcSigV4Input

/-- The headers that a signed request carries. -/
def volcSigv4 (x : VideoCrates) (input : VolcSigV4Input) : List (String × String) :=
  [("Host", input.host), ("X-Date", input.xDate), ("X-Content-Sha256", input.payloadHash x),
    ("Authorization", input.authorization x)]

/-- What stands between the scheme, in lower case, and the first slash. -/
def hostOf (url : String) : String :=
  let noScheme :=
    if hasPrefix "https://" url then url.toList.drop 8
    else if hasPrefix "http://" url then url.toList.drop 7
    else url.toList
  String.ofList (noScheme.takeWhile (· ≠ '/'))

/-! ## Creating a job -/

/-- What a video is made from. -/
structure CreateInputs where
  baseUrl : String
  model : String
  apiKey : String
  prompt : String
  firstFrameUrl : String
  lastFrameUrl : Option String
  durationSeconds : ℕ
  extra : Extra

/-- The header that announces JSON. -/
def jsonContent : String × String := ("Content-Type", "application/json")

/-- The request in the dialect of OpenAI. -/
def buildCreateOpenai (i : CreateInputs) : HttpSpec :=
  let body := Json.object [("model", .string i.model), ("prompt", .string i.prompt),
    ("first_frame", .object [("url", .string i.firstFrameUrl)]),
    ("duration_seconds", .number (toString i.durationSeconds))]
  { method := .post
    url := endpointFor .cloudVideo i.baseUrl
    headers := [bearer i.apiKey]
    body := some (body.setSome "last_frame"
      (i.lastFrameUrl.map fun last => .object [("url", .string last)])) }

/-- The request to MiniMax. -/
def buildCreateMinimax (i : CreateInputs) : HttpSpec :=
  let url := trimBase i.baseUrl ++ "/v1/video_generation"
  let body := Json.object [("model", .string i.model), ("prompt", .string i.prompt),
    ("first_frame_image", .string i.firstFrameUrl)]
  { method := .post
    url := match i.extra.text "group_id" with
      | some groupId => url ++ "?GroupId=" ++ groupId
      | none => url
    headers := [bearer i.apiKey, jsonContent]
    body := some (body.setSome "last_frame_image" (i.lastFrameUrl.map .string)) }

/-- The request to Vidu. -/
def buildCreateVidu (i : CreateInputs) : HttpSpec :=
  let body := Json.object [("model", .string i.model),
    ("images", .array [.string i.firstFrameUrl]), ("prompt", .string i.prompt),
    ("duration", .number (toString i.durationSeconds))]
  { method := .post
    url := trimBase i.baseUrl ++ "/ent/v2/img2video"
    headers := [("Authorization", "Token " ++ i.apiKey), jsonContent]
    body := some ((body.setSome "resolution" ((i.extra.text "resolution").map .string)).setSome
      "movement_amplitude" ((i.extra.text "movement_amplitude").map .string)) }

/-- With a last frame, the frames are an array in which each has its position. -/
def runwayPromptImage (i : CreateInputs) : Json :=
  match i.lastFrameUrl with
  | some last => .array
    [.object [("uri", .string i.firstFrameUrl), ("position", .string "first")],
      .object [("uri", .string last), ("position", .string "last")]]
  | none => .string i.firstFrameUrl

/-- The request to Runway. -/
def buildCreateRunway (i : CreateInputs) : HttpSpec :=
  let body := Json.object [("model", .string i.model), ("promptImage", runwayPromptImage i),
    ("promptText", .string i.prompt), ("duration", .number (toString i.durationSeconds))]
  { method := .post
    url := trimBase i.baseUrl ++ "/v1/image_to_video"
    headers := [bearer i.apiKey, ("X-Runway-Version", extraOr i.extra "version" "2024-11-06"),
      jsonContent]
    body := some (body.setSome "ratio" ((i.extra.text "ratio").map .string)) }

/-- The request to Kling. -/
def buildCreateKling (x : VideoCrates) (i : CreateInputs) (now : ℤ) : HttpSpec :=
  let (ak, sk) := splitAkSk i.apiKey
  let body := Json.object [("model_name", .string i.model), ("image", .string i.firstFrameUrl),
    ("prompt", .string i.prompt),
    ("duration", .string (if 8 ≤ i.durationSeconds then "10" else "5"))]
  { method := .post
    url := trimBase i.baseUrl ++ "/v1/videos/image2video"
    headers := [bearer (klingJwt x ak sk now), jsonContent]
    body := some (((body.setSome "image_tail" (i.lastFrameUrl.map .string)).setSome "mode"
      ((i.extra.text "mode").map .string)).setSome "cfg_scale"
        ((i.extra.text "cfg_scale").bind x.parseFloat)) }

/-- What is signed of a request of Jimeng: the path is always the root, and the host is cut out of
the base URL. -/
def jimengSigningInput (x : VideoCrates) (apiKey : String) (extra : Extra) (baseUrl method
    canonicalUri canonicalQuery : String) (body : Bytes) (now : ℤ) : VolcSigV4Input :=
  let (ak, sk) := splitAkSk apiKey
  { accessKey := ak
    secretKey := sk
    region := extraOr extra "region" "cn-north-1"
    service := extraOr extra "service" "cv"
    host := hostOf baseUrl
    method := method
    canonicalUri := canonicalUri
    canonicalQuery := canonicalQuery
    body := body
    xDate := x.formatXDate now }

/-- The headers of a request to Jimeng. -/
def jimengSignedHeaders (x : VideoCrates) (apiKey : String) (extra : Extra) (baseUrl method
    canonicalUri canonicalQuery : String) (body : Bytes) (now : ℤ) : List (String × String) :=
  volcSigv4 x (jimengSigningInput x apiKey extra baseUrl method canonicalUri canonicalQuery body
    now) ++ [jsonContent]

/-- The model of Jimeng. -/
def jimengReqKey (extra : Extra) : String := extraOr extra "req_key" "jimeng_vgfm_i2v_l20"

/-- The query of a request of Jimeng. -/
def jimengQuery (extra : Extra) (action : String) : String :=
  "Action=" ++ action ++ "&Version=" ++ extraOr extra "version" "2022-08-31"

/-- The action that makes a video. -/
def jimengCreateAction (extra : Extra) : String := extraOr extra "action" "CVSync2AsyncSubmitTask"

/-- The body of a request that makes a video. -/
def jimengCreateBody (i : CreateInputs) : Json :=
  let body := Json.object [("req_key", .string (jimengReqKey i.extra)),
    ("image_urls", .array [.string i.firstFrameUrl]), ("prompt", .string i.prompt)]
  body.setSome "image_urls"
    (i.lastFrameUrl.map fun last => .array [.string i.firstFrameUrl, .string last])

/-- The request to Jimeng. -/
def buildCreateJimeng (x : VideoCrates) (i : CreateInputs) (now : ℤ) : HttpSpec :=
  let base := trimBase i.baseUrl
  let canonicalQuery := jimengQuery i.extra (jimengCreateAction i.extra)
  let body := jimengCreateBody i
  { method := .post
    url := base ++ "/?" ++ canonicalQuery
    headers := jimengSignedHeaders x i.apiKey i.extra base "POST" "/" canonicalQuery
      (x.jsonBytes body) now
    body := some body }

/-- The request in a dialect. -/
def buildCreate (x : VideoCrates) (dialect : VideoDialect) (i : CreateInputs) (now : ℤ) :
    HttpSpec :=
  match dialect with
  | .openAiCompat => buildCreateOpenai i
  | .miniMax => buildCreateMinimax i
  | .vidu => buildCreateVidu i
  | .runway => buildCreateRunway i
  | .kling => buildCreateKling x i now
  | .jimeng => buildCreateJimeng x i now

/-- The request that creates a job.  In the default dialect the node has a form of its own for it,
and the key goes out in the style of the provider. -/
def videoCreateRequest (x : VideoCrates) (dialect : VideoDialect) (auth : AuthStyle)
    (i : CreateInputs) (now : ℤ) : OutboundRequest :=
  if dialect = .openAiCompat then
    let lastFrame := match i.lastFrameUrl with
      | some last => [("last_frame", Json.object [("url", .string last)])]
      | none => []
    applyAuth
      { method := .post
        url := endpointFor .cloudVideo i.baseUrl
        headers := []
        body := some (.object ([("model", .string i.model), ("prompt", .string i.prompt),
          ("first_frame", .object [("url", .string i.firstFrameUrl)])] ++ lastFrame ++
            [("duration_seconds", .number (toString i.durationSeconds))]))
        query := [] } auth i.apiKey
  else { buildCreate x dialect i now with query := [] }

/-! ## Asking for the status -/

/-- What a video is asked for with. -/
structure PollInputs where
  baseUrl : String
  apiKey : String
  providerJobId : String
  extra : Extra

/-- The body of a request for a video. -/
def jimengPollBody (i : PollInputs) : Json :=
  .object [("req_key", .string (jimengReqKey i.extra)), ("task_id", .string i.providerJobId)]

/-- The request for a video in a dialect. -/
def buildPoll (x : VideoCrates) (dialect : VideoDialect) (i : PollInputs) (now : ℤ) : HttpSpec :=
  let base := trimBase i.baseUrl
  match dialect with
  | .openAiCompat =>
    { method := .get
      url := endpointFor .cloudVideo i.baseUrl ++ "/" ++ i.providerJobId
      headers := [bearer i.apiKey]
      body := none }
  | .miniMax =>
    let url := base ++ "/v1/query/video_generation?task_id=" ++ i.providerJobId
    { method := .get
      url := match i.extra.text "group_id" with
        | some groupId => url ++ "&GroupId=" ++ groupId
        | none => url
      headers := [bearer i.apiKey]
      body := none }
  | .vidu =>
    { method := .get
      url := base ++ "/ent/v2/tasks/" ++ i.providerJobId ++ "/creations"
      headers := [("Authorization", "Token " ++ i.apiKey)]
      body := none }
  | .runway =>
    { method := .get
      url := base ++ "/v1/tasks/" ++ i.providerJobId
      headers := [bearer i.apiKey, ("X-Runway-Version", extraOr i.extra "version" "2024-11-06")]
      body := none }
  | .kling =>
    let (ak, sk) := splitAkSk i.apiKey
    { method := .get
      url := base ++ "/v1/videos/image2video/" ++ i.providerJobId
      headers := [bearer (klingJwt x ak sk now)]
      body := none }
  | .jimeng =>
    let canonicalQuery := jimengQuery i.extra "CVSync2AsyncGetResult"
    let body := jimengPollBody i
    { method := .post
      url := base ++ "/?" ++ canonicalQuery
      headers := jimengSignedHeaders x i.apiKey i.extra base "POST" "/" canonicalQuery
        (x.jsonBytes body) now
      body := some body }

end OzonSuite
