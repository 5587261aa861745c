/-
# The bridge plugin of OpenClaw

The plugin serves a page on which a binding link is opened, and a route to which the page posts what
it has found in the link.  The route claims the pairing at the local node and saves the answer, and
the tools call the node with what has been saved.  A request runs on from one `await` to the next,
and other requests run in between.  Writing a file and renaming one are a step each.
-/
import OzonSuite.Lib.Effects
import OzonSuite.Lib.Threads
import OzonSuite.Lib.Urls
import OzonSuite.Lib.Utf8
import OzonSuite.Services

namespace OzonSuite.OpenClaw

open Lib

/-! ## The language -/

/-- The white space of JavaScript. -/
def isJsSpace (c : Char) : Bool :=
  let n := c.toNat
  (9 ≤ n && n ≤ 13) || n == 0x20 || n == 0xA0 || n == 0x1680 || (0x2000 ≤ n && n ≤ 0x200A) ||
    n == 0x2028 || n == 0x2029 || n == 0x202F || n == 0x205F || n == 0x3000 || n == 0xFEFF

/-- `text.trim()`. -/
def jsTrim (s : String) : String := trimText isJsSpace s

/-- What the plugin takes from its platform. -/
structure Platform (Url : Type) extends UrlLibrary Url where
  username : Url → String
  password : Url → String
  origin : Url → String
  /-- `new URL(text, base)`. -/
  resolve : (text base : String) → Option Url
  readJson : String → Except String Json
  /-- The text of a number, from the one that it was read from. -/
  numberText : String → String
  isoTime : ℕ → String

variable {Url : Type} (p : Platform Url)

mutual

/-- `String(value)`. -/
def toText : Json → String
  | .null => "null"
  | .bool value => if value then "true" else "false"
  | .number text => p.numberText text
  | .string value => value
  | .array values => ",".intercalate (itemTexts values)
  | .object _ => "[object Object]"

/-- The texts of the items of an array. -/
def itemTexts : List Json → List String
  | [] => []
  | .null :: values => "" :: itemTexts values
  | value :: values => toText value :: itemTexts values

end

/-- What counts as true. -/
def truthy : Json → Bool
  | .null => false
  | .bool value => value
  | .number text => p.numberText text ≠ "0"
  | .string value => value ≠ ""
  | .array _ | .object _ => true

/-- `value.name`; `none` is `undefined`. -/
def property (value : Json) (name : String) : Except String (Option Json) :=
  match value with
  | .null => .error s!"Cannot read properties of null (reading '{name}')"
  | value => .ok (value.get? name)

/-- `value ?? other`, on a value that may be undefined. -/
def notNull : Option Json → Option Json
  | some .null => none
  | value => value

/-- `new URL(text)`. -/
def newUrl (text : String) : Except String Url := okOr (p.parse text) "Invalid URL"

/-! ## Checks -/

/-- A text that is not blank, trimmed. -/
def requireString (value : Option Json) (name : String) : Except String String :=
  match value with
  | some (.string text) =>
    if jsTrim text = "" then .error s!"{name} is required" else .ok (jsTrim text)
  | _ => .error s!"{name} is required"

/-- The text without a slash at its end. -/
def withoutLastSlash (text : String) : String :=
  if text.toList.getLast? = some '/' then String.ofList text.toList.dropLast else text

/-- The host is the machine itself. -/
def LocalHost (u : Url) : Prop := p.host u = some "127.0.0.1" ∨ p.host u = some "localhost"

instance (u : Url) : Decidable (LocalHost p u) :=
  inferInstanceAs (Decidable (p.host u = some "127.0.0.1" ∨ p.host u = some "localhost"))

/-- The text is a web address on this machine, without credentials. -/
def LocalHttp (text : String) : Prop :=
  ∃ u, p.parse text = some u ∧ p.scheme u = "http" ∧ LocalHost p u ∧ p.username u = "" ∧
    p.password u = ""

/-- What the standard says of an address that is printed: it is parsed again, also without a slash
at its end, which belongs to the path, the query or the fragment. -/
structure Platform.Prints : Prop where
  reparse : ∀ text u, p.parse text = some u → p.scheme u = "http" →
    ∃ v, p.parse (withoutLastSlash (p.text u)) = some v ∧ p.scheme v = "http" ∧
      p.host v = p.host u ∧ p.username v = p.username u ∧ p.password v = p.password u

/-- An address of this machine. -/
def requireLocalUrl (value : Option Json) (name : String) : Except String String := do
  let text ← requireString value name
  let parsed ← newUrl p text
  refuseIf (p.scheme parsed ≠ "http" ∨ ¬ LocalHost p parsed ∨ p.username parsed ≠ "" ∨
      p.password parsed ≠ "")
    s!"{name} must be a local http URL"
  return withoutLastSlash (p.text parsed)

/-- An address of this machine with the given path. -/
def requireLocalEndpointUrl (value : Option Json) (name pathname : String) :
    Except String String := do
  let text ← requireLocalUrl p value name
  let parsed ← newUrl p text
  refuseIf (p.path parsed ≠ pathname) s!"{name} must point to {pathname}"
  return text

/-- The origin under which the gateway has been called. -/
def requestLocalOrigin (host : Option String) : Except String String := do
  let parsed ← newUrl p ("http://" ++ host.getD "")
  refuseIf (¬ LocalHost p parsed ∨ p.port parsed ≠ some 18789 ∨ p.username parsed ≠ "" ∨
      p.password parsed ≠ "")
    "OpenClaw gateway must be served from local port 18789"
  return p.origin parsed

/-- The longest body that is read. -/
def maxBodyBytes : ℕ := 64 * 1024

/-- The chunks of a body, up to a limit. -/
def readChunks (body : Bytes) : List Bytes → Except String Bytes
  | [] => .ok body
  | chunk :: chunks =>
    if maxBodyBytes < (body ++ chunk).length then .error "request body too large"
    else readChunks (body ++ chunk) chunks

/-- The text of a body. -/
def readBody (chunks : List Bytes) : Except String String :=
  (readChunks [] chunks).map fromUtf8Lossy

/-! ## Claims -/

/-- What is saved of a pairing.  Its `status` is always `paired`. -/
structure Claim where
  pairedAt : String
  manifestUrl : String
  baseUrl : String
  authHeader : String
  authToken : String
  authTokenFingerprint : Option String
  expiresAt : Option String
  safetyRules : List String
deriving DecidableEq

/-- A text, or nothing. -/
def string? : Option Json → Option String
  | some (.string text) => some text
  | _ => none

/-- The characters that are taken over from a header. -/
def isHeaderChar (c : Char) : Bool := c.isAlphanum || c = '-' || c = '_'

/-- What the node answered to a claim, checked. -/
def normalizeClaim (now : ℕ) (raw : Json) : Except String Claim :=
  match raw with
  | .null | .bool _ | .number _ | .string _ => .error "claim response must be an object"
  | raw => do
    let manifestUrl ← requireLocalUrl p (raw.get? "manifest_url") "manifest_url"
    let baseUrl ← requireLocalUrl p (raw.get? "base_url") "base_url"
    let authHeader ← requireString (raw.get? "auth_header") "auth_header"
    let authToken ← requireString (raw.get? "auth_token") "auth_token"
    refuseIf (authHeader.toList.all isHeaderChar = false)
      "auth_header contains unsupported characters"
    return {
      pairedAt := (string? (raw.get? "paired_at")).getD (p.isoTime now)
      manifestUrl := manifestUrl
      baseUrl := baseUrl
      authHeader := authHeader
      authToken := authToken
      authTokenFingerprint := string? (raw.get? "auth_token_fingerprint")
      expiresAt := string? (raw.get? "expires_at")
      safetyRules :=
        match raw.get? "safety_rules" with
        | some (.array rules) => rules.filterMap fun rule => string? (some rule)
        | _ => [] }

/-! ## The node that is called -/

/-- What comes in the end of a call of the node.  `fetch` follows redirects by itself, so that this
is the answer of the last one who was asked. -/
inductive NodeAnswer
  /-- No answer came, or it could not be read. -/
  | failed (message : String)
  /-- An answer, whether its status is one of success, and its text. -/
  | answered (ok : Bool) (status : ℕ) (text : String)

/-- The text of an answer as a JSON value, or `null`. -/
def detailsOf (text : String) : Json := ((p.readJson text).toOption).getD .null

/-- Why the node has refused a call. -/
def rejection (status : ℕ) (text : String) : String :=
  match notNull ((detailsOf p text).get? "error") with
  | some error => if truthy p error then toText p error else s!"HTTP {status}"
  | none => if text = "" then s!"HTTP {status}" else text

/-- The end of `claimOzonLocalPairing`. -/
def claimDetails : NodeAnswer → Except String Json
  | .failed message => .error message
  | .answered ok status text =>
    if ok then
      match detailsOf p text with
      | .array values => .ok (.array values)
      | .object fields => .ok (.object fields)
      | _ => .error "pairing claim response must be JSON"
    else .error ("Ozon Local rejected pairing claim: " ++ rejection p status text)

/-- The end of `callOzonLocalTool`. -/
def toolDetails (name : String) : NodeAnswer → Except String Json
  | .failed message => .error message
  | .answered ok status text =>
    if ok then
      match detailsOf p text with
      | .null => .ok (.object [("text", .string text)])
      | details => .ok details
    else .error ("Ozon Local rejected " ++ name ++ ": " ++ rejection p status text)

/-! ## Tools -/

/-- A tool and the path that it calls. -/
structure Tool where
  name : String
  path : String
deriving DecidableEq

/-- The fields that a product is looked up by. -/
def lookupFields : List String := ["offer_id", "product_id", "sku"]

/-- The tool reads one product. -/
def Tool.looksUp (tool : Tool) : Bool :=
  tool.name = "ozon_products_get" || tool.name = "ozon_poster_handoff"

/-- The fields of an object. -/
abbrev Fields := List (String × Json)

/-- The identifiers that have been given, without white space around them. -/
def givenLookup (params : Fields) : List (String × String) :=
  lookupFields.filterMap fun field =>
    ((string? (params.lookup field)).map jsTrim).bind fun value =>
      if value = "" then none else some (field, value)

/-- What a tool sends, and the identifiers that its answer is compared with.  Of several identifiers
only the first is sent. -/
def prepareToolParams (tool : Tool) (params : Fields) : Fields × List (String × String) :=
  if tool.looksUp then
    let lookup := givenLookup params
    let others := params.filter fun param => param.1 ∉ lookupFields
    match lookup.head? with
    | some (field, value) => (others ++ [(field, .string value)], lookup)
    | none => (others, [])
  else (params, [])

/-- The product in an answer, if there is one. -/
def productOf (result : Json) : Option Json :=
  let product := (notNull (result.get? "product")).getD result
  match product with
  | .array _ | .object _ => some product
  | _ => none

/-- The product in an answer is the one that was looked up. -/
def verifyLookupMatchesResult (tool : Tool) (lookup : List (String × String)) (result : Json) :
    Except String Unit :=
  if tool.looksUp then
    match productOf result with
    | none => .ok ()
    | some product => lookup.forM fun (field, value) =>
        match notNull (product.get? field) with
        | none => .ok ()
        | some found => refuseIf (toText p found ≠ value)
            (s!"Ozon returned {field}={toText p found}, which does not match the requested " ++
              s!"{field}={value}")
  else .ok ()

end OzonSuite.OpenClaw
