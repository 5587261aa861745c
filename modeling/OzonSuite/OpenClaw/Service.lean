/-
# Requests to the bridge plugin

What the requests of the plugin share, and what each does from one `await` to the next: the page
makes up a nonce, the claim route spends one, calls the node, checks its answer and saves it, and a
tool call reads what has been saved and calls the node with it.
-/
import OzonSuite.Lib.Machine
import OzonSuite.OpenClaw.Plugin

namespace OzonSuite.OpenClaw

open Lib

variable {Url : Type} (p : Platform Url)

/-! ## Requests -/

/-- A request to the plugin. -/
structure Request where
  url : Option String
  method : String
  host : Option String
  /-- The body, as it arrives. -/
  chunks : List Bytes
deriving DecidableEq

/-- The body of an answer. -/
inductive Body
  | text (s : String)
  /-- The page, with its nonce. -/
  | page (nonce : String)
  | json (fields : Fields)

/-- An answer; none is ever stored. -/
structure Response where
  status : ℕ
  contentType : String
  body : Body

/-- The type of a plain text. -/
def plainText : String := "text/plain; charset=utf-8"

/-- The type of a page. -/
def html : String := "text/html; charset=utf-8"

/-- An answer with a text. -/
def respond (status : ℕ) (body : String) (contentType : String) : Response :=
  ⟨status, contentType, .text body⟩

/-- An answer with an object. -/
def respondJson (status : ℕ) (fields : Fields) : Response :=
  ⟨status, "application/json; charset=utf-8", .json fields⟩

/-- An answer that refuses. -/
def refusal (error : String) : Response :=
  respondJson 400 [("ok", .bool false), ("error", .string error)]

/-- What the page is told of a claim that has been saved. -/
def confirmation (claim : Claim) : Response :=
  respondJson 200 [("ok", .bool true), ("manifest_url", .string claim.manifestUrl),
    ("base_url", .string claim.baseUrl), ("auth_header", .string claim.authHeader),
    ("auth_token_fingerprint", (claim.authTokenFingerprint.map Json.string).getD .null)]

/-- A claim that has been presented with its nonce, on its way to the node. -/
structure Presented where
  nonce : String
  manifestUrl : String
  claimUrl : String
  code : String
  origin : String
deriving DecidableEq

/-- What a tool calls `fetch` with: the address of the node, before any redirect, and what is sent
there. -/
structure ToolCall where
  target : String
  targetOrigin : String
  header : String
  token : String
  params : Fields

/-- What a request does next. -/
inductive PluginTask
  /-- A request that has arrived with its body. -/
  | request (r : Request)
  /-- The node has been asked to claim a pairing. -/
  | claiming (pending : Presented)
  /-- The file beside the configuration is to be written. -/
  | writing (claim : Claim)
  /-- That file is to take the place of the configuration. -/
  | moving (claim : Claim)
  /-- The call of a tool. -/
  | execute (tool : Tool) (params : Fields)
  /-- The node has been called for a tool. -/
  | calling (tool : Tool) (lookup : List (String × String))
  | answered

/-- What can be seen of a step from outside. -/
inductive PluginEvent
  /-- The plugin answers a request, or leaves it to others. -/
  | respond (response : Option Response)
  /-- The pairing is claimed at the node. -/
  | callNode (claimUrl code origin : String)
  /-- `saveConfig` is called. -/
  | saveConfig (claim : Claim)
  | callTool (call : ToolCall)
  | toolResult (result : Except String Json)

/-- What is in a file: a claim, or nothing that can be read. -/
abbrev FileText := Option Claim

/-- What the requests share: the clock, the nonces that can be used, each with the time at which it
expires, those that have been made up or presented, and the files. -/
structure PluginShared where
  now : ℕ
  importNonces : List (String × ℕ)
  seen : List String
  temporary : Option FileText
  config : Option FileText

/-- How a step with a file ends. -/
inductive FileOutcome
  | done
  /-- It failed, and may have left something half-written. -/
  | failed (message : String) (torn : Bool)

/-- What a block draws: a random identifier, the answer of the node, and how files fare. -/
structure PluginDraw where
  uuid : String
  answer : NodeAnswer
  file : FileOutcome

/-- How long a nonce of the page lasts, in milliseconds. -/
def importNonceTtl : ℕ := 5 * 60 * 1000

namespace PluginShared

variable (s : PluginShared)

/-- `issueImportNonce`. -/
def issueImportNonce (uuid : String) : PluginShared :=
  { s with
    importNonces := s.importNonces.filter (fun entry => s.now < entry.2) ++
      [(uuid, s.now + importNonceTtl)]
    seen := uuid :: s.seen }

/-- `consumeImportNonce`, on a nonce that is a text. -/
def consumeImportNonce (nonce : String) : Bool × PluginShared :=
  ((s.importNonces.lookup nonce).any (s.now < ·),
    { s with
      importNonces := s.importNonces.filter (·.1 ≠ nonce)
      seen := nonce :: s.seen })

/-- `writeFile`, on the file beside the configuration. -/
def writeTemporary (claim : Claim) : FileOutcome → Except String Unit × PluginShared
  | .done => (.ok (), { s with temporary := some (some claim) })
  | .failed message torn =>
    (.error message, if torn then { s with temporary := some none } else s)

/-- `rename`. -/
def renameTemporary : FileOutcome → Except String Unit × PluginShared
  | .done =>
    match s.temporary with
    | some text => (.ok (), { s with temporary := none, config := some text })
    | none => (.error "ENOENT: no such file or directory", s)
  | .failed message _ => (.error message, s)

/-- `loadConfig`. -/
def loadConfig : Except String Claim :=
  match s.config with
  | none => .error "ENOENT: no such file or directory"
  | some none => .error "Unexpected end of JSON input"
  | some (some claim) => .ok claim

end PluginShared

/-! ## Blocks -/

/-- What a block comes to: what is seen of it, and the block. -/
abbrev PluginBlock := Option PluginEvent × Block PluginShared PluginTask

namespace PluginShared

variable (s : PluginShared)

/-- The request is answered. -/
def reply (response : Option Response) : PluginBlock :=
  (some (.respond response), ⟨.answered, [], s⟩)

/-- The request goes on. -/
def goOn (event : PluginEvent) (next : PluginTask) : PluginBlock := (some event, ⟨next, [], s⟩)

end PluginShared

/-- The texts that a claim is presented with. -/
def presentedWith (r : Request) (payload : Json) (nonce : String) : Except String Presented := do
  let manifestUrl ← requireLocalEndpointUrl p (payload.get? "manifest_url") "manifest_url"
    "/openclaw/manifest"
  let claimUrl ← requireLocalEndpointUrl p (payload.get? "claim_url") "claim_url"
    "/openclaw/pairing/claim"
  let code ← requireString (payload.get? "code") "ozon66_pairing_code"
  let origin ← requestLocalOrigin p r.host
  return ⟨nonce, manifestUrl, claimUrl, code, origin⟩

/-- The nonce of a payload; a text that is not empty. -/
def presentedNonce (payload : Json) : Except String (Option String) :=
  (property payload "nonce").map fun nonce => (string? nonce).filter (· ≠ "")

/-- The error of a nonce that has expired. -/
def expiredNonce : String := "binding page nonce expired; reopen the binding link"

/-- What a request to the claim route carries. -/
def Request.payload (r : Request) : Except String Json := do p.readJson (← readBody r.chunks)

/-- A nonce is spent, and the node is called if it was a valid one. -/
def claimWithNonce (r : Request) (payload : Json) (nonce : String) (s : PluginShared) :
    PluginBlock :=
  let (valid, s) := s.consumeImportNonce nonce
  if valid then
    match presentedWith p r payload nonce with
    | .error e => s.reply (some (refusal e))
    | .ok pending =>
      s.goOn (.callNode pending.claimUrl pending.code pending.origin) (.claiming pending)
  else s.reply (some (refusal expiredNonce))

/-- The claim route, up to the call of the node. -/
def claimRoute (r : Request) (s : PluginShared) : PluginBlock :=
  match r.payload p with
  | .error e => s.reply (some (refusal e))
  | .ok payload =>
    match presentedNonce payload with
    | .error e => s.reply (some (refusal e))
    | .ok none => s.reply (some (refusal expiredNonce))
    | .ok (some nonce) => claimWithNonce p r payload nonce s

/-- What the answer of the node is checked for. -/
def checkClaim (pending : Presented) (now : ℕ) (answer : NodeAnswer) : Except String Claim := do
  let details ← claimDetails p answer
  let claim ← normalizeClaim p now details
  refuseIf (claim.manifestUrl ≠ pending.manifestUrl)
    "claim manifest_url does not match the binding link"
  let base ← newUrl p claim.baseUrl
  let called ← newUrl p pending.claimUrl
  refuseIf (p.origin base ≠ p.origin called) "claim base_url does not match the binding link"
  return claim

/-- The path of the page. -/
def importPath : String := "/openclaw/import"

/-- The path that the page posts to. -/
def claimPath : String := "/openclaw/import/claim"

/-- `handleImportRoute`, up to its first wait for the node. -/
def handleImportRoute (r : Request) (uuid : String) (s : PluginShared) : PluginBlock :=
  match p.resolve (r.url.getD "/") "http://127.0.0.1:18789" with
  | none => s.reply none
  | some parsed =>
    if p.path parsed = importPath then
      if r.method = "GET" then
        (s.issueImportNonce uuid).reply (some ⟨200, html, .page uuid⟩)
      else if r.method = "HEAD" then s.reply (some (respond 200 "" html))
      else s.reply (some (respond 405 "Method not allowed" plainText))
    else if p.path parsed = claimPath then
      if r.method = "POST" then claimRoute p r s
      else s.reply (some (respond 405 "Method not allowed" plainText))
    else s.reply none

/-- What a tool calls the node with. -/
def toolCall (claim : Claim) (tool : Tool) (params : Fields) : Except String ToolCall := do
  let target ← okOr (p.resolve tool.path claim.baseUrl) "Invalid URL"
  return ⟨p.text target, p.origin target, claim.authHeader, claim.authToken, params⟩

/-- The end of a tool call. -/
def toolResult (tool : Tool) (lookup : List (String × String)) (answer : NodeAnswer) :
    Except String Json := do
  let result ← toolDetails p tool.name answer
  verifyLookupMatchesResult p tool lookup result
  return result

/-- The next block of a request. -/
def PluginTask.block (draw : PluginDraw) (s : PluginShared) : PluginTask → PluginBlock
  | .request r => handleImportRoute p r draw.uuid s
  | .claiming pending =>
    match checkClaim p pending s.now draw.answer with
    | .error e => s.reply (some (refusal e))
    | .ok claim => s.goOn (.saveConfig claim) (.writing claim)
  | .writing claim =>
    match s.writeTemporary claim draw.file with
    | (.error e, s) => s.reply (some (refusal e))
    | (.ok (), s) => (none, ⟨.moving claim, [], s⟩)
  | .moving claim =>
    match s.renameTemporary draw.file with
    | (.error e, s) => s.reply (some (refusal e))
    | (.ok (), s) => s.reply (some (confirmation claim))
  | .execute tool params =>
    let (sent, lookup) := prepareToolParams tool params
    match s.loadConfig.bind fun claim => toolCall p claim tool sent with
    | .error e => s.goOn (.toolResult (.error e)) .answered
    | .ok call => s.goOn (.callTool call) (.calling tool lookup)
  | .calling tool lookup => s.goOn (.toolResult (toolResult p tool lookup draw.answer)) .answered
  | .answered => (none, ⟨.answered, [], s⟩)

/-! ## The plugin -/

/-- What the requests share, and the requests that run. -/
abbrev Plugin := Threads PluginShared PluginTask

/-- A step of the plugin. -/
inductive PluginLabel
  | request (r : Request)
  | execute (tool : Tool) (params : Fields)
  /-- The `i`-th request runs its next block. -/
  | advance (i : ℕ) (draw : PluginDraw)
  /-- Time passes. -/
  | wait (now : ℕ)

namespace Plugin

/-- The block makes up a nonce. -/
def issues (t : PluginTask) : Prop :=
  match t with
  | .request r => r.method = "GET" ∧
      (p.resolve (r.url.getD "/") "http://127.0.0.1:18789").map p.path = some importPath
  | _ => False

/-- Time does not go back, and a nonce that is made up has been neither made up nor presented
before. -/
def Enabled (s : Plugin) : PluginLabel → Prop
  | .request _ | .execute _ _ => True
  | .advance i draw => ∃ t ∈ s.threads[i]?, issues p t → draw.uuid ∉ s.shared.seen
  | .wait now => s.shared.now ≤ now

/-- A new request, or the next block of one. -/
def step (s : Plugin) : PluginLabel → Option PluginEvent × Plugin
  | .request r => (none, { s with threads := s.threads ++ [.request r] })
  | .execute tool params => (none, { s with threads := s.threads ++ [.execute tool params] })
  | .advance i draw =>
    match s.threads[i]? with
    | some t =>
      let (event, block) := t.block p draw s.shared
      (event, s.after i block)
    | none => (none, s)
  | .wait now => (none, { s with shared := { s.shared with now := now } })

end Plugin

/-- A plugin that has just been loaded. -/
def plugin : Machine Plugin PluginLabel (Option PluginEvent) where
  init s := s.shared.importNonces = [] ∧ s.shared.seen = [] ∧ s.threads = []
  enabled s l := s.Enabled p l
  step s l := s.step p l

end OzonSuite.OpenClaw
