/-
# Pairing with OpenClaw

The operator starts a pairing and is given a code; whoever presents the code from an allowed origin
before it expires is given the token of the bridge.  A request reads the clock first, and takes the
lock on the pairings after that; before it has the lock, other requests may go on and time may pass.
-/
import OzonSuite.Lib.Threads
import OzonSuite.Lib.Utf8
import OzonSuite.Node.Providers

namespace OzonSuite

open Lib

/-! ## Configuration -/

/-- What pairing needs of the configuration beside the rest of it. -/
structure PairingConfig extends LocalConfig where
  skillBind : String
  openclawBindUrl : String
  /-- `OZON_OPENCLAW_ALLOWED_ORIGINS`, in the environment of the process. -/
  allowedOrigins : Option String

/-- What pairing takes from libraries. -/
structure PairingCrates extends NodeCrates where
  /-- A URL with another fragment, or `none` for a text that is not a URL. -/
  withFragment : (url fragment : String) → Option String

/-- How long a pairing lasts. -/
def openclawPairingTtl : ℤ := 5 * 60 * 1000000

/-- The address of a port that the node has bound. -/
def localHttpUrl (bind : String) : String := s!"http://{bind}"

/-- A hexadecimal digit, in upper case. -/
def nibbleToHex (value : ℕ) : Char :=
  if value < 10 then Char.ofNat ('0'.toNat + value)
  else if value < 16 then Char.ofNat ('A'.toNat + (value - 10))
  else '0'

/-- A byte of a component of an address. -/
def percentEncodeByte (byte : UInt8) : List Char :=
  let c := Char.ofNat byte.toNat
  if byte.toNat < 128 ∧ (c.isAlphanum ∨ c ∈ ['-', '_', '.', '~']) then [c]
  else ['%', nibbleToHex (byte.toNat / 16), nibbleToHex (byte.toNat % 16)]

/-- A text as a component of an address. -/
def percentEncodeUrlComponent (value : String) : String :=
  String.ofList ((value.toList.flatMap String.utf8EncodeChar).flatMap percentEncodeByte)

/-- The URL that the operator opens; its fragment has the code. -/
def buildOpenclawBindUrl (x : PairingCrates) (baseUrl pairingCode claimUrl manifestUrl : String) :
    Except ApiError String :=
  okOr (x.withFragment baseUrl (s!"ozon66_pairing_code={percentEncodeUrlComponent pairingCode}" ++
      s!"&claim_url={percentEncodeUrlComponent claimUrl}" ++
      s!"&manifest_url={percentEncodeUrlComponent manifestUrl}"))
    (ApiError.badRequest "OpenClaw bind URL must be a valid URL")

/-! ## Origins -/

/-- The origins that the configuration adds. -/
def configuredOpenclawAllowedOrigins (config : PairingConfig) : List String :=
  match config.allowedOrigins with
  | some value =>
    ((value.toList.splitOn ',').map fun part => trim (String.ofList part)).filter (· ≠ "")
  | none => []

/-- A page of the origin may claim a pairing. -/
def isAllowedOpenclawPairingOrigin (config : PairingConfig) (origin : String) : Bool :=
  origin == "https://ozonclaw.jl696.cn" || origin == "https://www.ozonclaw.jl696.cn" ||
    origin == "http://127.0.0.1:18789" || origin == "http://localhost:18789" ||
    (configuredOpenclawAllowedOrigins config).any (· == origin)

/-- The check of the origin of a claim. -/
def requireOpenclawPairingOrigin (config : PairingConfig) (origin : Option String) :
    Except ApiError Unit := do
  let origin ← okOr origin (ApiError.forbidden "missing OpenClaw pairing origin")
  refuseIf (!isAllowedOpenclawPairingOrigin config origin)
    (ApiError.forbidden "OpenClaw pairing origin is not allowed")

/-! ## Requests -/

/-- The answer to a start, with the binding link. -/
structure OpenClawPairingStartResponse where
  status : String
  bindUrl : String
  pairingCode : String
  claimUrl : String
  manifestUrl : String
  authHeader : String
  expiresAt : String
  instructions : List String
deriving DecidableEq

/-- The answer to a claim, with the token. -/
structure OpenClawPairingClaimResponse where
  status : String
  manifestUrl : String
  baseUrl : String
  authHeader : String
  authToken : String
  authTokenFingerprint : String
  expiresAt : String
  safetyRules : List String
deriving DecidableEq

/-- What a request is answered with. -/
inductive PairingReply
  | started (response : OpenClawPairingStartResponse)
  | paired (response : OpenClawPairingClaimResponse)
deriving DecidableEq

/-- The address of the manifest of the tools. -/
def manifestUrl (config : PairingConfig) : String :=
  s!"{localHttpUrl config.skillBind}/openclaw/manifest"

/-- What a start answers, made from the code and the time at which the code expires. -/
def startResponse (x : PairingCrates) (config : PairingConfig) (code expiresAt : String) :
    Except ApiError OpenClawPairingStartResponse := do
  let claimUrl := s!"{localHttpUrl config.skillBind}/openclaw/pairing/claim"
  let bindUrl ← buildOpenclawBindUrl x config.openclawBindUrl code claimUrl (manifestUrl config)
  return {
    status := "pairing_started"
    bindUrl := bindUrl
    pairingCode := code
    claimUrl := claimUrl
    manifestUrl := manifestUrl config
    authHeader := "x-openclaw-token"
    expiresAt := expiresAt
    instructions := [
      "Open the bind URL in Longxia/OpenClaw.",
      "Longxia should read the URL fragment and POST the pairing code to claim_url.",
      "The long-lived bridge token is never embedded in the bind URL; OpenClaw stores it only " ++
        "after a trusted localhost claim."] }

/-- The answer to a claim of a pairing. -/
def claimResponse (x : PairingCrates) (config : PairingConfig) (pairing : OpenClawPairing) :
    OpenClawPairingClaimResponse :=
  { status := "paired"
    manifestUrl := manifestUrl config
    baseUrl := localHttpUrl config.skillBind
    authHeader := "x-openclaw-token"
    authToken := config.openclawToken
    authTokenFingerprint := fingerprintSecret x.toNodeCrates config.openclawToken
    expiresAt := pairing.expiresAtText
    safetyRules := ["Use the token only inside Longxia/OpenClaw connector settings.",
      "Do not paste the token into chats, prompts, logs, or public documents.",
      "Bridge calls are read/proposal only; local approval is required for writes."] }

/-- A request, at its next scope. -/
inductive PairingTask
  /-- `start_openclaw_pairing`. -/
  | start (headers : TokenHeaders)
  /-- The clock has been read and the code made up. -/
  | insertPairing (now : Time) (response : OpenClawPairingStartResponse)
  /-- `claim_openclaw_pairing`. -/
  | claim (origin : Option String) (code : String)
  /-- The clock has been read, and the code is free of blanks. -/
  | removePairing (now : Time) (code : String)
  | answered
deriving DecidableEq

/-- What the requests share: the clock, the pairings, and the codes that have been made up. -/
structure PairingShared where
  now : Time
  pairings : List (String × OpenClawPairing)
  issued : List String
deriving DecidableEq

/-- What a scope draws. -/
structure PairingDraw where
  code : Uuid
  /-- The time of day. -/
  utc : Time

/-- The pairings that have not expired. -/
def PairingShared.retained (s : PairingShared) (now : Time) : List (String × OpenClawPairing) :=
  s.pairings.filter fun pairing => decide (now < pairing.2.expiresAt)

/-- What a scope comes to: the reply, when it is the last one, and the block. -/
abbrev PairingBlock := Option (Except ApiError PairingReply) × Block PairingShared PairingTask

/-- The request is answered. -/
def PairingShared.reply (s : PairingShared) (reply : Except ApiError PairingReply) : PairingBlock :=
  (some reply, ⟨.answered, [], s⟩)

/-- The request goes on. -/
def PairingShared.goOn (s : PairingShared) (next : PairingTask) : PairingBlock :=
  (none, ⟨next, [], s⟩)

/-- The next scope of a request. -/
def PairingTask.block (x : PairingCrates) (config : PairingConfig) (draw : PairingDraw)
    (s : PairingShared) : PairingTask → PairingBlock
  | .start headers =>
    match requireOperatorToken config.toLocalConfig headers with
    | .error e => s.reply (.error e)
    | .ok () =>
      let code := draw.code.simple
      let s := { s with issued := code :: s.issued }
      match startResponse x config code (x.timeText (draw.utc + openclawPairingTtl)) with
      | .error e => s.reply (.error e)
      | .ok response => s.goOn (.insertPairing s.now response)
  | .insertPairing now response =>
    let code := response.pairingCode
    let pairing : OpenClawPairing :=
      { expiresAt := now + openclawPairingTtl, expiresAtText := response.expiresAt }
    PairingShared.reply
      { s with pairings := (s.retained now).filter (·.1 ≠ code) ++ [(code, pairing)] }
      (.ok (.started response))
  | .claim origin code =>
    match requireOpenclawPairingOrigin config origin with
    | .error e => s.reply (.error e)
    | .ok () =>
      let code := trim code
      if code = "" then s.reply (.error (.badRequest "pairing code is required"))
      else s.goOn (.removePairing s.now code)
  | .removePairing now code =>
    let s := { s with pairings := s.retained now }
    match s.pairings.lookup code with
    | none => s.reply (.error (.unauthorized "pairing code is invalid or expired"))
    | some pairing => PairingShared.reply { s with pairings := s.pairings.filter (·.1 ≠ code) }
        (.ok (.paired (claimResponse x config pairing)))
  | .answered => s.goOn .answered

/-! ## The node -/

/-- The pairings and the requests that run. -/
abbrev Pairings := Threads PairingShared PairingTask

/-- A step of the node. -/
inductive PairingLabel
  | start (headers : TokenHeaders)
  | claim (origin : Option String) (code : String)
  /-- The `i`-th request runs its next scope. -/
  | advance (i : ℕ) (draw : PairingDraw)
  /-- Time passes. -/
  | wait (now : Time)

/-- A reply, with the scope in which it was made. -/
structure PairingAnswer where
  task : PairingTask
  reply : Except ApiError PairingReply

/-- If the next scope makes up a code, it is a new one. -/
def PairingTask.Fresh (s : PairingShared) (draw : PairingDraw) : PairingTask → Prop
  | .start _ => draw.code.simple ∉ s.issued
  | _ => True

instance (s : PairingShared) (draw : PairingDraw) : DecidablePred (PairingTask.Fresh s draw)
  | .start _ => inferInstanceAs (Decidable (draw.code.simple ∉ s.issued))
  | .insertPairing _ _ | .claim _ _ | .removePairing _ _ | .answered =>
    inferInstanceAs (Decidable True)

namespace Pairings

/-- Time does not go back, and the codes that are made up are new ones. -/
def Enabled (s : Pairings) : PairingLabel → Prop
  | .start _ | .claim _ _ => True
  | .advance i draw => ∃ t ∈ s.threads[i]?, t ≠ .answered ∧ t.Fresh s.shared draw
  | .wait now => s.shared.now ≤ now

instance (s : Pairings) : DecidablePred s.Enabled
  | .start _ | .claim _ _ => inferInstanceAs (Decidable True)
  | .advance i draw => inferInstanceAs (Decidable (∃ t ∈ s.threads[i]?, t ≠ .answered ∧
      t.Fresh s.shared draw))
  | .wait now => inferInstanceAs (Decidable (s.shared.now ≤ now))

/-- A new request, or the next block of one. -/
def step (x : PairingCrates) (config : PairingConfig) (s : Pairings) :
    PairingLabel → Option PairingAnswer × Pairings
  | .start headers => (none, { s with threads := s.threads ++ [.start headers] })
  | .claim origin code => (none, { s with threads := s.threads ++ [.claim origin code] })
  | .advance i draw =>
    match s.threads[i]? with
    | some t =>
      let (reply, block) := t.block x config draw s.shared
      (reply.map (⟨t, ·⟩), s.after i block)
    | none => (none, s)
  | .wait now => (none, { s with shared := { s.shared with now := now } })

end Pairings

/-- A node on which no pairing has been started. -/
def pairing (x : PairingCrates) (config : PairingConfig) :
    Machine Pairings PairingLabel (Option PairingAnswer) where
  init s := s.shared.pairings = [] ∧ s.shared.issued = [] ∧ s.threads = []
  enabled s l := s.Enabled l
  step s l := s.step x config l

instance (x : PairingCrates) (config : PairingConfig) (s : Pairings) (l : PairingLabel) :
    Decidable ((pairing x config).enabled s l) :=
  inferInstanceAs (Decidable (s.Enabled l))

end OzonSuite
