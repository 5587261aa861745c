/-
# The issuer of development identities

An issuer of tokens for local development: a request to authorize is noted, the login gives an
authorization code for it, the code is exchanged for an access token and a refresh token, and a
refresh token for new ones.  The store is under a lock that a handler takes several times, and
between two of its scopes other handlers may run theirs.
-/
import OzonSuite.Domain
import OzonSuite.Lib.AsciiText
import OzonSuite.Lib.Effects
import OzonSuite.Lib.Machine
import OzonSuite.Lib.Threads
import OzonSuite.Services

namespace OzonSuite

open Lib

/-- A hash map, as what it has under a key. -/
abbrev HashMap (ν : Type) := String → Option ν

/-- `HashMap::retain`. -/
def HashMap.retain {ν : Type} (m : HashMap ν) (p : ν → Bool) : HashMap ν :=
  fun key => (m key).filter p

namespace DevIssuer

/-! ## Configuration -/

/-- A client that has no secret: where it may be sent back to, and what it may ask for. -/
structure PublicClient where
  redirectUris : List String
  scopes : List String

/-- The one user of the issuer. -/
structure DemoUser where
  id : Uuid
  username : String
  password : String
  name : String
  email : String
  phone : Option String
  nebulaId : String
deriving DecidableEq

/-- The configuration, as far as the grants depend on it; lifetimes are in microseconds. -/
structure AppConfig where
  accessTokenTtl : ℤ
  refreshTokenTtl : ℤ
  allowHeadlessAuthorize : Bool
  clients : HashMap PublicClient
  demoUser : DemoUser

/-- What the issuer takes from its libraries. -/
structure IssuerCrates where
  /-- The SHA-256 digest of a text, in unpadded URL-safe base64. -/
  codeChallenge : String → String
  /-- A URL with more pairs in its query. -/
  withQuery : (url : String) → List (String × String) → String

/-! ## The store -/

/-- A request to authorize that has been noted. -/
structure AuthorizeRequest where
  clientId : String
  redirectUri : String
  scope : String
  state : String
  codeChallenge : String
  expiresAt : Time
deriving DecidableEq

/-- A code that has been given out, with what it was asked for by. -/
structure AuthorizationCode where
  clientId : String
  redirectUri : String
  scope : String
  codeChallenge : String
  user : DemoUser
  expiresAt : Time
  used : Bool
deriving DecidableEq

/-- An access token that has been given out. -/
structure TokenRecord where
  user : DemoUser
  expiresAt : Time
deriving DecidableEq

/-- A refresh token that has been given out. -/
structure RefreshTokenRecord where
  user : DemoUser
  clientId : String
  scope : String
  expiresAt : Time
  revoked : Bool
deriving DecidableEq

/-- What has been noted and given out. -/
structure Store where
  authorizeRequests : HashMap AuthorizeRequest
  authorizationCodes : HashMap AuthorizationCode
  accessTokens : HashMap TokenRecord
  refreshTokens : HashMap RefreshTokenRecord

/-- Nothing has been given out. -/
def Store.empty : Store := ⟨fun _ => none, fun _ => none, fun _ => none, fun _ => none⟩

/-! ## Requests -/

/-- The query of a request to authorize. -/
structure AuthorizeQuery where
  responseType : Option String
  clientId : Option String
  redirectUri : Option String
  scope : Option String
  state : Option String
  codeChallenge : Option String
  codeChallengeMethod : Option String
deriving DecidableEq

/-- The form of the login. -/
structure AuthorizeForm where
  requestId : String
  username : String
  password : String
deriving DecidableEq

/-- A request to authorize that brings the login with it. -/
structure DevAuthorizeRequest extends AuthorizeQuery where
  username : String
  password : String
deriving DecidableEq

/-- A request for tokens, by a code or a refresh token. -/
structure TokenRequest where
  grantType : String
  clientId : String
  code : String
  redirectUri : String
  codeVerifier : String
  refreshToken : String
deriving DecidableEq

/-- The tokens that are given out. -/
structure TokenResponse where
  accessToken : String
  tokenType : String
  expiresIn : ℤ
  refreshToken : Option String
  scope : String
deriving DecidableEq

/-- A reply; of a page, what it is rendered from. -/
inductive Reply
  | page (status : Option StatusCode) (requestId : String) (request : AuthorizeRequest)
      (message : Option String)
  | oauthError (status : StatusCode) (error : String)
  | redirect (url : String)
  | devAuthorize (code state redirectTo : String)
  | tokens (response : TokenResponse)
  | revoked
  /-- The reply of another handler. -/
  | other
deriving DecidableEq

/-- A request, at its next scope. -/
inductive IssuerTask
  | authorizePage (input : AuthorizeQuery)
  | validatePage (input : AuthorizeQuery)
  | insertRequest (request : AuthorizeRequest)
  | authorizeSubmit (input : AuthorizeForm)
  | readRequest (input : AuthorizeForm)
  | devAuthorize (input : DevAuthorizeRequest)
  | validateDev (input : DevAuthorizeRequest)
  /-- `issue_authorization_code`; a login has a noted request to remove afterwards. -/
  | issueCode (request : AuthorizeRequest) (requestId : Option String)
  | removeRequest (requestId : String) (request : AuthorizeRequest) (code : String)
  | token (input : TokenRequest)
  /-- `exchange_authorization_code` or `refresh_access_token`, up to the end of its scope. -/
  | exchange (input : TokenRequest)
  /-- `issue_token_payload`. -/
  | issueTokens (user : DemoUser) (clientId scope : String)
  | revoke (revoked : String)
  /-- A handler that only purges and reads. -/
  | other
  | answered (reply : Reply)
deriving DecidableEq

/-! ## The checks of a request -/

/-- What the login page shows when the request is not known any more. -/
def AuthorizeRequest.unknown (now : Time) : AuthorizeRequest :=
  ⟨"unknown", "unknown", "unknown", "unknown", "unknown", now⟩

/-- The scope that is asked for, if all of it is allowed. -/
def normalizeScope (scope : String) (allowed : List String) : Except String String := do
  let requested := (wordsOf isWhitespace scope.toList).map String.ofList
  refuseIf (requested = []) "invalid_scope"
  refuseIf (∃ item ∈ requested, item ∉ allowed) "invalid_scope"
  return " ".intercalate requested

/-- The check of a request to authorize. -/
def validateAuthorizeRequest (config : AppConfig) (now : Time) (input : AuthorizeQuery) :
    Except String AuthorizeRequest := do
  refuseIf (input.responseType ≠ some "code") "unsupported_response_type"
  let clientId := input.clientId.getD ""
  refuseIf (trim clientId = "") "invalid_client"
  let redirectUri := input.redirectUri.getD ""
  refuseIf (trim redirectUri = "") "invalid_redirect_uri"
  refuseIf (trim (input.state.getD "") = "") "invalid_state"
  let codeChallenge := input.codeChallenge.getD ""
  refuseIf (trim codeChallenge = "") "invalid_code_challenge"
  refuseIf (input.codeChallengeMethod.map toAsciiUppercase ≠ some "S256")
    "invalid_code_challenge_method"
  let client ← okOr (config.clients (trim clientId)) "unauthorized_client"
  refuseIf (trim redirectUri ∉ client.redirectUris) "redirect_uri_mismatch"
  let scope ← normalizeScope (input.scope.getD "openid profile email") client.scopes
  return {
    clientId := trim clientId
    redirectUri := trim redirectUri
    scope := scope
    state := trim (input.state.getD "")
    codeChallenge := trim codeChallenge
    expiresAt := now + 10 * 60 * 1000000 }

/-- The name and the password are those of the demo user. -/
def credentialsMatch (config : AppConfig) (username password : String) : Bool :=
  trim username == config.demoUser.username && password == config.demoUser.password

/-- Where the login sends the browser, with the code. -/
def makeRedirectUrl (x : IssuerCrates) (request : AuthorizeRequest) (code : String) : String :=
  x.withQuery request.redirectUri [("code", code), ("state", request.state)]

/-! ## The scopes of the lock -/

/-- The record of a code that is issued for the request. -/
def AuthorizeRequest.authorizationCode (config : AppConfig) (now : Time)
    (request : AuthorizeRequest) : AuthorizationCode where
  clientId := request.clientId
  redirectUri := request.redirectUri
  scope := request.scope
  codeChallenge := request.codeChallenge
  user := config.demoUser
  expiresAt := now + 5 * 60 * 1000000
  used := false

/-- The record of a refresh token that is issued. -/
def refreshTokenRecord (config : AppConfig) (now : Time) (user : DemoUser)
    (clientId scope : String) : RefreshTokenRecord where
  user := user
  clientId := clientId
  scope := scope
  expiresAt := now + config.refreshTokenTtl
  revoked := false

namespace Store

/-- The store without what has expired or been used. -/
def purgeExpired (s : Store) (now : Time) : Store where
  authorizeRequests := s.authorizeRequests.retain fun value => now < value.expiresAt
  authorizationCodes :=
    s.authorizationCodes.retain fun value => now < value.expiresAt && !value.used
  accessTokens := s.accessTokens.retain fun value => now < value.expiresAt
  refreshTokens := s.refreshTokens.retain fun value => now < value.expiresAt && !value.revoked

/-- The scope of `exchange_authorization_code`: the record that is exchanged. -/
def exchangeCode (x : IssuerCrates) (s : Store) (now : Time) (input : TokenRequest) :
    Except String (AuthorizationCode × Store) := do
  let code := trim input.code
  let record ← okOr (s.authorizationCodes code) "invalid_grant"
  refuseIf (record.used ∨ record.expiresAt ≤ now) "invalid_grant"
  refuseIf (record.clientId ≠ input.clientId ∨ record.redirectUri ≠ input.redirectUri)
    "invalid_grant"
  refuseIf (trim input.codeVerifier = "" ∨
    x.codeChallenge (trim input.codeVerifier) ≠ record.codeChallenge) "invalid_code_verifier"
  return (record, { s with
    authorizationCodes :=
      Function.update s.authorizationCodes code (some { record with used := true }) })

/-- The scope of `refresh_access_token`: the record that is exchanged. -/
def exchangeRefresh (s : Store) (now : Time) (input : TokenRequest) :
    Except String (RefreshTokenRecord × Store) := do
  let refreshToken := trim input.refreshToken
  let record ← okOr (s.refreshTokens refreshToken) "invalid_grant"
  refuseIf (record.revoked ∨ record.expiresAt ≤ now ∨ record.clientId ≠ input.clientId)
    "invalid_grant"
  return (record, { s with
    refreshTokens :=
      Function.update s.refreshTokens refreshToken (some { record with revoked := true }) })

/-- The scope of `issue_authorization_code`. -/
def insertCode (s : Store) (config : AppConfig) (now : Time) (request : AuthorizeRequest)
    (code : String) : Store :=
  { s with
    authorizationCodes :=
      Function.update s.authorizationCodes code (some (request.authorizationCode config now)) }

/-- The scope of `issue_token_payload`. -/
def insertTokens (s : Store) (config : AppConfig) (now : Time) (user : DemoUser)
    (clientId scope accessToken : String) (refreshToken : Option String) : Store :=
  { s with
    accessTokens := Function.update s.accessTokens accessToken
      (some { user := user, expiresAt := now + config.accessTokenTtl })
    refreshTokens :=
      match refreshToken with
      | some refreshToken => Function.update s.refreshTokens refreshToken
          (some (refreshTokenRecord config now user clientId scope))
      | none => s.refreshTokens }

/-- The scope of `revoke`. -/
def revoke (s : Store) (token : String) : Store :=
  { s with
    accessTokens := Function.update s.accessTokens (trim token) none
    refreshTokens := Function.update s.refreshTokens (trim token)
      ((s.refreshTokens (trim token)).map fun record => { record with revoked := true }) }

end Store

/-! ## The handlers -/

/-- What the requests share: the clock, the store, and the codes and refresh tokens that have been
made up. -/
structure IssuerShared where
  now : Time
  store : Store
  codes : List String
  refreshTokens : List String

/-- The random texts that a scope draws. -/
structure IssuerDraw where
  requestId : String
  code : String
  accessToken : String
  refreshToken : String

namespace IssuerShared

/-- The request goes on, or is answered. -/
def goOn (s : IssuerShared) (next : IssuerTask) : Block IssuerShared IssuerTask := ⟨next, [], s⟩

/-- The handler ends with an answer. -/
def reply (s : IssuerShared) (reply : Reply) : Block IssuerShared IssuerTask :=
  s.goOn (.answered reply)

/-- The handler ends with an error. -/
def oauthError (s : IssuerShared) (status : StatusCode) (error : String) :
    Block IssuerShared IssuerTask :=
  s.reply (.oauthError status error)

/-- The issuer with another store. -/
def setStore (s : IssuerShared) (store : Store) : IssuerShared := { s with store := store }

/-- The issuer forgets what has expired. -/
def purge (s : IssuerShared) : IssuerShared := s.setStore (s.store.purgeExpired s.now)

end IssuerShared

/-- The scope asks for a token for use offline. -/
def wantsRefresh (scope : String) : Bool :=
  ((wordsOf isWhitespace scope.toList).map String.ofList).any (· == "offline_access")

/-- The next scope of a request. -/
def IssuerTask.block (x : IssuerCrates) (config : AppConfig) (draw : IssuerDraw)
    (s : IssuerShared) : IssuerTask → Block IssuerShared IssuerTask
  | .authorizePage input => s.purge.goOn (.validatePage input)
  | .validatePage input =>
    match validateAuthorizeRequest config s.now input with
    | .error e => s.oauthError .badRequest e
    | .ok request => s.goOn (.insertRequest request)
  | .insertRequest request =>
    let store := { s.store with
      authorizeRequests :=
        Function.update s.store.authorizeRequests draw.requestId (some request) }
    (s.setStore store).reply (.page none draw.requestId request none)
  | .authorizeSubmit input => s.purge.goOn (.readRequest input)
  | .readRequest input =>
    match s.store.authorizeRequests input.requestId with
    | none => s.reply (.page none "expired" (.unknown s.now)
        (some "Authorization request expired. Please restart login."))
    | some request =>
      if credentialsMatch config input.username input.password then
        s.goOn (.issueCode request (some input.requestId))
      else s.reply (.page (some .unauthorized) input.requestId request
        (some "Invalid username or password."))
  | .devAuthorize input =>
    if config.allowHeadlessAuthorize then s.purge.goOn (.validateDev input)
    else s.oauthError .notFound "not_found"
  | .validateDev input =>
    match validateAuthorizeRequest config s.now input.toAuthorizeQuery with
    | .error e => s.oauthError .badRequest e
    | .ok request =>
      if credentialsMatch config input.username input.password then
        s.goOn (.issueCode request none)
      else s.oauthError .unauthorized "invalid_credentials"
  | .issueCode request requestId =>
    let s := { s with
      store := s.store.insertCode config s.now request draw.code
      codes := draw.code :: s.codes }
    match requestId with
    | some requestId => s.goOn (.removeRequest requestId request draw.code)
    | none => s.reply (.devAuthorize draw.code request.state (makeRedirectUrl x request draw.code))
  | .removeRequest requestId request code =>
    let store := { s.store with
      authorizeRequests := Function.update s.store.authorizeRequests requestId none }
    (s.setStore store).reply (.redirect (makeRedirectUrl x request code))
  | .token input => s.purge.goOn (.exchange input)
  | .exchange input =>
    if (config.clients (trim input.clientId)).isNone then
      s.oauthError .unauthorized "unauthorized_client"
    else if input.grantType = "authorization_code" then
      match s.store.exchangeCode x s.now input with
      | .error e => s.oauthError .badRequest e
      | .ok (record, store) =>
        (s.setStore store).goOn (.issueTokens record.user record.clientId record.scope)
    else if input.grantType = "refresh_token" then
      match s.store.exchangeRefresh s.now input with
      | .error e => s.oauthError .badRequest e
      | .ok (record, store) =>
        (s.setStore store).goOn (.issueTokens record.user record.clientId record.scope)
    else s.oauthError .badRequest "unsupported_grant_type"
  | .issueTokens user clientId scope =>
    let refreshToken := if wantsRefresh scope then some draw.refreshToken else none
    let store := s.store.insertTokens config s.now user clientId scope draw.accessToken refreshToken
    IssuerShared.reply { s with
        store := store
        refreshTokens := refreshToken.toList ++ s.refreshTokens }
      (.tokens {
        accessToken := draw.accessToken
        tokenType := "Bearer"
        expiresIn := config.accessTokenTtl / 1000000
        refreshToken := refreshToken
        scope := scope })
  | .revoke revoked => (s.setStore (s.store.revoke revoked)).reply .revoked
  | .other => s.purge.reply .other
  | .answered reply => s.reply reply

/-! ## The issuer -/

/-- The store and the handlers that run. -/
abbrev Issuer := Threads IssuerShared IssuerTask

/-- A step of the issuer. -/
inductive IssuerLabel
  | authorizePage (input : AuthorizeQuery)
  | authorizeSubmit (input : AuthorizeForm)
  | devAuthorize (input : DevAuthorizeRequest)
  | token (input : TokenRequest)
  | revoke (revoked : String)
  | other
  /-- The `i`-th request runs its next scope. -/
  | advance (i : ℕ) (draw : IssuerDraw)
  /-- Time passes. -/
  | wait (now : Time)

/-- The request that comes in. -/
def IssuerLabel.called : IssuerLabel → Option IssuerTask
  | .authorizePage input => some (.authorizePage input)
  | .authorizeSubmit input => some (.authorizeSubmit input)
  | .devAuthorize input => some (.devAuthorize input)
  | .token input => some (.token input)
  | .revoke revoked => some (.revoke revoked)
  | .other => some .other
  | .advance _ _ | .wait _ => none

/-- Where a request was before a scope, and where it is now. -/
structure Move where
  before : IssuerTask
  after : IssuerTask
deriving DecidableEq

/-- The codes and refresh tokens that are made up are new ones. -/
def IssuerTask.Fresh (s : IssuerShared) (draw : IssuerDraw) : IssuerTask → Prop
  | .issueCode _ _ => draw.code ∉ s.codes
  | .issueTokens _ _ _ => draw.refreshToken ∉ s.refreshTokens
  | _ => True

instance (s : IssuerShared) (draw : IssuerDraw) : DecidablePred (IssuerTask.Fresh s draw)
  | .issueCode _ _ => inferInstanceAs (Decidable (draw.code ∉ s.codes))
  | .issueTokens _ _ _ => inferInstanceAs (Decidable (draw.refreshToken ∉ s.refreshTokens))
  | .authorizePage _ | .validatePage _ | .insertRequest _ | .authorizeSubmit _ | .readRequest _
  | .devAuthorize _ | .validateDev _ | .removeRequest _ _ _ | .token _ | .exchange _ | .revoke _
  | .other | .answered _ => inferInstanceAs (Decidable True)

namespace Issuer

/-- Time does not go back, and what is made up is new. -/
def Enabled (s : Issuer) : IssuerLabel → Prop
  | .advance i draw => ∃ t ∈ s.threads[i]?, t.Fresh s.shared draw
  | .wait now => s.shared.now ≤ now
  | _ => True

instance (s : Issuer) : DecidablePred s.Enabled
  | .advance i draw => inferInstanceAs (Decidable (∃ t ∈ s.threads[i]?, t.Fresh s.shared draw))
  | .wait now => inferInstanceAs (Decidable (s.shared.now ≤ now))
  | .authorizePage _ | .authorizeSubmit _ | .devAuthorize _ | .token _ | .revoke _ | .other =>
    inferInstanceAs (Decidable True)

/-- A new request, or the next block of a handler. -/
def step (x : IssuerCrates) (config : AppConfig) (s : Issuer) (l : IssuerLabel) :
    Option Move × Issuer :=
  match l with
  | .advance i draw =>
    match s.threads[i]? with
    | some t =>
      let block := t.block x config draw s.shared
      (some ⟨t, block.next⟩, s.after i block)
    | none => (none, s)
  | .wait now => (none, { s with shared := { s.shared with now := now } })
  | l => (none, { s with threads := s.threads ++ l.called.toList })

end Issuer

/-- An issuer that has just been started. -/
def issuer (x : IssuerCrates) (config : AppConfig) :
    Machine Issuer IssuerLabel (Option Move) where
  init s := s.shared.store = .empty ∧ s.shared.codes = [] ∧ s.shared.refreshTokens = [] ∧
    s.threads = []
  enabled s l := s.Enabled l
  step s l := s.step x config l

instance (x : IssuerCrates) (config : AppConfig) (s : Issuer) (l : IssuerLabel) :
    Decidable ((issuer x config).enabled s l) :=
  inferInstanceAs (Decidable (s.Enabled l))

end DevIssuer

end OzonSuite
