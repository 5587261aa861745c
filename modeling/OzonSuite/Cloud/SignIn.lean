/-
# Signing in

How the service finds out who is calling.  An account is signed in to with its password or by
SkyBridge, whose providers are asked one after the other; what it gets is a bearer token, which is
good for twelve hours and is all that later requests bring.
-/
import OzonSuite.Cloud.Accounts

namespace OzonSuite

open Lib

/-! ## Claims and what they rest on -/

/-- The columns of a user that only signing in reads. -/
structure Credentials where
  passwordHash : String
  role : UserRole
deriving DecidableEq

/-- What a bearer token says. -/
structure TokenClaims extends AuthClaims where
  role : UserRole
  exp : ℕ
deriving DecidableEq

/-- What signing in takes from other crates. -/
structure SessionCrates where
  /-- The Argon2 hash of a password, made with a salt. -/
  hashPassword : (salt password : String) → Option String
  /-- Whether a password fits an Argon2 hash. -/
  verifyPassword : (hash password : String) → Bool
  /-- A token for claims, signed with a secret. -/
  encode : (secret : String) → TokenClaims → Option String
  /-- The claims of a token that is signed with a secret and good at a time, in seconds. -/
  decode : (secret : String) → (now : ℕ) → (token : String) → Option TokenClaims

/-- What is relied on: a hash fits the password it was made of and no other, a token says what was
signed, and it is not read later than a minute after it has expired. -/
structure SessionCrates.Sound (x : SessionCrates) : Prop where
  hash : ∀ salt password hash, x.hashPassword salt password = some hash →
    ∀ other, x.verifyPassword hash other = true ↔ other = password
  decode : ∀ secret claims token now other, x.encode secret claims = some token →
    x.decode secret now token = some other → other = claims
  fresh : ∀ secret now token claims, x.decode secret now token = some claims →
    now ≤ claims.exp + 60

/-- The part of the configuration that signing in reads. -/
structure SessionConfig (p : PointerWidth) where
  jwtSecret : String
  adminToken : Str p
  allowLocalNebulaRegistration : Bool
  skybridgeApiBaseUrls : List String

/-! ## SkyBridge -/

/-- What comes of a request to a provider: a status, and a body where it can be read. -/
inductive ProviderAnswer (α : Type)
  | unavailable
  | answered (status : ℕ) (body : Option α)

/-- A status that reports success. -/
def isSuccess (status : ℕ) : Bool := 200 ≤ status && status < 300

/-- The profile that the identity provider answers with. -/
def fetchSkybridgeProfile :
    ProviderAnswer SkybridgeProfileResponse → Except ApiError SkybridgeProfileResponse
  | .unavailable => .error (.badGateway "SkyBridge identity provider is unavailable")
  | .answered status body => do
    refuseIf (status = 401) (ApiError.unauthorized "invalid SkyBridge session")
    refuseIf (isSuccess status = false) (ApiError.badGateway "SkyBridge profile lookup failed")
    okOr body (ApiError.badGateway "invalid SkyBridge profile response")

/-- Ask the provider for a Nebula ID. -/
def generateSkybridgeNebulaId : ProviderAnswer Unit → Except ApiError Unit
  | .unavailable => .error (.badGateway "SkyBridge identity provider is unavailable")
  | .answered status _ =>
    -- the provider says so when there is one already
    if status = 400 then .ok ()
    else do
      refuseIf (status = 401) (ApiError.unauthorized "invalid SkyBridge session")
      refuseIf (isSuccess status = false)
        (ApiError.badGateway "SkyBridge nebula id generation failed")

/-- The answers of one provider to the requests that may be made, in their order. -/
structure SkybridgeAnswers where
  profile : ProviderAnswer SkybridgeProfileResponse
  nebulaId : ProviderAnswer Unit
  profileAgain : ProviderAnswer SkybridgeProfileResponse

section Skybridge

variable (k : LetterClasses)

/-- The profile of a session, with a Nebula ID made if there was none. -/
def resolveSkybridgeProfileFromProvider (answers : SkybridgeAnswers) :
    Except ApiError SkybridgeProfile := do
  let profile ← fetchSkybridgeProfile answers.profile
  if profile.nebulaId.isNone then
    generateSkybridgeNebulaId answers.nebulaId
    let profile ← fetchSkybridgeProfile answers.profileAgain
    SkybridgeProfile.tryFromResponse k profile
  else
    SkybridgeProfile.tryFromResponse k profile

/-- The loop of `resolve_skybridge_profile`, with the error it has last met. -/
def firstSkybridgeProfile (lastError : ApiError) :
    List SkybridgeAnswers → Except ApiError SkybridgeProfile
  | [] => .error lastError
  | answers :: rest =>
    match resolveSkybridgeProfileFromProvider k answers with
    | .ok profile => .ok profile
    | .error e => firstSkybridgeProfile e rest

/-- `resolve_skybridge_profile`; the `i`-th provider is asked at its base URL. -/
def resolveSkybridgeProfile (baseUrls : List String) (clientBuilt : Bool)
    (provider : ℕ → String → SkybridgeAnswers) : Except ApiError SkybridgeProfile := do
  refuseIf (baseUrls = [])
    (ApiError.serviceUnavailable "SkyBridge identity provider is not configured")
  refuseIf (clientBuilt = false) (ApiError.internal "failed to create identity provider client")
  firstSkybridgeProfile k
    (.serviceUnavailable "SkyBridge identity provider is not configured")
    (baseUrls.mapIdx provider)

end Skybridge

/-- What stands for a password in the row of an account of SkyBridge. -/
def skybridgePasswordSentinel : String := "skybridge-session-only"

/-! ## Passwords -/

/-- A request to sign in. -/
structure LoginRequest where
  email : Option String
  phone : Option String
  nebulaId : Option String
  loginMethod : Option LoginMethod
  identifier : Option String
  password : String

section Passwords

variable (k : LetterClasses)

/-- The identifier that a request signs in with. -/
def LoginIdentity.fromRequest (input : LoginRequest) : Except ApiError LoginIdentity :=
  match input.loginMethod with
  | some method => do
    let own := match method with
      | .email => input.email
      | .phone => input.phone
      | .nebula => input.nebulaId
    let value ← okOr (input.identifier.or own) (ApiError.badRequest "login identifier is required")
    parseLoginIdentity k method value
  | none =>
    match input.email, input.phone, input.nebulaId.or input.identifier with
    | some address, _, _ => parseLoginIdentity k .email address
    | none, some number, _ => parseLoginIdentity k .phone number
    | none, none, some value => parseLoginIdentity k .nebula value
    | none, none, none => .error (.badRequest "login identifier is required")

/-- Accounts of SkyBridge have no password here. -/
def ensureLocalPasswordLoginAllowed (account : Account) : Except ApiError Unit :=
  refuseIf (account.nebulaSource ≠ .localDev) (ApiError.unauthorized "use SkyBridge identity")

variable (x : SessionCrates)

/-- The check of a password against its hash. -/
def verifyPassword (hash password : String) : Except ApiError Unit :=
  refuseIf (x.verifyPassword hash password = false) (ApiError.unauthorized "invalid credentials")

/-- `login`, up to its token; the credentials are columns of the row that is found. -/
def logIn (db : Db) (credentials : UserId → Credentials) (input : LoginRequest) :
    Except ApiError Account := do
  let identity ← LoginIdentity.fromRequest k input
  let found ← findUserByLoginIdentity k db identity
  let account ← okOr found (ApiError.unauthorized "invalid credentials")
  ensureLocalPasswordLoginAllowed account
  verifyPassword x (credentials account.id).passwordHash input.password
  return account

/-- `register`, up to its transaction. -/
def prepareCredentials (db : Db) (allowLocalNebulaRegistration : Bool) (input : RegisterRequest)
    (draw : AccountDraw) (salt : String) : Except ApiError (Account × Credentials) := do
  let account ← prepareRegistration k db allowLocalNebulaRegistration input draw
  let hash ← okOr (x.hashPassword salt input.password) (ApiError.internal "failed to hash secret")
  return (account, ⟨hash, .user⟩)

end Passwords

/-! ## Tokens -/

section Tokens

variable {p : PointerWidth} (x : SessionCrates) (config : SessionConfig p)

/-- The end of a token that is issued now, in seconds in a word of the machine. -/
def tokenExpiry (p : PointerWidth) (now : Time) : ℕ :=
  ((now + Time.hours 12) / 1000000 % 2 ^ p.bits).toNat

/-- A token for a user, that ends in twelve hours. -/
def issueJwt (userId : UserId) (tenantId : TenantId) (role : UserRole) (now : Time) :
    Except ApiError String :=
  okOr (x.encode config.jwtSecret ⟨⟨userId, tenantId⟩, role, tokenExpiry p now⟩)
    (ApiError.internal "failed to issue token")

/-- The token that a request brings. -/
def bearerToken (authorization : Option String) : Option String :=
  authorization.bind (stripPrefix "Bearer ")

/-- Whose token a request brings. -/
def requireUser (now : Time) (authorization : Option String) : Except ApiError TokenClaims := do
  let token ← okOr (bearerToken authorization) (ApiError.unauthorized "missing bearer token")
  okOr (x.decode config.jwtSecret (now / 1000000).toNat token)
    (ApiError.unauthorized "invalid bearer token")

/-- The check that a request comes from an administrator. -/
def requireAdmin (now : Time) (adminToken : Option (Str p)) (authorization : Option String) :
    Except ApiError Unit :=
  if adminToken.any fun token => Cloud.constantTimeEq p token.text config.adminToken.text then
    .ok ()
  else do
    let claims ← requireUser x config now authorization
    refuseIf (claims.role ≠ .admin) (ApiError.forbidden "admin access required")

end Tokens

end OzonSuite
