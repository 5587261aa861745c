/-
# Sessions

Registrations, sign-ins and requests with a bearer token, in any order.  What a request does between
two calls of the database is one step, and the token that ends a registration or a sign-in is issued
in a step of its own.  A caller who is recognised as a user has a token that was issued to that user
lately, after a password or a provider of SkyBridge had vouched for them.
-/
import OzonSuite.Cloud.AccountRows
import OzonSuite.Cloud.SignIn

namespace OzonSuite

open Lib

/-! ## The service -/

/-- The accounts with their credentials, and what is under way. -/
structure SessionService where
  db : Db
  /-- The credentials in the rows of the users. -/
  credentials : UserId → Credentials
  /-- The registrations that have not reached their transaction. -/
  registrations : List (Option (Account × Credentials))
  /-- The requests that have found an account, up to their token. -/
  signIns : List (Option (Account × UserRole))
  /-- The tokens that have been given out. -/
  issued : List String

/-- A request of the service of sessions. -/
inductive SessionRequest (p : PointerWidth)
  | register (input : RegisterRequest)
  /-- The transaction of the `i`-th registration. -/
  | store (i : ℕ)
  | skybridge
  | login (input : LoginRequest)
  /-- The token of the `i`-th request that has found an account. -/
  | issue (i : ℕ)
  | requireUser (authorization : Option String)
  | requireAdmin (adminToken : Option (Str p)) (authorization : Option String)

/-- What a request draws: the time and identifiers, a salt, and the answers of SkyBridge. -/
structure SessionDraw extends AccountDraw where
  salt : String
  clientBuilt : Bool
  provider : ℕ → String → SkybridgeAnswers

/-- What a request is answered with. -/
inductive SessionAnswer
  /-- The request goes on. -/
  | waiting
  /-- The account that is signed in to. -/
  | found (account : Account)
  | token (token : String)
  | admitted (claims : TokenClaims)
  | admin
deriving DecidableEq

namespace SessionService

variable {p : PointerWidth} (k : LetterClasses) (x : SessionCrates) (config : SessionConfig p)

/-- What a request does. -/
def step (s : SessionService) (request : SessionRequest p) (draw : SessionDraw) :
    Except ApiError SessionAnswer × SessionService :=
  match request with
  | .register input =>
    match prepareCredentials k x s.db config.allowLocalNebulaRegistration input
      draw.toAccountDraw draw.salt with
    | .error e => (.error e, s)
    | .ok registration =>
      (.ok .waiting, { s with registrations := s.registrations ++ [some registration] })
  | .store i =>
    match slot s.registrations i with
    | none => (.ok .waiting, s)
    | some (account, credentials) =>
      match storeAccount account s.db with
      | .error e => (.error e, { s with registrations := s.registrations.set i none })
      | .ok (account, db) =>
        (.ok (.found account),
          { s with
            db := db
            credentials := Function.update s.credentials account.id credentials
            registrations := s.registrations.set i none
            signIns := s.signIns ++ [some (account, credentials.role)] })
  | .skybridge =>
    match resolveSkybridgeProfile k config.skybridgeApiBaseUrls draw.clientBuilt draw.provider with
    | .error e => (.error e, s)
    | .ok profile =>
      match upsertSkybridgeUser k profile draw.toAccountDraw s.db with
      | .error e => (.error e, s)
      | .ok (account, db) =>
        -- an account that is there keeps its credentials
        let credentials := if s.db.users.rows.any (·.id == account.id) then s.credentials account.id
          else ⟨skybridgePasswordSentinel, .user⟩
        (.ok (.found account),
          { s with
            db := db
            credentials := Function.update s.credentials account.id credentials
            signIns := s.signIns ++ [some (account, credentials.role)] })
  | .login input =>
    match logIn k x s.db s.credentials input with
    | .error e => (.error e, s)
    | .ok account =>
      (.ok (.found account),
        { s with signIns := s.signIns ++ [some (account, (s.credentials account.id).role)] })
  | .issue i =>
    match slot s.signIns i with
    | none => (.ok .waiting, s)
    | some (account, role) =>
      match issueJwt x config account.id account.tenantId role draw.now with
      | .error e => (.error e, { s with signIns := s.signIns.set i none })
      | .ok token =>
        (.ok (.token token),
          { s with signIns := s.signIns.set i none, issued := s.issued ++ [token] })
  | .requireUser authorization =>
    ((requireUser x config draw.now authorization).map .admitted, s)
  | .requireAdmin adminToken authorization =>
    ((requireAdmin x config draw.now adminToken authorization).map fun _ => .admin, s)

/-- What is assumed of a request: the time is after 1970, and a token that can be read has been
given out. -/
def Honest (s : SessionService) (request : SessionRequest p) (draw : SessionDraw) : Prop :=
  let unforged (authorization : Option String) := ∀ token claims,
    bearerToken authorization = some token →
      x.decode config.jwtSecret (draw.now / 1000000).toNat token = some claims → token ∈ s.issued
  0 ≤ draw.now ∧
    match request with
    | .requireUser authorization => unforged authorization
    | .requireAdmin _ authorization => unforged authorization
    | _ => True

end SessionService

/-- A request with its answer. -/
abbrev SessionEvent (p : PointerWidth) :=
  (SessionRequest p × SessionDraw) × Except ApiError SessionAnswer

/-- The service starts on a database without users. -/
def sessionMachine {p : PointerWidth} (k : LetterClasses) (x : SessionCrates)
    (config : SessionConfig p) :
    Machine SessionService (SessionRequest p × SessionDraw) (Except ApiError SessionAnswer) where
  init s := s.db.users.rows = [] ∧ s.registrations = [] ∧ s.signIns = [] ∧ s.issued = []
  enabled s l := s.Honest x config l.1 l.2
  step s l := s.step k x config l.1 l.2

/-! ## What is wanted -/

section Safety

variable {p : PointerWidth}

/-- The passwords of the registrations that were accepted, in their order. -/
def passwords (tr : List (SessionEvent p)) : List String :=
  tr.filterMap fun e => match e with
    | ((.register input, _), .ok _) => some input.password
    | _ => none

/-- The account was stored for a registration with the password. -/
def RegisteredWith (tr : List (SessionEvent p)) (account : Account) (password : String) : Prop :=
  ∃ before i draw after, tr = before ++ ((.store i, draw), .ok (.found account)) :: after ∧
    (passwords before)[i]? = some password

/-- Somebody has signed in to the account. -/
def FoundIn (tr : List (SessionEvent p)) (account : Account) : Prop :=
  ∃ l, (l, .ok (.found account)) ∈ tr

/-- The token was issued at a time with the claims, to somebody who had signed in to the account. -/
structure IssuedFor (x : SessionCrates) (config : SessionConfig p) (tr : List (SessionEvent p))
    (account : Account) (issuedAt : Time) (claims : TokenClaims) (token : String) : Prop where
  signed : x.encode config.jwtSecret claims = some token
  claims : claims = ⟨⟨account.id, account.tenantId⟩, .user, tokenExpiry p issuedAt⟩
  events : ∃ before i draw after, tr = before ++ ((.issue i, draw), .ok (.token token)) :: after ∧
    draw.now = issuedAt ∧ 0 ≤ issuedAt ∧ FoundIn before account

/-- What is wanted after the trace `tr`, which has led to the state `s`. -/
structure SessionsSafe (k : LetterClasses) (x : SessionCrates) (config : SessionConfig p)
    (tr : List (SessionEvent p)) (s : SessionService) : Prop where
  /-- A password signs in to just the accounts that were registered with it. -/
  login : ∀ input draw account,
    (s.step k x config (.login input) draw).1 = .ok (.found account) ↔
      ∃ identity, LoginIdentity.fromRequest k input = .ok identity ∧
        RegisteredWith tr account input.password ∧ identity.selects account.toRow = true
  /-- SkyBridge signs in to the account of the user whom the first provider that can tell names. -/
  skybridge : ∀ draw account, (s.step k x config .skybridge draw).1 = .ok (.found account) →
    (∃ before answers after profile,
      config.skybridgeApiBaseUrls.mapIdx draw.provider = before ++ answers :: after ∧
        (∀ other ∈ before, ∃ e, resolveSkybridgeProfileFromProvider k other = .error e) ∧
        resolveSkybridgeProfileFromProvider k answers = .ok profile ∧
        account.skybridgeUserId = some profile.userId) ∧
      ∀ other, FoundIn tr other →
        (other.id = account.id ↔ other.skybridgeUserId = account.skybridgeUserId)
  /-- A caller who is recognised was given the token for the account, not long ago. -/
  bearer : ∀ draw authorization claims, s.Honest x config (.requireUser authorization) draw →
    (s.step k x config (.requireUser authorization) draw).1 = .ok (.admitted claims) →
      claims.role = .user ∧
        (∃ row ∈ s.db.users.rows, row.id = claims.sub ∧ row.tenantId = claims.tenantId) ∧
        ∃ account issuedAt token, bearerToken authorization = some token ∧
          IssuedFor x config tr account issuedAt claims token ∧
          draw.now < issuedAt + Time.hours 12 + 61000000
  /-- Only the token of the administrator makes an administrator. -/
  admin : ∀ draw adminToken authorization,
    s.Honest x config (.requireAdmin adminToken authorization) draw →
      ((s.step k x config (.requireAdmin adminToken authorization) draw).1 = .ok .admin ↔
        ∃ token, adminToken = some token ∧ token.text = config.adminToken.text)

end Safety

/-! ## What has happened -/

section Traces

variable {p : PointerWidth} {tr : List (SessionEvent p)} {e : SessionEvent p} {account : Account}
  {password : String}

/-- Where a trace is cut when its last event is known. -/
lemma cut_of_snoc {α : Type} {l before after : List α} {a e : α}
    (h : l ++ [e] = before ++ a :: after) :
    (l = before ∧ e = a) ∨ ∃ rest, l = before ++ a :: rest := by
  rcases List.eq_nil_or_concat after with rfl | ⟨rest, b, rfl⟩
  · obtain ⟨rfl, hlast⟩ := List.append_inj' h rfl
    exact .inl ⟨rfl, (List.singleton_inj.mp hlast)⟩
  · rw [List.concat_eq_append, ← List.cons_append, ← List.append_assoc] at h
    exact .inr ⟨rest, (List.append_inj' h rfl).1⟩

lemma passwords_append (more : List (SessionEvent p)) :
    passwords (tr ++ more) = passwords tr ++ passwords more :=
  List.filterMap_append

/-- Only a registration that is accepted brings a password. -/
lemma passwords_snoc (h : ∀ input a, e.1.1 = .register input → e.2 ≠ .ok a) :
    passwords (tr ++ [e]) = passwords tr := by
  rw [passwords_append]
  obtain ⟨⟨request, draw⟩, answer⟩ := e
  cases request with
  | register input =>
    cases answer with
    | error e => exact List.append_nil _
    | ok a => exact absurd rfl (h input a rfl)
  | _ => exact List.append_nil _

lemma FoundIn.append (h : FoundIn tr account) (more : List (SessionEvent p)) :
    FoundIn (tr ++ more) account := by
  obtain ⟨l, hmem⟩ := h
  exact ⟨l, List.mem_append_left _ hmem⟩

lemma RegisteredWith.append (h : RegisteredWith tr account password)
    (more : List (SessionEvent p)) : RegisteredWith (tr ++ more) account password := by
  obtain ⟨before, i, draw, after, rfl, hpassword⟩ := h
  exact ⟨before, i, draw, after ++ more, by simp, hpassword⟩

/-- An account that was stored was stored before, or has just been. -/
lemma registeredWith_snoc (h : RegisteredWith (tr ++ [e]) account password) :
    RegisteredWith tr account password ∨
      ∃ i draw, e = ((.store i, draw), .ok (.found account)) ∧
        (passwords tr)[i]? = some password := by
  obtain ⟨before, i, draw, after, htr, hpassword⟩ := h
  rcases cut_of_snoc htr with ⟨rfl, rfl⟩ | ⟨rest, rfl⟩
  · exact .inr ⟨i, draw, rfl, hpassword⟩
  · exact .inl ⟨before, i, draw, rest, rfl, hpassword⟩

lemma foundIn_snoc (h : FoundIn (tr ++ [e]) account) :
    FoundIn tr account ∨ e.2 = .ok (.found account) := by
  obtain ⟨l, hmem⟩ := h
  rcases List.mem_append.mp hmem with hmem | hmem
  · exact .inl ⟨l, hmem⟩
  · rw [← List.mem_singleton.mp hmem]
    exact .inr rfl

lemma IssuedFor.append {x : SessionCrates} {config : SessionConfig p} {issuedAt : Time}
    {claims : TokenClaims} {token : String}
    (h : IssuedFor x config tr account issuedAt claims token) (more : List (SessionEvent p)) :
    IssuedFor x config (tr ++ more) account issuedAt claims token := by
  obtain ⟨before, i, draw, after, rfl, hevents⟩ := h.events
  exact ⟨h.signed, h.claims, before, i, draw, after ++ more, by simp, hevents⟩

end Traces

/-- The password fits the credentials, and no other does. -/
def Credentials.Fits (x : SessionCrates) (c : Credentials) (password : String) : Prop :=
  ∀ other, x.verifyPassword c.passwordHash other = true ↔ other = password

section Runs

variable {p : PointerWidth} {k : LetterClasses} {x : SessionCrates} {config : SessionConfig p}
  {s : SessionService} {tr : List (SessionEvent p)}

/-- The registrations that wait were accepted with these passwords. -/
structure Accepted (k : LetterClasses) (x : SessionCrates) (passwords : List String)
    (registrations : List (Option (Account × Credentials))) : Prop where
  length : registrations.length = passwords.length
  registration : ∀ i account c, slot registrations i = some (account, c) →
    account.Parsed k ∧ account.nebulaSource = .localDev ∧ c.role = .user ∧
      ∃ password, passwords[i]? = some password ∧ c.Fits x password

/-- What is true of the state after a trace. -/
structure SessionHistory (k : LetterClasses) (x : SessionCrates) (config : SessionConfig p)
    (tr : List (SessionEvent p)) (s : SessionService) : Prop where
  readable : s.db.Readable k
  accepted : Accepted k x (passwords tr) s.registrations
  roles : ∀ row ∈ s.db.users.rows, (s.credentials row.id).role = .user
  stored : ∀ row ∈ s.db.users.rows, row.nebulaSource = .localDev →
    ∃ account password, RegisteredWith tr account password ∧ row = account.toRow
  registered : ∀ account password, RegisteredWith tr account password →
    account.toRow ∈ s.db.users.rows ∧ account.nebulaSource = .localDev ∧
      (s.credentials account.id).Fits x password
  found : ∀ account, FoundIn tr account → ∃ row ∈ s.db.users.rows, row.id = account.id ∧
    row.tenantId = account.tenantId ∧ row.skybridgeUserId = account.skybridgeUserId
  signIns : ∀ account role, some (account, role) ∈ s.signIns → role = .user ∧ FoundIn tr account
  issued : ∀ token ∈ s.issued, ∃ account issuedAt claims,
    IssuedFor x config tr account issuedAt claims token

/-- All that a step may come to. -/
inductive SessionTurn (k : LetterClasses) (x : SessionCrates) (config : SessionConfig p)
    (s : SessionService) : SessionRequest p → SessionDraw → Except ApiError SessionAnswer →
      SessionService → Prop
  | registered (input : RegisterRequest) (draw : SessionDraw) (account : Account) (c : Credentials)
      (h : prepareCredentials k x s.db config.allowLocalNebulaRegistration input
        draw.toAccountDraw draw.salt = .ok (account, c)) :
    SessionTurn k x config s (.register input) draw (.ok .waiting)
      { s with registrations := s.registrations ++ [some (account, c)] }
  | stored (i : ℕ) (draw : SessionDraw) (account : Account) (c : Credentials) (db : Db)
      (hslot : slot s.registrations i = some (account, c))
      (h : storeAccount account s.db = .ok (account, db)) :
    SessionTurn k x config s (.store i) draw (.ok (.found account))
      { s with
        db := db
        credentials := Function.update s.credentials account.id c
        registrations := s.registrations.set i none
        signIns := s.signIns ++ [some (account, c.role)] }
  | synced (draw : SessionDraw) (profile : SkybridgeProfile) (account : Account) (db : Db)
      (hprofile : resolveSkybridgeProfile k config.skybridgeApiBaseUrls draw.clientBuilt
        draw.provider = .ok profile)
      (h : upsertSkybridgeUser k profile draw.toAccountDraw s.db = .ok (account, db))
      (c : Credentials)
      (hc : c = if s.db.users.rows.any (·.id == account.id) then s.credentials account.id
        else ⟨skybridgePasswordSentinel, .user⟩) :
    SessionTurn k x config s .skybridge draw (.ok (.found account))
      { s with
        db := db
        credentials := Function.update s.credentials account.id c
        signIns := s.signIns ++ [some (account, c.role)] }
  | loggedIn (input : LoginRequest) (draw : SessionDraw) (account : Account)
      (h : logIn k x s.db s.credentials input = .ok account) :
    SessionTurn k x config s (.login input) draw (.ok (.found account))
      { s with signIns := s.signIns ++ [some (account, (s.credentials account.id).role)] }
  | issued (i : ℕ) (draw : SessionDraw) (account : Account) (role : UserRole) (token : String)
      (hslot : slot s.signIns i = some (account, role))
      (h : issueJwt x config account.id account.tenantId role draw.now = .ok token) :
    SessionTurn k x config s (.issue i) draw (.ok (.token token))
      { s with signIns := s.signIns.set i none, issued := s.issued ++ [token] }
  | storeRefused (i : ℕ) (draw : SessionDraw) (e : ApiError) :
    SessionTurn k x config s (.store i) draw (.error e)
      { s with registrations := s.registrations.set i none }
  | issueRefused (i : ℕ) (draw : SessionDraw) (e : ApiError) :
    SessionTurn k x config s (.issue i) draw (.error e)
      { s with signIns := s.signIns.set i none }
  | quiet (request : SessionRequest p) (draw : SessionDraw)
      (answer : Except ApiError SessionAnswer)
      (hregister : ∀ input a, request = .register input → answer ≠ .ok a)
      (hfound : ∀ account, answer ≠ .ok (.found account)) :
    SessionTurn k x config s request draw answer s

lemma step_sessionTurn (request : SessionRequest p) (draw : SessionDraw) :
    SessionTurn k x config s request draw (s.step k x config request draw).1
      (s.step k x config request draw).2 := by
  cases request with
  | register input =>
    rw [SessionService.step]
    cases h : prepareCredentials k x s.db config.allowLocalNebulaRegistration input
        draw.toAccountDraw draw.salt with
    | error e => exact .quiet _ _ _ (fun _ _ _ => nofun) fun _ => nofun
    | ok registration => exact .registered input draw registration.1 registration.2 h
  | store i =>
    rw [SessionService.step]
    cases hslot : slot s.registrations i with
    | none => exact .quiet _ _ _ (fun _ _ => nofun) fun _ => nofun
    | some registration =>
      -- the account was checked and its password hashed in the first half
      obtain ⟨account, c⟩ := registration
      dsimp only
      cases h : storeAccount account s.db with
      | error e => exact .storeRefused i draw e
      | ok stored =>
        obtain ⟨found, db⟩ := stored
        obtain ⟨rfl, -⟩ := storeAccount_ok h
        exact .stored i draw found c db hslot h
  | skybridge =>
    rw [SessionService.step]
    cases hprofile : resolveSkybridgeProfile k config.skybridgeApiBaseUrls draw.clientBuilt
        draw.provider with
    | error e => exact .quiet _ _ _ (fun _ _ _ => nofun) fun _ => nofun
    | ok profile =>
      dsimp only
      cases h : upsertSkybridgeUser k profile draw.toAccountDraw s.db with
      | error e => exact .quiet _ _ _ (fun _ _ _ => nofun) fun _ => nofun
      | ok synced => exact .synced draw profile synced.1 synced.2 hprofile h _ rfl
  | login input =>
    rw [SessionService.step]
    cases h : logIn k x s.db s.credentials input with
    | error e => exact .quiet _ _ _ (fun _ _ _ => nofun) fun _ => nofun
    | ok account => exact .loggedIn input draw account h
  | issue i =>
    rw [SessionService.step]
    cases hslot : slot s.signIns i with
    | none => exact .quiet _ _ _ (fun _ _ => nofun) fun _ => nofun
    | some signedIn =>
      obtain ⟨account, role⟩ := signedIn
      dsimp only
      cases h : issueJwt x config account.id account.tenantId role draw.now with
      | error e => exact .issueRefused i draw e
      | ok token => exact .issued i draw account role token hslot h
  | requireUser authorization =>
    rw [SessionService.step]
    refine .quiet _ _ _ (fun _ _ => nofun) fun account h => ?_
    cases huser : requireUser x config draw.now authorization with
    | error e => simp [huser, Except.map] at h
    | ok claims => simp [huser, Except.map] at h
  | requireAdmin adminToken authorization =>
    rw [SessionService.step]
    refine .quiet _ _ _ (fun _ _ => nofun) fun account h => ?_
    cases hadmin : requireAdmin x config draw.now adminToken authorization with
    | error e => simp [hadmin, Except.map] at h
    | ok u => simp [hadmin, Except.map] at h

/-- What a registration brings to its transaction. -/
lemma prepareCredentials_ok (hx : x.Sound) {db : Db} {allowed : Bool} {input : RegisterRequest}
    {draw : AccountDraw} {salt : String} {account : Account} {c : Credentials}
    (h : prepareCredentials k x db allowed input draw salt = .ok (account, c)) :
    account.Parsed k ∧ account.nebulaSource = .localDev ∧ c.role = .user ∧
      c.Fits x input.password := by
  simp only [prepareCredentials, Except.bind_eq_ok, Except.okOr_eq_ok] at h
  obtain ⟨prepared, hprepared, hash, hhash, heq⟩ := h
  obtain ⟨rfl, rfl⟩ := Prod.mk.inj (Except.ok.inj heq)
  refine ⟨parsed_of_prepareRegistration hprepared, ?_, rfl, hx.hash _ _ _ hhash⟩
  simp only [prepareRegistration, Except.bind_eq_ok, Except.refuseIf_eq_ok] at hprepared
  obtain ⟨_, -, -, -, -, -, _, -, heq⟩ := hprepared
  rw [← Except.ok.inj heq]

lemma slot_of_set {α : Type} {l : List (Option α)} {i j : ℕ} {a : α}
    (h : slot (l.set i none) j = some a) : slot l j = some a := by
  rcases slot_set h with ⟨-, hnone⟩ | ⟨-, hslot⟩
  · cases hnone
  · exact hslot

lemma mem_of_mem_set_none {α : Type} {l : List (Option α)} {i : ℕ} {a : α}
    (h : some a ∈ l.set i none) : some a ∈ l := by
  rcases List.mem_or_eq_of_mem_set h with h | h
  · exact h
  · cases h

section Accepted

variable {given : List String} {registrations : List (Option (Account × Credentials))}

lemma Accepted.set (h : Accepted k x given registrations) (i : ℕ) :
    Accepted k x given (registrations.set i none) where
  length := by rw [List.length_set, h.length]
  registration j account c hslot := h.registration j account c (slot_of_set hslot)

lemma Accepted.append (hx : x.Sound) (h : Accepted k x given registrations) {db : Db}
    {allowed : Bool} {input : RegisterRequest} {draw : AccountDraw} {salt : String}
    {account : Account} {c : Credentials}
    (hprepared : prepareCredentials k x db allowed input draw salt = .ok (account, c)) :
    Accepted k x (given ++ [input.password]) (registrations ++ [some (account, c)]) where
  length := by simp [h.length]
  registration i account' c' hslot := by
    rcases slot_append hslot with ⟨rfl, heq⟩ | hslot
    · obtain ⟨rfl, rfl⟩ := Prod.mk.inj (Option.some.inj heq)
      obtain ⟨hparsed, hlocal, hrole, hfits⟩ := prepareCredentials_ok hx hprepared
      exact ⟨hparsed, hlocal, hrole, input.password, by simp [h.length], hfits⟩
    · obtain ⟨hparsed, hlocal, hrole, password, hpassword, hfits⟩ :=
        h.registration i account' c' hslot
      exact ⟨hparsed, hlocal, hrole, password,
        List.getElem?_append_left (List.getElem?_eq_some_iff.mp hpassword).1 ▸ hpassword, hfits⟩

/-- Nothing is accepted in other steps. -/
lemma Accepted.snoc (h : Accepted k x (passwords tr) registrations) {e : SessionEvent p}
    (hregister : ∀ input a, e.1.1 = .register input → e.2 ≠ .ok a) :
    Accepted k x (passwords (tr ++ [e])) registrations := by
  rwa [passwords_snoc hregister]

end Accepted

/-- A step that finds no account. -/
lemma SessionHistory.quiet (h : SessionHistory k x config tr s) {e : SessionEvent p}
    {registrations : List (Option (Account × Credentials))}
    {signIns : List (Option (Account × UserRole))} {issued : List String}
    (hfound : ∀ account, e.2 ≠ .ok (.found account))
    (haccepted : Accepted k x (passwords (tr ++ [e])) registrations)
    (hsignIns : ∀ a, some a ∈ signIns → some a ∈ s.signIns)
    (hissued : ∀ token ∈ issued, token ∈ s.issued ∨ ∃ account issuedAt claims,
      IssuedFor x config (tr ++ [e]) account issuedAt claims token) :
    SessionHistory k x config (tr ++ [e])
      { s with registrations := registrations, signIns := signIns, issued := issued } where
  readable := h.readable
  accepted := haccepted
  roles := h.roles
  stored row hrow hlocal := by
    obtain ⟨account, password, hregistered, heq⟩ := h.stored row hrow hlocal
    exact ⟨account, password, hregistered.append _, heq⟩
  registered account password hregistered := by
    rcases registeredWith_snoc hregistered with hregistered | ⟨i, draw, rfl, -⟩
    · exact h.registered account password hregistered
    · exact absurd rfl (hfound account)
  found account hin := by
    rcases foundIn_snoc hin with hin | hlast
    · exact h.found account hin
    · exact absurd hlast (hfound account)
  signIns account role hmem := by
    obtain ⟨hrole, hin⟩ := h.signIns account role (hsignIns _ hmem)
    exact ⟨hrole, hin.append _⟩
  issued token hmem := by
    rcases hissued token hmem with hmem | hissued
    · obtain ⟨account, issuedAt, claims, hfor⟩ := h.issued token hmem
      exact ⟨account, issuedAt, claims, hfor.append _⟩
    · exact hissued

/-- A step that finds an account. -/
lemma SessionHistory.signIn (h : SessionHistory k x config tr s) {request : SessionRequest p}
    {draw : SessionDraw} {account : Account} {db : Db} {c : Credentials}
    {registrations : List (Option (Account × Credentials))} (hread : db.Readable k)
    (hrows : RowsAfter s.db.users.rows db.users.rows account)
    (hc : ∀ r ∈ s.db.users.rows, r.id = account.id → c = s.credentials account.id)
    (hrole : c.role = .user)
    (hnew : (∀ r ∈ s.db.users.rows, r.id ≠ account.id) → account.nebulaSource = .localDev →
      ∃ i password, request = .store i ∧ (passwords tr)[i]? = some password)
    (hstore : ∀ i password, request = .store i → (passwords tr)[i]? = some password →
      account.nebulaSource = .localDev ∧ c.Fits x password)
    (haccepted : Accepted k x (passwords (tr ++ [((request, draw), .ok (.found account))]))
      registrations) :
    SessionHistory k x config (tr ++ [((request, draw), .ok (.found account))])
      { s with
        db := db
        credentials := Function.update s.credentials account.id c
        registrations := registrations
        signIns := s.signIns ++ [some (account, c.role)] } := by
  -- the rows that were there keep their credentials
  have hkept : ∀ r ∈ s.db.users.rows,
      Function.update s.credentials account.id c r.id = s.credentials r.id := by
    intro r hr
    by_cases hid : r.id = account.id
    · rw [hid, Function.update_self, hc r hr hid]
    · rw [Function.update_of_ne hid]
  refine {
    readable := hread
    accepted := haccepted
    roles := fun row hrow => ?_
    stored := fun row hrow hlocal => ?_
    registered := fun account' password hregistered => ?_
    found := fun account' hin => ?_
    signIns := fun account' role hmem => ?_
    issued := fun token hmem => ?_ }
  · rcases hrows.origin row hrow with ⟨r, hr, hbecomes⟩ | ⟨rfl, -⟩
    · rw [hbecomes.id]
      exact (congrArg Credentials.role (hkept r hr)).trans (h.roles r hr)
    · exact (congrArg Credentials.role (Function.update_self ..)).trans hrole
  · rcases hrows.origin row hrow with ⟨r, hr, hbecomes⟩ | ⟨rfl, hfresh⟩
    · have hsource : r.nebulaSource = .localDev := hbecomes.nebulaSource ▸ hlocal
      obtain rfl := hbecomes.untouched hsource
      obtain ⟨account', password, hregistered, heq⟩ := h.stored row hr hsource
      exact ⟨account', password, hregistered.append _, heq⟩
    · obtain ⟨i, password, rfl, hpassword⟩ := hnew hfresh hlocal
      exact ⟨account, password, ⟨tr, i, draw, [], rfl, hpassword⟩, rfl⟩
  · rcases registeredWith_snoc hregistered with hregistered | ⟨i, draw', heq, hpassword⟩
    · obtain ⟨hrow, hlocal, hfits⟩ := h.registered account' password hregistered
      obtain ⟨r', hr', hbecomes⟩ := hrows.kept _ hrow
      obtain rfl := hbecomes.untouched hlocal
      refine ⟨hr', hlocal, ?_⟩
      have hsame := hkept _ hrow
      dsimp only [Account.toRow] at hsame
      dsimp only
      rwa [hsame]
    · simp only [Prod.mk.injEq, Except.ok.injEq, SessionAnswer.found.injEq] at heq
      obtain ⟨⟨rfl, rfl⟩, rfl⟩ := heq
      obtain ⟨hlocal, hfits⟩ := hstore i password rfl hpassword
      refine ⟨hrows.row, hlocal, ?_⟩
      dsimp only
      rwa [Function.update_self]
  · rcases foundIn_snoc hin with hin | hlast
    · obtain ⟨r, hr, hid, htenant, hskybridge⟩ := h.found account' hin
      obtain ⟨r', hr', hbecomes⟩ := hrows.kept r hr
      exact ⟨r', hr', hbecomes.id.trans hid, hbecomes.tenantId.trans htenant,
        hbecomes.skybridgeUserId.trans hskybridge⟩
    · obtain rfl := SessionAnswer.found.inj (Except.ok.inj hlast)
      exact ⟨_, hrows.row, rfl, rfl, rfl⟩
  · rcases List.mem_append.mp hmem with hmem | hmem
    · obtain ⟨hrole', hin⟩ := h.signIns account' role hmem
      exact ⟨hrole', hin.append _⟩
    · simp only [List.mem_singleton, Option.some.injEq, Prod.mk.injEq] at hmem
      obtain ⟨rfl, rfl⟩ := hmem
      exact ⟨hrole, (request, draw), by simp⟩
  · obtain ⟨account', issuedAt, claims, hfor⟩ := h.issued token hmem
    exact ⟨account', issuedAt, claims, hfor.append _⟩

/-! ## Looking up -/

lemma findUserByLoginIdentity_eq_some {db : Db} (hread : db.Readable k) {identity : LoginIdentity}
    {account : Account} : findUserByLoginIdentity k db identity = .ok (some account) ↔
      account.toRow ∈ db.users.rows ∧ identity.selects account.toRow = true := by
  rw [findUserByLoginIdentity]
  cases hfound : db.users.rows.find? identity.selects with
  | none =>
    simp only [Except.ok.injEq, reduceCtorEq, false_iff, not_and]
    exact fun hrow => List.find?_eq_none.mp hfound _ hrow
  | some row =>
    have hrow : row ∈ db.users.rows := List.mem_of_find?_eq_some hfound
    have hselects : identity.selects row = true := List.find?_some hfound
    obtain ⟨u, hu, rfl⟩ := hread row hrow
    simp only [rowToUser_toRow hu, Except.map, Except.ok.injEq, Option.some.injEq]
    constructor
    · rintro rfl
      exact ⟨hrow, hselects⟩
    · rintro ⟨hrow', hselects'⟩
      exact Account.toRow_injective (eq_of_selected hrow hrow' hselects hselects')

lemma logIn_eq_ok {db : Db} {credentials : UserId → Credentials} {input : LoginRequest}
    {account : Account} : logIn k x db credentials input = .ok account ↔
      ∃ identity, LoginIdentity.fromRequest k input = .ok identity ∧
        findUserByLoginIdentity k db identity = .ok (some account) ∧
        account.nebulaSource = .localDev ∧
        x.verifyPassword (credentials account.id).passwordHash input.password = true := by
  simp only [logIn, Except.bind_eq_ok, Except.okOr_eq_ok, ensureLocalPasswordLoginAllowed,
    verifyPassword, Except.refuseIf_eq_ok, not_not, Bool.not_eq_false]
  constructor
  · rintro ⟨identity, hidentity, found, hfound, account', rfl, -, hlocal, -, hverify, heq⟩
    obtain rfl := Except.ok.inj heq
    exact ⟨identity, hidentity, hfound, hlocal, hverify⟩
  · rintro ⟨identity, hidentity, hfound, hlocal, hverify⟩
    exact ⟨identity, hidentity, _, hfound, account, rfl, (), hlocal, (), hverify, rfl⟩

/-- A password signs in to just the accounts that were registered with it. -/
lemma SessionHistory.logIn_iff (h : SessionHistory k x config tr s) {input : LoginRequest}
    {account : Account} : logIn k x s.db s.credentials input = .ok account ↔
      ∃ identity, LoginIdentity.fromRequest k input = .ok identity ∧
        RegisteredWith tr account input.password ∧ identity.selects account.toRow = true := by
  rw [logIn_eq_ok]
  simp only [findUserByLoginIdentity_eq_some h.readable]
  constructor
  · rintro ⟨identity, hidentity, ⟨hrow, hselects⟩, hlocal, hverify⟩
    obtain ⟨account', password, hregistered, heq⟩ := h.stored _ hrow hlocal
    obtain rfl := Account.toRow_injective heq
    obtain ⟨-, -, hfits⟩ := h.registered account password hregistered
    rw [(hfits input.password).mp hverify]
    exact ⟨identity, hidentity, hregistered, hselects⟩
  · rintro ⟨identity, hidentity, hregistered, hselects⟩
    obtain ⟨hrow, hlocal, hfits⟩ := h.registered account input.password hregistered
    exact ⟨identity, hidentity, ⟨hrow, hselects⟩, hlocal, (hfits _).mpr rfl⟩

/-- The first of the providers that can tell. -/
lemma firstSkybridgeProfile_ok {e : ApiError} {answers : List SkybridgeAnswers}
    {profile : SkybridgeProfile} (h : firstSkybridgeProfile k e answers = .ok profile) :
    ∃ before own after, answers = before ++ own :: after ∧
      (∀ other ∈ before, ∃ e, resolveSkybridgeProfileFromProvider k other = .error e) ∧
      resolveSkybridgeProfileFromProvider k own = .ok profile := by
  induction answers generalizing e with
  | nil => cases h
  | cons own rest ih =>
    rw [firstSkybridgeProfile] at h
    cases hown : resolveSkybridgeProfileFromProvider k own with
    | ok found =>
      rw [hown] at h
      obtain rfl := Except.ok.inj h
      exact ⟨[], own, rest, rfl, by simp, hown⟩
    | error e' =>
      rw [hown] at h
      obtain ⟨before, first, after, rfl, hbefore, hfirst⟩ := ih h
      refine ⟨own :: before, first, after, rfl, fun other hother => ?_, hfirst⟩
      rcases List.mem_cons.mp hother with rfl | hother
      · exact ⟨e', hown⟩
      · exact hbefore other hother

lemma parsed_of_fromProvider {answers : SkybridgeAnswers} {profile : SkybridgeProfile}
    (h : resolveSkybridgeProfileFromProvider k answers = .ok profile) :
    ∃ response, SkybridgeProfile.tryFromResponse k response = .ok profile := by
  simp only [resolveSkybridgeProfileFromProvider, Except.bind_eq_ok] at h
  obtain ⟨first, -, h⟩ := h
  split at h
  · simp only [Except.bind_eq_ok] at h
    obtain ⟨-, -, again, -, h⟩ := h
    exact ⟨again, h⟩
  · exact ⟨first, h⟩

lemma resolveSkybridgeProfile_ok {baseUrls : List String} {clientBuilt : Bool}
    {provider : ℕ → String → SkybridgeAnswers} {profile : SkybridgeProfile}
    (h : resolveSkybridgeProfile k baseUrls clientBuilt provider = .ok profile) :
    ∃ before own after, baseUrls.mapIdx provider = before ++ own :: after ∧
      (∀ other ∈ before, ∃ e, resolveSkybridgeProfileFromProvider k other = .error e) ∧
      resolveSkybridgeProfileFromProvider k own = .ok profile := by
  simp only [resolveSkybridgeProfile, Except.bind_eq_ok, Except.refuseIf_eq_ok] at h
  obtain ⟨-, -, -, -, h⟩ := h
  exact firstSkybridgeProfile_ok h

/-- What SkyBridge brings has been parsed, so the rows can still be read. -/
lemma readable_of_upsert {baseUrls : List String} {clientBuilt : Bool}
    {provider : ℕ → String → SkybridgeAnswers} {profile : SkybridgeProfile} {draw : AccountDraw}
    {db db' : Db} {account : Account}
    (hprofile : resolveSkybridgeProfile k baseUrls clientBuilt provider = .ok profile)
    (hread : db.Readable k) (h : upsertSkybridgeUser k profile draw db = .ok (account, db')) :
    db'.Readable k := by
  obtain ⟨_, own, _, -, -, hown⟩ := resolveSkybridgeProfile_ok hprofile
  obtain ⟨response, hresponse⟩ := parsed_of_fromProvider hown
  obtain ⟨hnebula, hemail, hphone⟩ := parsed_of_tryFromResponse hresponse
  exact keeps_upsertSkybridgeUser hnebula hemail hphone db account db' h hread

/-! ## Steps and runs -/

lemma SessionHistory.step (hx : x.Sound) (h : SessionHistory k x config tr s)
    {request : SessionRequest p} {draw : SessionDraw} (hnow : 0 ≤ draw.now) :
    SessionHistory k x config (tr ++ [((request, draw), (s.step k x config request draw).1)])
      (s.step k x config request draw).2 := by
  have hturn : SessionTurn k x config s request draw (s.step k x config request draw).1
      (s.step k x config request draw).2 := step_sessionTurn request draw
  generalize s.step k x config request draw = r at hturn
  obtain ⟨answer, s'⟩ := r
  dsimp only at hturn ⊢
  cases hturn with
  | registered input _ account c hprepared =>
    refine h.quiet (fun _ => nofun) ?_ (fun _ h => h) fun token hmem => .inl hmem
    -- nothing is stored yet: the password waits in the slot
    rw [passwords_append]
    exact h.accepted.append hx hprepared
  | stored i _ account c db hslot hstored =>
    obtain ⟨hparsed, hlocal, hrole, password, hpassword, hfits⟩ :=
      h.accepted.registration i account c hslot
    obtain ⟨-, hrows, hnew⟩ := storeAccount_ok hstored
    -- the account is new, so no other password leads to it
    refine h.signIn (keeps_storeAccount hparsed _ _ _ hstored h.readable)
      (hrows ▸ rowsAfter_append hnew) (fun r hr hid => absurd hid (hnew r hr)) hrole
      (fun _ _ => ⟨i, password, rfl, hpassword⟩) (fun j other hj hother => ?_)
      ((h.accepted.set i).snoc fun _ _ h => by cases h)
    · obtain rfl := SessionRequest.store.inj hj
      obtain rfl := Option.some.inj (hpassword.symm.trans hother)
      exact ⟨hlocal, hfits⟩
  | synced _ profile account db hprofile hsynced c hc =>
    have hread := readable_of_upsert hprofile h.readable hsynced
    -- a user of SkyBridge has no password
    obtain ⟨hrows, hsource, -⟩ := upsertSkybridgeUser_ok h.readable hsynced hread
    refine h.signIn hread hrows (fun r hr hid => ?_) ?_ (fun _ hlocal => ?_)
      (fun _ _ h => by cases h) (h.accepted.snoc fun _ _ h => by cases h)
    · have hany : (s.db.users.rows.any fun x => x.id == account.id) = true :=
        List.any_eq_true.mpr ⟨r, hr, beq_iff_eq.mpr hid⟩
      rw [hc, if_pos hany]
    · rw [hc]
      split
      · next hany =>
        obtain ⟨r, hr, hid⟩ := List.any_eq_true.mp hany
        rw [← beq_iff_eq.mp hid]
        exact h.roles r hr
      · rfl
    · rw [hsource] at hlocal
      cases hlocal
  | loggedIn input _ account hlogin =>
    obtain ⟨identity, -, hfound, -⟩ := logIn_eq_ok.mp hlogin
    obtain ⟨hrow, -⟩ := (findUserByLoginIdentity_eq_some h.readable).mp hfound
    -- signing in changes no row
    have hrows : RowsAfter s.db.users.rows s.db.users.rows account :=
      ⟨hrow, fun r hr => ⟨r, hr, .refl r⟩, fun r hr => .inl ⟨r, hr, .refl r⟩⟩
    have haccepted : Accepted k x (passwords (tr ++ [((.login input, draw), .ok (.found account))]))
        s.registrations := h.accepted.snoc fun _ _ h => by cases h
    have hnext := h.signIn h.readable hrows (fun _ _ _ => rfl) (h.roles _ hrow)
      (fun hfresh => absurd rfl (hfresh _ hrow)) (fun _ _ h => by cases h) haccepted
    rwa [Function.update_eq_self] at hnext
  | issued i _ account role token hslot hissued =>
    refine h.quiet (fun _ => nofun) (h.accepted.snoc fun _ _ h => by cases h)
      (fun _ => mem_of_mem_set_none) fun other hmem => ?_
    rcases List.mem_append.mp hmem with hmem | hmem
    · exact .inl hmem
    -- the token is for the account of the slot, which had signed in
    · obtain rfl := List.mem_singleton.mp hmem
      obtain ⟨rfl, hin⟩ := h.signIns account role (mem_of_slot hslot)
      exact .inr ⟨account, draw.now, _, Except.okOr_eq_ok.mp hissued, rfl,
        tr, i, draw, [], rfl, rfl, hnow, hin⟩
  | storeRefused i _ e =>
    exact h.quiet (fun _ => nofun) ((h.accepted.set i).snoc fun _ _ h => by cases h)
      (fun _ h => h) fun token hmem => .inl hmem
  | issueRefused i _ e =>
    exact h.quiet (fun _ => nofun) (h.accepted.snoc fun _ _ h => by cases h)
      (fun _ => mem_of_mem_set_none) fun token hmem => .inl hmem
  | quiet _ _ _ hregister hfound =>
    exact h.quiet hfound (h.accepted.snoc hregister) (fun _ h => h)
      fun token hmem => .inl hmem

lemma sessionHistory_of_run (hx : x.Sound) {s₀ : SessionService}
    (h₀ : (sessionMachine k x config).init s₀) (h : (sessionMachine k x config).Run s₀ tr s) :
    SessionHistory k x config tr s := by
  obtain ⟨hrows, hregistrations, hsignIns, hissued⟩ := h₀
  have hnone : SessionHistory k x config [] s₀ := by
    constructor
    · intro row hrow
      rw [hrows] at hrow
      cases hrow
    · rw [hregistrations]
      exact ⟨rfl, fun _ _ _ hslot => by cases hslot⟩
    · simp [hrows]
    · simp [hrows]
    · rintro account password ⟨before, _, _, _, htr, -⟩
      simp at htr
    · rintro account ⟨l, hmem⟩
      cases hmem
    · simp [hsignIns]
    · simp [hissued]
  refine h.history (P := SessionHistory k x config) hnone ?_
  rintro tr m ⟨request, draw⟩ - hhistory ⟨hnow, -⟩
  exact hhistory.step hx hnow

/-- A token that is read in time was issued less than twelve hours and 61 seconds before. -/
lemma lt_of_le_expiry {now issuedAt : ℤ} {bits : ℕ} (hissued : 0 ≤ issuedAt)
    (h : (now / 1000000).toNat ≤
      ((issuedAt + 43200000000) / 1000000 % 2 ^ bits).toNat + 60) :
    now < issuedAt + 43200000000 + 61000000 := by
  obtain ⟨seconds, hseconds⟩ : ∃ n : ℕ, (issuedAt + 43200000000) / 1000000 = n :=
    Int.eq_ofNat_of_zero_le (by omega)
  have hword : ((seconds : ℤ) % 2 ^ bits).toNat ≤ seconds := by
    have hle := Nat.mod_le seconds (2 ^ bits)
    have hcast : (seconds : ℤ) % 2 ^ bits = (seconds % 2 ^ bits : ℕ) := by push_cast; rfl
    rw [hcast]
    exact hle
  rw [hseconds] at h
  omega

/-- A token that is read was issued lately to somebody who had signed in. -/
lemma SessionHistory.requireUser_ok (hx : x.Sound) (h : SessionHistory k x config tr s) {now : Time}
    {authorization : Option String} {claims : TokenClaims}
    (hunforged : ∀ token claims, bearerToken authorization = some token →
      x.decode config.jwtSecret (now / 1000000).toNat token = some claims → token ∈ s.issued)
    (hok : requireUser x config now authorization = .ok claims) :
    ∃ account issuedAt token, bearerToken authorization = some token ∧
      IssuedFor x config tr account issuedAt claims token ∧
      now < issuedAt + Time.hours 12 + 61000000 := by
  simp only [requireUser, Except.bind_eq_ok, Except.okOr_eq_ok] at hok
  obtain ⟨token, htoken, hdecode⟩ := hok
  obtain ⟨account, issuedAt, signed, hfor⟩ := h.issued token (hunforged token claims htoken hdecode)
  obtain rfl := hx.decode _ _ _ _ _ hfor.signed hdecode
  refine ⟨account, issuedAt, token, htoken, hfor, ?_⟩
  obtain ⟨_, _, _, _, -, -, hissued, -⟩ := hfor.events
  have hfresh := hx.fresh _ _ _ _ hdecode
  rw [hfor.claims] at hfresh
  exact lt_of_le_expiry hissued hfresh

lemma SessionHistory.bearer (hx : x.Sound) (h : SessionHistory k x config tr s)
    {draw : SessionDraw} {authorization : Option String} {claims : TokenClaims}
    (hhonest : s.Honest x config (.requireUser authorization) draw)
    (hanswer : (s.step k x config (.requireUser authorization) draw).1 = .ok (.admitted claims)) :
    claims.role = .user ∧
      (∃ row ∈ s.db.users.rows, row.id = claims.sub ∧ row.tenantId = claims.tenantId) ∧
      ∃ account issuedAt token, bearerToken authorization = some token ∧
        IssuedFor x config tr account issuedAt claims token ∧
        draw.now < issuedAt + Time.hours 12 + 61000000 := by
  have hok : requireUser x config draw.now authorization = .ok claims := by
    rw [SessionService.step] at hanswer
    cases huser : requireUser x config draw.now authorization with
    | error e => simp [huser, Except.map] at hanswer
    | ok found =>
      simp only [huser, Except.map, Except.ok.injEq, SessionAnswer.admitted.injEq] at hanswer
      rw [hanswer]
  obtain ⟨account, issuedAt, token, htoken, hfor, hlate⟩ :=
    h.requireUser_ok hx hhonest.2 hok
  obtain ⟨before, _, _, after, htr, -, -, hin⟩ := hfor.events
  obtain ⟨row, hrow, hid, htenant, -⟩ := h.found account (htr ▸ hin.append _)
  refine ⟨?_, ⟨row, hrow, ?_, ?_⟩, account, issuedAt, token, htoken, hfor, hlate⟩
  · rw [hfor.claims]
  · rw [hfor.claims, hid]
  · rw [hfor.claims, htenant]

lemma SessionHistory.admin (hx : x.Sound) (h : SessionHistory k x config tr s)
    {draw : SessionDraw} {adminToken : Option (Str p)} {authorization : Option String}
    (hhonest : s.Honest x config (.requireAdmin adminToken authorization) draw) :
    (s.step k x config (.requireAdmin adminToken authorization) draw).1 = .ok .admin ↔
      ∃ token, adminToken = some token ∧ token.text = config.adminToken.text := by
  have hstep : (s.step k x config (.requireAdmin adminToken authorization) draw).1 = .ok .admin ↔
      requireAdmin x config draw.now adminToken authorization = .ok () := by
    rw [SessionService.step]
    cases requireAdmin x config draw.now adminToken authorization with
    | error e => simp [Except.map]
    | ok u => simp [Except.map]
  have hheader : (adminToken.any fun token =>
      Cloud.constantTimeEq p token.text config.adminToken.text) = true ↔
      ∃ token, adminToken = some token ∧ token.text = config.adminToken.text := by
    cases adminToken with
    | none => simp
    | some token =>
      simp only [Option.any_some, Option.some.injEq, exists_eq_left']
      exact foldedEq_str_iff token config.adminToken
  rw [hstep, requireAdmin, ← hheader]
  split
  · next hany => simp [hany]
  · next hany =>
    refine iff_of_false (fun hok => ?_) hany
    -- a token that is read is that of a user
    simp only [Except.bind_eq_ok, Except.refuseIf_eq_ok, not_not] at hok
    obtain ⟨claims, huser, hrole⟩ := hok
    obtain ⟨account, issuedAt, token, -, hfor, -⟩ :=
      h.requireUser_ok hx hhonest.2 huser
    rw [hfor.claims] at hrole
    cases hrole

lemma SessionHistory.skybridge (h : SessionHistory k x config tr s) {draw : SessionDraw}
    {account : Account}
    (hanswer : (s.step k x config .skybridge draw).1 = .ok (.found account)) :
    (∃ before answers after profile,
      config.skybridgeApiBaseUrls.mapIdx draw.provider = before ++ answers :: after ∧
        (∀ other ∈ before, ∃ e, resolveSkybridgeProfileFromProvider k other = .error e) ∧
        resolveSkybridgeProfileFromProvider k answers = .ok profile ∧
        account.skybridgeUserId = some profile.userId) ∧
      ∀ other, FoundIn tr other →
        (other.id = account.id ↔ other.skybridgeUserId = account.skybridgeUserId) := by
  have hturn : SessionTurn k x config s .skybridge draw (s.step k x config .skybridge draw).1
      (s.step k x config .skybridge draw).2 := step_sessionTurn .skybridge draw
  rw [hanswer] at hturn
  generalize (s.step k x config .skybridge draw).2 = s' at hturn
  cases hturn with
  | quiet _ _ _ _ hfound => exact absurd rfl (hfound account)
  | synced _ profile _ db hprofile hsynced c hc =>
    have hread := readable_of_upsert hprofile h.readable hsynced
    obtain ⟨hrows, -, hid⟩ := upsertSkybridgeUser_ok h.readable hsynced hread
    obtain ⟨before, own, after, hlist, hbefore, hown⟩ := resolveSkybridgeProfile_ok hprofile
    refine ⟨⟨before, own, after, profile, hlist, hbefore, hown, hid⟩, fun other hother => ?_⟩
    obtain ⟨row, hrow, hrowId, -, hrowSkybridge⟩ := h.found other hother
    obtain ⟨row', hrow', hbecomes⟩ := hrows.kept row hrow
    rw [← hrowId, ← hrowSkybridge, ← hbecomes.id, ← hbecomes.skybridgeUserId]
    constructor
    · intro hsame
      rw [eq_of_id hrow' hrows.row hsame]
      rfl
    · intro hsame
      rw [eq_of_skybridgeUserId hrow' hrows.row (hsame.trans hid) hsame]
      rfl

end Runs

/-- **Nobody is recognised who has not signed in.**  However registrations, sign-ins and other
requests come in between each other: a password signs in to just the accounts that were registered
with it; SkyBridge signs in to the one account of the user whom the first provider that can tell
names; a bearer token is honoured only for the account that its caller had signed in to, as a user,
and for no longer than twelve hours and 61 seconds; and the token of the administrator alone makes
an administrator. -/
theorem sessions_safe {p : PointerWidth} (k : LetterClasses) {x : SessionCrates} (hx : x.Sound)
    (config : SessionConfig p) {s₀ s : SessionService} {tr : List (SessionEvent p)}
    (h₀ : (sessionMachine k x config).init s₀) (h : (sessionMachine k x config).Run s₀ tr s) :
    SessionsSafe k x config tr s := by
  have hhistory := sessionHistory_of_run hx h₀ h
  refine ⟨fun input draw account => ?_, fun draw account => hhistory.skybridge,
    fun draw authorization claims => hhistory.bearer hx,
    fun draw adminToken authorization => hhistory.admin hx⟩
  rw [← hhistory.logIn_iff, SessionService.step]
  cases logIn k x s.db s.credentials input with
  | error e => simp
  | ok found => simp

/-! ### Somebody registers and comes back -/

/-- The claims of a token for the account. -/
def mugClaims : TokenClaims :=
  ⟨⟨mugAccount.id, mugAccount.tenantId⟩, .user, tokenExpiry .bits64 0⟩

/-- Hashes are marked passwords, and there is one token. -/
def sessionCrates : SessionCrates where
  hashPassword := fun _ password => some ("#" ++ password)
  verifyPassword := fun hash password => hash == "#" ++ password
  encode := fun _ claims => if claims = mugClaims then some "mug-token" else none
  decode := fun _ now token =>
    if token = "mug-token" ∧ now ≤ mugClaims.exp + 60 then some mugClaims else none

lemma sessionCrates_sound : sessionCrates.Sound where
  hash salt password hash h other := by
    obtain rfl := Option.some.inj h
    have hinj : "#" ++ password = "#" ++ other ↔ other = password := by
      rw [String.append_right_inj, eq_comm]
    exact beq_iff_eq.trans hinj
  decode secret claims token now other hencode hdecode := by
    simp only [sessionCrates, Option.ite_none_right_eq_some, Option.some.injEq] at hencode hdecode
    rw [hencode.1, ← hdecode.2]
  fresh secret now token claims h := by
    simp only [sessionCrates, Option.ite_none_right_eq_some, Option.some.injEq] at h
    rw [← h.2]
    exact h.1.2

/-- A configuration for the account's service. -/
def sessionConfig : SessionConfig .bits64 :=
  ⟨"secret", ⟨"admin", by decide +kernel⟩, true, []⟩

/-- What its requests meet. -/
def sessionDraw : SessionDraw :=
  { now := 0
    year := "2026"
    random := fun _ => "A1B2C3D4E5F6"
    uuid := Uuid.ofNat
    salt := "salt"
    clientBuilt := true
    provider := fun _ _ => ⟨.unavailable, .unavailable, .unavailable⟩ }

/-- The service before its first request. -/
def noSessions : SessionService := ⟨.empty, fun _ => ⟨"", .user⟩, [], [], []⟩

/-- A registration, and the token that it ends with. -/
def registerSteps : List (SessionRequest .bits64 × SessionDraw) :=
  [(.register ⟨some " MUG@X.com", none, none, none, "password"⟩, sessionDraw),
    (.store 0, sessionDraw), (.issue 0, sessionDraw)]

/-- A login to the account with a password. -/
def mugLogin (password : String) : LoginRequest :=
  ⟨some "mug@x.com", none, none, none, none, password⟩

/-- The password signs in, and the token is honoured, but makes nobody an administrator. -/
theorem sessions_safe_registered :
    let M := sessionMachine asciiLetters sessionCrates sessionConfig
    let s := (M.exec noSessions registerSteps).2
    SessionsSafe asciiLetters sessionCrates sessionConfig (M.exec noSessions registerSteps).1 s ∧
      [.login (mugLogin "password"), .login (mugLogin "passwort"),
        .requireUser (some "Bearer mug-token"), .requireAdmin none (some "Bearer mug-token")].map
          (fun request => (M.step s (request, sessionDraw)).1) =
        [.ok (.found mugAccount), .error (.unauthorized "invalid credentials"),
          .ok (.admitted mugClaims), .error (.forbidden "admin access required")] := by
  intro M s
  have hallows : M.Allows noSessions registerSteps :=
    ⟨⟨le_rfl, trivial⟩, ⟨le_rfl, trivial⟩, ⟨le_rfl, trivial⟩, trivial⟩
  exact ⟨sessions_safe asciiLetters sessionCrates_sound sessionConfig ⟨rfl, rfl, rfl, rfl⟩
    (Machine.run_exec hallows), by decide +kernel⟩

end OzonSuite
