/-
# Accounts

An account is made by a registration or by the first sign-in with SkyBridge, and later sign-ins
bring its identifiers up to date.  The identifiers are stored as text and parsed again whenever a
row is read.  Since a parsed identifier is left alone by its parser, every row that the service has
written can be read, and two identifiers of one kind find the same account just when they are the
same after parsing.
-/
import OzonSuite.Cloud.Identifiers
import OzonSuite.Cloud.QuerySpecs
import OzonSuite.Lib.Lookups
import OzonSuite.Lib.Machine

namespace OzonSuite

open Lib

/-! ## Rows -/

/-- A user as the service works with it: the identifiers have been parsed. -/
structure Account where
  id : UserId
  tenantId : TenantId
  nebulaId : NebulaId
  nebulaSource : NebulaSource
  skybridgeUserId : Option Uuid
  email : Option Email
  phone : Option PhoneNumber
  emailVerifiedAt : Option Time
  phoneVerifiedAt : Option Time
deriving DecidableEq

/-- What `insert_user` binds. -/
def Account.toRow (u : Account) : User :=
  { id := u.id
    tenantId := u.tenantId
    nebulaId := u.nebulaId.text
    nebulaSource := u.nebulaSource
    skybridgeUserId := u.skybridgeUserId
    email := u.email.map Email.text
    phone := u.phone.map PhoneNumber.text
    emailVerifiedAt := u.emailVerifiedAt
    phoneVerifiedAt := u.phoneVerifiedAt }

/-- Parse a value where there is one. -/
def parseOptional {α : Type} (parse : String → Except IdentifierError α) (error : ApiError) :
    Option String → Except ApiError (Option α)
  | none => .ok none
  | some value => ((parse value).map some).mapError fun _ => error

section Parsing

variable (k : LetterClasses)

/-- The account in a row, with its identifiers parsed again. -/
def rowToUser (row : User) : Except ApiError Account := do
  let nebulaId ← (NebulaId.parse row.nebulaId).mapError fun _ =>
    ApiError.internal "invalid nebula id in database"
  let email ← parseOptional (Email.parse k) (.internal "invalid email in database") row.email
  let phone ← parseOptional PhoneNumber.parse (.internal "invalid phone number in database")
    row.phone
  return {
    id := row.id
    tenantId := row.tenantId
    nebulaId := nebulaId
    nebulaSource := row.nebulaSource
    skybridgeUserId := row.skybridgeUserId
    email := email
    phone := phone
    emailVerifiedAt := row.emailVerifiedAt
    phoneVerifiedAt := row.phoneVerifiedAt }

/-! ## What a request brings -/

/-- Which identifier a person signs in with. -/
inductive LoginMethod
  | email
  | phone
  | nebula
deriving DecidableEq

/-- A registration, without the name. -/
structure RegisterRequest where
  email : Option String
  phone : Option String
  loginMethod : Option LoginMethod
  identifier : Option String
  password : String

/-- The identifiers that a registration brings. -/
structure RegistrationIdentity where
  email : Option Email
  phone : Option PhoneNumber

/-- The method that is asked for, or the one that the identifiers suggest. -/
def requestedLoginMethod (method : Option LoginMethod) (email phone : Option String) :
    LoginMethod :=
  method.getD (if phone.isSome ∧ email.isNone then .phone else .email)

/-- The identifiers of a request, parsed. -/
def RegistrationIdentity.fromRequest (input : RegisterRequest) :
    Except ApiError RegistrationIdentity :=
  match requestedLoginMethod input.loginMethod input.email input.phone with
  | .email => do
    let value ← okOr (input.identifier.or input.email) (ApiError.badRequest "email is required")
    let email ← (Email.parse k value).mapError fun _ => ApiError.badRequest "invalid email"
    return ⟨some email, none⟩
  | .phone => do
    let value ← okOr (input.identifier.or input.phone) (ApiError.badRequest "phone is required")
    let phone ← (PhoneNumber.parse value).mapError fun _ => ApiError.badRequest "invalid phone"
    return ⟨none, some phone⟩
  | .nebula => .error (.badRequest "nebula id is generated during registration")

/-- The answer of SkyBridge, without the name. -/
structure SkybridgeProfileResponse where
  id : Uuid
  email : Option String
  phone : Option String
  nebulaId : Option String

/-- A profile of SkyBridge with its identifiers parsed. -/
structure SkybridgeProfile where
  userId : Uuid
  nebulaId : NebulaId
  email : Option Email
  phone : Option PhoneNumber

/-- The profile in an answer of SkyBridge. -/
def SkybridgeProfile.tryFromResponse (response : SkybridgeProfileResponse) :
    Except ApiError SkybridgeProfile := do
  let value ← okOr response.nebulaId (ApiError.badGateway "SkyBridge profile has no nebula id")
  let nebulaId ← (NebulaId.parse value).mapError fun _ =>
    ApiError.badGateway "invalid SkyBridge nebula id"
  let email ← parseOptional (Email.parse k) (.badGateway "invalid SkyBridge email")
    (response.email.filter fun value => trim value ≠ "")
  let phone ← parseOptional PhoneNumber.parse (.badGateway "invalid SkyBridge phone")
    (response.phone.filter fun value => trim value ≠ "")
  return ⟨response.id, nebulaId, email, phone⟩

/-- An identifier that an account is looked up by. -/
inductive LoginIdentity
  | email (address : Email)
  | phone (number : PhoneNumber)
  | nebulaId (id : NebulaId)
deriving DecidableEq

/-- The identifier in a text, by the method of the login. -/
def parseLoginIdentity (method : LoginMethod) (value : String) : Except ApiError LoginIdentity :=
  match method with
  | .email => ((Email.parse k value).map .email).mapError fun _ => .badRequest "invalid email"
  | .phone => ((PhoneNumber.parse value).map .phone).mapError fun _ => .badRequest "invalid phone"
  | .nebula =>
    ((NebulaId.parse value).map .nebulaId).mapError fun _ => .badRequest "invalid nebula id"

/-! ## The statements -/

/-- The row has the identifier. -/
def LoginIdentity.selects (identity : LoginIdentity) (row : User) : Bool :=
  match identity with
  | .email address => row.email == some address.text
  | .phone number => row.phone == some number.text
  | .nebulaId id => row.nebulaId == id.text

/-- `find_user_by_login_identity`: the row is parsed when there is one. -/
def findUserByLoginIdentity (db : Db) (identity : LoginIdentity) :
    Except ApiError (Option Account) :=
  match db.users.rows.find? identity.selects with
  | none => .ok none
  | some row => (rowToUser k row).map some

/-- The error of an insertion that meets an identifier of another account. -/
def mapIdentityUniqueConflict (violated : String) : ApiError :=
  match violated with
  | "uq_users_email" => .conflict "email already registered"
  | "uq_users_phone" => .conflict "phone already registered"
  | "uq_users_nebula_id" => .conflict "nebula id already allocated"
  | "uq_users_skybridge_user_id" => .conflict "SkyBridge user already linked"
  | _ => dbInternal

/-- `insert_tenant` and `insert_user`, which follow each other. -/
def storeAccount (account : Account) : DbM Account := do
  insertTenant account.tenantId
  insertUser mapIdentityUniqueConflict account.toRow
  return account

/-- The assignments of `update_skybridge_user`. -/
def SkybridgeProfile.update (profile : SkybridgeProfile) (now : Time) (row : User) : User :=
  { row with
    nebulaId := profile.nebulaId.text
    nebulaSource := .skybridge
    skybridgeUserId := some profile.userId
    email := profile.email.map Email.text
    phone := profile.phone.map PhoneNumber.text
    emailVerifiedAt := row.emailVerifiedAt.or (some now) }

/-- Read the row that a statement returns. -/
def readRow (row : Option User) : DbM Account :=
  match row with
  | none => throw dbInternal
  | some row =>
    match rowToUser k row with
    | .ok account => return account
    | .error e => throw e

/-! ## The handlers -/

/-- What a request draws. -/
structure AccountDraw where
  now : Time
  year : String
  /-- The random characters of a Nebula ID, for each attempt. -/
  random : ℕ → String
  uuid : ℕ → Uuid

/-- A new Nebula ID. -/
def generateNebulaId (year random : String) : Except ApiError NebulaId :=
  (NebulaId.parse s!"NEBULA-{year}-{random}").mapError fun _ =>
    .internal "failed to generate nebula id"

/-- `create_unique_nebula_id`: the attempts, one after the other. -/
def createUniqueNebulaId (db : Db) (draw : AccountDraw) : List ℕ → Except ApiError NebulaId
  | [] => .error (.internal "failed to allocate nebula id")
  | i :: attempts => do
    let nebulaId ← generateNebulaId draw.year (draw.random i)
    if db.users.rows.any (·.nebulaId == nebulaId.text) then
      createUniqueNebulaId db draw attempts
    else
      return nebulaId

/-- `register`, up to its transaction. -/
def prepareRegistration (db : Db) (allowLocalNebulaRegistration : Bool) (input : RegisterRequest)
    (draw : AccountDraw) : Except ApiError Account := do
  let identity ← RegistrationIdentity.fromRequest k input
  refuseIf (byteLength input.password < 8)
    (ApiError.badRequest "password must be at least 8 characters")
  refuseIf (!allowLocalNebulaRegistration)
    (ApiError.forbidden "local account registration is disabled; use SkyBridge identity")
  let nebulaId ← createUniqueNebulaId db draw (List.range 8)
  return {
    id := ⟨draw.uuid 0⟩
    tenantId := ⟨draw.uuid 1⟩
    nebulaId := nebulaId
    nebulaSource := .localDev
    skybridgeUserId := none
    email := identity.email
    phone := identity.phone
    emailVerifiedAt := none
    phoneVerifiedAt := none }

/-- `upsert_skybridge_user`. -/
def upsertSkybridgeUser (profile : SkybridgeProfile) (draw : AccountDraw) : DbM Account := do
  let found ← fetchOptional Db.users (·.skybridgeUserId == some profile.userId)
  match found with
  | some row =>
    let existing ← readRow k (some row)
    let rows ← updateRows Db.users (fun db t => { db with users := t }) (·.id == existing.id)
      (profile.update draw.now)
    readRow k rows.head?
  | none =>
    storeAccount
      { id := ⟨draw.uuid 0⟩
        tenantId := ⟨draw.uuid 1⟩
        nebulaId := profile.nebulaId
        nebulaSource := .skybridge
        skybridgeUserId := some profile.userId
        email := profile.email
        phone := profile.phone
        emailVerifiedAt := some draw.now
        phoneVerifiedAt := none }

end Parsing

/-! ## The service -/

/-- The database, and the registrations that have not reached their transaction. -/
structure AccountService where
  db : Db
  registrations : List (Option Account)

/-- A request of the service of accounts. -/
inductive AccountRequest
  | register (allowed : Bool) (input : RegisterRequest)
  /-- The transaction of the `i`-th registration. -/
  | store (i : ℕ)
  /-- A sign-in with SkyBridge, which has answered with a profile. -/
  | skybridge (response : SkybridgeProfileResponse)

namespace AccountService

variable (k : LetterClasses)

/-- What a request does. -/
def step (s : AccountService) (request : AccountRequest) (draw : AccountDraw) :
    Except ApiError (Option Account) × AccountService :=
  match request with
  | .register allowed input =>
    match prepareRegistration k s.db allowed input draw with
    | .error e => (.error e, s)
    | .ok account => (.ok none, { s with registrations := s.registrations ++ [some account] })
  | .store i =>
    match slot s.registrations i with
    | none => (.ok none, s)
    | some account =>
      let r := atomically (storeAccount account) s.db
      (r.1.map some, { db := r.2, registrations := s.registrations.set i none })
  | .skybridge response =>
    match SkybridgeProfile.tryFromResponse k response with
    | .error e => (.error e, s)
    | .ok profile =>
      let r := atomically (upsertSkybridgeUser k profile draw) s.db
      (r.1.map some, { s with db := r.2 })

end AccountService

/-- The service starts on a database without users. -/
def accountMachine (k : LetterClasses) :
    Machine AccountService (AccountRequest × AccountDraw) (Except ApiError (Option Account)) where
  init s := s.db.users.rows = [] ∧ s.registrations = []
  enabled _ _ := True
  step s l := s.step k l.1 l.2

/-! ## Rows that can be read -/

variable {k : LetterClasses}

/-- The identifiers of the account have come out of their parsers. -/
structure Account.Parsed (k : LetterClasses) (u : Account) : Prop where
  nebulaId : ∃ value, NebulaId.parse value = .ok u.nebulaId
  email : ∀ email ∈ u.email, ∃ value, Email.parse k value = .ok email
  phone : ∀ phone ∈ u.phone, ∃ value, PhoneNumber.parse value = .ok phone

/-- Every row is that of such an account. -/
def Db.Readable (k : LetterClasses) (db : Db) : Prop :=
  ∀ row ∈ db.users.rows, ∃ u : Account, u.Parsed k ∧ row = u.toRow

section Optional

variable {α : Type} {parse : String → Except IdentifierError α} {error : ApiError}

lemma parseOptional_map_text {text : α → String} {value : Option α}
    (h : ∀ a ∈ value, parse (text a) = .ok a) :
    parseOptional parse error (value.map text) = .ok value := by
  cases value with
  | none => rfl
  | some a =>
    rw [Option.map_some, parseOptional, h a rfl]
    rfl

lemma parsed_of_parseOptional {value : Option String} {found : Option α}
    (h : parseOptional parse error value = .ok found) : ∀ a ∈ found, ∃ v, parse v = .ok a := by
  intro a ha
  cases value with
  | none =>
    cases h
    cases ha
  | some v =>
    rw [parseOptional, Except.mapError_eq_ok] at h
    cases hparse : parse v with
    | error e =>
      rw [hparse] at h
      cases h
    | ok b =>
      rw [hparse] at h
      obtain rfl : some b = found := Except.ok.inj h
      obtain rfl : b = a := Option.some.inj ha
      exact ⟨v, hparse⟩

end Optional

/-- **A row is read as the account it was written for.** -/
lemma rowToUser_toRow {u : Account} (h : u.Parsed k) : rowToUser k u.toRow = .ok u := by
  obtain ⟨nebulaValue, hnebula⟩ := h.nebulaId
  have hid : NebulaId.parse u.toRow.nebulaId = .ok u.nebulaId := parse_nebula_text hnebula
  have hemail : ∀ error, parseOptional (Email.parse k) error u.toRow.email = .ok u.email := by
    intro error
    refine parseOptional_map_text fun email hmem => ?_
    obtain ⟨value, hparse⟩ := h.email email hmem
    exact parse_email_text hparse
  have hphone : ∀ error, parseOptional PhoneNumber.parse error u.toRow.phone = .ok u.phone := by
    intro error
    refine parseOptional_map_text fun phone hmem => ?_
    obtain ⟨value, hparse⟩ := h.phone phone hmem
    exact parse_phone_text hparse
  rw [rowToUser, hid, hemail, hphone]
  rfl

/-! ## What the handlers make -/

lemma parsed_of_fromRequest {input : RegisterRequest} {identity : RegistrationIdentity}
    (h : RegistrationIdentity.fromRequest k input = .ok identity) :
    (∀ email ∈ identity.email, ∃ value, Email.parse k value = .ok email) ∧
      ∀ phone ∈ identity.phone, ∃ value, PhoneNumber.parse value = .ok phone := by
  rw [RegistrationIdentity.fromRequest] at h
  split at h
  · simp only [Except.bind_eq_ok, Except.mapError_eq_ok] at h
    obtain ⟨value, -, email, hparse, hok⟩ := h
    obtain rfl := Except.ok.inj hok
    refine ⟨fun e he => ⟨value, ?_⟩, fun p hp => absurd hp (Option.not_mem_none p)⟩
    simp only [Option.mem_def, Option.some.injEq] at he
    rw [← he]
    exact hparse
  · simp only [Except.bind_eq_ok, Except.mapError_eq_ok] at h
    obtain ⟨value, -, phone, hparse, hok⟩ := h
    obtain rfl := Except.ok.inj hok
    refine ⟨fun e he => absurd he (Option.not_mem_none e), fun p hp => ⟨value, ?_⟩⟩
    simp only [Option.mem_def, Option.some.injEq] at hp
    rw [← hp]
    exact hparse
  · cases h

lemma parsed_of_createUniqueNebulaId {db : Db} {draw : AccountDraw} {attempts : List ℕ}
    {nebulaId : NebulaId} (h : createUniqueNebulaId db draw attempts = .ok nebulaId) :
    ∃ value, NebulaId.parse value = .ok nebulaId := by
  induction attempts with
  | nil => cases h
  | cons i attempts ih =>
    rw [createUniqueNebulaId, Except.bind_eq_ok] at h
    obtain ⟨generated, hgenerated, h⟩ := h
    split at h
    · exact ih h
    · obtain rfl := Except.ok.inj h
      exact ⟨_, Except.mapError_eq_ok.mp hgenerated⟩

lemma parsed_of_prepareRegistration {db : Db} {allowed : Bool} {input : RegisterRequest}
    {draw : AccountDraw} {account : Account}
    (h : prepareRegistration k db allowed input draw = .ok account) : account.Parsed k := by
  simp only [prepareRegistration, Except.bind_eq_ok, Except.refuseIf_eq_ok] at h
  obtain ⟨identity, hidentity, -, -, -, -, nebulaId, hnebula, hok⟩ := h
  obtain rfl := Except.ok.inj hok
  obtain ⟨hemail, hphone⟩ := parsed_of_fromRequest hidentity
  exact ⟨parsed_of_createUniqueNebulaId hnebula, hemail, hphone⟩

lemma parsed_of_tryFromResponse {response : SkybridgeProfileResponse} {profile : SkybridgeProfile}
    (h : SkybridgeProfile.tryFromResponse k response = .ok profile) :
    (∃ value, NebulaId.parse value = .ok profile.nebulaId) ∧
      (∀ email ∈ profile.email, ∃ value, Email.parse k value = .ok email) ∧
        ∀ phone ∈ profile.phone, ∃ value, PhoneNumber.parse value = .ok phone := by
  simp only [SkybridgeProfile.tryFromResponse, Except.bind_eq_ok, Except.mapError_eq_ok] at h
  obtain ⟨value, -, nebulaId, hnebula, email, hemail, phone, hphone, hok⟩ := h
  obtain rfl := Except.ok.inj hok
  exact ⟨⟨value, hnebula⟩, parsed_of_parseOptional hemail, parsed_of_parseOptional hphone⟩

/-! ## What the statements keep -/

lemma keeps_storeAccount {account : Account} (h : account.Parsed k) :
    Tx.Keeps (Db.Readable k) (storeAccount account) := by
  intro db a db' hrun hread row hrow
  simp only [storeAccount, Tx.bind_eq_ok, Tx.pure_eq_ok] at hrun
  obtain ⟨_, db₁, htenant, _, db₂, huser, -, rfl⟩ := hrun
  obtain ⟨ids, rfl⟩ := insertTenant_ok htenant
  obtain ⟨t, ht, -, rfl⟩ := insertRow_eq_ok.mp huser
  have hmem : row ∈ t.rows := hrow
  rw [Table.rows_of_insert ht, List.mem_append, List.mem_singleton] at hmem
  rcases hmem with hmem | rfl
  · exact hread row hmem
  · exact ⟨account, h, rfl⟩

lemma keeps_readRow (row : Option User) : Tx.Keeps (Db.Readable k) (readRow k row) := by
  unfold readRow
  split
  · exact Tx.Keeps.throw _
  · split
    · exact Tx.Keeps.pure _
    · exact Tx.Keeps.throw _

/-- The update by a profile makes the row of an account again. -/
lemma keeps_update {profile : SkybridgeProfile} {id : UserId} {now : Time}
    (hnebula : ∃ value, NebulaId.parse value = .ok profile.nebulaId)
    (hemail : ∀ email ∈ profile.email, ∃ value, Email.parse k value = .ok email)
    (hphone : ∀ phone ∈ profile.phone, ∃ value, PhoneNumber.parse value = .ok phone) :
    Tx.Keeps (Db.Readable k) (updateRows Db.users (fun db t => { db with users := t }) (·.id == id)
      (profile.update now)) := by
  intro db rows db' hrun hread row hrow
  obtain ⟨t, ht, -, rfl⟩ := updateRows_eq_ok.mp hrun
  have hmem : row ∈ t.rows := hrow
  rw [Table.rows_of_update ht, mem_updateWhere] at hmem
  rcases hmem with ⟨old, hold, -, rfl⟩ | ⟨hold, -⟩
  · obtain ⟨u, -, rfl⟩ := hread old hold
    refine ⟨{ u with
      nebulaId := profile.nebulaId
      nebulaSource := .skybridge
      skybridgeUserId := some profile.userId
      email := profile.email
      phone := profile.phone
      emailVerifiedAt := u.emailVerifiedAt.or (some now) }, ⟨hnebula, hemail, hphone⟩, rfl⟩
  · exact hread row hold

lemma keeps_upsertSkybridgeUser {profile : SkybridgeProfile} {draw : AccountDraw}
    (hnebula : ∃ value, NebulaId.parse value = .ok profile.nebulaId)
    (hemail : ∀ email ∈ profile.email, ∃ value, Email.parse k value = .ok email)
    (hphone : ∀ phone ∈ profile.phone, ∃ value, PhoneNumber.parse value = .ok phone) :
    Tx.Keeps (Db.Readable k) (upsertSkybridgeUser k profile draw) := by
  rw [upsertSkybridgeUser]
  refine Tx.Keeps.bind (Tx.Keeps.of_eq fun db found db' h => (fetchOptional_eq_ok.mp h).2) ?_
  intro found
  cases found with
  | none => exact keeps_storeAccount ⟨hnebula, hemail, hphone⟩
  | some row =>
    refine (keeps_readRow _).bind fun existing => ?_
    exact (keeps_update hnebula hemail hphone).bind fun rows => keeps_readRow rows.head?

/-! ## Every run -/

/-- All rows can be read, and all that is going to be stored has been parsed. -/
structure AccountService.Sound (k : LetterClasses) (s : AccountService) : Prop where
  readable : s.db.Readable k
  registrations : ∀ u : Account, some u ∈ s.registrations → u.Parsed k

lemma AccountService.Sound.step {s : AccountService} (h : s.Sound k) (request : AccountRequest)
    (draw : AccountDraw) : (s.step k request draw).2.Sound k := by
  cases request with
  | register allowed input =>
    rw [AccountService.step]
    cases hprepared : prepareRegistration k s.db allowed input draw with
    | error e => exact h
    | ok account =>
      refine ⟨h.readable, fun u hu => ?_⟩
      rcases List.mem_append.mp hu with hu | hu
      · exact h.registrations u hu
      · obtain rfl : u = account := by simpa using hu
        exact parsed_of_prepareRegistration hprepared
  | store i =>
    rw [AccountService.step]
    cases hslot : slot s.registrations i with
    | none => exact h
    | some account =>
      -- what waits to be stored has gone through the parsers
      have hparsed := h.registrations account (mem_of_slot hslot)
      refine ⟨(keeps_storeAccount hparsed).atomically h.readable, fun u hu => ?_⟩
      rcases List.mem_or_eq_of_mem_set hu with hu | hu
      · exact h.registrations u hu
      · cases hu
  | skybridge response =>
    rw [AccountService.step]
    cases hprofile : SkybridgeProfile.tryFromResponse k response with
    | error e => exact h
    | ok profile =>
      obtain ⟨hnebula, hemail, hphone⟩ := parsed_of_tryFromResponse hprofile
      exact ⟨(keeps_upsertSkybridgeUser hnebula hemail hphone).atomically h.readable,
        h.registrations⟩

lemma AccountService.sound_of_run {s₀ s : AccountService}
    {tr : List ((AccountRequest × AccountDraw) × Except ApiError (Option Account))}
    (hinit : (accountMachine k).init s₀) (hrun : (accountMachine k).Run s₀ tr s) : s.Sound k := by
  refine hrun.invariant (I := AccountService.Sound k) (fun s l h _ => h.step l.1 l.2) ?_
  obtain ⟨hrows, hnone⟩ := hinit
  constructor
  · intro row hrow
    rw [hrows] at hrow
    cases hrow
  · intro u hu
    rw [hnone] at hu
    cases hu

/-! ## Looking up -/

/-- The account that is found has the identifier. -/
lemma selects_of_find {db : Db} (hread : db.Readable k) {identity : LoginIdentity}
    {account : Account} (h : findUserByLoginIdentity k db identity = .ok (some account)) :
    identity.selects account.toRow = true := by
  rw [findUserByLoginIdentity] at h
  cases hfound : db.users.rows.find? identity.selects with
  | none =>
    rw [hfound] at h
    cases h
  | some row =>
    obtain ⟨u, hparsed, rfl⟩ := hread row (List.mem_of_find?_eq_some hfound)
    simp only [hfound, rowToUser_toRow hparsed, Except.map, Except.ok.injEq,
      Option.some.injEq] at h
    rw [← h]
    exact List.find?_some hfound

lemma exists_of_map_eq_ok {α β ε : Type} {f : α → β} {r : Except ε α} {b : β}
    (h : r.map f = .ok b) : ∃ a, f a = b := by
  cases r with
  | error e => cases h
  | ok a => exact ⟨a, Except.ok.inj h⟩

/-- Two identifiers of one kind that select one row are the same. -/
lemma eq_of_selects {method : LoginMethod} {input input' : String} {a b : LoginIdentity}
    {row : User} (ha : parseLoginIdentity k method input = .ok a)
    (hb : parseLoginIdentity k method input' = .ok b) (hrow : a.selects row = true)
    (hrow' : b.selects row = true) : a = b := by
  cases method with
  | email =>
    rw [parseLoginIdentity, Except.mapError_eq_ok] at ha hb
    obtain ⟨e, rfl⟩ := exists_of_map_eq_ok ha
    obtain ⟨e', rfl⟩ := exists_of_map_eq_ok hb
    rw [LoginIdentity.selects, beq_iff_eq] at hrow hrow'
    have htext : e.text = e'.text := Option.some.inj (hrow.symm.trans hrow')
    exact congrArg _ (Email.ext htext)
  | phone =>
    rw [parseLoginIdentity, Except.mapError_eq_ok] at ha hb
    obtain ⟨p, rfl⟩ := exists_of_map_eq_ok ha
    obtain ⟨p', rfl⟩ := exists_of_map_eq_ok hb
    rw [LoginIdentity.selects, beq_iff_eq] at hrow hrow'
    have htext : p.text = p'.text := Option.some.inj (hrow.symm.trans hrow')
    exact congrArg _ (PhoneNumber.ext htext)
  | nebula =>
    rw [parseLoginIdentity, Except.mapError_eq_ok] at ha hb
    obtain ⟨i, rfl⟩ := exists_of_map_eq_ok ha
    obtain ⟨i', rfl⟩ := exists_of_map_eq_ok hb
    rw [LoginIdentity.selects, beq_iff_eq] at hrow hrow'
    have htext : i.text = i'.text := hrow.symm.trans hrow'
    exact congrArg _ (NebulaId.ext htext)

/-- **Identifiers in normal form.**  What a parser has accepted it accepts again and leaves alone.
Hence, in whatever order accounts are made and synchronised, every row can be read, and of two
inputs of one kind the first of which finds an account, the second finds the same one if and only if
the two are the same after parsing. -/
theorem identity_normal_forms (k : LetterClasses) :
    ((∀ value email, Email.parse k value = .ok email → Email.parse k email.text = .ok email) ∧
      (∀ value phone, PhoneNumber.parse value = .ok phone →
        PhoneNumber.parse phone.text = .ok phone) ∧
      ∀ value id, NebulaId.parse value = .ok id → NebulaId.parse id.text = .ok id) ∧
    ∀ s₀ tr s, (accountMachine k).init s₀ → (accountMachine k).Run s₀ tr s →
      (∀ row ∈ s.db.users.rows, ∃ account, rowToUser k row = .ok account ∧ account.toRow = row) ∧
        ∀ method input input' a b account, parseLoginIdentity k method input = .ok a →
          parseLoginIdentity k method input' = .ok b →
          findUserByLoginIdentity k s.db a = .ok (some account) →
            (findUserByLoginIdentity k s.db b = .ok (some account) ↔ a = b) := by
  refine ⟨⟨fun _ _ => parse_email_text, fun _ _ => parse_phone_text,
    fun _ _ => parse_nebula_text⟩, fun s₀ tr s hinit hrun => ?_⟩
  have hread : s.db.Readable k := (AccountService.sound_of_run hinit hrun).readable
  constructor
  · intro row hrow
    obtain ⟨u, hparsed, rfl⟩ := hread row hrow
    exact ⟨u, rowToUser_toRow hparsed, rfl⟩
  · intro method input input' a b account ha hb hfound
    constructor
    · intro hfound'
      exact eq_of_selects ha hb (selects_of_find hread hfound) (selects_of_find hread hfound')
    · rintro rfl
      exact hfound

/-- Someone registers with an address in capitals. -/
def registerMug : List (AccountRequest × AccountDraw) :=
  let draw : AccountDraw := ⟨0, "2026", fun _ => "A1B2C3D4E5F6", Uuid.ofNat⟩
  [(.register true ⟨some " MUG@X.com", none, none, none, "password"⟩, draw), (.store 0, draw)]

/-- An account with an e-mail address. -/
def mugAccount : Account :=
  { id := ⟨.ofNat 0⟩
    tenantId := ⟨.ofNat 1⟩
    nebulaId := ⟨"NEBULA-2026-A1B2C3D4E5F6"⟩
    nebulaSource := .localDev
    skybridgeUserId := none
    email := some ⟨"mug@x.com"⟩
    phone := none
    emailVerifiedAt := none
    phoneVerifiedAt := none }

/-- The row can be read, and another address does not find the account. -/
theorem identity_normal_forms_registered :
    let s := ((accountMachine asciiLetters).exec ⟨.empty, []⟩ registerMug).2
    (∃ row ∈ s.db.users.rows, ∃ account, rowToUser asciiLetters row = .ok account ∧
      account.toRow = row) ∧
      findUserByLoginIdentity asciiLetters s.db (.email ⟨"cup@x.com"⟩) ≠ .ok (some mugAccount) := by
  intro s
  have hallows : (accountMachine asciiLetters).Allows ⟨.empty, []⟩ registerMug :=
    ⟨trivial, trivial, trivial⟩
  have h := (identity_normal_forms asciiLetters).2 _ _ s ⟨rfl, rfl⟩ (Machine.run_exec hallows)
  have hrow : mugAccount.toRow ∈ s.db.users.rows := by decide +kernel
  have hmug : parseLoginIdentity asciiLetters .email "Mug@x.com" = .ok (.email ⟨"mug@x.com"⟩) := by
    decide +kernel
  have hcup : parseLoginIdentity asciiLetters .email "cup@x.com" = .ok (.email ⟨"cup@x.com"⟩) := by
    decide +kernel
  have hfound : findUserByLoginIdentity asciiLetters s.db (.email ⟨"mug@x.com"⟩) =
      .ok (some mugAccount) := by decide +kernel
  refine ⟨⟨_, hrow, h.1 _ hrow⟩, fun hsame => ?_⟩
  exact absurd ((h.2 .email _ _ _ _ _ hmug hcup hfound).mp hsame) (by decide)

end OzonSuite
