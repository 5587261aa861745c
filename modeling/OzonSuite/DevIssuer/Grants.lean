/-
# What the grants of the development issuer are good for

A code and a refresh token are each exchanged at most once, by the client and under the conditions
for which they were issued, and the tokens that come of an exchange are those of the grant.  The
verifier of a code is taken without the blanks around it.
-/
import OzonSuite.DevIssuer.Service
import OzonSuite.Lib.OneTime

namespace OzonSuite

open Lib

namespace DevIssuer

/-! ## What is wanted -/

/-- The code is exchanged. -/
def exchangesCode (code : String) : Option Move → Bool
  | some ⟨.exchange input, .issueTokens _ _ _⟩ =>
    input.grantType == "authorization_code" && trim input.code == code
  | _ => false

/-- The refresh token is exchanged. -/
def exchangesRefresh (token : String) : Option Move → Bool
  | some ⟨.exchange input, .issueTokens _ _ _⟩ =>
    input.grantType == "refresh_token" && trim input.refreshToken == token
  | _ => false

/-- The `i`-th request is answered with tokens. -/
def answersTokens (i : ℕ) : IssuerLabel × Option Move → Bool
  | (.advance j _, some ⟨.issueTokens _ _ _, .answered (.tokens _)⟩) => j == i
  | _ => false

section Events

variable (config : AppConfig)

/-- The code is issued with the record. -/
def CodeIssued (code : String) (record : AuthorizationCode) (l : IssuerLabel) (_ : Option Move)
    (m : Issuer) : Prop :=
  ∃ i draw request requestId, l = .advance i draw ∧
    m.threads[i]? = some (.issueCode request requestId) ∧ code = draw.code ∧
      record = request.authorizationCode config m.shared.now

/-- The refresh token is issued with the record. -/
def RefreshIssued (token : String) (record : RefreshTokenRecord) (l : IssuerLabel)
    (_ : Option Move) (m : Issuer) : Prop :=
  ∃ i draw user clientId scope, l = .advance i draw ∧
    m.threads[i]? = some (.issueTokens user clientId scope) ∧ wantsRefresh scope = true ∧
      token = draw.refreshToken ∧
        record = refreshTokenRecord config m.shared.now user clientId scope

/-- The access token is issued with the record. -/
def AccessIssued (token : String) (record : TokenRecord) (l : IssuerLabel) (_ : Option Move)
    (m : Issuer) : Prop :=
  ∃ i draw user clientId scope, l = .advance i draw ∧
    m.threads[i]? = some (.issueTokens user clientId scope) ∧ token = draw.accessToken ∧
      record = ⟨user, m.shared.now + config.accessTokenTtl⟩

/-- The `i`-th request exchanges a grant of the user for the client and the scope. -/
def Exchanged (i : ℕ) (user : DemoUser) (clientId scope : String) (l : IssuerLabel)
    (a : Option Move) (_ : Issuer) : Prop :=
  ∃ draw input, l = .advance i draw ∧
    (input.grantType = "authorization_code" ∨ input.grantType = "refresh_token") ∧
      a = some ⟨.exchange input, .issueTokens user clientId scope⟩

/-- A refresh token that has been issued is revoked. -/
def Revoked (token : String) (l : IssuerLabel) (_ : Option Move) (m : Issuer) : Prop :=
  ∃ i draw revoked, l = .advance i draw ∧ m.threads[i]? = some (.revoke revoked) ∧
    trim revoked = token ∧ token ∈ m.shared.refreshTokens

end Events

/-- What is wanted of a run; `meets` says which verifiers meet a challenge. -/
structure GrantsSafe (x : IssuerCrates) (config : AppConfig) (meets : String → String → Prop)
    (s₀ : Issuer) (tr : List (IssuerLabel × Option Move)) : Prop where
  /-- A code is exchanged once. -/
  code_once : ∀ code, tr.countP (fun e => exchangesCode code e.2) ≤ 1
  /-- It has been issued, and the request that exchanges it meets the conditions of its record and
  goes on with what the record says. -/
  code_granted : ∀ before l a after m, tr = before ++ (l, a) :: after →
    (issuer x config).Run s₀ before m → ∀ input user clientId scope,
      a = some ⟨.exchange input, .issueTokens user clientId scope⟩ →
      input.grantType = "authorization_code" →
        (∃ record, (issuer x config).Happened s₀ before
          (CodeIssued config (trim input.code) record)) ∧
        ∀ record, (issuer x config).Happened s₀ before
            (CodeIssued config (trim input.code) record) →
          m.shared.now < record.expiresAt ∧ input.clientId = record.clientId ∧
          input.redirectUri = record.redirectUri ∧ meets input.codeVerifier record.codeChallenge ∧
          user = record.user ∧ clientId = record.clientId ∧ scope = record.scope
  /-- A refresh token is exchanged once. -/
  refresh_once : ∀ token, tr.countP (fun e => exchangesRefresh token e.2) ≤ 1
  /-- It has been issued, has not been revoked since, and is exchanged by its client before it
  expires. -/
  refresh_granted : ∀ before l a after m, tr = before ++ (l, a) :: after →
    (issuer x config).Run s₀ before m → ∀ input user clientId scope,
      a = some ⟨.exchange input, .issueTokens user clientId scope⟩ →
      input.grantType = "refresh_token" →
        (∃ record, (issuer x config).Happened s₀ before
          (RefreshIssued config (trim input.refreshToken) record)) ∧
        (∀ record, (issuer x config).Happened s₀ before
            (RefreshIssued config (trim input.refreshToken) record) →
          m.shared.now < record.expiresAt ∧ input.clientId = record.clientId ∧
          user = record.user ∧ clientId = record.clientId ∧ scope = record.scope) ∧
        ¬ (issuer x config).Happened s₀ before (Revoked (trim input.refreshToken))
  /-- A request is answered with tokens once. -/
  tokens_once : ∀ i, tr.countP (answersTokens i) ≤ 1
  /-- It has exchanged a grant, and the tokens are those of the grant. -/
  tokens_granted : ∀ before l a after m, tr = before ++ (l, a) :: after →
    (issuer x config).Run s₀ before m → ∀ user clientId scope response,
      a = some ⟨.issueTokens user clientId scope, .answered (.tokens response)⟩ →
        (∃ i draw, l = .advance i draw ∧
          (issuer x config).Happened s₀ before (Exchanged i user clientId scope)) ∧
        response.scope = scope ∧
        AccessIssued config response.accessToken ⟨user, m.shared.now + config.accessTokenTtl⟩
          l a m ∧
        ∀ token ∈ response.refreshToken, RefreshIssued config token
          (refreshTokenRecord config m.shared.now user clientId scope) l a m
  /-- The access tokens that are listed are listed as they were issued. -/
  access_kept : ∀ before after m, tr = before ++ after → (issuer x config).Run s₀ before m →
    ∀ token record, m.shared.store.accessTokens token = some record →
      (issuer x config).Happened s₀ before (AccessIssued config token record)

/-! ## What a step does -/

/-- There are no more codes and tokens than before. -/
structure Store.Shrinks (s s' : Store) : Prop where
  codes : ∀ code record, s'.authorizationCodes code = some record →
    s.authorizationCodes code = some record
  access : ∀ token record, s'.accessTokens token = some record →
    s.accessTokens token = some record
  refresh : ∀ token record, s'.refreshTokens token = some record →
    s.refreshTokens token = some record

lemma Store.Shrinks.refl (s : Store) : s.Shrinks s :=
  ⟨fun _ _ h => h, fun _ _ h => h, fun _ _ h => h⟩

lemma HashMap.of_retain {ν : Type} {m : HashMap ν} {p : ν → Bool} {key : String} {value : ν}
    (h : m.retain p key = some value) : m key = some value :=
  (Option.filter_eq_some_iff.mp h).1

lemma Store.shrinks_purgeExpired (s : Store) (now : Time) : s.Shrinks (s.purgeExpired now) :=
  ⟨fun _ _ h => HashMap.of_retain h, fun _ _ h => HashMap.of_retain h,
    fun _ _ h => HashMap.of_retain h⟩

/-- The request is at a scope that issues or revokes something. -/
def IssuerTask.changes : IssuerTask → Bool
  | .issueCode _ _ | .issueTokens _ _ _ | .revoke _ => true
  | _ => false

/-- The request is to be answered with tokens. -/
def IssuerTask.issuing : IssuerTask → Option (DemoUser × String × String)
  | .issueTokens user clientId scope => some (user, clientId, scope)
  | _ => none

/-- The steps of the issuer. -/
inductive Issuer.Does (x : IssuerCrates) (config : AppConfig) (s : Issuer) :
    IssuerLabel → Option Move → Issuer → Prop
  | calls {l : IssuerLabel} {t : IssuerTask} (hl : l.called = some t) (ht : t.issuing = none) :
      Does x config s l none { s with threads := s.threads ++ [t] }
  | waits {now : Time} :
      Does x config s (.wait now) none { s with shared := { s.shared with now := now } }
  | keeps {i : ℕ} {draw : IssuerDraw} {t next : IssuerTask} {shared : IssuerShared}
      (hi : s.threads[i]? = some t) (ht : t.changes = false) (hnext : next.issuing = none)
      (hanswered : ∀ r, t = .answered r → next = .answered r)
      (hstore : s.shared.store.Shrinks shared.store) (hcodes : shared.codes = s.shared.codes)
      (hrefresh : shared.refreshTokens = s.shared.refreshTokens) :
      Does x config s (.advance i draw) (some ⟨t, next⟩) (s.after i ⟨next, [], shared⟩)
  | issuesCode {i : ℕ} {draw : IssuerDraw} {request : AuthorizeRequest} {requestId : Option String}
      {next : IssuerTask} (hi : s.threads[i]? = some (.issueCode request requestId))
      (hfresh : draw.code ∉ s.shared.codes) (hnext : next.issuing = none) :
      Does x config s (.advance i draw) (some ⟨.issueCode request requestId, next⟩)
        (s.after i ⟨next, [], { s.shared with
          store := s.shared.store.insertCode config s.shared.now request draw.code
          codes := draw.code :: s.shared.codes }⟩)
  | exchangesCode {i : ℕ} {draw : IssuerDraw} {input : TokenRequest} {record : AuthorizationCode}
      {store : Store} (hi : s.threads[i]? = some (.exchange input))
      (hgrant : input.grantType = "authorization_code")
      (hexchange : s.shared.store.exchangeCode x s.shared.now input = .ok (record, store)) :
      Does x config s (.advance i draw)
        (some ⟨.exchange input, .issueTokens record.user record.clientId record.scope⟩)
        (s.after i ⟨.issueTokens record.user record.clientId record.scope, [],
          s.shared.setStore store⟩)
  | exchangesRefresh {i : ℕ} {draw : IssuerDraw} {input : TokenRequest}
      {record : RefreshTokenRecord} {store : Store} (hi : s.threads[i]? = some (.exchange input))
      (hgrant : input.grantType = "refresh_token")
      (hexchange : s.shared.store.exchangeRefresh s.shared.now input = .ok (record, store)) :
      Does x config s (.advance i draw)
        (some ⟨.exchange input, .issueTokens record.user record.clientId record.scope⟩)
        (s.after i ⟨.issueTokens record.user record.clientId record.scope, [],
          s.shared.setStore store⟩)
  | issuesTokens {i : ℕ} {draw : IssuerDraw} {user : DemoUser} {clientId scope : String}
      {refreshToken : Option String}
      (hi : s.threads[i]? = some (.issueTokens user clientId scope))
      (hfresh : draw.refreshToken ∉ s.shared.refreshTokens)
      (hrefresh : refreshToken = if wantsRefresh scope then some draw.refreshToken else none) :
      Does x config s (.advance i draw)
        (some ⟨.issueTokens user clientId scope, .answered (.tokens {
          accessToken := draw.accessToken
          tokenType := "Bearer"
          expiresIn := config.accessTokenTtl / 1000000
          refreshToken := refreshToken
          scope := scope })⟩)
        (s.after i ⟨.answered (.tokens {
            accessToken := draw.accessToken
            tokenType := "Bearer"
            expiresIn := config.accessTokenTtl / 1000000
            refreshToken := refreshToken
            scope := scope }), [], { s.shared with
          store := s.shared.store.insertTokens config s.shared.now user clientId scope
            draw.accessToken refreshToken
          refreshTokens := refreshToken.toList ++ s.shared.refreshTokens }⟩)
  | revokes {i : ℕ} {draw : IssuerDraw} {revoked : String}
      (hi : s.threads[i]? = some (.revoke revoked)) :
      Does x config s (.advance i draw) (some ⟨.revoke revoked, .answered .revoked⟩)
        (s.after i ⟨.answered .revoked, [],
          s.shared.setStore (s.shared.store.revoke revoked)⟩)

section Steps

variable {x : IssuerCrates} {config : AppConfig} {s s' : Issuer} {l : IssuerLabel}
  {a : Option Move} {i : ℕ} {draw : IssuerDraw} {t : IssuerTask}

lemma Issuer.scope_does (hi : s.threads[i]? = some t) (hfresh : t.Fresh s.shared draw) :
    s.Does x config (.advance i draw) (some ⟨t, (t.block x config draw s.shared).next⟩)
      (s.after i (t.block x config draw s.shared)) := by
  have hrefl := Store.Shrinks.refl s.shared.store
  -- what has expired is purged at the start of a request, and nothing comes back
  have hpurge := s.shared.store.shrinks_purgeExpired s.shared.now
  cases t with
  | authorizePage input => exact .keeps hi rfl rfl (by simp) hpurge rfl rfl
  | validatePage input =>
    simp only [IssuerTask.block]
    split
    · exact .keeps hi rfl rfl (by simp) hrefl rfl rfl
    · exact .keeps hi rfl rfl (by simp) hrefl rfl rfl
  | insertRequest request =>
    exact .keeps hi rfl rfl (by simp) ⟨hrefl.codes, hrefl.access, hrefl.refresh⟩ rfl rfl
  | authorizeSubmit input => exact .keeps hi rfl rfl (by simp) hpurge rfl rfl
  | readRequest input =>
    simp only [IssuerTask.block]
    split
    · exact .keeps hi rfl rfl (by simp) hrefl rfl rfl
    · split_ifs
      · exact .keeps hi rfl rfl (by simp) hrefl rfl rfl
      · exact .keeps hi rfl rfl (by simp) hrefl rfl rfl
  | devAuthorize input =>
    simp only [IssuerTask.block]
    split_ifs
    · exact .keeps hi rfl rfl (by simp) hpurge rfl rfl
    · exact .keeps hi rfl rfl (by simp) hrefl rfl rfl
  | validateDev input =>
    simp only [IssuerTask.block]
    split
    · exact .keeps hi rfl rfl (by simp) hrefl rfl rfl
    · split_ifs
      · exact .keeps hi rfl rfl (by simp) hrefl rfl rfl
      · exact .keeps hi rfl rfl (by simp) hrefl rfl rfl
  | issueCode request requestId =>
    cases requestId with
    | none => exact .issuesCode hi hfresh rfl
    | some requestId => exact .issuesCode hi hfresh rfl
  | removeRequest requestId request code =>
    exact .keeps hi rfl rfl (by simp) ⟨hrefl.codes, hrefl.access, hrefl.refresh⟩ rfl rfl
  | token input => exact .keeps hi rfl rfl (by simp) hpurge rfl rfl
  | exchange input =>
    simp only [IssuerTask.block]
    -- the grant and its use are one scope
    split_ifs with hclient hcode hrefresh
    · exact .keeps hi rfl rfl (by simp) hrefl rfl rfl
    · cases hexchange : s.shared.store.exchangeCode x s.shared.now input with
      | error e => exact .keeps hi rfl rfl (by simp) hrefl rfl rfl
      | ok r => exact .exchangesCode hi hcode hexchange
    · cases hexchange : s.shared.store.exchangeRefresh s.shared.now input with
      | error e => exact .keeps hi rfl rfl (by simp) hrefl rfl rfl
      | ok r => exact .exchangesRefresh hi hrefresh hexchange
    · exact .keeps hi rfl rfl (by simp) hrefl rfl rfl
  | issueTokens user clientId scope => exact .issuesTokens hi hfresh rfl
  | revoke revoked => exact .revokes hi
  | other => exact .keeps hi rfl rfl (by simp) hpurge rfl rfl
  | answered reply => exact .keeps hi rfl rfl (fun _ h => h) hrefl rfl rfl

/-- **A step.** -/
lemma Issuer.step_does (hen : s.Enabled l) :
    s.Does x config l (s.step x config l).1 (s.step x config l).2 := by
  cases l with
  | advance i draw =>
    obtain ⟨t, hi, hfresh⟩ := hen
    have hi : s.threads[i]? = some t := hi
    simp only [Issuer.step, hi]
    exact scope_does hi hfresh
  | wait now => exact .waits
  | authorizePage input => exact .calls rfl rfl
  | authorizeSubmit input => exact .calls rfl rfl
  | devAuthorize input => exact .calls rfl rfl
  | token input => exact .calls rfl rfl
  | revoke revoked => exact .calls rfl rfl
  | other => exact .calls rfl rfl

/-! ## What can be exchanged -/

/-- The code can be exchanged, for what the record says. -/
def Issuer.CodeListed (s : Issuer) (code : String) (record : AuthorizationCode) : Prop :=
  s.shared.store.authorizationCodes code = some record ∧ record.used = false

/-- The refresh token can be exchanged, for what the record says. -/
def Issuer.RefreshListed (s : Issuer) (token : String) (record : RefreshTokenRecord) : Prop :=
  s.shared.store.refreshTokens token = some record ∧ record.revoked = false

/-- The codes, as names that can be used once. -/
def Issuer.codes (s : Issuer) : Register String :=
  ⟨{code | code ∈ s.shared.codes}, {code | ∃ record, s.CodeListed code record}⟩

/-- The refresh tokens, as names that can be used once. -/
def Issuer.refreshTokens (s : Issuer) : Register String :=
  ⟨{token | token ∈ s.shared.refreshTokens}, {token | ∃ record, s.RefreshListed token record}⟩

lemma exchangeCode_ok {store store' : Store} {now : Time} {input : TokenRequest}
    {record : AuthorizationCode} (h : store.exchangeCode x now input = .ok (record, store')) :
    store.authorizationCodes (trim input.code) = some record ∧ record.used = false ∧
      now < record.expiresAt ∧ record.clientId = input.clientId ∧
      record.redirectUri = input.redirectUri ∧
      x.codeChallenge (trim input.codeVerifier) = record.codeChallenge ∧
      store' = { store with
        authorizationCodes := Function.update store.authorizationCodes (trim input.code)
          (some { record with used := true }) } := by
  simp only [Store.exchangeCode, Except.bind_eq_ok, Except.okOr_eq_ok, Except.refuseIf_eq_ok,
    not_or, not_not, not_le, ne_eq, Bool.not_eq_true] at h
  obtain ⟨r, hfound, -, ⟨hused, htime⟩, -, ⟨hclient, huri⟩, -, ⟨-, hverifier⟩, h⟩ := h
  obtain ⟨rfl, rfl⟩ := Prod.mk.inj (Except.ok.inj h)
  exact ⟨hfound, hused, htime, hclient, huri, hverifier, rfl⟩

lemma exchangeRefresh_ok {store store' : Store} {now : Time} {input : TokenRequest}
    {record : RefreshTokenRecord}
    (h : store.exchangeRefresh now input = .ok (record, store')) :
    store.refreshTokens (trim input.refreshToken) = some record ∧ record.revoked = false ∧
      now < record.expiresAt ∧ record.clientId = input.clientId ∧
      store' = { store with
        refreshTokens := Function.update store.refreshTokens (trim input.refreshToken)
          (some { record with revoked := true }) } := by
  simp only [Store.exchangeRefresh, Except.bind_eq_ok, Except.okOr_eq_ok, Except.refuseIf_eq_ok,
    not_or, not_not, not_le, ne_eq, Bool.not_eq_true] at h
  obtain ⟨r, hfound, -, ⟨hrevoked, htime, hclient⟩, h⟩ := h
  obtain ⟨rfl, rfl⟩ := Prod.mk.inj (Except.ok.inj h)
  exact ⟨hfound, hrevoked, htime, hclient, rfl⟩

/-- A code that can be exchanged could be exchanged before, or has just been issued. -/
lemma Issuer.Does.code_listed (h : s.Does x config l a s') {code : String}
    {record : AuthorizationCode} (hlisted : s'.CodeListed code record) :
    s.CodeListed code record ∨ CodeIssued config code record l a s := by
  obtain ⟨hfound, hunused⟩ := hlisted
  cases h with
  | calls hl ht => exact .inl ⟨hfound, hunused⟩
  | waits => exact .inl ⟨hfound, hunused⟩
  | keeps hi ht hnext hanswered hstore hcodes hrefresh =>
    exact .inl ⟨hstore.codes code record hfound, hunused⟩
  | @issuesCode i draw request requestId next hi hfresh hnext =>
    simp only [Threads.shared_after, Store.insertCode, Function.update_apply] at hfound
    split_ifs at hfound with hcode
    · exact .inr ⟨i, draw, request, requestId, rfl, hi, hcode, (Option.some.inj hfound).symm⟩
    · exact .inl ⟨hfound, hunused⟩
  | exchangesCode hi hgrant hexchange =>
    obtain ⟨-, -, -, -, -, -, rfl⟩ := exchangeCode_ok hexchange
    simp only [Threads.shared_after, IssuerShared.setStore, Function.update_apply] at hfound
    split_ifs at hfound with hcode
    · -- the code that is exchanged is used now
      obtain rfl := Option.some.inj hfound
      cases hunused
    · exact .inl ⟨hfound, hunused⟩
  | exchangesRefresh hi hgrant hexchange =>
    obtain ⟨-, -, -, -, rfl⟩ := exchangeRefresh_ok hexchange
    exact .inl ⟨hfound, hunused⟩
  | issuesTokens hi hfresh hrefresh => exact .inl ⟨hfound, hunused⟩
  | revokes hi => exact .inl ⟨hfound, hunused⟩

lemma mem_insertTokens {store : Store} {now : Time} {user : DemoUser} {clientId scope : String}
    {accessToken token : String} {refreshToken : Option String} {record : RefreshTokenRecord}
    (h : (store.insertTokens config now user clientId scope accessToken refreshToken).refreshTokens
      token = some record) :
    (refreshToken = some token ∧ record = refreshTokenRecord config now user clientId scope) ∨
      store.refreshTokens token = some record := by
  cases refreshToken with
  | none => exact .inr h
  | some refreshToken =>
    simp only [Store.insertTokens, Function.update_apply] at h
    split_ifs at h with htoken
    · exact .inl ⟨congrArg some htoken.symm, (Option.some.inj h).symm⟩
    · exact .inr h

/-- A refresh token that can be exchanged could be exchanged before, or has just been issued. -/
lemma Issuer.Does.refresh_listed (h : s.Does x config l a s') {token : String}
    {record : RefreshTokenRecord} (hlisted : s'.RefreshListed token record) :
    s.RefreshListed token record ∨ RefreshIssued config token record l a s := by
  obtain ⟨hfound, hvalid⟩ := hlisted
  cases h with
  | calls hl ht => exact .inl ⟨hfound, hvalid⟩
  | waits => exact .inl ⟨hfound, hvalid⟩
  | keeps hi ht hnext hanswered hstore hcodes hrefresh =>
    exact .inl ⟨hstore.refresh token record hfound, hvalid⟩
  | issuesCode hi hfresh hnext => exact .inl ⟨hfound, hvalid⟩
  | exchangesCode hi hgrant hexchange =>
    obtain ⟨-, -, -, -, -, -, rfl⟩ := exchangeCode_ok hexchange
    exact .inl ⟨hfound, hvalid⟩
  | exchangesRefresh hi hgrant hexchange =>
    obtain ⟨-, -, -, -, rfl⟩ := exchangeRefresh_ok hexchange
    simp only [Threads.shared_after, IssuerShared.setStore, Function.update_apply] at hfound
    split_ifs at hfound with htoken
    · -- the token that is exchanged is revoked now
      obtain rfl := Option.some.inj hfound
      cases hvalid
    · exact .inl ⟨hfound, hvalid⟩
  | @issuesTokens i draw user clientId scope refreshToken hi hfresh hrefresh =>
    rcases mem_insertTokens hfound with ⟨htoken, rfl⟩ | hfound
    · rw [hrefresh] at htoken
      split_ifs at htoken with hwants
      exact .inr ⟨i, draw, user, clientId, scope, rfl, hi, hwants,
        (Option.some.inj htoken).symm, rfl⟩
    · exact .inl ⟨hfound, hvalid⟩
  | revokes hi =>
    simp only [Threads.shared_after, IssuerShared.setStore, Store.revoke,
      Function.update_apply] at hfound
    split_ifs at hfound with htoken
    · obtain ⟨r, -, rfl⟩ := Option.map_eq_some_iff.mp hfound
      cases hvalid
    · exact .inl ⟨hfound, hvalid⟩

/-- An access token that is listed was listed before, or has just been issued. -/
lemma Issuer.Does.access_listed (h : s.Does x config l a s') {token : String}
    {record : TokenRecord} (hlisted : s'.shared.store.accessTokens token = some record) :
    s.shared.store.accessTokens token = some record ∨ AccessIssued config token record l a s := by
  cases h with
  | calls hl ht => exact .inl hlisted
  | waits => exact .inl hlisted
  | keeps hi ht hnext hanswered hstore hcodes hrefresh =>
    exact .inl (hstore.access token record hlisted)
  | issuesCode hi hfresh hnext => exact .inl hlisted
  | exchangesCode hi hgrant hexchange =>
    obtain ⟨-, -, -, -, -, -, rfl⟩ := exchangeCode_ok hexchange
    exact .inl hlisted
  | exchangesRefresh hi hgrant hexchange =>
    obtain ⟨-, -, -, -, rfl⟩ := exchangeRefresh_ok hexchange
    exact .inl hlisted
  | @issuesTokens i draw user clientId scope refreshToken hi hfresh hrefresh =>
    simp only [Threads.shared_after, Store.insertTokens, Function.update_apply] at hlisted
    split_ifs at hlisted with htoken
    · exact .inr ⟨i, draw, user, clientId, scope, rfl, hi, htoken, (Option.some.inj hlisted).symm⟩
    · exact .inl hlisted
  | revokes hi =>
    simp only [Threads.shared_after, IssuerShared.setStore, Store.revoke,
      Function.update_apply] at hlisted
    split_ifs at hlisted
    exact .inl hlisted

/-! ## What is made up -/

lemma CodeIssued.scope {code : String} {record : AuthorizationCode}
    (h : CodeIssued config code record (.advance i draw) a s) (hi : s.threads[i]? = some t) :
    (∃ request requestId, t = .issueCode request requestId) ∧ code = draw.code := by
  obtain ⟨j, draw', request, requestId, hl, hj, hcode, -⟩ := h
  obtain ⟨rfl, rfl⟩ := IssuerLabel.advance.inj hl
  exact ⟨⟨request, requestId, Option.some.inj (hi.symm.trans hj)⟩, hcode⟩

lemma RefreshIssued.scope {token : String} {record : RefreshTokenRecord}
    (h : RefreshIssued config token record (.advance i draw) a s) (hi : s.threads[i]? = some t) :
    ∃ user clientId scope, t = .issueTokens user clientId scope ∧ wantsRefresh scope = true ∧
      token = draw.refreshToken := by
  obtain ⟨j, draw', user, clientId, scope, hl, hj, hwants, htoken, -⟩ := h
  obtain ⟨rfl, rfl⟩ := IssuerLabel.advance.inj hl
  exact ⟨user, clientId, scope, Option.some.inj (hi.symm.trans hj), hwants, htoken⟩

/-- A step issues no code, or one that is new. -/
lemma Issuer.Does.codes_cases (h : s.Does x config l a s') :
    (s'.shared.codes = s.shared.codes ∧ ∀ code record, ¬ CodeIssued config code record l a s) ∨
      ∃ code, code ∉ s.shared.codes ∧ s'.shared.codes = code :: s.shared.codes ∧
        ∀ c record, CodeIssued config c record l a s → c = code := by
  cases h with
  | @calls l t hl ht =>
    refine .inl ⟨rfl, ?_⟩
    rintro code record ⟨i, draw, -, -, rfl, -⟩
    cases hl
  | waits =>
    refine .inl ⟨rfl, ?_⟩
    rintro code record ⟨i, draw, -, -, hl, -⟩
    cases hl
  | keeps hi ht hnext hanswered hstore hcodes hrefresh =>
    -- the scope is not the one that issues
    refine .inl ⟨hcodes, fun code record hissued => ?_⟩
    obtain ⟨⟨request, requestId, rfl⟩, -⟩ := hissued.scope hi
    cases ht
  | issuesCode hi hfresh hnext =>
    exact .inr ⟨_, hfresh, rfl, fun c record hissued => (hissued.scope hi).2⟩
  | exchangesCode hi | exchangesRefresh hi | issuesTokens hi | revokes hi =>
    refine .inl ⟨rfl, fun code record hissued => ?_⟩
    obtain ⟨⟨request, requestId, hsame⟩, -⟩ := hissued.scope hi
    cases hsame

/-- A step issues no refresh token, or one that is new. -/
lemma Issuer.Does.refreshTokens_cases (h : s.Does x config l a s') :
    (s'.shared.refreshTokens = s.shared.refreshTokens ∧
        ∀ token record, ¬ RefreshIssued config token record l a s) ∨
      ∃ token, token ∉ s.shared.refreshTokens ∧
        s'.shared.refreshTokens = token :: s.shared.refreshTokens ∧
        ∀ t record, RefreshIssued config t record l a s → t = token := by
  cases h with
  | @calls l t hl ht =>
    refine .inl ⟨rfl, ?_⟩
    rintro token record ⟨i, draw, -, -, -, rfl, -⟩
    cases hl
  | waits =>
    refine .inl ⟨rfl, ?_⟩
    rintro token record ⟨i, draw, -, -, -, hl, -⟩
    cases hl
  | keeps hi ht hnext hanswered hstore hcodes hrefresh =>
    refine .inl ⟨hrefresh, fun token record hissued => ?_⟩
    obtain ⟨user, clientId, scope, rfl, -⟩ := hissued.scope hi
    cases ht
  | issuesCode hi | exchangesCode hi | exchangesRefresh hi | revokes hi =>
    refine .inl ⟨rfl, fun token record hissued => ?_⟩
    obtain ⟨user, clientId, scope, hsame, -⟩ := hissued.scope hi
    cases hsame
  | @issuesTokens i draw user clientId scope refreshToken hi hfresh hrefresh =>
    -- tokens come with a refresh token only if the scope asks for it
    by_cases hwants : wantsRefresh scope = true
    · rw [if_pos hwants] at hrefresh
      subst hrefresh
      refine .inr ⟨draw.refreshToken, hfresh, rfl, fun token record hissued => ?_⟩
      obtain ⟨-, -, -, -, -, htoken⟩ := hissued.scope hi
      exact htoken
    · rw [if_neg hwants] at hrefresh
      subst hrefresh
      refine .inl ⟨rfl, fun token record hissued => ?_⟩
      obtain ⟨user', clientId', scope', hsame, hwanted, -⟩ := hissued.scope hi
      obtain ⟨-, -, rfl⟩ := IssuerTask.issueTokens.inj hsame
      exact hwants hwanted

/-- The codes are names that can be used once. -/
lemma Issuer.Does.codes_follow (h : s.Does x config l a s') (hsound : s.codes.Sound) :
    s.codes.Follows s'.codes := by
  rcases h.codes_cases with ⟨hsame, hnone⟩ | ⟨code, hfresh, hcons, honly⟩
  · refine .of_subset hsound (fun c => (congrArg (c ∈ ·) hsame).to_iff) ?_
    rintro c ⟨record, hlisted⟩
    exact ⟨record, (h.code_listed hlisted).resolve_right (hnone c record)⟩
  · refine .of_fresh hsound hfresh
      (fun c => (congrArg (c ∈ ·) hcons).to_iff.trans List.mem_cons) ?_
    rintro c ⟨record, hlisted⟩
    rcases h.code_listed hlisted with hlisted | hissued
    · exact .inr ⟨record, hlisted⟩
    · exact .inl (honly c record hissued)

/-- The refresh tokens are names that can be used once. -/
lemma Issuer.Does.refreshTokens_follow (h : s.Does x config l a s')
    (hsound : s.refreshTokens.Sound) : s.refreshTokens.Follows s'.refreshTokens := by
  rcases h.refreshTokens_cases with ⟨hsame, hnone⟩ | ⟨token, hfresh, hcons, honly⟩
  · refine .of_subset hsound (fun t => (congrArg (t ∈ ·) hsame).to_iff) ?_
    rintro t ⟨record, hlisted⟩
    exact ⟨record, (h.refresh_listed hlisted).resolve_right (hnone t record)⟩
  · refine .of_fresh hsound hfresh
      (fun t => (congrArg (t ∈ ·) hcons).to_iff.trans List.mem_cons) ?_
    rintro t ⟨record, hlisted⟩
    rcases h.refresh_listed hlisted with hlisted | hissued
    · exact .inr ⟨record, hlisted⟩
    · exact .inl (honly t record hissued)

/-! ## What a step answers -/

/-- The exchange of a code. -/
lemma Issuer.Does.of_exchangesCode (h : s.Does x config l a s') {input : TokenRequest}
    {user : DemoUser} {clientId scope : String}
    (ha : a = some ⟨.exchange input, .issueTokens user clientId scope⟩)
    (hgrant : input.grantType = "authorization_code") :
    ∃ record, s.CodeListed (trim input.code) record ∧ s.shared.now < record.expiresAt ∧
      record.clientId = input.clientId ∧ record.redirectUri = input.redirectUri ∧
      x.codeChallenge (trim input.codeVerifier) = record.codeChallenge ∧
      user = record.user ∧ clientId = record.clientId ∧ scope = record.scope ∧
      ∀ r, ¬ s'.CodeListed (trim input.code) r := by
  cases h with
  | calls hl ht => cases ha
  | waits => cases ha
  | keeps hi ht hnext hanswered hstore hcodes hrefresh =>
    obtain ⟨rfl, rfl⟩ := Move.mk.inj (Option.some.inj ha)
    cases hnext
  | issuesCode hi hfresh hnext => cases ha
  | @exchangesCode i draw input' record store hi hgrant' hexchange =>
    obtain ⟨hinput, hnext⟩ := Move.mk.inj (Option.some.inj ha)
    obtain rfl := IssuerTask.exchange.inj hinput
    obtain ⟨rfl, rfl, rfl⟩ := IssuerTask.issueTokens.inj hnext
    obtain ⟨hfound, hused, htime, hclient, huri, hverifier, rfl⟩ := exchangeCode_ok hexchange
    refine ⟨record, ⟨hfound, hused⟩, htime, hclient, huri, hverifier, rfl, rfl, rfl, ?_⟩
    -- the record stays in the store, marked as used
    rintro r ⟨hr, hunused⟩
    simp only [Threads.shared_after, IssuerShared.setStore, Function.update_self,
      Option.some.injEq] at hr
    subst hr
    cases hunused
  | exchangesRefresh hi hgrant' hexchange =>
    obtain ⟨hinput, -⟩ := Move.mk.inj (Option.some.inj ha)
    obtain rfl := IssuerTask.exchange.inj hinput
    rw [hgrant] at hgrant'
    exact absurd hgrant' (by decide)
  | issuesTokens hi hfresh hrefresh => cases ha
  | revokes hi => cases ha

/-- The exchange of a refresh token. -/
lemma Issuer.Does.of_exchangesRefresh (h : s.Does x config l a s') {input : TokenRequest}
    {user : DemoUser} {clientId scope : String}
    (ha : a = some ⟨.exchange input, .issueTokens user clientId scope⟩)
    (hgrant : input.grantType = "refresh_token") :
    ∃ record, s.RefreshListed (trim input.refreshToken) record ∧
      s.shared.now < record.expiresAt ∧ record.clientId = input.clientId ∧
      user = record.user ∧ clientId = record.clientId ∧ scope = record.scope ∧
      ∀ r, ¬ s'.RefreshListed (trim input.refreshToken) r := by
  cases h with
  | calls hl ht => cases ha
  | waits => cases ha
  | keeps hi ht hnext hanswered hstore hcodes hrefresh =>
    obtain ⟨rfl, rfl⟩ := Move.mk.inj (Option.some.inj ha)
    cases hnext
  | issuesCode hi hfresh hnext => cases ha
  | exchangesCode hi hgrant' hexchange =>
    obtain ⟨hinput, -⟩ := Move.mk.inj (Option.some.inj ha)
    obtain rfl := IssuerTask.exchange.inj hinput
    rw [hgrant] at hgrant'
    exact absurd hgrant' (by decide)
  | @exchangesRefresh i draw input' record store hi hgrant' hexchange =>
    obtain ⟨hinput, hnext⟩ := Move.mk.inj (Option.some.inj ha)
    obtain rfl := IssuerTask.exchange.inj hinput
    obtain ⟨rfl, rfl, rfl⟩ := IssuerTask.issueTokens.inj hnext
    obtain ⟨hfound, hvalid, htime, hclient, rfl⟩ := exchangeRefresh_ok hexchange
    refine ⟨record, ⟨hfound, hvalid⟩, htime, hclient, rfl, rfl, rfl, ?_⟩
    -- the record stays in the store, revoked
    rintro r ⟨hr, hunused⟩
    simp only [Threads.shared_after, IssuerShared.setStore, Function.update_self,
      Option.some.injEq] at hr
    subst hr
    cases hunused
  | issuesTokens hi hfresh hrefresh => cases ha
  | revokes hi => cases ha

/-- The answer with tokens. -/
lemma Issuer.Does.of_tokens (h : s.Does x config l a s') {user : DemoUser}
    {clientId scope : String} {response : TokenResponse}
    (ha : a = some ⟨.issueTokens user clientId scope, .answered (.tokens response)⟩) :
    ∃ i draw, l = .advance i draw ∧ s.threads[i]? = some (.issueTokens user clientId scope) ∧
      s'.threads[i]? = some (.answered (.tokens response)) ∧ response.scope = scope ∧
      response.accessToken = draw.accessToken ∧
      ∀ token ∈ response.refreshToken, wantsRefresh scope = true ∧ token = draw.refreshToken := by
  cases h with
  | calls hl ht => cases ha
  | waits => cases ha
  | keeps hi ht hnext hanswered hstore hcodes hrefresh =>
    obtain ⟨rfl, -⟩ := Move.mk.inj (Option.some.inj ha)
    cases ht
  | issuesCode hi hfresh hnext => cases ha
  | exchangesCode hi hgrant hexchange => cases ha
  | exchangesRefresh hi hgrant hexchange => cases ha
  | @issuesTokens i draw user' clientId' scope' refreshToken hi hfresh hrefresh =>
    obtain ⟨hbefore, hafter⟩ := Move.mk.inj (Option.some.inj ha)
    obtain ⟨rfl, rfl, rfl⟩ := IssuerTask.issueTokens.inj hbefore
    obtain rfl := Reply.tokens.inj (IssuerTask.answered.inj hafter)
    refine ⟨i, draw, rfl, hi, Threads.getElem?_after_self hi, rfl, rfl, fun token htoken => ?_⟩
    have htoken : refreshToken = some token := htoken
    rw [hrefresh] at htoken
    split_ifs at htoken with hwants
    exact ⟨hwants, (Option.some.inj htoken).symm⟩
  | revokes hi => cases ha

/-- A request that has tokens to issue has exchanged a grant. -/
lemma Issuer.Does.issuing (h : s.Does x config l a s') {j : ℕ} {user : DemoUser}
    {clientId scope : String} (hj : s'.threads[j]? = some (.issueTokens user clientId scope)) :
    s.threads[j]? = some (.issueTokens user clientId scope) ∨
      Exchanged j user clientId scope l a s := by
  cases h with
  | @calls l t hl ht =>
    rw [List.getElem?_append] at hj
    split_ifs at hj
    · exact .inl hj
    -- a new request has exchanged nothing yet
    · obtain rfl := List.mem_singleton.mp (List.mem_of_getElem? hj)
      cases ht
  | waits => exact .inl hj
  | keeps hi ht hnext hanswered hstore hcodes hrefresh =>
    rcases Threads.getElem?_after hj with ⟨-, rfl⟩ | ⟨-, hj⟩
    · cases hnext
    · exact .inl hj
  | issuesCode hi hfresh hnext =>
    rcases Threads.getElem?_after hj with ⟨-, rfl⟩ | ⟨-, hj⟩
    · cases hnext
    · exact .inl hj
  | @exchangesCode i draw input record store hi hgrant hexchange =>
    rcases Threads.getElem?_after hj with ⟨rfl, hsame⟩ | ⟨-, hj⟩
    · exact .inr ⟨draw, input, rfl, .inl hgrant, by rw [hsame]⟩
    · exact .inl hj
  | @exchangesRefresh i draw input record store hi hgrant hexchange =>
    rcases Threads.getElem?_after hj with ⟨rfl, hsame⟩ | ⟨-, hj⟩
    · exact .inr ⟨draw, input, rfl, .inr hgrant, by rw [hsame]⟩
    · exact .inl hj
  | issuesTokens hi hfresh hrefresh =>
    rcases Threads.getElem?_after hj with ⟨-, hsame⟩ | ⟨-, hj⟩
    · cases hsame
    · exact .inl hj
  | revokes hi =>
    rcases Threads.getElem?_after hj with ⟨-, hsame⟩ | ⟨-, hj⟩
    · cases hsame
    · exact .inl hj

/-- A request that has been answered stays so. -/
lemma Issuer.Does.answered (h : s.Does x config l a s') {j : ℕ} {r : Reply}
    (hj : s.threads[j]? = some (.answered r)) : s'.threads[j]? = some (.answered r) := by
  -- the scope of another request leaves it alone, and it has only one scope itself
  have hafter : ∀ {i t next shared}, s.threads[i]? = some t →
      (t = .answered r → next = .answered r) →
      (s.after i ⟨next, [], shared⟩).threads[j]? = some (IssuerTask.answered r) := by
    intro i t next shared hi hnext
    by_cases hij : i = j
    · subst hij
      obtain rfl := Option.some.inj (hi.symm.trans hj)
      rw [Threads.getElem?_after_self hi, hnext rfl]
    · exact Threads.getElem?_after_of_ne hij hj
  cases h with
  | calls hl ht => exact (List.getElem?_append_left (List.getElem?_eq_some_iff.mp hj).1).trans hj
  | waits => exact hj
  | keeps hi ht hnext hanswered hstore hcodes hrefresh => exact hafter hi (hanswered r)
  | issuesCode hi hfresh hnext => exact hafter hi (by simp)
  | exchangesCode hi hgrant hexchange => exact hafter hi (by simp)
  | exchangesRefresh hi hgrant hexchange => exact hafter hi (by simp)
  | issuesTokens hi hfresh hrefresh => exact hafter hi (by simp)
  | revokes hi => exact hafter hi (by simp)

/-- A refresh token that is revoked cannot be exchanged any more. -/
lemma Issuer.Does.revoked (h : s.Does x config l a s') (hsound : s.refreshTokens.Sound)
    {token : String} (hrevoked : Revoked token l a s) : s'.refreshTokens.Spent token := by
  have hfollows := h.refreshTokens_follow hsound
  obtain ⟨i, draw, revoked, rfl, hi, htoken, hissued⟩ := hrevoked
  refine ⟨hfollows.issued token hissued, ?_⟩
  rintro ⟨record, hfound, hvalid⟩
  cases h with
  | calls hl ht => cases hl
  | keeps hi' ht hnext hanswered hstore hcodes hrefresh =>
    obtain rfl := Option.some.inj (hi.symm.trans hi')
    cases ht
  | issuesCode hi' hfresh hnext => cases Option.some.inj (hi.symm.trans hi')
  | exchangesCode hi' hgrant hexchange => cases Option.some.inj (hi.symm.trans hi')
  | exchangesRefresh hi' hgrant hexchange => cases Option.some.inj (hi.symm.trans hi')
  | issuesTokens hi' hfresh hrefresh => cases Option.some.inj (hi.symm.trans hi')
  | revokes hi' =>
    obtain rfl := IssuerTask.revoke.inj (Option.some.inj (hi.symm.trans hi'))
    simp only [Threads.shared_after, IssuerShared.setStore, Store.revoke, htoken,
      Function.update_self, Option.map_eq_some_iff] at hfound
    obtain ⟨r, -, rfl⟩ := hfound
    cases hvalid

end Steps

/-! ## Runs -/

section Runs

variable {x : IssuerCrates} {config : AppConfig} {s₀ s m : Issuer}
  {tr before : List (IssuerLabel × Option Move)} {l : IssuerLabel}

/-- Every code and every refresh token that can be exchanged has been made up. -/
def Issuer.Sound (s : Issuer) : Prop := s.codes.Sound ∧ s.refreshTokens.Sound

lemma Issuer.Sound.step (h : s.Sound) (hen : (issuer x config).enabled s l) :
    ((issuer x config).step s l).2.Sound := by
  have hdoes : s.Does x config l _ _ := Issuer.step_does hen
  exact ⟨(hdoes.codes_follow h.1).sound, (hdoes.refreshTokens_follow h.2).sound⟩

lemma refreshTokens_follow_step (n : Issuer) (l : IssuerLabel) (hn : n.Sound)
    (hen : (issuer x config).enabled n l) :
    n.refreshTokens.Follows ((issuer x config).step n l).2.refreshTokens :=
  (Issuer.step_does hen).refreshTokens_follow hn.2

lemma sound_of_init (h₀ : (issuer x config).init s₀) : s₀.Sound := by
  obtain ⟨hstore, -⟩ := h₀
  refine ⟨?_, ?_⟩
  · rintro code ⟨record, hfound, -⟩
    rw [hstore] at hfound
    cases hfound
  · rintro token ⟨record, hfound, -⟩
    rw [hstore] at hfound
    cases hfound

lemma sound_of_run (h₀ : (issuer x config).init s₀) (h : (issuer x config).Run s₀ tr s) :
    s.Sound :=
  h.invariant (fun _ _ hs hen => hs.step hen) (sound_of_init h₀)

/-- A code that can be exchanged has been issued. -/
lemma code_listed_issued (h₀ : (issuer x config).init s₀) (h : (issuer x config).Run s₀ tr s)
    {code : String} {record : AuthorizationCode} (hlisted : s.CodeListed code record) :
    (issuer x config).Happened s₀ tr (CodeIssued config code record) := by
  refine h.brought (fun s r => s.CodeListed code r) (CodeIssued config code)
    (fun n l hen r hr => (Issuer.step_does hen).code_listed hr) ?_ record hlisted
  rintro r ⟨hfound, -⟩
  rw [h₀.1] at hfound
  cases hfound

/-- A refresh token that can be exchanged has been issued. -/
lemma refresh_listed_issued (h₀ : (issuer x config).init s₀) (h : (issuer x config).Run s₀ tr s)
    {token : String} {record : RefreshTokenRecord} (hlisted : s.RefreshListed token record) :
    (issuer x config).Happened s₀ tr (RefreshIssued config token record) := by
  refine h.brought (fun s r => s.RefreshListed token r) (RefreshIssued config token)
    (fun n l hen r hr => (Issuer.step_does hen).refresh_listed hr) ?_ record hlisted
  rintro r ⟨hfound, -⟩
  rw [h₀.1] at hfound
  cases hfound

/-- A code is issued once. -/
lemma code_issued_unique (h : (issuer x config).Run s₀ tr s) {code : String}
    {r r' : AuthorizationCode} (hr : (issuer x config).Happened s₀ tr (CodeIssued config code r))
    (hr' : (issuer x config).Happened s₀ tr (CodeIssued config code r')) : r = r' := by
  have hgrow : ∀ (n : Issuer) l, (issuer x config).enabled n l →
      ∀ c ∈ n.codes.issued, c ∈ ((issuer x config).step n l).2.codes.issued := by
    intro n l hen c hc
    have hdoes : n.Does x config l _ _ := Issuer.step_does hen
    rcases hdoes.codes_cases with ⟨hsame, -⟩ | ⟨code, -, hcons, -⟩
    · exact (congrArg (c ∈ ·) hsame).to_iff.mpr hc
    · exact (congrArg (c ∈ ·) hcons).to_iff.mpr (List.mem_cons_of_mem _ hc)
  refine h.issued_unique hgrow (fun n l v hen hv => ?_) ?_ hr hr'
  · have hdoes : n.Does x config l _ _ := Issuer.step_does hen
    rcases hdoes.codes_cases with ⟨-, hnone⟩ | ⟨c, hfresh, hcons, honly⟩
    · exact absurd hv (hnone code v)
    · obtain rfl := honly code v hv
      exact ⟨hfresh, (congrArg (code ∈ ·) hcons).to_iff.mpr List.mem_cons_self⟩
  · rintro n l a v v' ⟨i, draw, request, requestId, rfl, hi, -, rfl⟩
      ⟨j, draw', request', requestId', hl, hj, -, rfl⟩
    obtain ⟨rfl, rfl⟩ := IssuerLabel.advance.inj hl
    obtain ⟨rfl, -⟩ := IssuerTask.issueCode.inj (Option.some.inj (hi.symm.trans hj))
    rfl

/-- A refresh token is issued once. -/
lemma refresh_issued_unique (h : (issuer x config).Run s₀ tr s) {token : String}
    {r r' : RefreshTokenRecord}
    (hr : (issuer x config).Happened s₀ tr (RefreshIssued config token r))
    (hr' : (issuer x config).Happened s₀ tr (RefreshIssued config token r')) : r = r' := by
  have hgrow : ∀ (n : Issuer) l, (issuer x config).enabled n l →
      ∀ t ∈ n.refreshTokens.issued, t ∈ ((issuer x config).step n l).2.refreshTokens.issued := by
    intro n l hen t ht
    have hdoes : n.Does x config l _ _ := Issuer.step_does hen
    rcases hdoes.refreshTokens_cases with ⟨hsame, -⟩ | ⟨token, -, hcons, -⟩
    · exact (congrArg (t ∈ ·) hsame).to_iff.mpr ht
    · exact (congrArg (t ∈ ·) hcons).to_iff.mpr (List.mem_cons_of_mem _ ht)
  refine h.issued_unique hgrow (fun n l v hen hv => ?_) ?_ hr hr'
  · have hdoes : n.Does x config l _ _ := Issuer.step_does hen
    rcases hdoes.refreshTokens_cases with ⟨-, hnone⟩ | ⟨t, hfresh, hcons, honly⟩
    · exact absurd hv (hnone token v)
    · obtain rfl := honly token v hv
      exact ⟨hfresh, (congrArg (token ∈ ·) hcons).to_iff.mpr List.mem_cons_self⟩
  · rintro n l a v v' ⟨i, draw, user, clientId, scope, rfl, hi, -, -, rfl⟩
      ⟨j, draw', user', clientId', scope', hl, hj, -, -, rfl⟩
    obtain ⟨rfl, rfl⟩ := IssuerLabel.advance.inj hl
    obtain ⟨rfl, rfl, rfl⟩ := IssuerTask.issueTokens.inj (Option.some.inj (hi.symm.trans hj))
    rfl

/-- What is answered as the exchange of a code is one. -/
lemma of_exchangesCode {code : String} {a : Option Move} (h : exchangesCode code a = true) :
    ∃ input user clientId scope, a = some ⟨.exchange input, .issueTokens user clientId scope⟩ ∧
      input.grantType = "authorization_code" ∧ trim input.code = code := by
  unfold exchangesCode at h
  split at h
  · obtain ⟨hgrant, hcode⟩ := (Bool.and_eq_true _ _).mp h
    exact ⟨_, _, _, _, rfl, beq_iff_eq.mp hgrant, beq_iff_eq.mp hcode⟩
  · cases h

lemma of_exchangesRefresh {token : String} {a : Option Move}
    (h : exchangesRefresh token a = true) :
    ∃ input user clientId scope, a = some ⟨.exchange input, .issueTokens user clientId scope⟩ ∧
      input.grantType = "refresh_token" ∧ trim input.refreshToken = token := by
  unfold exchangesRefresh at h
  split at h
  · obtain ⟨hgrant, htoken⟩ := (Bool.and_eq_true _ _).mp h
    exact ⟨_, _, _, _, rfl, beq_iff_eq.mp hgrant, beq_iff_eq.mp htoken⟩
  · cases h

lemma of_answersTokens {i : ℕ} {a : Option Move} (h : answersTokens i (l, a) = true) :
    ∃ draw user clientId scope response, l = .advance i draw ∧
      a = some ⟨.issueTokens user clientId scope, .answered (.tokens response)⟩ := by
  unfold answersTokens at h
  split at h
  · rename_i heq
    obtain ⟨rfl, rfl⟩ := Prod.mk.inj heq
    obtain rfl := beq_iff_eq.mp h
    exact ⟨_, _, _, _, _, rfl, rfl⟩
  · cases h

lemma code_exchanged_once (h₀ : (issuer x config).init s₀) (h : (issuer x config).Run s₀ tr s)
    (code : String) : tr.countP (fun e => exchangesCode code e.2) ≤ 1 := by
  have hfollows : ∀ n l, Issuer.Sound n → (issuer x config).enabled n l →
      n.codes.Follows ((issuer x config).step n l).2.codes :=
    fun n l hn hen => (Issuer.step_does hen).codes_follow hn.1
  refine h.used_once (k := code) (fun _ _ hn hen => hn.step hen) (fun _ hn => hn.1) hfollows
    (fun n l hn hen hused => ?_) (sound_of_init h₀)
  obtain ⟨input, user, clientId, scope, ha, hgrant, rfl⟩ := of_exchangesCode hused
  obtain ⟨record, hlisted, -, -, -, -, -, -, -, hgone⟩ :=
    (Issuer.step_does hen).of_exchangesCode ha hgrant
  exact ⟨⟨record, hlisted⟩, fun ⟨r, hr⟩ => hgone r hr⟩

lemma refresh_exchanged_once (h₀ : (issuer x config).init s₀) (h : (issuer x config).Run s₀ tr s)
    (token : String) : tr.countP (fun e => exchangesRefresh token e.2) ≤ 1 := by
  refine h.used_once (k := token) (fun _ _ hn hen => hn.step hen) (fun _ hn => hn.2)
    refreshTokens_follow_step (fun n l hn hen hused => ?_) (sound_of_init h₀)
  obtain ⟨input, user, clientId, scope, ha, hgrant, rfl⟩ := of_exchangesRefresh hused
  obtain ⟨record, hlisted, -, -, -, -, -, hgone⟩ :=
    (Issuer.step_does hen).of_exchangesRefresh ha hgrant
  exact ⟨⟨record, hlisted⟩, fun ⟨r, hr⟩ => hgone r hr⟩

lemma tokens_answered_once (h : (issuer x config).Run s₀ tr s) (i : ℕ) :
    tr.countP (answersTokens i) ≤ 1 := by
  have hkeep : ∀ (n : Issuer) l, True → (issuer x config).enabled n l →
      (∃ r, n.threads[i]? = some (.answered r)) →
        ∃ r, ((issuer x config).step n l).2.threads[i]? = some (.answered r) := by
    rintro n l - hen ⟨r, hr⟩
    have hdoes : n.Does x config l _ _ := Issuer.step_does hen
    exact ⟨r, hdoes.answered hr⟩
  refine (h.countP_le_one (fun _ _ _ _ => trivial) hkeep (fun n l _ hen hfired => ?_) trivial).1
  · obtain ⟨draw, user, clientId, scope, response, rfl, ha⟩ := of_answersTokens hfired
    have hen : n.Enabled (.advance i draw) := hen
    obtain ⟨j, draw', hl, hi, hafter, -⟩ := (Issuer.step_does hen).of_tokens ha
    obtain ⟨rfl, rfl⟩ := IssuerLabel.advance.inj hl
    refine ⟨?_, _, hafter⟩
    rintro ⟨r, hr⟩
    cases Option.some.inj (hi.symm.trans hr)

/-- A refresh token that can be exchanged has not been revoked. -/
lemma not_revoked (h₀ : (issuer x config).init s₀) (h : (issuer x config).Run s₀ tr s)
    {token : String} {record : RefreshTokenRecord} (hlisted : s.RefreshListed token record) :
    ¬ (issuer x config).Happened s₀ tr (Revoked token) := by
  rintro ⟨pre, l, post, n, rfl, hn, hen, hrevoked⟩
  obtain ⟨n', hn', -, -, hpost⟩ := h.cut
  obtain rfl := hn'.unique hn
  have hsound := sound_of_run h₀ hn
  have hdoes : n'.Does x config l _ _ := Issuer.step_does hen
  have hstays := hpost.spent_stays (fun _ _ hs hen => hs.step hen) refreshTokens_follow_step
    (hsound.step hen) (hdoes.revoked hsound.2 hrevoked)
  exact hstays.2 ⟨record, hlisted⟩

/-- **Grants.**  Every run is as it is wanted, where a verifier meets a challenge if it does so
without the blanks around it. -/
theorem grants_safe (h₀ : (issuer x config).init s₀) (h : (issuer x config).Run s₀ tr s) :
    GrantsSafe x config (fun verifier challenge => x.codeChallenge (trim verifier) = challenge)
      s₀ tr := by
  refine ⟨code_exchanged_once h₀ h, ?_, refresh_exchanged_once h₀ h, ?_, tokens_answered_once h,
    ?_, ?_⟩
  · intro before l a after m htr hm input user clientId scope ha hgrant
    subst htr
    obtain ⟨n, hn, hen, hanswer, -⟩ := h.cut
    obtain rfl := hn.unique hm
    obtain ⟨record, hlisted, htime, hclient, huri, hverifier, huser, hclientId, hscope, -⟩ :=
      (Issuer.step_does hen).of_exchangesCode (hanswer.symm.trans ha) hgrant
    have hissued := code_listed_issued h₀ hn hlisted
    refine ⟨⟨record, hissued⟩, fun r hr => ?_⟩
    obtain rfl := code_issued_unique hn hissued hr
    exact ⟨htime, hclient.symm, huri.symm, hverifier, huser, hclientId, hscope⟩
  · intro before l a after m htr hm input user clientId scope ha hgrant
    subst htr
    obtain ⟨n, hn, hen, hanswer, -⟩ := h.cut
    obtain rfl := hn.unique hm
    obtain ⟨record, hlisted, htime, hclient, huser, hclientId, hscope, -⟩ :=
      (Issuer.step_does hen).of_exchangesRefresh (hanswer.symm.trans ha) hgrant
    have hissued := refresh_listed_issued h₀ hn hlisted
    refine ⟨⟨record, hissued⟩, fun r hr => ?_, not_revoked h₀ hn hlisted⟩
    obtain rfl := refresh_issued_unique hn hissued hr
    exact ⟨htime, hclient.symm, huser, hclientId, hscope⟩
  · intro before l a after m htr hm user clientId scope response ha
    subst htr
    obtain ⟨n, hn, hen, hanswer, -⟩ := h.cut
    obtain rfl := hn.unique hm
    obtain ⟨i, draw, rfl, hi, -, hscope, haccess, hrefresh⟩ :=
      (Issuer.step_does hen).of_tokens (hanswer.symm.trans ha)
    refine ⟨⟨i, draw, rfl, ?_⟩, hscope, ?_, fun token htoken => ?_⟩
    · -- the request has exchanged a grant before
      refine hn.brought (fun s g => s.threads[i]? = some (.issueTokens g.1 g.2.1 g.2.2))
        (fun g => Exchanged i g.1 g.2.1 g.2.2)
        (fun k l hen g hg => (Issuer.step_does hen).issuing hg) ?_ (user, clientId, scope) hi
      intro g hg
      rw [h₀.2.2.2] at hg
      cases hg
    · exact ⟨i, draw, user, clientId, scope, rfl, hi, haccess, rfl⟩
    · obtain ⟨hwants, rfl⟩ := hrefresh token htoken
      exact ⟨i, draw, user, clientId, scope, rfl, hi, hwants, rfl, rfl⟩
  · intro before after m htr hm token record hlisted
    refine hm.brought (fun s r => s.shared.store.accessTokens token = some r)
      (AccessIssued config token) (fun k l hen r hr => (Issuer.step_does hen).access_listed hr)
      ?_ record hlisted
    intro r hr
    rw [h₀.1] at hr
    cases hr

end Runs

/-! ### One code -/

/-- The digests of the verifiers `v` and ` v`. -/
def issuerCrates : IssuerCrates where
  codeChallenge verifier :=
    if verifier = "v" then "TJRIXgwhrmxBzh3-e2v6zupato5AokdvUCCOUm9QYIA"
    else "5A-BT37pi8_wDGXaJLcXWG7vzfadR2vIoZWzEt4HNDY"
  withQuery url pairs := pairs.foldl (fun url pair => s!"{url}?{pair.1}={pair.2}") url

/-- An issuer with one client. -/
def issuerConfig : AppConfig where
  accessTokenTtl := 900 * 1000000
  refreshTokenTtl := 2592000 * 1000000
  allowHeadlessAuthorize := true
  clients id := if id = "app" then some ⟨["app:/cb"], ["openid", "offline_access"]⟩ else none
  demoUser := ⟨.ofNat 1, "demo", "pass", "Nebula", "demo@local", none, "N-1"⟩

/-- The issuer before its first request. -/
def idleIssuer : Issuer := ⟨⟨0, .empty, [], []⟩, []⟩

/-- What a request of the run draws. -/
def issuerDraw : IssuerDraw := ⟨"request", "code", "access", "refresh"⟩

/-- A code is issued for the challenge of `v`, and presented with the verifier. -/
def exchangeWith (verifier : String) : List IssuerLabel :=
  [.devAuthorize ⟨⟨some "code", some "app", some "app:/cb", some "openid offline_access", some "s",
      some "TJRIXgwhrmxBzh3-e2v6zupato5AokdvUCCOUm9QYIA", some "S256"⟩, "demo", "pass"⟩,
    .advance 0 issuerDraw, .advance 0 issuerDraw, .advance 0 issuerDraw,
    .token ⟨"authorization_code", "app", "code", "app:/cb", verifier, ""⟩, .advance 1 issuerDraw]

/-- The code is exchanged for tokens, and the refresh token of these for new ones. -/
theorem grants_safe_exchange :
    ∃ tr s, (issuer issuerCrates issuerConfig).Run idleIssuer tr s ∧
      tr.countP (fun e => exchangesCode "code" e.2) = 1 ∧
      tr.countP (answersTokens 1) = 1 ∧
      GrantsSafe issuerCrates issuerConfig
        (fun verifier challenge => issuerCrates.codeChallenge (trim verifier) = challenge)
        idleIssuer tr := by
  have hinit : (issuer issuerCrates issuerConfig).init idleIssuer := ⟨rfl, rfl, rfl, rfl⟩
  have hrun := Machine.run_exec (show (issuer issuerCrates issuerConfig).Allows idleIssuer
    (exchangeWith "v" ++ [.advance 1 issuerDraw, .advance 1 issuerDraw]) by decide)
  exact ⟨_, _, hrun, by decide, by decide, grants_safe hinit hrun⟩

/-- A verifier with a blank before it has another digest, and is taken. -/
theorem grants_unsafe :
    ¬ ∀ (x : IssuerCrates) (config : AppConfig) (s₀ s : Issuer)
      (tr : List (IssuerLabel × Option Move)), (issuer x config).init s₀ →
      (issuer x config).Run s₀ tr s →
        GrantsSafe x config (fun verifier challenge => x.codeChallenge verifier = challenge)
          s₀ tr := by
  intro h
  have hinit : (issuer issuerCrates issuerConfig).init idleIssuer := ⟨rfl, rfl, rfl, rfl⟩
  have hbefore := Machine.run_exec (show (issuer issuerCrates issuerConfig).Allows idleIssuer
    (exchangeWith " v") by decide)
  have hrun := Machine.run_exec (show (issuer issuerCrates issuerConfig).Allows idleIssuer
    (exchangeWith " v" ++ [.advance 1 issuerDraw]) by decide)
  have hissued : (issuer issuerCrates issuerConfig).Happened idleIssuer
      ((issuer issuerCrates issuerConfig).exec idleIssuer (exchangeWith " v")).1
      (CodeIssued issuerConfig "code" ⟨"app", "app:/cb", "openid offline_access",
        "TJRIXgwhrmxBzh3-e2v6zupato5AokdvUCCOUm9QYIA", issuerConfig.demoUser, 300000000, false⟩) :=
    Machine.happened_exec (show (issuer issuerCrates issuerConfig).Allows idleIssuer
      ((exchangeWith " v").take 3) by decide) (by decide)
      ⟨0, issuerDraw, _, _, rfl, rfl, rfl, by decide⟩
  have hmeets := ((h _ _ _ _ _ hinit hrun).code_granted _ _ _ [] _ rfl hbefore
    ⟨"authorization_code", "app", "code", "app:/cb", " v", ""⟩ issuerConfig.demoUser "app"
    "openid offline_access" (by decide) rfl).2 _ hissued
  exact absurd hmeets.2.2.2.1 (by decide)

end DevIssuer

end OzonSuite
