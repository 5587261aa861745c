/-
# What a pairing code is good for

A code gives the token of the bridge once, to a request from an allowed origin, after a start that
carried the token of the operator; and every other claim is refused.  A request goes by the clock
that it has read before it took the lock, so that the code has not expired by the clock itself needs
that the code does not expire while the request waits.
-/
import OzonSuite.Lib.OneTime
import OzonSuite.Node.Pairing

namespace OzonSuite

open Lib

/-! ## What is wanted -/

/-- The reply gives the token for the code. -/
def givesToken (code : String) : Option PairingAnswer → Bool
  | some ⟨.removePairing _ c, .ok (.paired _)⟩ => c == code
  | _ => false

/-- The refusals of a claim; they say nothing of the token or of other codes. -/
def claimErrors : List ApiError :=
  [.forbidden "missing OpenClaw pairing origin",
    .forbidden "OpenClaw pairing origin is not allowed", .badRequest "pairing code is required",
    .unauthorized "pairing code is invalid or expired"]

/-- A scope of a claim. -/
def PairingTask.isClaim : PairingTask → Bool
  | .claim _ _ | .removePairing _ _ => true
  | .start _ | .insertPairing _ _ | .answered => false

/-- A start that carries the token of the operator makes up the code at the time. -/
def StartedAt (config : PairingConfig) (code : String) (t : Time) (l : PairingLabel)
    (_ : Option PairingAnswer) (m : Pairings) : Prop :=
  ∃ i draw headers, l = .advance i draw ∧ m.threads[i]? = some (.start headers) ∧
    headers.localToken = some config.operatorToken ∧ draw.code.simple = code ∧ m.shared.now = t

/-- The `i`-th request presents the code at the time, from an allowed origin. -/
def ClaimedAt (config : PairingConfig) (i : ℕ) (code : String) (t : Time) (l : PairingLabel)
    (_ : Option PairingAnswer) (m : Pairings) : Prop :=
  ∃ draw origin text, l = .advance i draw ∧ m.threads[i]? = some (.claim (some origin) text) ∧
    isAllowedOpenclawPairingOrigin config origin = true ∧ trim text = code ∧ m.shared.now = t

/-- What is wanted of a run. -/
structure PairingsSafe (x : PairingCrates) (config : PairingConfig) (s₀ : Pairings)
    (tr : List (PairingLabel × Option PairingAnswer)) : Prop where
  /-- A code gives the token once. -/
  once : ∀ code, tr.countP (fun e => givesToken code e.2) ≤ 1
  /-- It has been made up by a start that carried the token of the operator, and gives the token
  before it expires, to a request from an allowed origin. -/
  granted : ∀ before l a after m, tr = before ++ (l, a) :: after →
    (pairing x config).Run s₀ before m → ∀ code, givesToken code a = true →
      (∃ t, (pairing x config).Happened s₀ before (StartedAt config code t)) ∧
      (∀ t, (pairing x config).Happened s₀ before (StartedAt config code t) →
        m.shared.now < t + openclawPairingTtl) ∧
      ∃ i draw, l = .advance i draw ∧
        ∃ t, (pairing x config).Happened s₀ before (ClaimedAt config i code t)
  /-- Every other claim is refused. -/
  refused : ∀ e ∈ tr, ∀ a, e.2 = some a → a.task.isClaim = true →
    (∃ code, givesToken code e.2 = true) ∨ ∃ error ∈ claimErrors, a.reply = .error error

/-- The code that the request has presented, if it has been found, has not expired since. -/
def PairingTask.Timely (s : PairingShared) : PairingTask → Prop
  | .removePairing now code => ∀ p ∈ (s.retained now).lookup code, s.now < p.expiresAt
  | _ => True

instance (s : PairingShared) : DecidablePred (PairingTask.Timely s)
  | .removePairing now code =>
    inferInstanceAs (Decidable (∀ p ∈ (s.retained now).lookup code, s.now < p.expiresAt))
  | .start _ | .insertPairing _ _ | .claim _ _ | .answered => inferInstanceAs (Decidable True)

/-- No code expires between the time at which a claim of it reads the clock and the time at which
the claim has the lock. -/
def Pairings.Timely (s : Pairings) : PairingLabel → Prop
  | .advance i _ => ∀ t ∈ s.threads[i]?, t.Timely s.shared
  | .start _ | .claim _ _ | .wait _ => True

instance (s : Pairings) : DecidablePred s.Timely
  | .advance i _ => inferInstanceAs (Decidable (∀ t ∈ s.threads[i]?, t.Timely s.shared))
  | .start _ | .claim _ _ | .wait _ => inferInstanceAs (Decidable True)

/-! ## What a scope does -/

/-- The scopes of the requests. -/
inductive PairingTask.Does (config : PairingConfig) (draw : PairingDraw) (s : PairingShared)
    (t : PairingTask) : PairingBlock → Prop
  | refuses {error : ApiError} {s' : PairingShared}
      (hclaim : t.isClaim = true → error ∈ claimErrors)
      (hnow : s'.now = s.now) (hpairings : ∀ p ∈ s'.pairings, p ∈ s.pairings)
      (hissued : (s'.issued = s.issued ∧ ∀ headers, t = .start headers →
          headers.localToken ≠ some config.operatorToken) ∨
        ∃ headers, t = .start headers ∧ s'.issued = draw.code.simple :: s.issued) :
      Does config draw s t (s'.reply (.error error))
  | starts {headers : TokenHeaders} {response : OpenClawPairingStartResponse}
      (ht : t = .start headers) (htoken : headers.localToken = some config.operatorToken)
      (hcode : response.pairingCode = draw.code.simple) :
      Does config draw s t (PairingShared.goOn
        { s with issued := draw.code.simple :: s.issued } (.insertPairing s.now response))
  | inserts {now : Time} {response : OpenClawPairingStartResponse}
      (ht : t = .insertPairing now response) :
      Does config draw s t (PairingShared.reply { s with
        pairings := (s.retained now).filter (·.1 ≠ response.pairingCode) ++
          [(response.pairingCode, ⟨now + openclawPairingTtl, response.expiresAt⟩)] }
        (.ok (.started response)))
  | claims {origin text : String} (ht : t = .claim (some origin) text)
      (horigin : isAllowedOpenclawPairingOrigin config origin = true) :
      Does config draw s t (s.goOn (.removePairing s.now (trim text)))
  | pairs {now : Time} {code : String} {p : OpenClawPairing}
      {response : OpenClawPairingClaimResponse} (ht : t = .removePairing now code)
      (hfound : (s.retained now).lookup code = some p) :
      Does config draw s t (PairingShared.reply { s with
        pairings := (s.retained now).filter (·.1 ≠ code) } (.ok (.paired response)))

section Scopes

variable {x : PairingCrates} {config : PairingConfig} {draw : PairingDraw} {s : PairingShared}

lemma requireOperatorToken_ok {config : LocalConfig} {headers : TokenHeaders} :
    requireOperatorToken config headers = .ok () ↔
      headers.localToken = some config.operatorToken := by
  simp only [requireOperatorToken, Except.bind_eq_ok, Except.okOr_eq_ok, Except.refuseIf_eq_ok,
    ne_eq, not_not]
  constructor
  · rintro ⟨token, htoken, rfl⟩
    exact htoken
  · exact fun h => ⟨_, h, rfl⟩

lemma startResponse_ok {code expiresAt : String} {response : OpenClawPairingStartResponse}
    (h : startResponse x config code expiresAt = .ok response) : response.pairingCode = code := by
  simp only [startResponse, Except.bind_eq_ok] at h
  obtain ⟨bindUrl, -, h⟩ := h
  obtain rfl := Except.ok.inj h
  rfl

lemma requireOpenclawPairingOrigin_ok {origin : Option String} :
    requireOpenclawPairingOrigin config origin = .ok () ↔
      ∃ o, origin = some o ∧ isAllowedOpenclawPairingOrigin config o = true := by
  simp only [requireOpenclawPairingOrigin, Except.bind_eq_ok, Except.okOr_eq_ok,
    Except.refuseIf_eq_ok, Bool.not_eq_true', Bool.not_eq_false]

lemma requireOpenclawPairingOrigin_error {origin : Option String} {e : ApiError}
    (h : requireOpenclawPairingOrigin config origin = .error e) : e ∈ claimErrors := by
  cases origin with
  | none =>
    obtain rfl := Except.error.inj h
    simp [claimErrors]
  | some origin =>
    by_cases hallowed : isAllowedOpenclawPairingOrigin config origin = true
    · rw [requireOpenclawPairingOrigin_ok.mpr ⟨origin, rfl, hallowed⟩] at h
      cases h
    · have hrefuse : requireOpenclawPairingOrigin config (some origin) =
          .error (.forbidden "OpenClaw pairing origin is not allowed") := by
        change (if (!isAllowedOpenclawPairingOrigin config origin) = true then
          Except.error _ else Except.ok ()) = _
        rw [if_pos (by simpa using hallowed)]
      obtain rfl := Except.error.inj (hrefuse.symm.trans h)
      simp [claimErrors]

/-- **A scope.** -/
lemma PairingTask.block_does {t : PairingTask} (ht : t ≠ .answered) :
    t.Does config draw s (t.block x config draw s) := by
  cases t with
  | start headers =>
    simp only [block]
    cases htoken : requireOperatorToken config.toLocalConfig headers with
    | error e =>
      refine .refuses (by simp [isClaim]) rfl (fun _ hp => hp)
        (.inl ⟨rfl, fun headers' hsame => ?_⟩)
      obtain rfl := PairingTask.start.inj hsame
      intro hlocal
      rw [requireOperatorToken_ok.mpr hlocal] at htoken
      cases htoken
    | ok _ =>
      simp only
      cases hresponse : startResponse x config draw.code.simple
          (x.timeText (draw.utc + openclawPairingTtl)) with
      | error e =>
        exact .refuses (by simp [isClaim]) rfl (fun _ hp => hp) (.inr ⟨headers, rfl, rfl⟩)
      | ok response =>
        exact .starts rfl (requireOperatorToken_ok.mp htoken) (startResponse_ok hresponse)
  | insertPairing now response => exact .inserts rfl
  | claim origin text =>
    simp only [block]
    cases horigin : requireOpenclawPairingOrigin config origin with
    | error e =>
      exact .refuses (fun _ => requireOpenclawPairingOrigin_error horigin) rfl (fun _ hp => hp)
        (.inl ⟨rfl, by simp⟩)
    | ok _ =>
      obtain ⟨o, rfl, hallowed⟩ := requireOpenclawPairingOrigin_ok.mp horigin
      simp only
      split
      · exact .refuses (by simp [claimErrors]) rfl (fun _ hp => hp) (.inl ⟨rfl, by simp⟩)
      · exact .claims rfl hallowed
  | removePairing now code =>
    simp only [block]
    -- what has expired is gone before the code is looked for
    cases hfound : (s.retained now).lookup code with
    | none =>
      refine .refuses (by simp [claimErrors]) rfl (fun p hp => ?_) (.inl ⟨rfl, by simp⟩)
      exact List.mem_of_mem_filter hp
    | some p => exact .pairs rfl hfound
  | answered => exact absurd rfl ht

end Scopes

/-! ## The codes -/

/-- The code that the request is about to list. -/
def PairingTask.inserting : PairingTask → Option String
  | .insertPairing _ response => some response.pairingCode
  | _ => none

namespace Pairings

/-- The codes that requests are about to list. -/
def inserting (s : Pairings) : List String := s.threads.filterMap PairingTask.inserting

/-- The codes that have been made up, and those of them that are listed or about to be. -/
def codes (s : Pairings) : Register String :=
  ⟨{code | code ∈ s.shared.issued},
    {code | code ∈ s.shared.pairings.map Prod.fst ++ s.inserting}⟩

/-- A code is listed, or is about to be listed by one request. -/
structure CodesInv (s : Pairings) : Prop where
  sound : s.codes.Sound
  apart : ∀ p ∈ s.shared.pairings, p.1 ∉ s.inserting
  exclusive : s.inserting.Nodup

section Codes

variable {x : PairingCrates} {config : PairingConfig} {s : Pairings} {i : ℕ} {t : PairingTask}
  {draw : PairingDraw} {l : PairingLabel} {code : String}

lemma mem_usable : code ∈ s.codes.usable ↔
    (∃ p ∈ s.shared.pairings, p.1 = code) ∨ code ∈ s.inserting := by
  simp [codes]

/-- The codes to be listed, before a scope and after it. -/
lemma exists_inserting (hi : s.threads[i]? = some t) : ∃ rest,
    s.inserting.Perm (t.inserting.toList ++ rest) ∧ ∀ next shared,
      (inserting (s.after i ⟨next, [], shared⟩)).Perm (next.inserting.toList ++ rest) := by
  obtain ⟨rest, hbefore, hafter⟩ := Threads.exists_held_rest hi PairingTask.inserting
  refine ⟨rest, hbefore, fun next shared => (hafter _).trans (.of_eq ?_)⟩
  cases h : next.inserting <;> simp [h]

/-- A scope that lists no code and leaves none to be listed. -/
lemma CodesInv.fewer (h : CodesInv s) (hi : s.threads[i]? = some t) (next : PairingTask)
    (shared : PairingShared) (hnext : next.inserting = none)
    (hpairings : ∀ p ∈ shared.pairings, p ∈ s.shared.pairings)
    (hissued : ∀ c ∈ s.shared.issued, c ∈ shared.issued) :
    CodesInv (s.after i ⟨next, [], shared⟩) ∧
      ∀ c ∈ (codes (s.after i ⟨next, [], shared⟩)).usable, c ∈ s.codes.usable := by
  obtain ⟨rest, hbefore, hafter⟩ := exists_inserting hi
  have hperm : (inserting (s.after i ⟨next, [], shared⟩)).Perm rest := by
    simpa [hnext] using hafter next shared
  have hsub : ∀ c ∈ inserting (s.after i ⟨next, [], shared⟩), c ∈ s.inserting := fun c hc =>
    hbefore.mem_iff.mpr (List.mem_append_right _ (hperm.mem_iff.mp hc))
  have husable : ∀ c ∈ (codes (s.after i ⟨next, [], shared⟩)).usable, c ∈ s.codes.usable := by
    intro c hc
    rcases mem_usable.mp hc with ⟨p, hp, rfl⟩ | hc
    · exact mem_usable.mpr (.inl ⟨p, hpairings p hp, rfl⟩)
    · exact mem_usable.mpr (.inr (hsub c hc))
  refine ⟨⟨fun c hc => hissued c (h.sound c (husable c hc)), fun p hp hc => ?_, ?_⟩, husable⟩
  · exact h.apart p (hpairings p hp) (hsub p.1 hc)
  · exact hperm.nodup_iff.mpr (List.nodup_append.mp (hbefore.nodup_iff.mp h.exclusive)).2.1

/-- **Codes.**  A scope keeps the codes apart, and brings none back. -/
lemma CodesInv.scope (h : CodesInv s) (hi : s.threads[i]? = some t) {b : PairingBlock}
    (hfresh : t.Fresh s.shared draw)
    (hdoes : t.Does config draw s.shared b) :
    CodesInv (s.after i b.2) ∧ s.codes.Follows (codes (s.after i b.2)) := by
  cases hdoes with
  | @refuses error s' hclaim hnow hpairings hissued =>
    -- a refused start may have drawn a code, which is then in nobody's hands
    have hgrow : ∀ c ∈ s.shared.issued, c ∈ s'.issued := fun c hc => by
      rcases hissued with ⟨hsame, -⟩ | ⟨headers, -, hcons⟩
      · exact hsame ▸ hc
      · exact hcons ▸ List.mem_cons_of_mem _ hc
    obtain ⟨hinv, husable⟩ := h.fewer hi .answered s' rfl hpairings hgrow
    refine ⟨hinv, ?_⟩
    rcases hissued with ⟨hsame, -⟩ | ⟨headers, ht, hcons⟩
    · exact .of_subset h.sound (fun c => (congrArg (c ∈ ·) hsame).to_iff) husable
    · subst ht
      exact .of_fresh h.sound hfresh (fun c => (congrArg (c ∈ ·) hcons).to_iff.trans List.mem_cons)
        fun c hc => .inr (husable c hc)
  | @starts headers response ht htoken hcode =>
    subst ht
    -- the new code is on its way to the list and not in it yet
    have hnew : draw.code.simple ∉ s.shared.issued := hfresh
    obtain ⟨rest, hbefore, hafter⟩ := exists_inserting hi
    have hbefore : s.inserting.Perm rest := hbefore
    have hperm := hafter (.insertPairing s.shared.now response)
      { s.shared with issued := draw.code.simple :: s.shared.issued }
    simp only [PairingTask.inserting, Option.toList_some, List.singleton_append, hcode] at hperm
    have husable : ∀ c ∈ (codes (s.after i ⟨.insertPairing s.shared.now response, [],
        { s.shared with issued := draw.code.simple :: s.shared.issued }⟩)).usable,
        c = draw.code.simple ∨ c ∈ s.codes.usable := by
      intro c hc
      rcases mem_usable.mp hc with hlisted | hc
      · exact .inr (mem_usable.mpr (.inl hlisted))
      · rcases List.mem_cons.mp (hperm.mem_iff.mp hc) with rfl | hc
        · exact .inl rfl
        · exact .inr (mem_usable.mpr (.inr (hbefore.mem_iff.mpr hc)))
    have hfollows := Register.Follows.of_fresh h.sound hnew (fun _ => List.mem_cons) husable
    refine ⟨⟨hfollows.sound, fun p hp hc => ?_, ?_⟩, hfollows⟩
    · rcases List.mem_cons.mp (hperm.mem_iff.mp hc) with hsame | hc
      · exact hnew (hsame ▸ h.sound p.1 (mem_usable.mpr (.inl ⟨p, hp, rfl⟩)))
      · exact h.apart p hp (hbefore.mem_iff.mpr hc)
    · refine hperm.nodup_iff.mpr (List.nodup_cons.mpr ⟨fun hc => ?_, ?_⟩)
      · exact hnew (h.sound _ (mem_usable.mpr (.inr (hbefore.mem_iff.mpr hc))))
      · exact hbefore.nodup_iff.mp h.exclusive
  | @inserts now response ht =>
    subst ht
    obtain ⟨rest, hbefore, hafter⟩ := exists_inserting hi
    have hbefore : s.inserting.Perm (response.pairingCode :: rest) := hbefore
    -- the code goes from the request to the list, in the place of whatever had it there
    have hnodup := List.nodup_cons.mp (hbefore.nodup_iff.mp h.exclusive)
    generalize hshared : ({ s.shared with
      pairings := (s.shared.retained now).filter (·.1 ≠ response.pairingCode) ++
        [(response.pairingCode, ⟨now + openclawPairingTtl, response.expiresAt⟩)] } :
        PairingShared) = shared
    have hperm : (inserting (s.after i ⟨.answered, [], shared⟩)).Perm rest :=
      hafter .answered shared
    have hlisted : ∀ p ∈ shared.pairings, p ∈ s.shared.pairings ∨ p.1 = response.pairingCode := by
      intro p hp
      rw [← hshared] at hp
      rcases List.mem_append.mp hp with hp | hp
      · exact .inl (List.mem_of_mem_filter (List.mem_of_mem_filter hp))
      · exact .inr (congrArg Prod.fst (List.mem_singleton.mp hp))
    have hsub : ∀ c ∈ inserting (s.after i ⟨.answered, [], shared⟩), c ∈ s.inserting := fun c hc =>
      hbefore.mem_iff.mpr (List.mem_cons_of_mem _ (hperm.mem_iff.mp hc))
    have hfollows : s.codes.Follows (codes (s.after i ⟨.answered, [], shared⟩)) := by
      refine .of_subset h.sound (fun c => by rw [← hshared]; rfl) fun c hc => ?_
      rcases mem_usable.mp hc with ⟨p, hp, rfl⟩ | hc
      · rcases hlisted p hp with hp | hsame
        · exact mem_usable.mpr (.inl ⟨p, hp, rfl⟩)
        · exact mem_usable.mpr (.inr (hbefore.mem_iff.mpr (hsame ▸ List.mem_cons_self)))
      · exact mem_usable.mpr (.inr (hsub c hc))
    refine ⟨⟨hfollows.sound, fun p hp hc => ?_, hperm.nodup_iff.mpr hnodup.2⟩, hfollows⟩
    rcases hlisted p hp with hp | hsame
    · exact h.apart p hp (hsub p.1 hc)
    · exact hnodup.1 (hsame ▸ hperm.mem_iff.mp hc)
  | @claims origin text ht horigin =>
    obtain ⟨hinv, husable⟩ := h.fewer hi (.removePairing s.shared.now (trim text)) s.shared rfl
      (fun _ hp => hp) fun _ hc => hc
    exact ⟨hinv, .of_subset h.sound (fun _ => .rfl) husable⟩
  | @pairs now code p response ht hfound =>
    obtain ⟨hinv, husable⟩ := h.fewer hi .answered { s.shared with
      pairings := (s.shared.retained now).filter (·.1 ≠ code) } rfl
      (fun p hp => List.mem_of_mem_filter (List.mem_of_mem_filter hp)) fun _ hc => hc
    exact ⟨hinv, .of_subset h.sound (fun _ => .rfl) husable⟩

/-- A request that comes in has no code. -/
lemma CodesInv.called (h : CodesInv s) (ht : t.inserting = none) :
    CodesInv { s with threads := s.threads ++ [t] } ∧
      s.codes.Follows (codes { s with threads := s.threads ++ [t] }) := by
  have hsame : inserting { s with threads := s.threads ++ [t] } = s.inserting := by
    rw [inserting, List.filterMap_append, List.filterMap_cons_none ht, List.filterMap_nil,
      List.append_nil, inserting]
  have hcodes : codes { s with threads := s.threads ++ [t] } = s.codes := by
    rw [codes, hsame, codes]
  refine ⟨⟨?_, ?_, ?_⟩, ?_⟩
  · rw [hcodes]
    exact h.sound
  · rw [hsame]
    exact h.apart
  · rw [hsame]
    exact h.exclusive
  · rw [hcodes]
    exact .refl h.sound

lemma CodesInv.step (h : CodesInv s) (hen : s.Enabled l) :
    CodesInv (s.step x config l).2 ∧ s.codes.Follows (codes (s.step x config l).2) := by
  cases l with
  | start headers => exact h.called rfl
  | claim origin code => exact h.called rfl
  | wait now => exact ⟨⟨h.sound, h.apart, h.exclusive⟩, .refl h.sound⟩
  | advance i draw =>
    obtain ⟨t, hi, ht, hfresh⟩ := hen
    have hi : s.threads[i]? = some t := hi
    simp only [Pairings.step, hi]
    exact h.scope hi hfresh (PairingTask.block_does ht)

end Codes

end Pairings

/-! ## What the requests have done -/

/-- Where the codes and the requests of a node come from: every code has been made up by one start,
at a time that its pairing and the request that is to list it remember; and a claim that goes on has
come from an allowed origin. -/
structure PairingHistory (x : PairingCrates) (config : PairingConfig) (s₀ : Pairings)
    (tr : List (PairingLabel × Option PairingAnswer)) (s : Pairings) : Prop where
  codes : s.CodesInv
  issued : ∀ code t, (pairing x config).Happened s₀ tr (StartedAt config code t) →
    code ∈ s.shared.issued
  unique : ∀ code t t', (pairing x config).Happened s₀ tr (StartedAt config code t) →
    (pairing x config).Happened s₀ tr (StartedAt config code t') → t = t'
  listed : ∀ p ∈ s.shared.pairings, ∃ t, (pairing x config).Happened s₀ tr
    (StartedAt config p.1 t) ∧ p.2.expiresAt = t + openclawPairingTtl
  inserting : ∀ now response, .insertPairing now response ∈ s.threads →
    (pairing x config).Happened s₀ tr (StartedAt config response.pairingCode now)
  claimed : ∀ i now code, s.threads[i]? = some (.removePairing now code) →
    (pairing x config).Happened s₀ tr (ClaimedAt config i code now)

section Runs

variable {x : PairingCrates} {config : PairingConfig} {s₀ s s' : Pairings}
  {tr : List (PairingLabel × Option PairingAnswer)} {l : PairingLabel} {a : Option PairingAnswer}

/-- What a step adds to the history is accounted for by the step itself. -/
lemma PairingHistory.of_step (h : PairingHistory x config s₀ tr s)
    (hrun : (pairing x config).Run s₀ tr s) (hen : s.Enabled l)
    (hcodes : s'.CodesInv ∧ s.codes.Follows s'.codes)
    (hstarted : ∀ code t, StartedAt config code t l a s → code ∈ s'.shared.issued)
    (hlisted : ∀ p ∈ s'.shared.pairings, p ∈ s.shared.pairings ∨
      ∃ t, (pairing x config).Happened s₀ (tr ++ [(l, a)]) (StartedAt config p.1 t) ∧
        p.2.expiresAt = t + openclawPairingTtl)
    (hinserting : ∀ now response, .insertPairing now response ∈ s'.threads →
      .insertPairing now response ∈ s.threads ∨ (pairing x config).Happened s₀ (tr ++ [(l, a)])
        (StartedAt config response.pairingCode now))
    (hclaimed : ∀ i now code, s'.threads[i]? = some (.removePairing now code) →
      s.threads[i]? = some (.removePairing now code) ∨
        (pairing x config).Happened s₀ (tr ++ [(l, a)]) (ClaimedAt config i code now)) :
    PairingHistory x config s₀ (tr ++ [(l, a)]) s' := by
  refine ⟨hcodes.1, fun code t ht => ?_, fun code t t' ht ht' => ?_, fun p hp => ?_,
    fun now response hmem => ?_, fun i now code hi => ?_⟩
  · rcases Machine.Happened.of_snoc hrun ht with ht | ht
    · exact hcodes.2.issued code (h.issued code t ht)
    · exact hstarted code t ht
  · -- the code of a start is a new one, so it has been made up before or just now
    have hfresh : ∀ t, StartedAt config code t l a s → code ∉ s.shared.issued := by
      rintro t ⟨i, draw, headers, rfl, hi, -, rfl, -⟩
      obtain ⟨u, hu, -, hnew⟩ := hen
      obtain rfl := Option.some.inj (hi.symm.trans hu)
      exact hnew
    rcases Machine.Happened.of_snoc hrun ht with ht | ht
    · rcases Machine.Happened.of_snoc hrun ht' with ht' | ht'
      · exact h.unique code t t' ht ht'
      · exact absurd (h.issued code t ht) (hfresh t' ht')
    · rcases Machine.Happened.of_snoc hrun ht' with ht' | ht'
      · exact absurd (h.issued code t' ht') (hfresh t ht)
      · obtain ⟨-, -, -, -, -, -, -, rfl⟩ := ht
        obtain ⟨-, -, -, -, -, -, -, rfl⟩ := ht'
        rfl
  · rcases hlisted p hp with hp | hp
    · obtain ⟨t, ht, hexpires⟩ := h.listed p hp
      exact ⟨t, ht.snoc _, hexpires⟩
    · exact hp
  · rcases hinserting now response hmem with hmem | hmem
    · exact (h.inserting now response hmem).snoc _
    · exact hmem
  · rcases hclaimed i now code hi with hi | hi
    · exact (h.claimed i now code hi).snoc _
    · exact hi

/-- A request that comes in. -/
lemma PairingHistory.called (h : PairingHistory x config s₀ tr s)
    (hrun : (pairing x config).Run s₀ tr s) (hen : s.Enabled l) {t : PairingTask}
    (hinserting : ∀ now response, .insertPairing now response ≠ t)
    (hremoving : ∀ now code, .removePairing now code ≠ t)
    (hcodes : Pairings.CodesInv { s with threads := s.threads ++ [t] } ∧
      s.codes.Follows (Pairings.codes { s with threads := s.threads ++ [t] }))
    (hl : ∀ i draw, l ≠ .advance i draw) :
    PairingHistory x config s₀ (tr ++ [(l, a)]) { s with threads := s.threads ++ [t] } := by
  refine h.of_step hrun hen hcodes (fun code t ht => ?_) (fun p hp => .inl hp)
    (fun now response hmem => ?_) fun i now code hi => ?_
  · obtain ⟨i, draw, -, rfl, -⟩ := ht
    exact absurd rfl (hl i draw)
  · rcases List.mem_append.mp hmem with hmem | hmem
    · exact .inl hmem
    · exact absurd (List.mem_singleton.mp hmem) (hinserting now response)
  · rw [List.getElem?_append] at hi
    split_ifs at hi
    · exact .inl hi
    · exact absurd (List.mem_singleton.mp (List.mem_of_getElem? hi)) (hremoving now code)

/-- **A scope.** -/
lemma PairingHistory.scope (h : PairingHistory x config s₀ tr s)
    (hrun : (pairing x config).Run s₀ tr s) {i : ℕ} {draw : PairingDraw}
    (hen : s.Enabled (.advance i draw)) {t : PairingTask} (hi : s.threads[i]? = some t)
    {b : PairingBlock} (hdoes : t.Does config draw s.shared b)
    (hstep : (pairing x config).step s (.advance i draw) = (b.1.map (⟨t, ·⟩), s.after i b.2)) :
    PairingHistory x config s₀ (tr ++ [(.advance i draw, b.1.map (⟨t, ·⟩))]) (s.after i b.2) := by
  obtain ⟨u, hu, -, hfresh⟩ := id hen
  obtain rfl : t = u := Option.some.inj (hi.symm.trans hu)
  have henabled : (pairing x config).enabled s (.advance i draw) := hen
  have hanswer : ((pairing x config).step s (.advance i draw)).1 = b.1.map (⟨t, ·⟩) := by
    rw [hstep]
  have hcodes := h.codes.scope hi hfresh hdoes
  -- the request that takes the step is the only one that moves on
  have hothers : ∀ next shared, (∀ now response, next ≠ .insertPairing now response) →
      ∀ now response, .insertPairing now response ∈ (s.after i ⟨next, [], shared⟩).threads →
        .insertPairing now response ∈ s.threads := by
    intro next shared hnext now response hmem
    rcases Threads.mem_after hmem with hmem | hmem
    · exact hmem
    · exact absurd (List.mem_singleton.mp hmem).symm (hnext now response)
  have hclaims : ∀ (next : PairingTask) shared, (∀ now code, next ≠ .removePairing now code) →
      ∀ (j : ℕ) now code, (s.after i ⟨next, [], shared⟩).threads[j]? =
        some (PairingTask.removePairing now code) →
          s.threads[j]? = some (PairingTask.removePairing now code) := by
    intro next shared hnext j now code hj
    rcases Threads.getElem?_after hj with ⟨-, hsame⟩ | ⟨-, hj⟩
    · exact absurd hsame.symm (hnext now code)
    · exact hj
  -- only a start makes up a code
  have hstarts : ∀ code time, StartedAt config code time (.advance i draw)
      (b.1.map (⟨t, ·⟩)) s → ∃ headers, t = .start headers ∧
        headers.localToken = some config.operatorToken ∧ draw.code.simple = code := by
    rintro code time ⟨j, draw', headers, hl, hj, htoken, hcode, -⟩
    obtain ⟨rfl, rfl⟩ := PairingLabel.advance.inj hl
    exact ⟨headers, Option.some.inj (hi.symm.trans hj), htoken, hcode⟩
  cases hdoes with
  | @refuses error s' hclaim hnow hpairings hissued =>
    refine h.of_step hrun hen hcodes (fun code time ht => ?_) (fun p hp => .inl (hpairings p hp))
      (fun now response hmem => .inl (hothers _ _ (by simp) now response hmem))
      fun j now code hj => .inl (hclaims _ _ (by simp) j now code hj)
    obtain ⟨headers, rfl, htoken, rfl⟩ := hstarts code time ht
    rcases hissued with ⟨-, hnot⟩ | ⟨-, -, hcons⟩
    · exact absurd htoken (hnot headers rfl)
    · exact hcons ▸ List.mem_cons_self
  | @starts headers response ht htoken hcode =>
    subst ht
    refine h.of_step hrun hen hcodes (fun code time ht => ?_) (fun p hp => .inl hp)
      (fun now response' hmem => ?_) fun j now code hj => .inl (hclaims _ _ (by simp) j now code hj)
    · obtain ⟨-, -, -, rfl⟩ := hstarts code time ht
      exact List.mem_cons_self
    · rcases Threads.mem_after hmem with hmem | hmem
      · exact .inl hmem
      · obtain ⟨rfl, rfl⟩ := PairingTask.insertPairing.inj (List.mem_singleton.mp hmem)
        exact .inr (.last_of_answer hrun henabled hanswer
          ⟨i, draw, headers, rfl, hi, htoken, hcode.symm, rfl⟩)
  | @inserts now response ht =>
    subst ht
    have hstarted := h.inserting now response (List.mem_of_getElem? hi)
    refine h.of_step hrun hen hcodes (fun code time ht => ?_) (fun p hp => ?_)
      (fun now response hmem => .inl (hothers _ _ (by simp) now response hmem))
      fun j now code hj => .inl (hclaims _ _ (by simp) j now code hj)
    · obtain ⟨headers, ht, -⟩ := hstarts code time ht
      cases ht
    · rcases List.mem_append.mp hp with hp | hp
      · exact .inl (List.mem_of_mem_filter (List.mem_of_mem_filter hp))
      · obtain rfl := List.mem_singleton.mp hp
        exact .inr ⟨now, hstarted.snoc _, rfl⟩
  | @claims origin text ht horigin =>
    subst ht
    refine h.of_step hrun hen hcodes (fun code time ht => ?_) (fun p hp => .inl hp)
      (fun now response hmem => .inl (hothers _ _ (by simp) now response hmem))
      fun j now code hj => ?_
    · obtain ⟨headers, ht, -⟩ := hstarts code time ht
      cases ht
    · rcases Threads.getElem?_after hj with ⟨rfl, hsame⟩ | ⟨-, hj⟩
      · obtain ⟨rfl, rfl⟩ := PairingTask.removePairing.inj hsame
        exact .inr (.last_of_answer hrun henabled hanswer
          ⟨draw, origin, text, rfl, hi, horigin, rfl, rfl⟩)
      · exact .inl hj
  | @pairs now code p response ht hfound =>
    subst ht
    refine h.of_step hrun hen hcodes (fun code time ht => ?_)
      (fun p hp => .inl (List.mem_of_mem_filter (List.mem_of_mem_filter hp)))
      (fun now response hmem => .inl (hothers _ _ (by simp) now response hmem))
      fun j now code hj => .inl (hclaims _ _ (by simp) j now code hj)
    obtain ⟨headers, ht, -⟩ := hstarts code time ht
    cases ht

/-- **A step.** -/
lemma PairingHistory.step (h : PairingHistory x config s₀ tr s)
    (hrun : (pairing x config).Run s₀ tr s) (hen : (pairing x config).enabled s l) :
    PairingHistory x config s₀ (tr ++ [(l, ((pairing x config).step s l).1)])
      ((pairing x config).step s l).2 := by
  have hen : s.Enabled l := hen
  have hcodes : Pairings.CodesInv (s.step x config l).2 ∧
      s.codes.Follows (Pairings.codes (s.step x config l).2) := h.codes.step hen
  cases l with
  | start headers => exact h.called hrun hen (by simp) (by simp) hcodes (by simp)
  | claim origin code => exact h.called hrun hen (by simp) (by simp) hcodes (by simp)
  | wait now =>
    refine h.of_step hrun hen hcodes (fun code t ht => ?_) (fun p hp => .inl hp)
      (fun now response hmem => .inl hmem) fun i now code hi => .inl hi
    obtain ⟨i, draw, -, hl, -⟩ := ht
    cases hl
  | advance i draw =>
    obtain ⟨t, hi, ht, -⟩ := id hen
    have hi : s.threads[i]? = some t := hi
    have hstep : (pairing x config).step s (.advance i draw) =
        ((t.block x config draw s.shared).1.map (⟨t, ·⟩),
          s.after i (t.block x config draw s.shared).2) := by
      simp only [pairing, Pairings.step, hi]
    rw [hstep]
    exact h.scope hrun hen hi (PairingTask.block_does ht) hstep

lemma codesInv_of_init (h₀ : (pairing x config).init s₀) : s₀.CodesInv := by
  obtain ⟨hpairings, hissued, hthreads⟩ := h₀
  have hinserting : s₀.inserting = [] := by rw [Pairings.inserting, hthreads, List.filterMap_nil]
  refine ⟨fun code hcode => ?_, fun p hp => ?_, ?_⟩
  · rcases Pairings.mem_usable.mp hcode with ⟨p, hp, -⟩ | hcode
    · rw [hpairings] at hp
      cases hp
    · rw [hinserting] at hcode
      cases hcode
  · rw [hpairings] at hp
    cases hp
  · rw [hinserting]
    exact List.nodup_nil

lemma pairingHistory_of_run (h₀ : (pairing x config).init s₀)
    (h : (pairing x config).Run s₀ tr s) : PairingHistory x config s₀ tr s := by
  refine Machine.Run.history (P := fun tr s => PairingHistory x config s₀ tr s) ?_
    (fun tr m l hrun ih hen => ih.step hrun hen) h
  have hnone : ∀ P, ¬ (pairing x config).Happened s₀ [] P := by
    rintro P ⟨pre, l, post, m, htr, -⟩
    simp at htr
  refine ⟨codesInv_of_init h₀, fun code t ht => absurd ht (hnone _),
    fun code t t' ht => absurd ht (hnone _), fun p hp => ?_, fun now response hmem => ?_,
    fun i now code hi => ?_⟩
  · rw [h₀.1] at hp
    cases hp
  · rw [h₀.2.2] at hmem
    cases hmem
  · rw [h₀.2.2] at hi
    cases hi

/-- The scope that gives the token. -/
lemma gives_of_step {code : String} (hen : s.Enabled l)
    (h : givesToken code (s.step x config l).1 = true) :
    ∃ i draw now p, l = .advance i draw ∧ s.threads[i]? = some (.removePairing now code) ∧
      (s.shared.retained now).lookup code = some p ∧
        code ∉ (s.step x config l).2.shared.pairings.map Prod.fst := by
  cases l with
  | start headers => cases h
  | claim origin code => cases h
  | wait now => cases h
  | advance i draw =>
    obtain ⟨t, hi, ht, -⟩ := hen
    have hi : s.threads[i]? = some t := hi
    have hdoes : t.Does config draw s.shared (t.block x config draw s.shared) :=
      PairingTask.block_does ht
    simp only [Pairings.step, hi] at h ⊢
    generalize t.block x config draw s.shared = b at hdoes h ⊢
    cases hdoes with
    | refuses hclaim hnow hpairings hissued => cases t <;> cases h
    | starts ht htoken hcode => cases h
    | inserts ht =>
      subst ht
      cases h
    | claims ht horigin => cases h
    | pairs ht hfound =>
      subst ht
      obtain rfl := beq_iff_eq.mp h
      refine ⟨i, draw, _, _, rfl, hi, hfound, fun hmem => ?_⟩
      obtain ⟨p, hp, hcode⟩ := List.mem_map.mp hmem
      exact absurd hcode (by simpa using List.of_mem_filter hp)

/-- A claim that does not give the token is refused. -/
lemma claim_refused {e : PairingAnswer} (hen : s.Enabled l) (h : (s.step x config l).1 = some e)
    (hclaim : e.task.isClaim = true) :
    (∃ code, givesToken code (some e) = true) ∨ ∃ error ∈ claimErrors, e.reply = .error error := by
  cases l with
  | start headers => cases h
  | claim origin code => cases h
  | wait now => cases h
  | advance i draw =>
    obtain ⟨t, hi, ht, -⟩ := hen
    have hi : s.threads[i]? = some t := hi
    have hdoes : t.Does config draw s.shared (t.block x config draw s.shared) :=
      PairingTask.block_does ht
    simp only [Pairings.step, hi] at h
    generalize t.block x config draw s.shared = b at hdoes h
    cases hdoes with
    | refuses herror hnow hpairings hissued =>
      obtain rfl := Option.some.inj h
      exact .inr ⟨_, herror hclaim, rfl⟩
    | starts ht htoken hcode => cases h
    | inserts ht =>
      obtain rfl := Option.some.inj h
      subst ht
      cases hclaim
    | claims ht horigin => cases h
    | pairs ht hfound =>
      obtain rfl := Option.some.inj h
      subst ht
      exact .inl ⟨_, beq_iff_eq.mpr rfl⟩

lemma mem_of_lookup_retained {now : Time} {code : String} {p : OpenClawPairing}
    (h : (s.shared.retained now).lookup code = some p) :
    (code, p) ∈ s.shared.pairings ∧ now < p.expiresAt := by
  obtain ⟨before, after, heq, -⟩ := List.lookup_eq_some_iff.mp h
  have hmem : (code, p) ∈ s.shared.retained now := by
    rw [heq]
    exact List.mem_append_right _ List.mem_cons_self
  obtain ⟨hlisted, hfresh⟩ := List.mem_filter.mp hmem
  exact ⟨hlisted, of_decide_eq_true hfresh⟩

/-- **Pairing.**  A run is as it is wanted exactly if no code expires while a claim of it waits for
the lock. -/
theorem pairing_safe (h₀ : (pairing x config).init s₀) (h : (pairing x config).Run s₀ tr s) :
    PairingsSafe x config s₀ tr ↔ ((pairing x config).restrict Pairings.Timely).Run s₀ tr s := by
  rw [h.restrict_iff]
  constructor
  · intro hsafe before l a after m htr hm
    subst htr
    obtain ⟨n, hn, hen, ha, -⟩ := h.cut
    obtain rfl := hn.unique hm
    have hen : n.Enabled l := hen
    cases l with
    | start headers => trivial
    | claim origin code => trivial
    | wait now => trivial
    | advance i draw =>
      intro t hi
      have hi : n.threads[i]? = some t := hi
      cases t with
      | removePairing now code =>
        intro p hp
        have hfound : (n.shared.retained now).lookup code = some p := hp
        have hgives : givesToken code a = true := by
          rw [show a = (n.step x config (.advance i draw)).1 from ha]
          simp [Pairings.step, hi, PairingTask.block, hfound, PairingShared.reply, givesToken]
        obtain ⟨⟨t, ht⟩, htime, -⟩ := hsafe.granted before _ a after n rfl hn code hgives
        obtain ⟨t', ht', hexpires⟩ := (pairingHistory_of_run h₀ hn).listed _
          (mem_of_lookup_retained hfound).1
        exact hexpires.symm ▸ htime t' ht'
      | _ => trivial
  · intro htimely
    refine ⟨fun code => ?_, fun before l a after m htr hm code hgives => ?_,
      fun e he a ha hclaim => ?_⟩
    · -- a code that gives the token is listed before, and not afterwards
      have hstep : ∀ m l, m.CodesInv → (pairing x config).enabled m l →
          ((pairing x config).step m l).2.CodesInv := fun m l hm hen => (hm.step hen).1
      have hfollows : ∀ m l, m.CodesInv → (pairing x config).enabled m l →
          m.codes.Follows ((pairing x config).step m l).2.codes := fun m l hm hen => (hm.step hen).2
      refine h.used_once (k := code) hstep (fun m hm => hm.sound) hfollows ?_
        (codesInv_of_init h₀)
      intro m l hm hen hused
      obtain ⟨i, draw, now, p, rfl, hi, hfound, hgone⟩ := gives_of_step hen hused
      have hlisted := (mem_of_lookup_retained hfound).1
      have hbefore : code ∈ m.codes.usable := Pairings.mem_usable.mpr (.inl ⟨_, hlisted, rfl⟩)
      refine ⟨hbefore, fun hafter => ?_⟩
      rcases Pairings.mem_usable.mp hafter with ⟨q, hq, hcode⟩ | hinserting
      · exact hgone (List.mem_map.mpr ⟨q, hq, hcode⟩)
      · -- nor is it about to be listed
        refine hm.apart _ hlisted ?_
        have hsub : ∀ c ∈ ((pairing x config).step m (.advance i draw)).2.inserting,
            c ∈ m.inserting := by
          intro c hc
          obtain ⟨u, hu, hc⟩ := List.mem_filterMap.mp hc
          simp only [pairing, Pairings.step, hi, PairingTask.block, hfound,
            PairingShared.reply] at hu
          rcases Threads.mem_after hu with hu | hu
          · exact List.mem_filterMap.mpr ⟨u, hu, hc⟩
          · obtain rfl := List.mem_singleton.mp hu
            cases hc
        exact hsub code hinserting
    · subst htr
      obtain ⟨n, hn, hen, ha, -⟩ := h.cut
      obtain rfl := hn.unique hm
      have hhistory := pairingHistory_of_run h₀ hn
      have hstep : givesToken code (n.step x config l).1 = true := by
        rw [show a = (n.step x config l).1 from ha] at hgives
        exact hgives
      obtain ⟨i, draw, now, p, rfl, hi, hfound, -⟩ := gives_of_step hen hstep
      obtain ⟨t, ht, hexpires⟩ := hhistory.listed _ (mem_of_lookup_retained hfound).1
      have htime : n.shared.now < p.expiresAt :=
        htimely before _ a after n rfl hn _ (Option.mem_def.mpr hi) p hfound
      refine ⟨⟨t, ht⟩, fun t' ht' => ?_, i, draw, rfl, now, hhistory.claimed i now code hi⟩
      rw [hhistory.unique code t' t ht' ht, ← hexpires]
      exact htime
    · obtain ⟨pre, post, m, rfl, hm, hen, hanswer, -⟩ := h.of_mem he
      have hstep : (m.step x config e.1).1 = some a := hanswer.symm.trans ha
      rw [ha]
      exact claim_refused hen hstep hclaim

end Runs

/-! ### One code -/

/-- Libraries that append any fragment. -/
def pairingCrates : PairingCrates :=
  { leaseCrates with withFragment := fun url fragment => some s!"{url}#{fragment}" }

/-- The configuration of a node with its ports. -/
def pairingConfig : PairingConfig :=
  { nodeConfig with
    skillBind := "127.0.0.1:8790"
    openclawBindUrl := "http://127.0.0.1:18789/openclaw/import"
    allowedOrigins := none }

/-- The node before its first pairing. -/
def idlePairings : Pairings := ⟨⟨0, [], []⟩, []⟩

/-- What a request draws. -/
def pairingDraw : PairingDraw := ⟨.ofNat 7, 1767226500000000⟩

/-- A pairing is started, and its code is presented at the time. -/
def presentAt (now : Time) : List PairingLabel :=
  [.start ⟨some "operator-secret", none⟩, .advance 0 pairingDraw, .advance 0 pairingDraw, .wait now,
    .claim (some "http://127.0.0.1:18789") "00000000000000000000000000000007",
    .advance 1 pairingDraw]

/-- A minute later the code gives the token. -/
theorem pairing_safe_minute :
    ∃ tr s, (pairing pairingCrates pairingConfig).Run idlePairings tr s ∧
      tr.countP (fun e => givesToken "00000000000000000000000000000007" e.2) = 1 ∧
      PairingsSafe pairingCrates pairingConfig idlePairings tr := by
  have hinit : (pairing pairingCrates pairingConfig).init idlePairings := ⟨rfl, rfl, rfl⟩
  have hrun := Machine.run_exec (show ((pairing pairingCrates pairingConfig).restrict
    Pairings.Timely).Allows idlePairings (presentAt 60000000 ++ [.advance 1 pairingDraw])
      by decide)
  exact ⟨_, _, hrun.of_restrict, by decide, (pairing_safe hinit hrun.of_restrict).mpr hrun⟩

/-- A microsecond before the code expires, a claim reads the clock; when it has the lock, the code
has expired, and gives the token. -/
theorem pairing_unsafe :
    ¬ ∀ (x : PairingCrates) (config : PairingConfig) (s₀ s : Pairings)
      (tr : List (PairingLabel × Option PairingAnswer)), (pairing x config).init s₀ →
      (pairing x config).Run s₀ tr s → PairingsSafe x config s₀ tr := by
  intro h
  have hinit : (pairing pairingCrates pairingConfig).init idlePairings := ⟨rfl, rfl, rfl⟩
  have hbefore := Machine.run_exec (show (pairing pairingCrates pairingConfig).Allows idlePairings
    (presentAt 299999999 ++ [.wait 300000000]) by decide)
  have hrun := Machine.run_exec (show (pairing pairingCrates pairingConfig).Allows idlePairings
    (presentAt 299999999 ++ [.wait 300000000, .advance 1 pairingDraw]) by decide)
  have hstarted : (pairing pairingCrates pairingConfig).Happened idlePairings
      ((pairing pairingCrates pairingConfig).exec idlePairings
        (presentAt 299999999 ++ [.wait 300000000])).1
      (StartedAt pairingConfig "00000000000000000000000000000007" 0) :=
    ⟨_, _, _, _, rfl, Machine.run_exec (show (pairing pairingCrates pairingConfig).Allows
      idlePairings [.start ⟨some "operator-secret", none⟩] by decide), by decide, 0, pairingDraw,
      ⟨some "operator-secret", none⟩, rfl, rfl, rfl, by decide, rfl⟩
  have htime := ((h _ _ _ _ _ hinit hrun).granted _ _ _ [] _ rfl hbefore
    "00000000000000000000000000000007" (by decide)).2.1 0 hstarted
  exact absurd htime (by decide)

end OzonSuite
