/-
# What is imported into the plugin

A claim is saved only if it has been presented with a nonce that the page was given a short time
before, and that no one has presented before; what is saved leads to the node at which the pairing
was claimed.  And what the page is told does not depend on the token that the node has sent.
-/
import OzonSuite.Lib.OneTime
import OzonSuite.OpenClaw.Service

namespace OzonSuite.OpenClaw

open Lib

variable {Url : Type} (p : Platform Url)

/-! ## What is wanted -/

/-- The request gets to the claim route. -/
def Request.ToClaimRoute (r : Request) : Prop :=
  (p.resolve (r.url.getD "/") "http://127.0.0.1:18789").map p.path = some claimPath ∧
    r.method = "POST"

/-- The request presents the nonce. -/
def Request.Presents (r : Request) (nonce : String) : Prop :=
  r.ToClaimRoute p ∧ ∃ payload, r.payload p = .ok payload ∧
    presentedNonce payload = .ok (some nonce)

/-- The page is served with the nonce, at the time. -/
def IssuedAt (nonce : String) (t : ℕ) (_ : PluginLabel) (a : Option PluginEvent) (m : Plugin) :
    Prop :=
  a = some (.respond (some ⟨200, html, .page nonce⟩)) ∧ m.shared.now = t

/-- The nonce is presented. -/
def PresentedAt (nonce : String) (l : PluginLabel) (_ : Option PluginEvent) (m : Plugin) : Prop :=
  ∃ i draw r, l = .advance i draw ∧ m.threads[i]? = some (.request r) ∧ r.Presents p nonce

/-- In the step, the `i`-th request presents what is pending, and the node is called for it. -/
def PresentsAs (i : ℕ) (pending : Presented) (l : PluginLabel) (a : Option PluginEvent)
    (m : Plugin) : Prop :=
  ∃ draw r payload, l = .advance i draw ∧ m.threads[i]? = some (.request r) ∧
    r.Presents p pending.nonce ∧ r.payload p = .ok payload ∧
    presentedWith p r payload pending.nonce = .ok pending ∧
    a = some (.callNode pending.claimUrl pending.code pending.origin)

/-- The request was admitted: it presented a nonce that had been issued to a page not long before,
and never been presented. -/
def Admitted (s₀ : Plugin) (tr : List (PluginLabel × Option PluginEvent)) (i : ℕ)
    (pending : Presented) : Prop :=
  ∃ pre l post m, tr = pre ++ (l, ((plugin p).step m l).1) :: post ∧ (plugin p).Run s₀ pre m ∧
    PresentsAs p i pending l ((plugin p).step m l).1 m ∧
    (∃ t, (plugin p).Happened s₀ pre (IssuedAt pending.nonce t) ∧
      m.shared.now < t + importNonceTtl) ∧
    ¬ (plugin p).Happened s₀ pre (PresentedAt p pending.nonce)

/-- What is saved leads to where the pairing was claimed. -/
structure LeadsBack (pending : Presented) (claim : Claim) : Prop where
  manifest : LocalHttp p claim.manifestUrl ∧ claim.manifestUrl = pending.manifestUrl
  base : LocalHttp p claim.baseUrl
  origin : ∃ base called, p.parse claim.baseUrl = some base ∧
    p.parse pending.claimUrl = some called ∧ p.origin base = p.origin called

/-- What a browser gets to see of a step. -/
def seenByBrowser : Option PluginEvent → Option (Option Response)
  | some (.respond response) => some response
  | _ => none

/-- Two answers of the node are successes and agree in all but the token that they carry. -/
def SameButToken (a b : NodeAnswer) : Prop :=
  ∃ status text text' fields fields' token token',
    a = .answered true status text ∧ b = .answered true status text' ∧
    detailsOf p text = .object fields ∧ detailsOf p text' = .object fields' ∧
    fields.lookup "auth_token" = some (.string token) ∧
    fields'.lookup "auth_token" = some (.string token') ∧ jsTrim token ≠ "" ∧ jsTrim token' ≠ "" ∧
    ∀ key, key ≠ "auth_token" → fields.lookup key = fields'.lookup key

/-- Two steps are alike, but perhaps for the token that the node sends. -/
inductive Alike : PluginLabel → PluginLabel → Prop
  | same (l : PluginLabel) : Alike l l
  | answer (i : ℕ) (draw : PluginDraw) (answer : NodeAnswer)
      (h : SameButToken p draw.answer answer) :
    Alike (.advance i draw) (.advance i { draw with answer := answer })

/-- What is wanted of a run. -/
structure ImportsSafe (s₀ : Plugin) (tr : List (PluginLabel × Option PluginEvent)) : Prop where
  saved : ∀ before l after claim, tr = before ++ (l, some (.saveConfig claim)) :: after →
    ∃ i draw pending, l = .advance i draw ∧ Admitted p s₀ before i pending ∧
      LeadsBack p pending claim
  responses : ∀ ls, List.Forall₂ (Alike p) (tr.map Prod.fst) ls →
    (((plugin p).exec s₀ ls).1.map fun e => seenByBrowser e.2) = tr.map fun e => seenByBrowser e.2

/-! ## The blocks of a request -/

section Blocks

variable {p} {r : Request} {s : PluginShared} {uuid : String}

/-- All that the first block of a request comes to. -/
inductive RequestTurn (p : Platform Url) (r : Request) (uuid : String) (s : PluginShared) :
    PluginBlock → Prop
  | page (h : Plugin.issues p (.request r)) :
    RequestTurn p r uuid s ((s.issueImportNonce uuid).reply (some ⟨200, html, .page uuid⟩))
  | other (response : Option Response) (hpage : ∀ nonce, response ≠ some ⟨200, html, .page nonce⟩)
      (h : ∀ nonce, ¬ r.Presents p nonce) : RequestTurn p r uuid s (s.reply response)
  | refused (nonce e : String) (h : r.Presents p nonce) :
    RequestTurn p r uuid s ((s.consumeImportNonce nonce).2.reply (some (refusal e)))
  | claimed (payload : Json) (nonce : String) (pending : Presented) (h : r.Presents p nonce)
      (hpayload : r.payload p = .ok payload) (hvalid : (s.consumeImportNonce nonce).1 = true)
      (hpending : presentedWith p r payload nonce = .ok pending) :
    RequestTurn p r uuid s ((s.consumeImportNonce nonce).2.goOn
      (.callNode pending.claimUrl pending.code pending.origin) (.claiming pending))

lemma refusal_ne_page (e nonce : String) :
    some (refusal e) ≠ some (⟨200, html, .page nonce⟩ : Response) := by
  simp [refusal, respondJson]

lemma claimRoute_turn (hroute : r.ToClaimRoute p) : RequestTurn p r uuid s (claimRoute p r s) := by
  have hnot : (∀ payload nonce, r.payload p = .ok payload →
      presentedNonce payload ≠ .ok (some nonce)) → ∀ nonce, ¬ r.Presents p nonce := by
    rintro h nonce ⟨-, payload, hpayload, hnonce⟩
    exact h payload nonce hpayload hnonce
  unfold claimRoute
  cases hpayload : r.payload p with
  | error e =>
    exact .other _ (refusal_ne_page e) (hnot fun _ _ h => absurd (hpayload.symm.trans h) nofun)
  | ok payload =>
    dsimp only
    -- a request has one payload, so it presents one nonce at most
    have hsame : ∀ payload', r.payload p = .ok payload' → payload' = payload := fun payload' h =>
      Except.ok.inj (h.symm.trans hpayload)
    cases hnonce : presentedNonce payload with
    | error e =>
      exact .other _ (refusal_ne_page e) (hnot fun payload' nonce h h' => by
        rw [hsame payload' h, hnonce] at h'
        cases h')
    | ok found =>
      cases found with
      | none =>
        exact .other _ (refusal_ne_page _) (hnot fun payload' nonce h h' => by
          rw [hsame payload' h, hnonce] at h'
          cases h')
      | some nonce =>
        have hpresents : r.Presents p nonce := ⟨hroute, payload, hpayload, hnonce⟩
        dsimp only
        unfold claimWithNonce
        dsimp only
        split_ifs with hvalid
        · cases hpending : presentedWith p r payload nonce with
          | error e => exact .refused nonce e hpresents
          | ok pending => exact .claimed payload nonce pending hpresents hpayload hvalid hpending
        · exact .refused nonce expiredNonce hpresents

lemma handleImportRoute_turn : RequestTurn p r uuid s (handleImportRoute p r uuid s) := by
  unfold handleImportRoute
  cases hresolve : p.resolve (r.url.getD "/") "http://127.0.0.1:18789" with
  | none =>
    refine .other none nofun fun nonce h => ?_
    have hpath := h.1.1
    rw [hresolve] at hpath
    cases hpath
  | some parsed =>
    have hother : ∀ response, (∀ nonce, response ≠ some ⟨200, html, .page nonce⟩) →
        ¬ (p.path parsed = claimPath ∧ r.method = "POST") →
        RequestTurn p r uuid s (s.reply response) := by
      refine fun response hpage hnot => .other response hpage fun nonce h => hnot ⟨?_, h.1.2⟩
      have hpath := h.1.1
      rw [hresolve] at hpath
      exact Option.some.inj hpath
    have hdiffer : importPath ≠ claimPath := by decide
    dsimp only
    split_ifs with himport hget hhead hclaim hpost
    · exact .page ⟨hget, by rw [hresolve, Option.map_some, himport]⟩
    · exact hother _ (by simp [respond]) fun h => hdiffer (himport.symm.trans h.1)
    · exact hother _ (by simp [respond]) fun h => hdiffer (himport.symm.trans h.1)
    · exact claimRoute_turn ⟨by rw [hresolve, Option.map_some, hclaim], hpost⟩
    · exact hother _ (by simp [respond]) fun h => hpost h.2
    · exact hother _ nofun fun h => hclaim h.1

/-- A block that is not the first leaves the nonces alone, and waits for no claim. -/
structure LeavesNonces (s : PluginShared) (b : PluginBlock) : Prop where
  importNonces : b.2.shared.importNonces = s.importNonces
  seen : b.2.shared.seen = s.seen
  next : ∀ pending, b.2.next ≠ .claiming pending
  started : b.2.started = []

lemma leavesNonces_reply (response : Option Response) : LeavesNonces s (s.reply response) :=
  ⟨rfl, rfl, fun _ => nofun, rfl⟩

lemma writeTemporary_nonces (claim : Claim) (file : FileOutcome) :
    (s.writeTemporary claim file).2.importNonces = s.importNonces ∧
      (s.writeTemporary claim file).2.seen = s.seen := by
  unfold PluginShared.writeTemporary
  split
  · exact ⟨rfl, rfl⟩
  · split_ifs <;> exact ⟨rfl, rfl⟩

lemma renameTemporary_nonces (file : FileOutcome) :
    (s.renameTemporary file).2.importNonces = s.importNonces ∧
      (s.renameTemporary file).2.seen = s.seen := by
  unfold PluginShared.renameTemporary
  split
  · split <;> exact ⟨rfl, rfl⟩
  · exact ⟨rfl, rfl⟩

lemma block_leavesNonces {t : PluginTask} {draw : PluginDraw} (ht : ∀ r, t ≠ .request r) :
    LeavesNonces s (t.block p draw s) := by
  cases t with
  | request r => exact absurd rfl (ht r)
  | claiming pending =>
    unfold PluginTask.block
    dsimp only
    split
    · exact leavesNonces_reply _
    · exact ⟨rfl, rfl, fun _ => nofun, rfl⟩
  | writing claim =>
    unfold PluginTask.block
    dsimp only
    obtain ⟨hnonces, hseen⟩ := writeTemporary_nonces (s := s) claim draw.file
    split <;> next heq =>
      rw [heq] at hnonces hseen
      exact ⟨hnonces, hseen, fun _ => nofun, rfl⟩
  | moving claim =>
    unfold PluginTask.block
    dsimp only
    obtain ⟨hnonces, hseen⟩ := renameTemporary_nonces (s := s) draw.file
    split <;> next heq =>
      rw [heq] at hnonces hseen
      exact ⟨hnonces, hseen, fun _ => nofun, rfl⟩
  | execute tool params =>
    unfold PluginTask.block
    dsimp only
    split <;> exact ⟨rfl, rfl, fun _ => nofun, rfl⟩
  | calling tool lookup => exact ⟨rfl, rfl, fun _ => nofun, rfl⟩
  | answered => exact ⟨rfl, rfl, fun _ => nofun, rfl⟩

end Blocks

/-! ## The checks of a claim -/

section Checks

variable {p}

lemma requireLocalUrl_ok (hprints : p.Prints) {value : Option Json} {name text : String}
    (h : requireLocalUrl p value name = .ok text) : LocalHttp p text := by
  simp only [requireLocalUrl, newUrl, Except.bind_eq_ok, Except.okOr_eq_ok, Except.refuseIf_eq_ok]
    at h
  obtain ⟨given, -, u, hu, -, hlocal, h⟩ := h
  obtain rfl := Except.ok.inj h
  push Not at hlocal
  obtain ⟨hscheme, hhost, huser, hpassword⟩ := hlocal
  obtain ⟨v, hv, hscheme', hhost', huser', hpassword'⟩ := hprints.reparse given u hu hscheme
  refine ⟨v, hv, hscheme', ?_, huser'.trans huser, hpassword'.trans hpassword⟩
  rwa [LocalHost, hhost']

lemma normalizeClaim_ok (hprints : p.Prints) {now : ℕ} {raw : Json} {claim : Claim}
    (h : normalizeClaim p now raw = .ok claim) :
    LocalHttp p claim.manifestUrl ∧ LocalHttp p claim.baseUrl := by
  unfold normalizeClaim at h
  split at h
  · cases h
  · cases h
  · cases h
  · cases h
  · simp only [Except.bind_eq_ok] at h
    obtain ⟨manifest, hmanifest, base, hbase, header, -, token, -, -, -, h⟩ := h
    obtain rfl := Except.ok.inj h
    exact ⟨requireLocalUrl_ok hprints hmanifest, requireLocalUrl_ok hprints hbase⟩

/-- A claim that passes leads back to the node. -/
lemma checkClaim_ok (hprints : p.Prints) {pending : Presented} {now : ℕ} {answer : NodeAnswer}
    {claim : Claim} (h : checkClaim p pending now answer = .ok claim) :
    LeadsBack p pending claim := by
  simp only [checkClaim, newUrl, Except.bind_eq_ok, Except.okOr_eq_ok, Except.refuseIf_eq_ok,
    not_not] at h
  obtain ⟨details, -, found, hfound, -, hmanifest, base, hbase, called, hcalled, -, horigin, h⟩ := h
  obtain rfl := Except.ok.inj h
  obtain ⟨hmanifestLocal, hbaseLocal⟩ := normalizeClaim_ok hprints hfound
  exact ⟨⟨hmanifestLocal, hmanifest⟩, hbaseLocal, base, called, hbase, hcalled, horigin⟩

end Checks

/-! ## Runs -/

section Runs

variable {p} {s₀ s : Plugin} {tr : List (PluginLabel × Option PluginEvent)}

/-- What has happened, as far as it can be told from the state. -/
structure PluginHistory (p : Platform Url) (s₀ : Plugin)
    (tr : List (PluginLabel × Option PluginEvent)) (s : Plugin) : Prop where
  nodup : (s.shared.importNonces.map Prod.fst).Nodup
  issued : ∀ e ∈ s.shared.importNonces, ∃ t, (plugin p).Happened s₀ tr (IssuedAt e.1 t) ∧
    e.2 = t + importNonceTtl
  unpresented : ∀ e ∈ s.shared.importNonces, ¬ (plugin p).Happened s₀ tr (PresentedAt p e.1)
  listed : ∀ e ∈ s.shared.importNonces, e.1 ∈ s.shared.seen
  seen : ∀ nonce, (plugin p).Happened s₀ tr (PresentedAt p nonce) → nonce ∈ s.shared.seen
  admitted : ∀ i pending, s.threads[i]? = some (.claiming pending) → Admitted p s₀ tr i pending

lemma Admitted.append {i : ℕ} {pending : Presented} (h : Admitted p s₀ tr i pending)
    (more : List (PluginLabel × Option PluginEvent)) : Admitted p s₀ (tr ++ more) i pending := by
  obtain ⟨pre, l, post, m, rfl, hrun, hpresents, hissued, hfresh⟩ := h
  exact ⟨pre, l, post ++ more, m, by simp, hrun, hpresents, hissued, hfresh⟩

lemma history_init (h₀ : (plugin p).init s₀) : PluginHistory p s₀ [] s₀ := by
  obtain ⟨hnonces, hseen, hthreads⟩ := h₀
  refine ⟨by simp [hnonces], by simp [hnonces], by simp [hnonces], by simp [hnonces], ?_,
    by simp [hthreads]⟩
  rintro nonce ⟨pre, l, post, m, htr, -⟩
  simp at htr

/-- A step that presents nothing, and leaves the nonces as they are. -/
lemma PluginHistory.other (h : PluginHistory p s₀ tr s) (hrun : (plugin p).Run s₀ tr s)
    {l : PluginLabel} {s' : Plugin} {a : Option PluginEvent}
    (hnonces : s'.shared.importNonces = s.shared.importNonces)
    (hseen : s'.shared.seen = s.shared.seen) (hquiet : ∀ nonce, ¬ PresentedAt p nonce l a s)
    (hthreads : ∀ (i : ℕ) pending, s'.threads[i]? = some (.claiming pending) →
      s.threads[i]? = some (.claiming pending)) : PluginHistory p s₀ (tr ++ [(l, a)]) s' where
  nodup := hnonces ▸ h.nodup
  issued e he := by
    obtain ⟨t, ht, hexpires⟩ := h.issued e (hnonces ▸ he)
    exact ⟨t, ht.snoc _, hexpires⟩
  unpresented e he hpresented := by
    rcases hpresented.of_snoc hrun with hpresented | hpresented
    · exact h.unpresented e (hnonces ▸ he) hpresented
    · exact hquiet _ hpresented
  listed e he := hseen ▸ h.listed e (hnonces ▸ he)
  seen nonce hpresented := by
    rcases hpresented.of_snoc hrun with hpresented | hpresented
    · exact hseen ▸ h.seen nonce hpresented
    · exact absurd hpresented (hquiet _)
  admitted i pending hi := (h.admitted i pending (hthreads i pending hi)).append _

/-- The page is served with a new nonce. -/
lemma PluginHistory.page (h : PluginHistory p s₀ tr s) (hrun : (plugin p).Run s₀ tr s)
    {l : PluginLabel} {s' : Plugin} {a : Option PluginEvent} {uuid : String}
    (hen : (plugin p).enabled s l) (hanswer : a = ((plugin p).step s l).1)
    (hevent : a = some (.respond (some ⟨200, html, .page uuid⟩))) (hfresh : uuid ∉ s.shared.seen)
    (hshared : s'.shared = s.shared.issueImportNonce uuid)
    (hquiet : ∀ nonce, ¬ PresentedAt p nonce l a s)
    (hthreads : ∀ (i : ℕ) pending, s'.threads[i]? = some (.claiming pending) →
      s.threads[i]? = some (.claiming pending)) : PluginHistory p s₀ (tr ++ [(l, a)]) s' := by
  -- the new nonce stands beside those that have not expired
  have hmem : ∀ e ∈ s'.shared.importNonces, (e ∈ s.shared.importNonces ∧ e.1 ≠ uuid) ∨
      e = (uuid, s.shared.now + importNonceTtl) := by
    intro e he
    rw [hshared, PluginShared.issueImportNonce] at he
    rcases List.mem_append.mp he with he | he
    · have hold := (List.mem_filter.mp he).1
      exact .inl ⟨hold, fun heq => hfresh (heq ▸ h.listed e hold)⟩
    · exact .inr (List.mem_singleton.mp he)
  -- serving the page presents nothing
  have hpast : ∀ nonce, (plugin p).Happened s₀ (tr ++ [(l, a)]) (PresentedAt p nonce) →
      (plugin p).Happened s₀ tr (PresentedAt p nonce) := fun nonce hpresented =>
    (hpresented.of_snoc hrun).resolve_right (hquiet nonce)
  have hseen : s'.shared.seen = uuid :: s.shared.seen := by
    rw [hshared]
    rfl
  refine ⟨?_, fun e he => ?_, fun e he hpresented => ?_, fun e he => ?_, fun nonce hpresented => ?_,
    fun i pending hi => (h.admitted i pending (hthreads i pending hi)).append _⟩
  · rw [hshared, PluginShared.issueImportNonce, List.map_append, List.nodup_append']
    refine ⟨h.nodup.sublist (List.filter_sublist.map _), List.nodup_singleton _, ?_⟩
    simp only [List.map_cons, List.map_nil, List.disjoint_singleton]
    rintro hold
    obtain ⟨e, he, rfl⟩ := List.mem_map.mp hold
    exact hfresh (h.listed e (List.mem_filter.mp he).1)
  · rcases hmem e he with ⟨hold, -⟩ | rfl
    · obtain ⟨t, ht, hexpires⟩ := h.issued e hold
      exact ⟨t, ht.snoc _, hexpires⟩
    · subst hanswer
      exact ⟨s.shared.now, .last hrun hen ⟨hevent, rfl⟩, rfl⟩
  · rcases hmem e he with ⟨hold, -⟩ | rfl
    · exact h.unpresented e hold (hpast _ hpresented)
    · exact hfresh (h.seen _ (hpast _ hpresented))
  · rw [hseen]
    rcases hmem e he with ⟨hold, -⟩ | rfl
    · exact List.mem_cons_of_mem _ (h.listed e hold)
    · exact List.mem_cons_self
  · rw [hseen]
    exact List.mem_cons_of_mem _ (h.seen nonce (hpast nonce hpresented))

/-- A nonce is presented. -/
lemma PluginHistory.presented (h : PluginHistory p s₀ tr s) (hrun : (plugin p).Run s₀ tr s)
    {l : PluginLabel} {s' : Plugin} {a : Option PluginEvent} {nonce : String}
    (hshared : s'.shared = (s.shared.consumeImportNonce nonce).2)
    (honly : ∀ other, PresentedAt p other l a s → other = nonce)
    (hthreads : ∀ (i : ℕ) pending, s'.threads[i]? = some (.claiming pending) →
      s.threads[i]? = some (.claiming pending) ∨ Admitted p s₀ (tr ++ [(l, a)]) i pending) :
    PluginHistory p s₀ (tr ++ [(l, a)]) s' := by
  have hmem : ∀ e ∈ s'.shared.importNonces, e ∈ s.shared.importNonces ∧ e.1 ≠ nonce := by
    intro e he
    rw [hshared] at he
    simpa using List.mem_filter.mp he
  have hseen : s'.shared.seen = nonce :: s.shared.seen := by
    rw [hshared]
    rfl
  refine ⟨?_, fun e he => ?_, fun e he hpresented => ?_, fun e he => ?_, fun other hpresented => ?_,
    fun i pending hi => ?_⟩
  · rw [hshared]
    exact h.nodup.sublist (List.filter_sublist.map _)
  · obtain ⟨t, ht, hexpires⟩ := h.issued e (hmem e he).1
    exact ⟨t, ht.snoc _, hexpires⟩
  · rcases hpresented.of_snoc hrun with hpresented | hpresented
    · exact h.unpresented e (hmem e he).1 hpresented
    · exact (hmem e he).2 (honly _ hpresented)
  · rw [hseen]
    exact List.mem_cons_of_mem _ (h.listed e (hmem e he).1)
  · rw [hseen]
    rcases hpresented.of_snoc hrun with hpresented | hpresented
    · exact List.mem_cons_of_mem _ (h.seen other hpresented)
    · rw [honly other hpresented]
      exact List.mem_cons_self
  · rcases hthreads i pending hi with hold | hadmitted
    · exact (h.admitted i pending hold).append _
    · exact hadmitted

/-- A nonce that is valid has been issued not long before, and never been presented. -/
lemma PluginHistory.valid (h : PluginHistory p s₀ tr s) {nonce : String}
    (hvalid : (s.shared.consumeImportNonce nonce).1 = true) :
    (∃ t, (plugin p).Happened s₀ tr (IssuedAt nonce t) ∧ s.shared.now < t + importNonceTtl) ∧
      ¬ (plugin p).Happened s₀ tr (PresentedAt p nonce) := by
  simp only [PluginShared.consumeImportNonce, Option.any_eq_true, decide_eq_true_eq] at hvalid
  obtain ⟨expires, hlookup, hlive⟩ := hvalid
  obtain ⟨before, after, heq, -⟩ := List.lookup_eq_some_iff.mp hlookup
  have hmem : (nonce, expires) ∈ s.shared.importNonces := by
    rw [heq]
    exact List.mem_append_right _ List.mem_cons_self
  obtain ⟨t, ht, hexpires⟩ := h.issued _ hmem
  exact ⟨⟨t, ht, hexpires ▸ hlive⟩, h.unpresented _ hmem⟩

lemma Request.Presents.unique {r : Request} {nonce nonce' : String} (h : r.Presents p nonce)
    (h' : r.Presents p nonce') : nonce = nonce' := by
  obtain ⟨-, payload, hpayload, hnonce⟩ := h
  obtain ⟨-, payload', hpayload', hnonce'⟩ := h'
  obtain rfl := Except.ok.inj (hpayload.symm.trans hpayload')
  exact Option.some.inj (Except.ok.inj (hnonce.symm.trans hnonce'))

/-- The page is not served to who presents a nonce. -/
lemma not_presents_of_issues {r : Request} (h : Plugin.issues p (.request r)) (nonce : String) :
    ¬ r.Presents p nonce := by
  rintro ⟨⟨hpath, -⟩, -⟩
  have hsame : some importPath = some claimPath := h.2.symm.trans hpath
  exact absurd (Option.some.inj hsame) (by decide)

/-- The `i`-th request runs a block after its first. -/
lemma PluginHistory.later (h : PluginHistory p s₀ tr s) (hrun : (plugin p).Run s₀ tr s) {i : ℕ}
    {draw : PluginDraw} {t : PluginTask} (hi : s.threads[i]? = some t) (ht : ∀ r, t ≠ .request r) :
    PluginHistory p s₀ (tr ++ [(.advance i draw, ((plugin p).step s (.advance i draw)).1)])
      ((plugin p).step s (.advance i draw)).2 := by
  have hleaves : LeavesNonces s.shared (t.block p draw s.shared) := block_leavesNonces ht
  have hstep : (plugin p).step s (.advance i draw) =
      ((t.block p draw s.shared).1, s.after i (t.block p draw s.shared).2) := by
    simp only [plugin, Plugin.step, hi]
  rw [hstep]
  refine h.other hrun hleaves.importNonces hleaves.seen ?_ fun j pending hj => ?_
  · rintro nonce ⟨_, _, r, ⟨rfl, rfl⟩, hr, -⟩
    exact ht r (Option.some.inj (hi.symm.trans hr))
  · rw [Threads.after, hleaves.started, List.append_nil, List.getElem?_set] at hj
    split_ifs at hj with hij hlt
    · exact absurd (Option.some.inj hj) (hleaves.next pending)
    · exact hj

/-- The `i`-th request runs its first block. -/
lemma PluginHistory.first (h : PluginHistory p s₀ tr s) (hrun : (plugin p).Run s₀ tr s) {i : ℕ}
    {draw : PluginDraw} {r : Request} (hi : s.threads[i]? = some (.request r))
    (hen : (plugin p).enabled s (.advance i draw)) :
    PluginHistory p s₀ (tr ++ [(.advance i draw, ((plugin p).step s (.advance i draw)).1)])
      ((plugin p).step s (.advance i draw)).2 := by
  have hstep : (plugin p).step s (.advance i draw) =
      ((handleImportRoute p r draw.uuid s.shared).1,
        s.after i (handleImportRoute p r draw.uuid s.shared).2) := by
    simp only [plugin, Plugin.step, hi, PluginTask.block]
  have hpresents : ∀ nonce, PresentedAt p nonce (.advance i draw)
      ((plugin p).step s (.advance i draw)).1 s → r.Presents p nonce := by
    rintro nonce ⟨_, _, r', ⟨rfl, rfl⟩, hr', hnonce⟩
    obtain rfl := PluginTask.request.inj (Option.some.inj (hi.symm.trans hr'))
    exact hnonce
  have hthreads : ∀ {b : PluginBlock} (j : ℕ) (pending : Presented), b.2.started = [] →
      (s.after i b.2).threads[j]? = some (.claiming pending) →
      s.threads[j]? = some (.claiming pending) ∨ j = i ∧ b.2.next = .claiming pending := by
    intro b j pending hstarted hj
    rw [Threads.after, hstarted, List.append_nil, List.getElem?_set] at hj
    split_ifs at hj with hij hlt
    · exact .inr ⟨hij.symm, Option.some.inj hj⟩
    · exact .inl hj
  -- the first block issues a nonce, spends one, or does neither
  have hturn : RequestTurn p r draw.uuid s.shared (handleImportRoute p r draw.uuid s.shared) :=
    handleImportRoute_turn
  generalize hb : handleImportRoute p r draw.uuid s.shared = b at hturn hstep
  cases hturn with
  | page hissues =>
    obtain ⟨t, ht, hfresh⟩ := hen
    obtain rfl := Option.some.inj (hi.symm.trans (Option.mem_def.mp ht))
    refine h.page hrun ⟨_, Option.mem_def.mpr hi, hfresh⟩ rfl ?_
      (hfresh hissues) ?_ (fun nonce hnonce => not_presents_of_issues hissues nonce
        (hpresents nonce hnonce)) fun j pending hj => ?_
    · rw [hstep]
      rfl
    · rw [hstep]
      rfl
    · rw [hstep] at hj
      rcases hthreads j pending rfl hj with hj | ⟨-, hnext⟩
      · exact hj
      · cases hnext
  | other response hpage hnone =>
    refine h.other hrun ?_ ?_ (fun nonce hnonce => hnone nonce (hpresents nonce hnonce))
      fun j pending hj => ?_
    · rw [hstep]
      rfl
    · rw [hstep]
      rfl
    · rw [hstep] at hj
      rcases hthreads j pending rfl hj with hj | ⟨-, hnext⟩
      · exact hj
      · cases hnext
  | refused nonce e hnonce =>
    refine h.presented hrun ?_ (fun other hother =>
      (hpresents other hother).unique hnonce) fun j pending hj => ?_
    · rw [hstep]
      rfl
    · rw [hstep] at hj
      rcases hthreads j pending rfl hj with hj | ⟨-, hnext⟩
      · exact .inl hj
      · cases hnext
  | claimed payload nonce pending hnonce hpayload hvalid hpending =>
    refine h.presented hrun ?_ (fun other hother =>
      (hpresents other hother).unique hnonce) fun j pending' hj => ?_
    · rw [hstep]
      rfl
    · rw [hstep] at hj
      rcases hthreads j pending' rfl hj with hj | ⟨rfl, hnext⟩
      · exact .inl hj
      · obtain rfl := PluginTask.claiming.inj hnext
        -- what goes on to the node is the nonce that was presented
        have hname : pending.nonce = nonce := by
          simp only [presentedWith, Except.bind_eq_ok] at hpending
          obtain ⟨_, -, _, -, _, -, _, -, heq⟩ := hpending
          obtain rfl := Except.ok.inj heq
          rfl
        subst hname
        refine .inr ⟨tr, _, [], s, rfl, hrun, ?_, h.valid hvalid⟩
        exact ⟨draw, r, payload, rfl, hi, hnonce, hpayload, hpending, by rw [hstep]; rfl⟩

lemma PluginHistory.step (h : PluginHistory p s₀ tr s) (hrun : (plugin p).Run s₀ tr s)
    {l : PluginLabel} (hen : (plugin p).enabled s l) :
    PluginHistory p s₀ (tr ++ [(l, ((plugin p).step s l).1)]) ((plugin p).step s l).2 := by
  have hnew : ∀ (t : PluginTask) (j : ℕ) pending, (∀ pending, t ≠ .claiming pending) →
      (s.threads ++ [t])[j]? = some (.claiming pending) →
      s.threads[j]? = some (.claiming pending) := by
    intro t j pending ht hj
    rcases getElem?_concat_eq_some.mp hj with hj | ⟨-, heq⟩
    · exact hj
    · exact absurd heq.symm (ht pending)
  cases l with
  | request r =>
    refine h.other hrun rfl rfl (fun nonce => ?_) fun j pending => hnew _ j pending fun _ => nofun
    rintro ⟨_, _, _, heq, -⟩
    cases heq
  | execute tool params =>
    refine h.other hrun rfl rfl (fun nonce => ?_) fun j pending => hnew _ j pending fun _ => nofun
    rintro ⟨_, _, _, heq, -⟩
    cases heq
  | wait now =>
    refine h.other hrun rfl rfl (fun nonce => ?_) fun j pending hj => hj
    rintro ⟨_, _, _, heq, -⟩
    cases heq
  | advance i draw =>
    obtain ⟨t, ht, hfresh⟩ := hen
    have hi : s.threads[i]? = some t := Option.mem_def.mp ht
    by_cases hfirst : ∃ r, t = .request r
    · obtain ⟨r, rfl⟩ := hfirst
      exact h.first hrun hi ⟨_, ht, hfresh⟩
    · exact h.later hrun hi fun r hr => hfirst ⟨r, hr⟩

lemma history_of_run (h₀ : (plugin p).init s₀) (h : (plugin p).Run s₀ tr s) :
    PluginHistory p s₀ tr s :=
  h.history (history_init h₀) fun _ _ _ hrun hhistory hen => hhistory.step hrun hen

/-- Only the answer of the node is saved, once it has been checked. -/
lemma saves_of_step {l : PluginLabel} {claim : Claim} (hen : (plugin p).enabled s l)
    (h : ((plugin p).step s l).1 = some (.saveConfig claim)) :
    ∃ i draw pending, l = .advance i draw ∧ s.threads[i]? = some (.claiming pending) ∧
      checkClaim p pending s.shared.now draw.answer = .ok claim := by
  cases l with
  | request r => cases h
  | execute tool params => cases h
  | wait now => cases h
  | advance i draw =>
    obtain ⟨t, ht, -⟩ := hen
    have hi : s.threads[i]? = some t := Option.mem_def.mp ht
    have hblock : (t.block p draw s.shared).1 = some (.saveConfig claim) := by
      have hstep : ((plugin p).step s (.advance i draw)).1 = (t.block p draw s.shared).1 := by
        simp only [plugin, Plugin.step, hi]
      exact hstep.symm.trans h
    cases t with
    | request r =>
      -- the first block answers or goes on, and saves nothing
      exfalso
      have hturn : RequestTurn p r draw.uuid s.shared (handleImportRoute p r draw.uuid s.shared) :=
        handleImportRoute_turn
      have hevent : (handleImportRoute p r draw.uuid s.shared).1 = some (.saveConfig claim) :=
        hblock
      generalize handleImportRoute p r draw.uuid s.shared = b at hturn hevent
      cases hturn <;> cases hevent
    | claiming pending =>
      refine ⟨i, draw, pending, rfl, hi, ?_⟩
      unfold PluginTask.block at hblock
      dsimp only at hblock
      split at hblock
      · cases hblock
      · next claim' hclaim =>
        cases hblock
        exact hclaim
    | writing claim' =>
      unfold PluginTask.block at hblock
      dsimp only at hblock
      split at hblock <;> cases hblock
    | moving claim' =>
      unfold PluginTask.block at hblock
      dsimp only at hblock
      split at hblock <;> cases hblock
    | execute tool params =>
      unfold PluginTask.block at hblock
      dsimp only at hblock
      split at hblock <;> cases hblock
    | calling tool lookup => cases hblock
    | answered => cases hblock

end Runs

/-! ## The token -/

section Token

variable {p} {s s' : PluginShared}

/-- The claim without its token. -/
def Claim.forget (claim : Claim) : Claim := { claim with authToken := "" }

/-- The task without its token. -/
def PluginTask.forget : PluginTask → PluginTask
  | .writing claim => .writing claim.forget
  | .moving claim => .moving claim.forget
  | t => t

/-- What the requests share, without the token. -/
def PluginShared.forget (s : PluginShared) : PluginShared :=
  { s with
    temporary := s.temporary.map (Option.map Claim.forget)
    config := s.config.map (Option.map Claim.forget) }

/-- What two plugins have in common that are alike but for the tokens they have been sent. -/
def Plugin.forget (s : Plugin) : Plugin := ⟨s.shared.forget, s.threads.map PluginTask.forget⟩

/-- Two blocks show the same to a browser, and leave the same but for tokens. -/
structure BlocksAlike (b b' : PluginBlock) : Prop where
  event : seenByBrowser b.1 = seenByBrowser b'.1
  next : b.2.next.forget = b'.2.next.forget
  started : b.2.started = [] ∧ b'.2.started = []
  shared : b.2.shared.forget = b'.2.shared.forget

lemma alike_reply (h : s.forget = s'.forget) (response : Option Response) :
    BlocksAlike (s.reply response) (s'.reply response) := ⟨rfl, rfl, ⟨rfl, rfl⟩, h⟩

/-- What `forget` leaves is read off it. -/
lemma forget_fields (h : s.forget = s'.forget) : s.now = s'.now ∧
    s.importNonces = s'.importNonces ∧ s.seen = s'.seen := by
  have hnow : s.forget.now = s'.forget.now := by rw [h]
  have hnonces : s.forget.importNonces = s'.forget.importNonces := by rw [h]
  have hseen : s.forget.seen = s'.forget.seen := by rw [h]
  exact ⟨hnow, hnonces, hseen⟩

lemma forget_eq (hnow : s.now = s'.now) (hnonces : s.importNonces = s'.importNonces)
    (hseen : s.seen = s'.seen)
    (htemporary : s.temporary.map (Option.map Claim.forget) =
      s'.temporary.map (Option.map Claim.forget))
    (hconfig : s.config.map (Option.map Claim.forget) =
      s'.config.map (Option.map Claim.forget)) : s.forget = s'.forget := by
  simp only [PluginShared.forget, hnow, hnonces, hseen, htemporary, hconfig]

lemma request_alike (h : s.forget = s'.forget) (r : Request) (uuid : String) :
    BlocksAlike (handleImportRoute p r uuid s) (handleImportRoute p r uuid s') := by
  obtain ⟨hnow, hnonces, hseen⟩ := forget_fields h
  have htemporary := congrArg PluginShared.temporary h
  have hconfig := congrArg PluginShared.config h
  have hissue : (s.issueImportNonce uuid).forget = (s'.issueImportNonce uuid).forget := by
    simp only [PluginShared.issueImportNonce, hnow, hnonces, hseen]
    exact forget_eq rfl rfl rfl htemporary hconfig
  -- nonces are not among what is forgotten
  have hconsume : ∀ nonce, (s.consumeImportNonce nonce).1 = (s'.consumeImportNonce nonce).1 ∧
      (s.consumeImportNonce nonce).2.forget = (s'.consumeImportNonce nonce).2.forget := by
    intro nonce
    simp only [PluginShared.consumeImportNonce, hnow, hnonces, hseen]
    exact ⟨trivial, forget_eq rfl rfl rfl htemporary hconfig⟩
  unfold handleImportRoute
  split
  · exact alike_reply h _
  · split_ifs
    · exact alike_reply hissue _
    · exact alike_reply h _
    · exact alike_reply h _
    · unfold claimRoute
      split
      · exact alike_reply h _
      · split
        · exact alike_reply h _
        · exact alike_reply h _
        · next nonce _ =>
          unfold claimWithNonce
          obtain ⟨hvalid, hspent⟩ := hconsume nonce
          dsimp only
          rw [← hvalid]
          split_ifs
          · split
            · exact alike_reply hspent _
            · exact ⟨rfl, rfl, ⟨rfl, rfl⟩, hspent⟩
          · exact alike_reply hspent _
    · exact alike_reply h _
    · exact alike_reply h _

/-- Two results fail alike, or give claims that are alike. -/
def ResultsAlike (a b : Except String Claim) : Prop := a.map Claim.forget = b.map Claim.forget

lemma ResultsAlike.cases {a b : Except String Claim} (h : ResultsAlike a b) :
    (∃ e, a = .error e ∧ b = .error e) ∨
      ∃ c c', a = .ok c ∧ b = .ok c' ∧ c.forget = c'.forget := by
  unfold ResultsAlike at h
  cases a with
  | error e =>
    cases b with
    | error e' => exact .inl ⟨e, rfl, by rw [Except.error.inj h]⟩
    | ok c' => cases h
  | ok c =>
    cases b with
    | error e' => cases h
    | ok c' => exact .inr ⟨c, c', rfl, rfl, Except.ok.inj h⟩

/-- What is told of a claim is told without its token. -/
lemma confirmation_forget (claim : Claim) : confirmation claim.forget = confirmation claim := rfl

lemma confirmation_alike {c c' : Claim} (h : c.forget = c'.forget) :
    confirmation c = confirmation c' := by
  rw [← confirmation_forget c, h, confirmation_forget]

lemma writing_alike (h : s.forget = s'.forget) {c c' : Claim} (hc : c.forget = c'.forget)
    (draw draw' : PluginDraw) (hfile : draw.file = draw'.file) :
    BlocksAlike ((PluginTask.writing c).block p draw s)
      ((PluginTask.writing c').block p draw' s') := by
  obtain ⟨hnow, hnonces, hseen⟩ := forget_fields h
  have hconfig := congrArg PluginShared.config h
  unfold PluginTask.block PluginShared.writeTemporary
  rw [← hfile]
  cases draw.file with
  | done =>
    refine ⟨rfl, by simp [PluginTask.forget, hc], ⟨rfl, rfl⟩, ?_⟩
    exact forget_eq hnow hnonces hseen (by simp [hc]) hconfig
  | failed message torn =>
    cases torn with
    | true =>
      refine alike_reply ?_ _
      exact forget_eq hnow hnonces hseen rfl hconfig
    | false => exact alike_reply h _

lemma moving_alike (h : s.forget = s'.forget) {c c' : Claim} (hc : c.forget = c'.forget)
    (draw draw' : PluginDraw) (hfile : draw.file = draw'.file) :
    BlocksAlike ((PluginTask.moving c).block p draw s)
      ((PluginTask.moving c').block p draw' s') := by
  obtain ⟨hnow, hnonces, hseen⟩ := forget_fields h
  have htemporary : s.temporary.map (Option.map Claim.forget) =
      s'.temporary.map (Option.map Claim.forget) := congrArg PluginShared.temporary h
  unfold PluginTask.block PluginShared.renameTemporary
  rw [← hfile]
  cases draw.file with
  | failed message torn => exact alike_reply h _
  | done =>
    cases hs : s.temporary with
    | none =>
      cases hs' : s'.temporary with
      | none => exact alike_reply h _
      | some text' => simp [hs, hs'] at htemporary
    | some text =>
      cases hs' : s'.temporary with
      | none => simp [hs, hs'] at htemporary
      | some text' =>
        dsimp only
        rw [confirmation_alike hc]
        refine alike_reply ?_ _
        exact forget_eq hnow hnonces hseen rfl (by simpa [hs, hs'] using htemporary)

lemma execute_alike (h : s.forget = s'.forget) (tool : Tool) (params : Fields)
    (draw draw' : PluginDraw) :
    BlocksAlike ((PluginTask.execute tool params).block p draw s)
      ((PluginTask.execute tool params).block p draw' s') := by
  have hconfig : s.config.map (Option.map Claim.forget) =
      s'.config.map (Option.map Claim.forget) := congrArg PluginShared.config h
  have hload : ResultsAlike s.loadConfig s'.loadConfig := by
    unfold ResultsAlike PluginShared.loadConfig
    rcases hs : s.config with _ | _ | c <;> rcases hs' : s'.config with _ | _ | c' <;>
      simp [hs, hs', Except.map] at hconfig ⊢
    exact hconfig
  unfold PluginTask.block
  dsimp only
  rcases hload.cases with ⟨e, he, he'⟩ | ⟨c, c', hc, hc', hsame⟩
  · rw [he, he']
    exact ⟨rfl, rfl, ⟨rfl, rfl⟩, h⟩
  · have hbase : c.forget.baseUrl = c'.forget.baseUrl := by rw [hsame]
    have hbase : c.baseUrl = c'.baseUrl := hbase
    rw [hc, hc']
    simp only [Except.bind, toolCall, hbase]
    cases p.resolve tool.path c'.baseUrl with
    | none => exact ⟨rfl, rfl, ⟨rfl, rfl⟩, h⟩
    | some target => exact ⟨rfl, rfl, ⟨rfl, rfl⟩, h⟩

/-- A claim that is checked comes to the same, but for the token. -/
lemma checkClaim_alike {a b : NodeAnswer} (h : SameButToken p a b) (pending : Presented) (now : ℕ) :
    ResultsAlike (checkClaim p pending now a) (checkClaim p pending now b) := by
  obtain ⟨status, text, text', fields, fields', token, token', rfl, rfl, hfields, hfields', htoken,
    htoken', hne, hne', hsame⟩ := h
  -- the token is read as a text that is not empty, and every other field is the same
  have hget : ∀ key, key ≠ "auth_token" →
      (Json.object fields).get? key = (Json.object fields').get? key := hsame
  have hread : requireString ((Json.object fields).get? "auth_token") "auth_token" =
      .ok (jsTrim token) := by
    simp only [Json.get?, htoken, requireString, hne, if_false]
  have hread' : requireString ((Json.object fields').get? "auth_token") "auth_token" =
      .ok (jsTrim token') := by
    simp only [Json.get?, htoken', requireString, hne', if_false]
  have hclaim : ResultsAlike (normalizeClaim p now (.object fields))
      (normalizeClaim p now (.object fields')) := by
    unfold ResultsAlike normalizeClaim
    dsimp only
    rw [hread, hread', hget "manifest_url" (by decide), hget "base_url" (by decide),
      hget "auth_header" (by decide), hget "paired_at" (by decide),
      hget "auth_token_fingerprint" (by decide), hget "expires_at" (by decide),
      hget "safety_rules" (by decide)]
    refine Except.map_bind_congr fun _ => Except.map_bind_congr fun _ =>
      Except.map_bind_congr fun _ => ?_
    rw [Except.ok_bind, Except.ok_bind]
    exact Except.map_bind_congr fun _ => rfl
  have hdetails : claimDetails p (.answered true status text) = .ok (.object fields) := by
    simp only [claimDetails, hfields, if_true]
  have hdetails' : claimDetails p (.answered true status text') = .ok (.object fields') := by
    simp only [claimDetails, hfields', if_true]
  unfold checkClaim
  rw [hdetails, hdetails', Except.ok_bind, Except.ok_bind]
  rcases hclaim.cases with ⟨e, he, he'⟩ | ⟨c, c', hc, hc', hforget⟩
  · rw [he, he']
    rfl
  · have hmanifest : c.forget.manifestUrl = c'.forget.manifestUrl := by rw [hforget]
    have hbase : c.forget.baseUrl = c'.forget.baseUrl := by rw [hforget]
    have hmanifest : c.manifestUrl = c'.manifestUrl := hmanifest
    have hbase : c.baseUrl = c'.baseUrl := hbase
    rw [hc, hc', Except.ok_bind, Except.ok_bind, hmanifest, hbase]
    refine Except.map_bind_congr fun _ => Except.map_bind_congr fun _ =>
      Except.map_bind_congr fun _ => ?_
    exact Except.map_bind_congr fun _ => congrArg Except.ok hforget

lemma claiming_alike (h : s.forget = s'.forget) (pending : Presented) (draw draw' : PluginDraw)
    (hanswer : draw.answer = draw'.answer ∨ SameButToken p draw.answer draw'.answer) :
    BlocksAlike ((PluginTask.claiming pending).block p draw s)
      ((PluginTask.claiming pending).block p draw' s') := by
  have halike : ResultsAlike (checkClaim p pending s.now draw.answer)
      (checkClaim p pending s'.now draw'.answer) := by
    rw [(forget_fields h).1]
    rcases hanswer with heq | hsame
    · rw [heq]
      rfl
    · exact checkClaim_alike hsame pending _
  unfold PluginTask.block
  dsimp only
  rcases halike.cases with ⟨e, he, he'⟩ | ⟨c, c', hc, hc', hforget⟩
  · rw [he, he']
    exact alike_reply h _
  · rw [hc, hc']
    exact ⟨rfl, congrArg PluginTask.writing hforget, ⟨rfl, rfl⟩, h⟩

/-- Blocks of tasks that are alike are alike. -/
lemma block_alike (h : s.forget = s'.forget) {t t' : PluginTask} (ht : t.forget = t'.forget)
    (draw draw' : PluginDraw) (huuid : draw.uuid = draw'.uuid) (hfile : draw.file = draw'.file)
    (hanswer : draw.answer = draw'.answer ∨ SameButToken p draw.answer draw'.answer) :
    BlocksAlike (t.block p draw s) (t'.block p draw' s') := by
  cases t with
  | request r =>
    cases t' <;> simp only [PluginTask.forget, reduceCtorEq, PluginTask.request.injEq] at ht
    subst ht
    unfold PluginTask.block
    dsimp only
    rw [← huuid]
    exact request_alike h r draw.uuid
  | claiming pending =>
    cases t' <;> simp only [PluginTask.forget, reduceCtorEq, PluginTask.claiming.injEq] at ht
    subst ht
    exact claiming_alike h pending draw draw' hanswer
  | writing c =>
    cases t' <;> simp only [PluginTask.forget, reduceCtorEq, PluginTask.writing.injEq] at ht
    exact writing_alike h ht draw draw' hfile
  | moving c =>
    cases t' <;> simp only [PluginTask.forget, reduceCtorEq, PluginTask.moving.injEq] at ht
    exact moving_alike h ht draw draw' hfile
  | execute tool params =>
    cases t' <;> simp only [PluginTask.forget, reduceCtorEq, PluginTask.execute.injEq] at ht
    obtain ⟨rfl, rfl⟩ := ht
    exact execute_alike h tool params draw draw'
  | calling tool lookup =>
    cases t' <;> simp only [PluginTask.forget, reduceCtorEq] at ht
    exact ⟨rfl, rfl, ⟨rfl, rfl⟩, h⟩
  | answered =>
    cases t' <;> simp only [PluginTask.forget, reduceCtorEq] at ht
    exact ⟨rfl, rfl, ⟨rfl, rfl⟩, h⟩

end Token

section TwoRuns

variable {p} {s s' : Plugin}

/-- Steps that are alike show the same to a browser. -/
lemma step_alike (h : s.forget = s'.forget) {l l' : PluginLabel} (hl : Alike p l l') :
    seenByBrowser ((plugin p).step s l).1 = seenByBrowser ((plugin p).step s' l').1 ∧
      ((plugin p).step s l).2.forget = ((plugin p).step s' l').2.forget := by
  have hshared : s.shared.forget = s'.shared.forget := congrArg Threads.shared h
  have hthreads : s.threads.map PluginTask.forget = s'.threads.map PluginTask.forget :=
    congrArg Threads.threads h
  -- the draws may differ in the token of the node alone
  have hadvance : ∀ (i : ℕ) (draw draw' : PluginDraw), draw.uuid = draw'.uuid →
      draw.file = draw'.file →
      (draw.answer = draw'.answer ∨ SameButToken p draw.answer draw'.answer) →
      seenByBrowser ((plugin p).step s (.advance i draw)).1 =
          seenByBrowser ((plugin p).step s' (.advance i draw')).1 ∧
        ((plugin p).step s (.advance i draw)).2.forget =
          ((plugin p).step s' (.advance i draw')).2.forget := by
    intro i draw draw' huuid hfile hanswer
    have hi : (s.threads[i]?).map PluginTask.forget = (s'.threads[i]?).map PluginTask.forget := by
      rw [← List.getElem?_map, hthreads, List.getElem?_map]
    cases ht : s.threads[i]? with
    | none =>
      cases ht' : s'.threads[i]? with
      | none =>
        simp only [plugin, Plugin.step, ht, ht']
        exact ⟨trivial, h⟩
      | some t' => simp [ht, ht'] at hi
    | some t =>
      cases ht' : s'.threads[i]? with
      | none => simp [ht, ht'] at hi
      | some t' =>
        have hforget : t.forget = t'.forget := by simpa [ht, ht'] using hi
        have hblocks := block_alike hshared hforget draw draw' huuid hfile hanswer
        simp only [plugin, Plugin.step, ht, ht']
        refine ⟨hblocks.event, ?_⟩
        simp only [Plugin.forget, Threads.after, hblocks.started.1, hblocks.started.2,
          List.append_nil, List.map_set, hblocks.next, hblocks.shared, hthreads]
  cases hl with
  | answer i draw answer hsame => exact hadvance i draw _ rfl rfl (.inr hsame)
  | same l =>
    cases l with
    | advance i draw => exact hadvance i draw draw rfl rfl (.inl rfl)
    | request r =>
      refine ⟨rfl, ?_⟩
      simp only [plugin, Plugin.step, Plugin.forget, List.map_append, hthreads, hshared]
    | execute tool params =>
      refine ⟨rfl, ?_⟩
      simp only [plugin, Plugin.step, Plugin.forget, List.map_append, hthreads, hshared]
    | wait now =>
      refine ⟨rfl, ?_⟩
      obtain ⟨-, hnonces, hseen⟩ := forget_fields hshared
      simp only [plugin, Plugin.step, Plugin.forget, hthreads, Threads.mk.injEq, and_true]
      exact forget_eq rfl hnonces hseen (congrArg PluginShared.temporary hshared)
        (congrArg PluginShared.config hshared)

/-- Runs that are alike show the same to a browser. -/
lemma exec_alike (h : s.forget = s'.forget) {ls ls' : List PluginLabel}
    (hls : List.Forall₂ (Alike p) ls ls') :
    (((plugin p).exec s ls).1.map fun e => seenByBrowser e.2) =
      ((plugin p).exec s' ls').1.map fun e => seenByBrowser e.2 := by
  induction hls generalizing s s' with
  | nil => rfl
  | cons hl _ ih =>
    obtain ⟨hevent, hnext⟩ := step_alike h hl
    simp only [Machine.exec, List.map_cons, hevent, ih hnext]

end TwoRuns

/-! ## The whole of it -/

/-- **What is imported leads back, and the token stays.**  In every run, for whatever the node
answers, only a claim is saved that was presented with a nonce that the page had been given less
than five minutes before and that no one had presented; its addresses are on this machine, the
manifest is the one of the binding link, and its base has the origin that was called.  And what a
browser sees does not depend on the token that comes with a node's success. -/
theorem imports_safe (hprints : p.Prints) {s₀ s : Plugin}
    {tr : List (PluginLabel × Option PluginEvent)} (h₀ : (plugin p).init s₀)
    (h : (plugin p).Run s₀ tr s) : ImportsSafe p s₀ tr where
  saved before l after claim htr := by
    subst htr
    obtain ⟨m, hrun, hen, hevent, -⟩ := h.cut
    obtain ⟨i, draw, pending, hl, hi, hclaim⟩ := saves_of_step hen hevent.symm
    exact ⟨i, draw, pending, hl, (history_of_run h₀ hrun).admitted i pending hi,
      checkClaim_ok hprints hclaim⟩
  responses ls hls := by
    have hsame : s₀.forget = s₀.forget := rfl
    have halike := exec_alike hsame hls
    rw [h.exec_eq] at halike
    exact halike.symm

/-! ### A page on this machine -/

/-- The node, and the gateway of the plugin. -/
def nodeBase : String := "http://127.0.0.1:8790"

/-- The address of the gateway. -/
def gatewayBase : String := "http://127.0.0.1:18789"

/-- What the page posts. -/
def postedText : String := "posted"

/-- What the page posts. -/
def posted : Json := .object [("nonce", .string "first"), ("code", .string "a code"),
  ("claim_url", .string (nodeBase ++ "/openclaw/pairing/claim")),
  ("manifest_url", .string (nodeBase ++ "/openclaw/manifest"))]

/-- What the node answers, with a token and a fingerprint. -/
def nodeClaim (token fingerprint : String) : Json := .object [
  ("manifest_url", .string (nodeBase ++ "/openclaw/manifest")), ("base_url", .string nodeBase),
  ("auth_header", .string "x-bridge-token"), ("auth_token", .string token),
  ("auth_token_fingerprint", .string fingerprint)]

/-- The text begins with the base address. -/
def isOfBase (base : String) (text : List Char) : Bool := base.toList.isPrefixOf text

/-- An address of one of the two. -/
def localAddress (text : String) : Option (List Char) :=
  if isOfBase nodeBase text.toList = true ∨ isOfBase gatewayBase text.toList = true then
    some text.toList
  else none

/-- The one of the two that an address is of. -/
def baseOf (u : List Char) : String := if isOfBase nodeBase u then nodeBase else gatewayBase

/-- A platform that knows addresses of this machine only. -/
def localPlatform : Platform (List Char) where
  parse := localAddress
  scheme _ := "http"
  host _ := some "127.0.0.1"
  port u := if isOfBase nodeBase u then some 8790 else some 18789
  path u := String.ofList (u.drop (baseOf u).length)
  query _ := none
  fragment _ := none
  setFragment u _ := u
  text u := String.ofList u
  username _ := ""
  password _ := ""
  origin := baseOf
  resolve text base := (localAddress base).map fun u => (baseOf u).toList ++ text.toList
  readJson text :=
    if text = postedText then .ok posted
    else if text = "claim" then .ok (nodeClaim "secret" "12ab")
    else if text = "echo" then .ok (nodeClaim "secret" "secret")
    else .error "Unexpected token"
  numberText text := text
  isoTime _ := "1970-01-01T00:00:00.000Z"

/-- A base does not end in a slash. -/
lemma isOfBase_withoutLastSlash {base : String} {u : List Char}
    (hlast : base.toList.getLast? ≠ some '/') (h : isOfBase base u = true) :
    isOfBase base (withoutLastSlash (String.ofList u)).toList = true := by
  simp only [isOfBase, List.isPrefixOf_iff_prefix] at h ⊢
  obtain ⟨rest, rfl⟩ := h
  unfold withoutLastSlash
  rw [String.toList_ofList]
  split_ifs with hslash
  · rcases List.eq_nil_or_concat rest with rfl | ⟨front, c, rfl⟩
    · rw [List.append_nil] at hslash
      exact absurd hslash hlast
    · rw [String.toList_ofList, List.concat_eq_append, ← List.append_assoc, List.dropLast_concat]
      exact List.prefix_append _ _
  · rw [String.toList_ofList]
    exact List.prefix_append _ _

lemma localAddress_withoutLastSlash {text : String} {u : List Char}
    (h : localAddress text = some u) :
    ∃ v, localAddress (withoutLastSlash (String.ofList u)) = some v := by
  unfold localAddress at h ⊢
  obtain ⟨hof, heq⟩ := Option.ite_none_right_eq_some.mp h
  rw [← Option.some.inj heq]
  exact ⟨_, if_pos (hof.imp (isOfBase_withoutLastSlash (by decide))
    (isOfBase_withoutLastSlash (by decide)))⟩

lemma localPlatform_prints : localPlatform.Prints where
  reparse _ _ hu _ := by
    obtain ⟨v, hv⟩ := localAddress_withoutLastSlash hu
    exact ⟨v, hv, rfl, rfl, rfl, rfl⟩

/-- A plugin that has just been loaded, and has not been paired. -/
def freshPlugin : Plugin := ⟨⟨0, [], [], none, none⟩, []⟩

instance (t : PluginTask) : Decidable (Plugin.issues p t) := by
  unfold Plugin.issues
  split <;> infer_instance

instance (s : Plugin) (l : PluginLabel) : Decidable ((plugin p).enabled s l) := by
  cases l <;> (simp only [plugin, Plugin.Enabled]; infer_instance)

/-- The page is opened, what it posts is claimed at a node that answers the text, and the claim is
saved. -/
def importSteps (answer : String) : List PluginLabel :=
  [.request ⟨some importPath, "GET", none, []⟩,
    .advance 0 ⟨"first", .failed "", .done⟩,
    .request ⟨some claimPath, "POST", some "127.0.0.1:18789", [utf8Bytes postedText]⟩,
    .wait 1000,
    .advance 1 ⟨"", .failed "", .done⟩,
    .advance 1 ⟨"", .answered true 200 answer, .done⟩,
    .advance 1 ⟨"", .failed "", .done⟩,
    .advance 1 ⟨"", .failed "", .done⟩]

/-- The node answers with a token and a fingerprint. -/
theorem imports_safe_paired :
    ImportsSafe localPlatform freshPlugin
        ((plugin localPlatform).exec freshPlugin (importSteps "claim")).1 ∧
      ((plugin localPlatform).exec freshPlugin (importSteps "claim")).2.shared.config =
        some (some ⟨"1970-01-01T00:00:00.000Z", nodeBase ++ "/openclaw/manifest", nodeBase,
          "x-bridge-token", "secret", some "12ab", none, []⟩) :=
  ⟨imports_safe localPlatform localPlatform_prints ⟨rfl, rfl, rfl⟩
    (Machine.run_exec (by decide +kernel)), by decide +kernel⟩

/-- The tokens of what is saved. -/
def savedTokens (tr : List (PluginLabel × Option PluginEvent)) : List String :=
  tr.filterMap fun e =>
    match e.2 with
    | some (.saveConfig claim) => some claim.authToken
    | _ => none

/-- The texts in what is answered. -/
def toldTexts (tr : List (PluginLabel × Option PluginEvent)) : List String :=
  tr.flatMap fun e =>
    match e.2 with
    | some (.respond (some ⟨_, _, .json fields⟩)) => fields.filterMap fun field => string? field.2
    | _ => []

/-- A node that gives the token for its fingerprint gets it told to the page. -/
theorem fingerprint_tells_token :
    ¬ ∀ tr s, (plugin localPlatform).Run freshPlugin tr s →
      ∀ token ∈ savedTokens tr, token ∉ toldTexts tr := by
  intro h
  have hrun : (plugin localPlatform).Run freshPlugin
      ((plugin localPlatform).exec freshPlugin (importSteps "echo")).1
      ((plugin localPlatform).exec freshPlugin (importSteps "echo")).2 :=
    Machine.run_exec (by decide +kernel)
  refine h _ _ hrun "secret" ?_ ?_ <;> decide +kernel

end OzonSuite.OpenClaw
