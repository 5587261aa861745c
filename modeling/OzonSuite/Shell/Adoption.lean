/-
# Who is adopted

The probe of the shell beside the processes that serve the ports: the shell sends one request after
the other and waits for each answer, strangers ask the nodes for proofs in between, and ports change
hands.  This file follows every order of these messages.
-/
import OzonSuite.Shell.Attestation

namespace OzonSuite

open Lib

/-! ## The parties -/

/-- How far the probe is: the pair that is probed, and the pairs that are left. -/
inductive ProbeStage
  | skillHealth (pair : ℕ × ℕ) (rest : List (ℕ × ℕ))
  | agentHealth (pair : ℕ × ℕ) (rest : List (ℕ × ℕ))
  | generateNonce (pair : ℕ × ℕ) (rest : List (ℕ × ℕ))
  | attest (pair : ℕ × ℕ) (rest : List (ℕ × ℕ)) (nonce : String)
  | done (result : ExistingLocalNode)
deriving DecidableEq

namespace ProbeStage

/-- The probe of the given pairs begins. -/
def start : List (ℕ × ℕ) → ProbeStage
  | [] => .done .missing
  | pair :: rest => .skillHealth pair rest

/-- The port and the request that the shell waits for. -/
def request : ProbeStage → Option (ℕ × HttpProbeRequest)
  | .skillHealth pair _ => some (pair.1, .health)
  | .agentHealth pair _ => some (pair.2, .health)
  | .generateNonce _ _ => none
  | .attest pair _ nonce => some (pair.1, .attest nonce)
  | .done _ => none

/-- Where the probe goes on when its request has been answered. -/
def answered (x : AttestCrates) (token : String) (response : Option HttpProbeResponse) :
    ProbeStage → ProbeStage
  | .skillHealth pair rest =>
    if probeHealthEndpoint x response then .agentHealth pair rest else start rest
  | .agentHealth pair rest =>
    if probeHealthEndpoint x response then .generateNonce pair rest else start rest
  | .attest pair rest nonce =>
    if probeAttestEndpoint x token nonce response then
      .done (.ready (apiUrl pair.1) (apiUrl pair.2))
    else start rest
  | .generateNonce pair rest => .generateNonce pair rest
  | .done result => .done result

/-- The nonce of the challenge that the shell waits for. -/
def nonce? : ProbeStage → Option String
  | .attest _ _ nonce => some nonce
  | _ => none

/-- The pair that is probed, once its agent port has passed. -/
def passed? : ProbeStage → Option (ℕ × ℕ)
  | .generateNonce pair _ => some pair
  | .attest pair _ _ => some pair
  | _ => none

/-- The adopted node has this port. -/
def Adopted (port : ℕ) : ProbeStage → Prop
  | .done (.ready skillApi agentApi) => apiUrl port = skillApi ∨ apiUrl port = agentApi
  | _ => False

/-- The probe has come to its end. -/
def IsDone : ProbeStage → Prop
  | .done _ => True
  | _ => False

instance (port : ℕ) : DecidablePred (Adopted port)
  | .done (.ready skillApi agentApi) =>
    inferInstanceAs (Decidable (apiUrl port = skillApi ∨ apiUrl port = agentApi))
  | .done .missing | .skillHealth _ _ | .agentHealth _ _ | .generateNonce _ _ | .attest _ _ _ =>
    inferInstanceAs (Decidable False)

instance : DecidablePred IsDone
  | .done _ => inferInstanceAs (Decidable True)
  | .skillHealth _ _ | .agentHealth _ _ | .generateNonce _ _ | .attest _ _ _ =>
    inferInstanceAs (Decidable False)

/-- The next stage when each port answers as given. -/
def follow (x : AttestCrates) (token : String) (nonce : ℕ × ℕ → String)
    (http : ℕ → HttpProbeRequest → Option HttpProbeResponse) (stage : ProbeStage) : ProbeStage :=
  match stage with
  | .generateNonce pair rest => .attest pair rest (nonce pair)
  | stage =>
    match stage.request with
    | some (port, request) => stage.answered x token (http port request)
    | none => stage

/-- **The probe.**  Stage by stage the shell comes to what `probe_existing_local_node` returns. -/
theorem follow_start (x : AttestCrates) (token : String) (nonce : ℕ × ℕ → String)
    (http : ℕ → HttpProbeRequest → Option HttpProbeResponse) (pairs : List (ℕ × ℕ)) :
    ∃ n, (follow x token nonce http)^[n] (start pairs) =
      .done (probeExistingLocalNode x token nonce http pairs) := by
  induction pairs with
  | nil => exact ⟨0, rfl⟩
  | cons pair rest ih =>
    obtain ⟨n, hn⟩ := ih
    have hstart : start (pair :: rest) = .skillHealth pair rest := rfl
    rw [probeExistingLocalNode, hstart]
    by_cases hskill : probeHealthEndpoint x (http pair.1 .health) = true
    · by_cases hagent : probeHealthEndpoint x (http pair.2 .health) = true
      · by_cases hproof : probeAttestEndpoint x token (nonce pair)
            (http pair.1 (.attest (nonce pair))) = true
        · refine ⟨4, ?_⟩
          simp [follow, request, answered, hskill, hagent, hproof]
        · refine ⟨n + 4, ?_⟩
          rw [Function.iterate_add_apply]
          simp [follow, request, answered, hskill, hagent, hproof, hn]
      · refine ⟨n + 2, ?_⟩
        rw [Function.iterate_add_apply]
        simp [follow, request, answered, hskill, hagent, hn]
    · refine ⟨n + 1, ?_⟩
      rw [Function.iterate_add_apply]
      simp [follow, request, answered, hskill, hn]

end ProbeStage

/-- The loopback ports, the probe of the shell, and what the others have got so far. -/
structure Loopback where
  served : ℕ → Option LoopbackServer
  stage : ProbeStage
  /-- The nonces for which a node that holds the token has given a proof to anyone but the shell. -/
  proofs : List String
  /-- The processes that the token has been sent to. -/
  received : List LoopbackServer

/-- What happens next. -/
inductive LoopbackLabel
  /-- The shell looks for a node. -/
  | probe
  | generateNonce (nonce : String)
  /-- The shell's request is answered. -/
  | answer (response : Option HttpProbeResponse)
  /-- Someone else asks for a proof. -/
  | ask (port : ℕ) (nonce : Option String)
  /-- The port is served by another process, or by none. -/
  | serve (port : ℕ) (server : Option LoopbackServer)
  /-- The shell calls the node that it has adopted. -/
  | sendToken (port : ℕ)

/-- The nonce for which the server gives a proof under the token. -/
def provenNonce (token : String) (header : Option String) : LoopbackServer → Option String
  | .skill config => if config.operatorToken = token then (attestNonce header).toOption else none
  | .agent _ => none
  | .stranger => none

namespace Loopback

/-- An answer to a request.  One that carries the proof for a nonce comes from a process that holds
the token, or the proof has been given away. -/
def CanAnswer (x : AttestCrates) (token : String) (s : Loopback)
    (response : Option HttpProbeResponse) (request : ℕ × HttpProbeRequest) : Prop :=
  match s.served request.1 with
  | none => response = none
  | some server => server.CanAnswer x request.2 response ∧
      ∀ nonce ∈ s.stage.nonce?, proofIn x response = some (attestProof x token nonce) →
        server.Holds token ∨ nonce ∈ s.proofs

instance (x : AttestCrates) (token : String) (s : Loopback) (response : Option HttpProbeResponse) :
    DecidablePred (s.CanAnswer x token response) := fun request => by
  unfold CanAnswer
  split <;> infer_instance

/-- The step can be taken. -/
def Enabled (x : AttestCrates) (token : String) (s : Loopback) : LoopbackLabel → Prop
  | .probe => s.stage.IsDone
  -- the nonce is fresh
  | .generateNonce nonce => s.stage.passed?.isSome ∧ s.stage.nonce?.isNone ∧ IsNonce nonce ∧
      nonce ∉ s.proofs
  | .answer response => ∃ request ∈ s.stage.request, s.CanAnswer x token response request
  | .ask _ _ => True
  | .serve _ _ => True
  | .sendToken port => s.stage.Adopted port

instance (x : AttestCrates) (token : String) (s : Loopback) : DecidablePred (s.Enabled x token)
  | .probe => inferInstanceAs (Decidable s.stage.IsDone)
  | .generateNonce nonce => inferInstanceAs (Decidable (s.stage.passed?.isSome ∧
      s.stage.nonce?.isNone ∧ IsNonce nonce ∧ nonce ∉ s.proofs))
  | .answer response =>
    inferInstanceAs (Decidable (∃ request ∈ s.stage.request, s.CanAnswer x token response request))
  | .ask _ _ => inferInstanceAs (Decidable True)
  | .serve _ _ => inferInstanceAs (Decidable True)
  | .sendToken port => inferInstanceAs (Decidable (s.stage.Adopted port))

/-- What a step does. -/
def step (x : AttestCrates) (token : String) (s : Loopback) : LoopbackLabel → Loopback
  | .probe => { s with stage := .start portCandidates }
  | .generateNonce nonce =>
    match s.stage with
    | .generateNonce pair rest => { s with stage := .attest pair rest nonce }
    | _ => s
  | .answer response => { s with stage := s.stage.answered x token response }
  | .ask port header =>
    { s with
      proofs := (((s.served port).bind (provenNonce token header)).toList) ++ s.proofs }
  | .serve port server => { s with served := Function.update s.served port server }
  | .sendToken port => { s with received := (s.served port).toList ++ s.received }

end Loopback

/-- The probes of a shell that has the token. -/
def loopback (x : AttestCrates) (token : String) : Machine Loopback LoopbackLabel Unit where
  init s := s.stage = .start portCandidates ∧ s.proofs = [] ∧ s.received = []
  enabled := Loopback.Enabled x token
  step s l := ((), s.step x token l)

instance (x : AttestCrates) (token : String) (s : Loopback) (l : LoopbackLabel) :
    Decidable ((loopback x token).enabled s l) :=
  inferInstanceAs (Decidable (s.Enabled x token l))

/-! ## What is wanted -/

/-- Whoever serves the port holds the token. -/
def Loopback.HeldAt (token : String) (s : Loopback) (port : ℕ) : Prop :=
  ∀ server ∈ s.served port, server.Holds token

/-- The ports of an adopted node are served by processes that hold the token, and so did all those
that it has been sent to. -/
structure Trustworthy (token : String) (s : Loopback) : Prop where
  adopted : ∀ skillApi agentApi, s.stage = .done (.ready skillApi agentApi) →
    ∃ pair ∈ portCandidates, skillApi = apiUrl pair.1 ∧ agentApi = apiUrl pair.2 ∧
      s.HeldAt token pair.1 ∧ s.HeldAt token pair.2
  received : ∀ server ∈ s.received, server.Holds token

/-- A process that holds the token serves the skill port of the pair, and one that does not serves
its agent port. -/
def Split (token : String) (served : ℕ → Option LoopbackServer) (pair : ℕ × ℕ) : Prop :=
  (∃ server ∈ served pair.1, server.Holds token) ∧ ∃ server ∈ served pair.2, ¬ server.Holds token

instance (token : String) (served : ℕ → Option LoopbackServer) (pair : ℕ × ℕ) :
    Decidable (Split token served pair) :=
  inferInstanceAs (Decidable ((∃ server ∈ served pair.1, server.Holds token) ∧
    ∃ server ∈ served pair.2, ¬ server.Holds token))

/-- The pair that is probed is split when its agent port passes. -/
def ProbeStage.PassesSplit (x : AttestCrates) (token : String)
    (served : ℕ → Option LoopbackServer) (response : Option HttpProbeResponse) : ProbeStage → Prop
  | .agentHealth pair _ => probeHealthEndpoint x response ∧ Split token served pair
  | _ => False

instance (x : AttestCrates) (token : String) (served : ℕ → Option LoopbackServer)
    (response : Option HttpProbeResponse) :
    DecidablePred (ProbeStage.PassesSplit x token served response)
  | .agentHealth pair _ =>
    inferInstanceAs (Decidable (probeHealthEndpoint x response ∧ Split token served pair))
  | .skillHealth _ _ | .generateNonce _ _ | .attest _ _ _ | .done _ =>
    inferInstanceAs (Decidable False)

/-- No one else gets the proof for the nonce of the challenge that the shell waits for; the pair
that is probed is not split once its agent port has passed; and the ports of an adopted node do not
go to processes without the token. -/
def Unrelayed (x : AttestCrates) (token : String) (s : Loopback) : LoopbackLabel → Prop
  | .ask port header => ∀ server ∈ s.served port, ∀ nonce ∈ s.stage.nonce?,
      provenNonce token header server ≠ some nonce
  | .answer response => ¬ s.stage.PassesSplit x token s.served response
  | .serve port taker =>
    (∀ pair ∈ s.stage.passed?, ¬ Split token (Function.update s.served port taker) pair) ∧
      (s.stage.Adopted port → ∀ server ∈ taker, server.Holds token)
  | _ => True

instance (x : AttestCrates) (token : String) (s : Loopback) :
    (l : LoopbackLabel) → Decidable (Unrelayed x token s l)
  | .ask port header => inferInstanceAs (Decidable (∀ server ∈ s.served port,
      ∀ nonce ∈ s.stage.nonce?, provenNonce token header server ≠ some nonce))
  | .answer response =>
    inferInstanceAs (Decidable (¬ s.stage.PassesSplit x token s.served response))
  | .serve port taker => inferInstanceAs (Decidable ((∀ pair ∈ s.stage.passed?,
      ¬ Split token (Function.update s.served port taker) pair) ∧
        (s.stage.Adopted port → ∀ server ∈ taker, server.Holds token)))
  | .probe | .generateNonce _ | .sendToken _ => inferInstanceAs (Decidable True)

/-! ## What every step keeps -/

lemma apiUrl_injective : Function.Injective apiUrl := fun a b h => by
  have hport : toString a = toString b :=
    (String.append_right_inj "http://127.0.0.1:").mp h
  exact Nat.repr_injective hport

/-- The pairs of a stage. -/
def ProbeStage.pairs : ProbeStage → List (ℕ × ℕ)
  | .skillHealth pair rest => pair :: rest
  | .agentHealth pair rest => pair :: rest
  | .generateNonce pair rest => pair :: rest
  | .attest pair rest _ => pair :: rest
  | .done _ => []

/-- What holds after every step: the ports that have passed are not split between a node and a
stranger, and a nonce is new. -/
structure LoopbackInv (token : String) (s : Loopback) : Prop where
  candidates : ∀ pair ∈ s.stage.pairs, pair ∈ portCandidates
  unsplit : ∀ pair ∈ s.stage.passed?, ¬ Split token s.served pair
  fresh : ∀ nonce ∈ s.stage.nonce?, nonce ∉ s.proofs
  trustworthy : Trustworthy token s

section Steps

variable {x : AttestCrates} {token : String} {s : Loopback}

/-- The probe begins with the pairs that it is given, or ends without a node. -/
lemma LoopbackInv.start (h : LoopbackInv token s) {pairs : List (ℕ × ℕ)}
    (hpairs : ∀ pair ∈ pairs, pair ∈ portCandidates) :
    LoopbackInv token { s with stage := .start pairs } := by
  cases pairs with
  | nil =>
    exact ⟨by simp [ProbeStage.start, ProbeStage.pairs],
      by simp [ProbeStage.start, ProbeStage.passed?],
      by simp [ProbeStage.start, ProbeStage.nonce?], by simp [ProbeStage.start],
      h.trustworthy.received⟩
  | cons pair rest =>
    exact ⟨hpairs, by simp [ProbeStage.start, ProbeStage.passed?],
      by simp [ProbeStage.start, ProbeStage.nonce?], by simp [ProbeStage.start],
      h.trustworthy.received⟩

/-- The answer to the challenge comes from a process that holds the token. -/
lemma LoopbackInv.attested (h : LoopbackInv token s) {pair : ℕ × ℕ} {rest : List (ℕ × ℕ)}
    {nonce : String} {response : Option HttpProbeResponse}
    (hstage : s.stage = .attest pair rest nonce)
    (hanswer : s.CanAnswer x token response (pair.1, .attest nonce))
    (hpass : probeAttestEndpoint x token nonce response = true) :
    ∃ server, s.served pair.1 = some server ∧ server.Holds token := by
  have hproof := proofIn_of_probeAttestEndpoint hpass
  unfold Loopback.CanAnswer at hanswer
  cases hserved : s.served pair.1 with
  | none =>
    simp only [hserved] at hanswer
    rw [hanswer] at hpass
    cases hpass
  | some server =>
    simp only [hserved] at hanswer
    have hnonce : nonce ∈ s.stage.nonce? := by rw [hstage]; rfl
    rcases hanswer.2 nonce hnonce hproof with hholds | hgiven
    · exact ⟨server, rfl, hholds⟩
    · exact absurd hgiven (h.fresh nonce hnonce)

lemma LoopbackInv.answer (h : LoopbackInv token s) {response : Option HttpProbeResponse}
    (hen : s.Enabled x token (.answer response))
    (hsplit : ¬ s.stage.PassesSplit x token s.served response) :
    LoopbackInv token (s.step x token (.answer response)) := by
  obtain ⟨request, hrequest, hanswer⟩ := hen
  obtain ⟨served, stage, proofs, received⟩ := s
  have hcandidates := h.candidates
  simp only [Loopback.step]
  cases stage with
  | skillHealth pair rest =>
    simp only [ProbeStage.answered]
    split
    · exact ⟨hcandidates, by simp [ProbeStage.passed?], by simp [ProbeStage.nonce?], by simp,
        h.trustworthy.received⟩
    · exact h.start fun pair hpair => hcandidates pair (List.mem_cons_of_mem _ hpair)
  | agentHealth pair rest =>
    simp only [ProbeStage.answered]
    split
    · next hpass =>
      refine ⟨hcandidates, fun pair' hpair hbad => hsplit ⟨hpass, ?_⟩, by simp [ProbeStage.nonce?],
        by simp, h.trustworthy.received⟩
      obtain rfl := Option.some.inj hpair
      exact hbad
    · exact h.start fun pair hpair => hcandidates pair (List.mem_cons_of_mem _ hpair)
  | generateNonce pair rest => cases hrequest
  | attest pair rest nonce =>
    obtain rfl := Option.some.inj hrequest
    simp only [ProbeStage.answered]
    split
    · next hpass =>
      obtain ⟨server, hserver, hholds⟩ := h.attested rfl hanswer hpass
      have hunsplit := h.unsplit pair rfl
      refine ⟨by simp [ProbeStage.pairs], by simp [ProbeStage.passed?], by simp [ProbeStage.nonce?],
        fun skillApi agentApi hdone => ?_, h.trustworthy.received⟩
      obtain ⟨rfl, rfl⟩ : apiUrl pair.1 = skillApi ∧ apiUrl pair.2 = agentApi := by
        simpa using hdone
      have hmem : pair ∈ portCandidates := hcandidates pair (List.mem_cons_self ..)
      refine ⟨pair, hmem, rfl, rfl, ?_, fun server' hserver' => ?_⟩
      · intro server' hserver'
        obtain rfl := Option.some.inj (hserver.symm.trans hserver')
        exact hholds
      · -- the pair is not split, and its skill port is served by a holder
        by_contra hnot
        exact hunsplit ⟨⟨server, hserver, hholds⟩, server', hserver', hnot⟩
    · exact h.start fun pair hpair => hcandidates pair (List.mem_cons_of_mem _ hpair)
  | done result => cases hrequest

lemma LoopbackInv.serve (h : LoopbackInv token s) {port : ℕ} {taker : Option LoopbackServer}
    (hunrelayed : Unrelayed x token s (.serve port taker)) :
    LoopbackInv token (s.step x token (.serve port taker)) := by
  obtain ⟨hunsplit, htaker⟩ := hunrelayed
  refine ⟨h.candidates, hunsplit, h.fresh, fun skillApi agentApi hdone => ?_,
    h.trustworthy.received⟩
  obtain ⟨pair, hpair, rfl, rfl, hskill, hagent⟩ := h.trustworthy.adopted skillApi agentApi hdone
  have hheld : ∀ p, s.HeldAt token p → (p = pair.1 ∨ p = pair.2) →
      (s.step x token (.serve port taker)).HeldAt token p := by
    intro p hp hpair server hserver
    simp only [Loopback.step, Function.update_apply] at hserver
    split at hserver
    · next hport =>
      subst hport
      refine htaker ?_ server hserver
      have hdone' : s.stage = .done (.ready (apiUrl pair.1) (apiUrl pair.2)) := hdone
      rw [hdone']
      exact hpair.imp (congrArg apiUrl) (congrArg apiUrl)
    · exact hp server hserver
  exact ⟨pair, hpair, rfl, rfl, hheld _ hskill (.inl rfl), hheld _ hagent (.inr rfl)⟩

lemma LoopbackInv.sendToken (h : LoopbackInv token s) {port : ℕ} (hadopted : s.stage.Adopted port) :
    LoopbackInv token (s.step x token (.sendToken port)) := by
  refine ⟨h.candidates, h.unsplit, h.fresh, h.trustworthy.adopted, fun server hserver => ?_⟩
  rcases List.mem_append.mp hserver with hserver | hserver
  · rw [Option.mem_toList] at hserver
    cases hstage : s.stage with
    | done result =>
      rw [hstage] at hadopted
      cases result with
      | ready skillApi agentApi =>
        obtain ⟨pair, -, rfl, rfl, hskill, hagent⟩ := h.trustworthy.adopted _ _ hstage
        rcases hadopted with hport | hport
        · obtain rfl := apiUrl_injective hport
          exact hskill server hserver
        · obtain rfl := apiUrl_injective hport
          exact hagent server hserver
      | missing => exact hadopted.elim
    | _ =>
      rw [hstage] at hadopted
      exact hadopted.elim
  · exact h.trustworthy.received server hserver

/-- **A step.**  Whatever happens next, if no proof is relayed and no pair split, the invariant is
kept. -/
lemma LoopbackInv.step (h : LoopbackInv token s) {l : LoopbackLabel} (hen : s.Enabled x token l)
    (hunrelayed : Unrelayed x token s l) : LoopbackInv token (s.step x token l) := by
  cases l with
  | probe => exact h.start fun pair hpair => hpair
  | generateNonce nonce =>
    obtain ⟨-, -, -, hfresh⟩ := hen
    obtain ⟨served, stage, proofs, received⟩ := s
    cases stage with
    | generateNonce pair rest =>
      refine ⟨h.candidates, h.unsplit, fun nonce' hnonce => ?_, by simp [Loopback.step],
        h.trustworthy.received⟩
      obtain rfl := Option.some.inj hnonce
      exact hfresh
    | _ => exact h
  | answer response => exact h.answer hen hunrelayed
  | ask port header =>
    refine ⟨h.candidates, h.unsplit, fun nonce hnonce hmem => ?_, h.trustworthy.adopted,
      h.trustworthy.received⟩
    rcases List.mem_append.mp hmem with hgiven | hold
    · rw [Option.mem_toList, Option.bind_eq_some_iff] at hgiven
      obtain ⟨server, hserver, hproven⟩ := hgiven
      exact hunrelayed server hserver nonce hnonce hproven
    · exact h.fresh nonce hnonce hold
  | serve port taker => exact h.serve hunrelayed
  | sendToken port => exact h.sendToken hen

end Steps

/-! ## Every run -/

/-- **Adoption.**  Whatever the order of the messages, as long as no proof for the shell's nonce is
relayed and no pair is split between a node and another process: the ports of the node that the
shell adopts are served by processes that hold the token, and no other process is sent the token. -/
theorem adopted_node_holds_token {x : AttestCrates} {token : String} {s₀ s : Loopback}
    {tr : List (LoopbackLabel × Unit)} (h₀ : (loopback x token).init s₀)
    (h : ((loopback x token).restrict (Unrelayed x token)).Run s₀ tr s) : Trustworthy token s := by
  have hstep : ∀ m l, LoopbackInv token m →
      ((loopback x token).restrict (Unrelayed x token)).enabled m l →
      LoopbackInv token (((loopback x token).restrict (Unrelayed x token)).step m l).2 :=
    fun m l hm hen => hm.step hen.1 hen.2
  have hinit : LoopbackInv token s₀ := by
    obtain ⟨hstage, -, hreceived⟩ := h₀
    refine ⟨?_, ?_, ?_, ?_, ?_⟩
    · rw [hstage]
      exact fun pair hpair => hpair
    · rw [hstage]
      simp [ProbeStage.start, portCandidates, ProbeStage.passed?]
    · rw [hstage]
      simp [ProbeStage.start, portCandidates, ProbeStage.nonce?]
    · rw [hstage]
      simp [ProbeStage.start, portCandidates]
    · simp [hreceived]
  exact (h.invariant hstep hinit).trustworthy

/-! ### A node on the second pair of ports, and a stranger on the first -/

/-- The configuration of a node with its token. -/
def attestedConfig : LocalConfig where
  operatorToken := "operator-secret"
  openclawToken := "bridge-secret"
  useRealOzon := true
  openaiBaseUrl := "https://api.openai.com"
  openaiImageModel := "gpt-image-1"
  defaultEcommerceIntervalSecs := 900
  defaultEcommerceLimit := 20
  leasePublicKeyPem := none
  leaseIssuer := "ozon66-cloud"
  leaseAudience := "ozon-rust-local-node"
  allowUnsignedLease := false

/-- A nonce that the shell has made. -/
def shellNonce : String := "q7Jm2VxT9bLc4RzY8KdP1nWs6HfG3uQa"

/-- The proof for the nonce under the token. -/
def shellProof : String := "22cf66c862b8aa4378f05f609352c0dde991141a0ce20cf3f36f5f91216c07d9"

/-- The answer of that node to the challenge. -/
def proofText : String := r#"{"proof":""# ++ shellProof ++ r#""}"#

/-- The answer of a node that is asked for its health. -/
def nodeHealthText : String :=
  r#"{"service":"ozon-local-node","status":"ok","skill_port":8790,"agent_port":17870,"# ++
  r#""protocol_version":"2026-05-13.local-node.v1","build_commit":"local-build","# ++
  r#""package_version":"0.1.18","supervisor":"tauri-sidecar","# ++
  r#""features":["ozon_read","ozon_write_mock","draft_import1688_mock","# ++
  r#""open_claw_bridge","local_approval"],"real_ozon_enabled":true}"#

/-- The answer of a stranger that passes for a node. -/
def strangerHealthText : String := r#"{"service":"ozon-local-node","status":"ok"}"#

/-- What the crates make of the texts in the runs below. -/
def attestCrates : AttestCrates where
  hmacSha256 key message :=
    if key = utf8Bytes "operator-secret" ∧ message = utf8Bytes shellNonce then
      [34, 207, 102, 200, 98, 184, 170, 67, 120, 240, 95, 96, 147, 82, 192, 221,
        233, 145, 20, 26, 12, 226, 12, 243, 243, 111, 95, 145, 33, 108, 7, 217]
    else []
  healthText _ := nodeHealthText
  attestText proof := r#"{"proof":""# ++ proof ++ r#""}"#
  errorText _ := r#"{"error":"bad request"}"#
  parseHealth text :=
    if text = nodeHealthText ∨ text = strangerHealthText then
      some ⟨some "ozon-local-node", some "ok"⟩
    else none
  parseAttest text := if text = proofText then some ⟨some shellProof⟩ else none

/-- A node that holds the token serves the given pair of ports, and a stranger the other ones. -/
def nodeAt (pair : ℕ × ℕ) : Loopback where
  served port :=
    if port = pair.1 then some (.skill attestedConfig)
    else if port = pair.2 then some (.agent attestedConfig)
    else some .stranger
  stage := .start portCandidates
  proofs := []
  received := []

/-- The same with the probe at another stage. -/
def Loopback.withStage (s : Loopback) (stage : ProbeStage) : Loopback := { s with stage := stage }

lemma trim_nodeHealthText : trim nodeHealthText = nodeHealthText :=
  trimText_of_ends (by decide +kernel) (by decide +kernel)

lemma probe_nodeHealthText :
    probeHealthEndpoint attestCrates (some ⟨200, nodeHealthText⟩) = true := by
  have hparse : attestCrates.parseHealth nodeHealthText =
      some ⟨some "ozon-local-node", some "ok"⟩ := by
    simp only [attestCrates, true_or, if_true]
  simp only [probeHealthEndpoint, trim_nodeHealthText, hparse]
  decide

/-- The runs of the shell in which no proof is relayed and no pair split. -/
abbrev unrelayedLoopback : Machine Loopback LoopbackLabel Unit :=
  (loopback attestCrates "operator-secret").restrict (Unrelayed attestCrates "operator-secret")

/-- The node on the first pair passes the two health checks. -/
lemma healthSteps_allowed {ls : List LoopbackLabel} (h : unrelayedLoopback.Allows
      ((nodeAt (8790, 17870)).withStage (.generateNonce (8790, 17870) portCandidates.tail)) ls) :
    unrelayedLoopback.Allows (nodeAt (8790, 17870))
      (.answer (some ⟨200, nodeHealthText⟩) :: .answer (some ⟨200, nodeHealthText⟩) :: ls) := by
  have hstep : ∀ s l, (unrelayedLoopback.step s l).2 = s.step attestCrates "operator-secret" l :=
    fun _ _ => rfl
  have hskill : (unrelayedLoopback.step (nodeAt (8790, 17870))
      (.answer (some ⟨200, nodeHealthText⟩))).2 =
      (nodeAt (8790, 17870)).withStage (.agentHealth (8790, 17870) portCandidates.tail) := by
    rw [hstep]
    simp only [Loopback.step, nodeAt, ProbeStage.start, portCandidates, ProbeStage.answered,
      probe_nodeHealthText, if_true]
    rfl
  have hagent : (unrelayedLoopback.step ((nodeAt (8790, 17870)).withStage
      (.agentHealth (8790, 17870) portCandidates.tail)) (.answer (some ⟨200, nodeHealthText⟩))).2 =
      (nodeAt (8790, 17870)).withStage (.generateNonce (8790, 17870) portCandidates.tail) := by
    rw [hstep]
    simp only [Loopback.step, Loopback.withStage, ProbeStage.answered, probe_nodeHealthText,
      if_true]
  -- both ports of the pair belong to the same node
  have hanswers : ∀ server : LoopbackServer,
      server = .skill attestedConfig ∨ server = .agent attestedConfig →
      server.CanAnswer attestCrates .health (some ⟨200, nodeHealthText⟩) := by
    rintro server (rfl | rfl)
    · exact .inr rfl
    · exact .inr rfl
  refine ⟨⟨⟨(8790, .health), rfl, hanswers _ (.inl rfl), fun nonce hnonce => (by cases hnonce)⟩,
    id⟩, ?_⟩
  rw [hskill]
  refine ⟨⟨⟨(17870, .health), rfl, hanswers _ (.inr rfl), fun nonce hnonce => (by cases hnonce)⟩,
    ?_⟩, ?_⟩
  · rintro ⟨-, -, server, hserver, hnot⟩
    obtain rfl := Option.some.inj hserver
    exact hnot rfl
  · rw [hagent]
    exact h

/-- The node is on the first pair. -/
theorem adopted_node_holds_token_first_pair : Trustworthy "operator-secret"
    ((loopback attestCrates "operator-secret").exec (nodeAt (8790, 17870))
      [.answer (some ⟨200, nodeHealthText⟩), .answer (some ⟨200, nodeHealthText⟩),
        .generateNonce shellNonce, .answer (some ⟨200, proofText⟩), .sendToken 17870]).2 := by
  rw [← Machine.exec_restrict (Unrelayed attestCrates "operator-secret")]
  exact adopted_node_holds_token ⟨rfl, rfl, rfl⟩
    (Machine.run_exec (healthSteps_allowed (by decide +kernel)))

/-- The stranger on the first pair has the node on the second pair answer the shell's challenge: it
is adopted, and the token is sent to it. -/
theorem stranger_adopted : ¬ ∀ x token s, (loopback x token).Reachable s → Trustworthy token s := by
  intro h
  have hrun : (loopback attestCrates "operator-secret").Run (nodeAt (8791, 17871)) _ _ :=
    Machine.run_exec (by decide +kernel : (loopback attestCrates "operator-secret").Allows
      (nodeAt (8791, 17871))
      [.answer (some ⟨200, strangerHealthText⟩), .answer (some ⟨200, strangerHealthText⟩),
        .generateNonce shellNonce, .ask 8791 (some shellNonce), .answer (some ⟨200, proofText⟩),
        .sendToken 8790])
  have hs := h attestCrates "operator-secret" _ ⟨_, _, ⟨rfl, rfl, rfl⟩, hrun⟩
  exact hs.received .stranger (by decide +kernel)

end OzonSuite
