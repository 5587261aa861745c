/-
# Adopting a node that is running already

Before it starts a sidecar the shell looks for a local node that is running already: it asks the two
ports of each candidate pair for their health, and challenges the first of them to prove that it
holds the operator token.  A node that passes is adopted, and the token is sent to both of its
ports from then on.

Any process may serve a port, and one without the token may answer what it likes and ask other
processes in between.  That the proof is unforgeable means here that a process without the token has
the proof for a nonce only if a node that holds the token has given it away.
-/
import OzonSuite.Lib.AsciiText
import OzonSuite.Lib.Digits
import OzonSuite.Node.State
import OzonSuite.Services
import OzonSuite.Shell.Sidecar

namespace OzonSuite

open Lib

/-! ## The node's side -/

/-- The fields of a health answer that the shell reads. -/
structure HealthProbe where
  service : Option String
  status : Option String
deriving DecidableEq

/-- The field of an answer to the challenge that the shell reads. -/
structure AttestProbe where
  proof : Option String
deriving DecidableEq

/-- The crates that the shell and the node call for attestation: HMAC-SHA256 with its key first, the
texts of the node's answers, and how the shell reads them. -/
structure AttestCrates where
  hmacSha256 : Bytes → Bytes → Bytes
  healthText : LocalConfig → String
  attestText : String → String
  errorText : ApiError → String
  parseHealth : String → Option HealthProbe
  parseAttest : String → Option AttestProbe

/-- HMAC-SHA256(token, nonce) in lower-case hexadecimal, the same function in the node and in the
shell. -/
def attestProof (x : AttestCrates) (token nonce : String) : String :=
  hexLower (x.hmacSha256 (utf8Bytes token) (utf8Bytes nonce))

/-- The nonce that a request to `/attest` asks a proof for. -/
def attestNonce (header : Option String) : Except ApiError String := do
  let nonce ← okOr ((header.map trim).filter (· ≠ ""))
    (ApiError.badRequest "missing x-attest-nonce")
  refuseIf (256 < byteLength nonce) (ApiError.badRequest "attestation nonce is too long")
  return nonce

/-- The `/attest` endpoint: the proof in the answer. -/
def attest (x : AttestCrates) (config : LocalConfig) (header : Option String) :
    Except ApiError String := do
  let nonce ← attestNonce header
  return attestProof x config.operatorToken nonce

/-- What a port has answered. -/
structure HttpProbeResponse where
  statusCode : ℕ
  body : String
deriving DecidableEq

/-- What a port is asked for. -/
inductive HttpProbeRequest
  | health
  | attest (nonce : String)
deriving DecidableEq

/-- A process that serves a port. -/
inductive LoopbackServer
  /-- The skill router of a local node. -/
  | skill (config : LocalConfig)
  /-- The agent router of a local node, which has no `/attest`. -/
  | agent (config : LocalConfig)
  /-- Any other program. -/
  | stranger
deriving DecidableEq

namespace LoopbackServer

/-- The server holds the operator token. -/
def Holds (token : String) : LoopbackServer → Prop
  | skill config => config.operatorToken = token
  | agent config => config.operatorToken = token
  | stranger => False

instance (token : String) : DecidablePred (Holds token)
  | skill config => inferInstanceAs (Decidable (config.operatorToken = token))
  | agent config => inferInstanceAs (Decidable (config.operatorToken = token))
  | stranger => inferInstanceAs (Decidable False)

/-- What may come back for a request: a node answers as it is written or not in time, a stranger
answers anything. -/
def CanAnswer (x : AttestCrates) (request : HttpProbeRequest)
    (response : Option HttpProbeResponse) : LoopbackServer → Prop
  | skill config => response = none ∨ response = some (match request with
    | .health => ⟨200, x.healthText config⟩
    | .attest nonce =>
      match attest x config (some nonce) with
      | .ok proof => ⟨200, x.attestText proof⟩
      | .error e => ⟨400, x.errorText e⟩)
  | agent config => response = none ∨ response = some (match request with
    | .health => ⟨200, x.healthText config⟩
    | .attest _ => ⟨404, ""⟩)
  | stranger => True

instance (x : AttestCrates) (request : HttpProbeRequest) (response : Option HttpProbeResponse) :
    DecidablePred (CanAnswer x request response)
  | skill _ => inferInstanceAs (Decidable (_ ∨ _))
  | agent _ => inferInstanceAs (Decidable (_ ∨ _))
  | stranger => inferInstanceAs (Decidable True)

end LoopbackServer

/-! ## The shell's side -/

/-- The candidate pairs of a skill port and an agent port. -/
def portCandidates : List (ℕ × ℕ) := [(8790, 17870), (8791, 17871), (8890, 17970), (18790, 27870)]

/-- The base address of a port of this machine. -/
def apiUrl (port : ℕ) : String := s!"http://127.0.0.1:{port}"

/-- `probe_health_endpoint`, from what came back. -/
def probeHealthEndpoint (x : AttestCrates) (response : Option HttpProbeResponse) : Bool :=
  match response with
  | none => false
  | some response =>
    if response.statusCode ≠ 200 then false
    else match x.parseHealth (trim response.body) with
      | none => false
      | some health => health.service == some "ozon-local-node" && health.status == some "ok"

/-- `probe_attest_endpoint`, from what came back. -/
def probeAttestEndpoint (x : AttestCrates) (token nonce : String)
    (response : Option HttpProbeResponse) : Bool :=
  match response with
  | none => false
  | some response =>
    if response.statusCode ≠ 200 then false
    else match x.parseAttest (trim response.body) with
      | none => false
      | some parsed =>
        match parsed.proof with
        | none => false
        | some proof => constantTimeEq (utf8Bytes proof) (utf8Bytes (attestProof x token nonce))

/-- What `generate_nonce` makes. -/
def IsNonce (nonce : String) : Prop :=
  nonce.toList.length = 32 ∧ nonce.toList.all Char.isAlphanum = true

instance : DecidablePred IsNonce := fun nonce =>
  inferInstanceAs
    (Decidable (nonce.toList.length = 32 ∧ nonce.toList.all Char.isAlphanum = true))

/-- `probe_existing_local_node`, when each port answers as given. -/
def probeExistingLocalNode (x : AttestCrates) (token : String) (nonce : ℕ × ℕ → String)
    (http : ℕ → HttpProbeRequest → Option HttpProbeResponse) : List (ℕ × ℕ) → ExistingLocalNode
  | [] => .missing
  | pair :: rest =>
    if probeHealthEndpoint x (http pair.1 .health) && probeHealthEndpoint x (http pair.2 .health) &&
        probeAttestEndpoint x token (nonce pair) (http pair.1 (.attest (nonce pair))) then
      .ready (apiUrl pair.1) (apiUrl pair.2)
    else probeExistingLocalNode x token nonce http rest

/-! ### What the challenge decides -/

/-- The proof that an answer carries. -/
def proofIn (x : AttestCrates) (response : Option HttpProbeResponse) : Option String := do
  let response ← response
  let parsed ← x.parseAttest (trim response.body)
  parsed.proof

/-- An answer that passes the challenge carries the proof for its nonce. -/
lemma proofIn_of_probeAttestEndpoint {x : AttestCrates} {token nonce : String}
    {response : Option HttpProbeResponse}
    (h : probeAttestEndpoint x token nonce response = true) :
    proofIn x response = some (attestProof x token nonce) := by
  unfold probeAttestEndpoint at h
  split at h
  · cases h
  · next response =>
    split at h
    · cases h
    · split at h
      · cases h
      · next parsed hparsed =>
        split at h
        · cases h
        · next proof hproof =>
          have heq : proof = attestProof x token nonce :=
            utf8Bytes_injective (constantTimeEq_iff.mp h)
          simp only [proofIn, Option.bind_eq_bind, Option.bind_some, hparsed, hproof, heq]

/-! ### What the challenge asks for -/

/-- The node gives the proof for the very nonce that the shell has made. -/
lemma attest_of_isNonce {x : AttestCrates} {config : LocalConfig} {nonce : String}
    (h : IsNonce nonce) :
    attest x config (some nonce) = .ok (attestProof x config.operatorToken nonce) := by
  obtain ⟨hlen, hall⟩ := h
  rw [List.all_eq_true] at hall
  have htrim : trim nonce = nonce := by
    refine trimText_of_forall fun c hc => ?_
    have hrange := isAlphanum_range (hall c hc)
    simp only [isWhitespace, Bool.or_eq_false_iff, Bool.and_eq_false_iff, decide_eq_false_iff_not,
      beq_eq_false_iff_ne, not_le]
    omega
  have hne : nonce ≠ "" := by
    rintro rfl
    simp at hlen
  have hbytes : byteLength nonce = 32 := by
    rw [byteLength, List.map_congr_left (g := fun _ => 1), List.map_const',
      List.sum_replicate, hlen]
    · rfl
    · intro c hc
      have hrange := isAlphanum_range (hall c hc)
      rw [Char.utf8Size_eq_one_iff, UInt32.le_iff_toNat_le]
      exact (by omega : c.toNat ≤ 127)
  have hnonce : attestNonce (some nonce) = .ok nonce := by
    have hblank : ((some nonce).map trim).filter (· ≠ "") = some nonce := by
      simp [htrim, hne]
    have hshort : ¬ 256 < byteLength nonce := by omega
    rw [attestNonce, hblank]
    simp only [okOr, refuseIf, pure_bind, if_neg hshort]
    rfl
  rw [attest, hnonce]
  rfl

end OzonSuite
