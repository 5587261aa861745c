/-
# The downloads of the local node

Where the installers of the local node are, and what their checksums are, stands in a manifest that
is fetched from another host whenever it is asked for.  A manifest that has been fetched is kept,
and stands in when a later one cannot be fetched.  Requests fetch side by side, and each takes the
lock on what is kept only after it has its answer.
-/
import OzonSuite.Cloud.Configuration
import OzonSuite.Lib.Machine
import OzonSuite.Lib.Threads

namespace OzonSuite

open Lib

/-! ## Manifests -/

/-- A file of a release, with its checksum. -/
structure ReleaseArtifact where
  url : String
  sha256 : String
deriving DecidableEq

/-- What a release of the local node consists of. -/
structure LocalNodeReleaseManifest where
  version : String
  commit : String
  msi : ReleaseArtifact
  exe : ReleaseArtifact
  macosAarch64Dmg : Option ReleaseArtifact
  dmg : Option ReleaseArtifact
deriving DecidableEq

/-- The image for macOS, under either of its names. -/
def LocalNodeReleaseManifest.macosArtifact (manifest : LocalNodeReleaseManifest) :
    Option ReleaseArtifact :=
  manifest.macosAarch64Dmg.or manifest.dmg

/-- A digit of a hexadecimal number, in either case. -/
def isAsciiHexdigit (c : Char) : Bool :=
  c.isDigit || ('a' ≤ c && c ≤ 'f') || ('A' ≤ c && c ≤ 'F')

/-- A SHA-256 digest in hexadecimal. -/
def isSha256Hex (value : String) : Bool :=
  byteLength value == 64 && value.toList.all isAsciiHexdigit

/-- A git hash, in full or abbreviated. -/
def isGitCommitHash (value : String) : Bool :=
  7 ≤ byteLength value && byteLength value ≤ 64 && value.toList.all isAsciiHexdigit

/-- What the service takes from other crates: URLs, and a manifest read from JSON. -/
structure DownloadCrates extends ConfigCrates where
  readManifest : String → Option LocalNodeReleaseManifest

variable (x : DownloadCrates)

/-- The check of one file of a release. -/
def validateReleaseArtifact (name : String) (artifact : ReleaseArtifact) : Except String Unit := do
  let scheme ← okOr (x.urlScheme artifact.url) "artifact URL must be absolute"
  refuseIf (scheme ≠ "https") "artifact URL must use https"
  refuseIf (isSha256Hex artifact.sha256 = false)
    (match name with
      | "msi" => "msi sha256 must be a 64-character hex digest"
      | "exe" => "exe sha256 must be a 64-character hex digest"
      | _ => "artifact sha256 must be a 64-character hex digest")

/-- The check of a manifest. -/
def validateLocalNodeReleaseManifest (manifest : LocalNodeReleaseManifest) :
    Except String Unit := do
  refuseIf (trim manifest.version = "") "version is required"
  refuseIf (isGitCommitHash manifest.commit = false) "commit must be a git hash"
  validateReleaseArtifact x "msi" manifest.msi
  validateReleaseArtifact x "exe" manifest.exe
  manifest.macosAarch64Dmg.forM (validateReleaseArtifact x "macos_aarch64_dmg")
  manifest.dmg.forM (validateReleaseArtifact x "dmg")

/-- What comes of asking the other host. -/
inductive ManifestAnswer
  | unreachable
  | answered (success : Bool) (body : String)

/-- The manifest that the other host has answered with. -/
def fetchRemoteLocalNodeReleaseManifest : ManifestAnswer →
    Except ApiError LocalNodeReleaseManifest
  | .unreachable => .error (.badGateway "local node release manifest is unavailable")
  | .answered success body => do
    refuseIf (success = false) (ApiError.badGateway "local node release manifest is unavailable")
    let manifest ← okOr (x.readManifest body)
      (ApiError.badGateway "local node release manifest is invalid")
    (validateLocalNodeReleaseManifest x manifest).mapError fun _ =>
      .badGateway "local node release manifest is invalid"
    return manifest

/-- What may be downloaded, and the checksums. -/
structure DownloadsResponse where
  localNode : String
  localNodeMsi : String
  localNodeExe : String
  localNodeMacosDmg : Option String
  macosAarch64Dmg : Option String
  version : String
  checksum : String
  checksumSha256 : String
  localNodeMsiSha256 : String
  localNodeExeSha256 : String
  localNodeMacosDmgSha256 : Option String
  macosAarch64DmgSha256 : Option String
  releaseManifestUrl : String
  releaseManifest : LocalNodeReleaseManifest
  openclawPlugin : String
  openclawManifest : String
  localManifestUrl : String
deriving DecidableEq

/-- The answer for a manifest. -/
def downloadsResponse (config : StartupConfig) (manifest : LocalNodeReleaseManifest) :
    DownloadsResponse where
  localNode := manifest.msi.url
  localNodeMsi := manifest.msi.url
  localNodeExe := manifest.exe.url
  localNodeMacosDmg := manifest.macosArtifact.map (·.url)
  macosAarch64Dmg := manifest.macosArtifact.map (·.url)
  version := manifest.version
  checksum := manifest.msi.sha256
  checksumSha256 := manifest.msi.sha256
  localNodeMsiSha256 := manifest.msi.sha256
  localNodeExeSha256 := manifest.exe.sha256
  localNodeMacosDmgSha256 := manifest.macosArtifact.map (·.sha256)
  macosAarch64DmgSha256 := manifest.macosArtifact.map (·.sha256)
  releaseManifestUrl := config.downloadManifestUrl
  releaseManifest := manifest
  openclawPlugin := config.openclawPluginUrl
  openclawManifest := config.openclawManifestUrl
  localManifestUrl := "http://127.0.0.1:8790/openclaw/manifest"

/-! ## Requests -/

/-- A manifest that has been kept. -/
structure CachedReleaseManifest where
  manifest : LocalNodeReleaseManifest
  fetchedAt : Time

/-- What a request for the downloads does next. -/
inductive DownloadTask
  /-- The other host is being asked. -/
  | fetching
  /-- A manifest has been fetched and is to be kept. -/
  | keeping (manifest : LocalNodeReleaseManifest)
  /-- None has been fetched; what is kept is to be looked at. -/
  | fallingBack (error : ApiError)
  | answered

/-- What a block of a request comes to. -/
abbrev DownloadBlock := Option (Except ApiError DownloadsResponse) ×
  Block (Option CachedReleaseManifest) DownloadTask

/-- What a block draws: the answer of the other host, and the time of day. -/
structure DownloadDraw where
  answer : ManifestAnswer
  now : Time

/-- The next block of a request. -/
def DownloadTask.block (config : StartupConfig) (draw : DownloadDraw)
    (kept : Option CachedReleaseManifest) : DownloadTask → DownloadBlock
  | .fetching =>
    match fetchRemoteLocalNodeReleaseManifest x draw.answer with
    | .ok manifest => (none, ⟨.keeping manifest, [], kept⟩)
    | .error e => (none, ⟨.fallingBack e, [], kept⟩)
  | .keeping manifest =>
    (some (.ok (downloadsResponse config manifest)), ⟨.answered, [], some ⟨manifest, draw.now⟩⟩)
  | .fallingBack e =>
    match kept with
    | some cached => (some (.ok (downloadsResponse config cached.manifest)), ⟨.answered, [], kept⟩)
    | none => (some (.error e), ⟨.answered, [], kept⟩)
  | .answered => (none, ⟨.answered, [], kept⟩)

/-- The kept manifest and the requests that run. -/
abbrev Downloads := Threads (Option CachedReleaseManifest) DownloadTask

/-- A step of the service. -/
inductive DownloadLabel
  | downloads
  /-- The `i`-th request runs its next block. -/
  | advance (i : ℕ) (draw : DownloadDraw)

/-- A new request, or the next block of one. -/
def Downloads.step (config : StartupConfig) (s : Downloads) :
    DownloadLabel → Option (Except ApiError DownloadsResponse) × Downloads
  | .downloads => (none, { s with threads := s.threads ++ [.fetching] })
  | .advance i draw =>
    match s.threads[i]? with
    | some t =>
      let (answer, block) := t.block x config draw s.shared
      (answer, s.after i block)
    | none => (none, s)

/-- A service that has just been started. -/
def downloadsMachine (config : StartupConfig) :
    Machine Downloads DownloadLabel (Option (Except ApiError DownloadsResponse)) where
  init s := s.shared = none ∧ s.threads = []
  enabled _ _ := True
  step s l := s.step x config l

/-! ## What is wanted -/

/-- An installer that can be downloaded and checked. -/
structure Downloadable (url sha256 : String) : Prop where
  https : x.urlScheme url = some "https"
  checksum : isSha256Hex sha256 = true

/-- Everything that a response offers can be downloaded, and stands beside its own checksum. -/
structure OffersSound (response : DownloadsResponse) : Prop where
  standard : response.localNode = response.localNodeMsi ∧
    response.checksum = response.localNodeMsiSha256 ∧
    response.checksumSha256 = response.localNodeMsiSha256
  msi : Downloadable x response.localNodeMsi response.localNodeMsiSha256
  exe : Downloadable x response.localNodeExe response.localNodeExeSha256
  dmg : ∀ url ∈ response.localNodeMacosDmg, ∃ sha256 ∈ response.localNodeMacosDmgSha256,
    Downloadable x url sha256
  sameDmg : response.macosAarch64Dmg = response.localNodeMacosDmg ∧
    response.macosAarch64DmgSha256 = response.localNodeMacosDmgSha256

/-- The other host gave the manifest to a request of the trace, and it passed the checks. -/
def FetchedIn (tr : List (DownloadLabel × Option (Except ApiError DownloadsResponse)))
    (manifest : LocalNodeReleaseManifest) : Prop :=
  ∃ i draw a, (.advance i draw, a) ∈ tr ∧
    fetchRemoteLocalNodeReleaseManifest x draw.answer = .ok manifest

/-- What is wanted of the answers in a run. -/
structure DownloadsSafe (config : StartupConfig)
    (tr : List (DownloadLabel × Option (Except ApiError DownloadsResponse))) : Prop where
  /-- A response is made from one manifest that has been fetched, and all it offers is sound. -/
  sound : ∀ before l after response, tr = before ++ (l, some (.ok response)) :: after →
    OffersSound x response ∧
      ∃ manifest, FetchedIn x before manifest ∧ response = downloadsResponse config manifest
  /-- After one response there are no more errors. -/
  lasting : ∀ before l between response l' e after,
    tr ≠ before ++ (l, some (.ok response)) :: between ++ (l', some (.error e)) :: after

/-! ## Manifests that pass -/

section Checks

variable {x} {config : StartupConfig} {manifest : LocalNodeReleaseManifest}

lemma validateReleaseArtifact_ok {name : String} {artifact : ReleaseArtifact}
    (h : validateReleaseArtifact x name artifact = .ok ()) :
    Downloadable x artifact.url artifact.sha256 := by
  simp only [validateReleaseArtifact, Except.bind_eq_ok, Except.okOr_eq_ok, Except.refuseIf_eq_ok,
    not_not, Bool.not_eq_false] at h
  obtain ⟨scheme, hscheme, -, rfl, hsha⟩ := h
  exact ⟨hscheme, hsha⟩

/-- Every artifact of a manifest that passes can be downloaded and checked. -/
lemma validateLocalNodeReleaseManifest_ok
    (h : validateLocalNodeReleaseManifest x manifest = .ok ()) :
    Downloadable x manifest.msi.url manifest.msi.sha256 ∧
      Downloadable x manifest.exe.url manifest.exe.sha256 ∧
      ∀ artifact ∈ manifest.macosArtifact, Downloadable x artifact.url artifact.sha256 := by
  simp only [validateLocalNodeReleaseManifest, Except.bind_eq_ok] at h
  obtain ⟨_, -, _, -, _, hmsi, _, hexe, _, harm, hdmg⟩ := h
  refine ⟨validateReleaseArtifact_ok hmsi, validateReleaseArtifact_ok hexe, fun artifact hmem => ?_⟩
  unfold LocalNodeReleaseManifest.macosArtifact at hmem
  cases hfirst : manifest.macosAarch64Dmg with
  | some first =>
    rw [hfirst] at harm hmem
    obtain rfl := Option.some.inj hmem
    have hone : validateReleaseArtifact x "macos_aarch64_dmg" first = .ok () := harm
    exact validateReleaseArtifact_ok hone
  | none =>
    rw [hfirst, Option.none_or] at hmem
    rw [Option.mem_def.mp hmem] at hdmg
    have hone : validateReleaseArtifact x "dmg" artifact = .ok () := hdmg
    exact validateReleaseArtifact_ok hone

lemma offersSound_of_fetched {answer : ManifestAnswer}
    (h : fetchRemoteLocalNodeReleaseManifest x answer = .ok manifest) :
    OffersSound x (downloadsResponse config manifest) := by
  cases answer with
  | unreachable => cases h
  | answered success body =>
    simp only [fetchRemoteLocalNodeReleaseManifest, Except.bind_eq_ok] at h
    obtain ⟨-, -, found, -, ⟨⟩, hvalid, heq⟩ := h
    obtain rfl := Except.ok.inj heq
    obtain ⟨hmsi, hexe, hdmg⟩ :=
      validateLocalNodeReleaseManifest_ok (Except.mapError_eq_ok.mp hvalid)
    refine ⟨⟨rfl, rfl, rfl⟩, hmsi, hexe, fun url hurl => ?_, rfl, rfl⟩
    obtain ⟨artifact, hartifact, rfl⟩ := Option.map_eq_some_iff.mp hurl
    exact ⟨artifact.sha256, Option.map_eq_some_iff.mpr ⟨artifact, hartifact, rfl⟩,
      hdmg artifact hartifact⟩

end Checks

/-! ## Runs -/

section Runs

variable {x} {config : StartupConfig} {s₀ s : Downloads}
  {tr : List (DownloadLabel × Option (Except ApiError DownloadsResponse))}

/-- What is kept or on its way has been fetched, and something is kept once a response was given. -/
structure DownloadHistory (x : DownloadCrates)
    (tr : List (DownloadLabel × Option (Except ApiError DownloadsResponse))) (s : Downloads) :
    Prop where
  keeping : ∀ manifest, .keeping manifest ∈ s.threads → FetchedIn x tr manifest
  kept : ∀ cached ∈ s.shared, FetchedIn x tr cached.manifest
  filled : ∀ l response, (l, some (.ok response)) ∈ tr → s.shared.isSome

lemma FetchedIn.append {manifest : LocalNodeReleaseManifest} (h : FetchedIn x tr manifest)
    (more : List (DownloadLabel × Option (Except ApiError DownloadsResponse))) :
    FetchedIn x (tr ++ more) manifest := by
  obtain ⟨i, draw, a, hmem, hfetched⟩ := h
  exact ⟨i, draw, a, List.mem_append_left _ hmem, hfetched⟩

/-- All that a block may come to. -/
inductive DownloadTurn (x : DownloadCrates) (config : StartupConfig) (draw : DownloadDraw)
    (kept : Option CachedReleaseManifest) : DownloadTask → DownloadBlock → Prop
  | fetched (manifest : LocalNodeReleaseManifest)
      (h : fetchRemoteLocalNodeReleaseManifest x draw.answer = .ok manifest) :
    DownloadTurn x config draw kept .fetching (none, ⟨.keeping manifest, [], kept⟩)
  | keep (manifest : LocalNodeReleaseManifest) :
    DownloadTurn x config draw kept (.keeping manifest)
      (some (.ok (downloadsResponse config manifest)), ⟨.answered, [], some ⟨manifest, draw.now⟩⟩)
  | standIn (e : ApiError) (cached : CachedReleaseManifest) (h : kept = some cached) :
    DownloadTurn x config draw kept (.fallingBack e)
      (some (.ok (downloadsResponse config cached.manifest)), ⟨.answered, [], kept⟩)
  | fail (e : ApiError) (h : kept = none) :
    DownloadTurn x config draw kept (.fallingBack e) (some (.error e), ⟨.answered, [], kept⟩)
  | quiet (t next : DownloadTask) (h : ∀ manifest, next ≠ .keeping manifest) :
    DownloadTurn x config draw kept t (none, ⟨next, [], kept⟩)

lemma block_downloadTurn (t : DownloadTask) (draw : DownloadDraw)
    (kept : Option CachedReleaseManifest) :
    DownloadTurn x config draw kept t (t.block x config draw kept) := by
  cases t with
  | fetching =>
    unfold DownloadTask.block
    dsimp only
    split
    · next manifest h => exact .fetched manifest h
    · exact .quiet _ _ fun _ => nofun
  | keeping manifest => exact .keep manifest
  | fallingBack e =>
    cases kept with
    | none => exact .fail e rfl
    | some cached => exact .standIn e cached rfl
  | answered => exact .quiet _ _ fun _ => nofun

lemma downloads_advance {i : ℕ} {draw : DownloadDraw} {t : DownloadTask}
    (hi : s.threads[i]? = some t) : (downloadsMachine x config).step s (.advance i draw) =
      ((t.block x config draw s.shared).1, s.after i (t.block x config draw s.shared).2) := by
  simp only [downloadsMachine, Downloads.step, hi]

/-- What a step answers is answered by one of the turns. -/
lemma turn_of_answer {l : DownloadLabel} {answer : Except ApiError DownloadsResponse}
    (h : ((downloadsMachine x config).step s l).1 = some answer) :
    ∃ i draw t b, l = .advance i draw ∧ s.threads[i]? = some t ∧
      DownloadTurn x config draw s.shared t (some answer, b) := by
  cases l with
  | downloads => cases h
  | advance i draw =>
    cases hi : s.threads[i]? with
    | none =>
      simp only [downloadsMachine, Downloads.step, hi] at h
      cases h
    | some t =>
      rw [downloads_advance hi] at h
      refine ⟨i, draw, t, (t.block x config draw s.shared).2, rfl, hi, ?_⟩
      rw [← h]
      exact block_downloadTurn t draw s.shared

/-- A block that keeps what there was, or has something to keep that was fetched. -/
lemma DownloadHistory.after (h : DownloadHistory x tr s) {i : ℕ} {draw : DownloadDraw}
    {answer : Option (Except ApiError DownloadsResponse)} {next : DownloadTask}
    {kept : Option CachedReleaseManifest}
    (hnext : ∀ manifest, next = .keeping manifest →
      FetchedIn x (tr ++ [(.advance i draw, answer)]) manifest)
    (hkept : kept = s.shared ∨ ∃ cached, kept = some cached ∧ FetchedIn x tr cached.manifest)
    (hanswer : ∀ response, answer = some (.ok response) → kept.isSome) :
    DownloadHistory x (tr ++ [(.advance i draw, answer)]) (s.after i ⟨next, [], kept⟩) where
  keeping manifest hmem := by
    rcases Threads.mem_after hmem with hmem | hmem
    · exact (h.keeping manifest hmem).append _
    · exact hnext manifest (List.mem_singleton.mp hmem).symm
  kept cached hcached := by
    rcases hkept with rfl | ⟨found, rfl, hfetched⟩
    · exact (h.kept cached hcached).append _
    · obtain rfl := Option.some.inj hcached
      exact hfetched.append _
  filled l response hmem := by
    rcases List.mem_append.mp hmem with hmem | hmem
    · rcases hkept with rfl | ⟨found, rfl, -⟩
      · exact h.filled l response hmem
      · rfl
    · obtain ⟨-, heq⟩ := Prod.mk.inj (List.mem_singleton.mp hmem)
      exact hanswer response heq.symm

lemma DownloadHistory.step (h : DownloadHistory x tr s) (l : DownloadLabel) :
    DownloadHistory x (tr ++ [(l, ((downloadsMachine x config).step s l).1)])
      ((downloadsMachine x config).step s l).2 := by
  -- most steps keep nothing and answer nothing
  have hquiet : ∀ l threads, (∀ manifest, .keeping manifest ∈ threads →
      .keeping manifest ∈ s.threads) →
      DownloadHistory x (tr ++ [(l, none)]) { s with threads := threads } := by
    refine fun l threads hthreads => ⟨fun manifest hmem =>
      (h.keeping manifest (hthreads manifest hmem)).append _, fun cached hcached =>
      (h.kept cached hcached).append _, fun l' response hmem => ?_⟩
    rcases List.mem_append.mp hmem with hmem | hmem
    · exact h.filled l' response hmem
    · simp at hmem
  cases l with
  | downloads =>
    refine hquiet .downloads _ fun manifest hmem => ?_
    rcases List.mem_append.mp hmem with hmem | hmem
    · exact hmem
    · simp at hmem
  | advance i draw =>
    cases hi : s.threads[i]? with
    | none =>
      simp only [downloadsMachine, Downloads.step, hi]
      exact hquiet _ _ fun _ hmem => hmem
    | some t =>
      rw [downloads_advance hi]
      have hturn : DownloadTurn x config draw s.shared t (t.block x config draw s.shared) :=
        block_downloadTurn t draw s.shared
      generalize t.block x config draw s.shared = b at hturn
      cases hturn with
      | fetched manifest hfetched =>
        refine h.after (fun other heq => ?_) (.inl rfl) nofun
        obtain rfl := DownloadTask.keeping.inj heq
        exact ⟨i, draw, none, by simp, hfetched⟩
      | keep manifest =>
        exact h.after (fun _ => nofun) (.inr ⟨_, rfl, h.keeping manifest (List.mem_of_getElem? hi)⟩)
          fun _ _ => rfl
      -- the host has failed, and the kept manifest is served
      | standIn e cached hcached =>
        exact h.after (fun _ => nofun) (.inl rfl) fun _ _ => by rw [hcached]; rfl
      | fail e hnone =>
        refine h.after (fun _ => nofun) (.inl rfl) fun response heq => ?_
        cases heq
      | quiet _ next hnext =>
        exact h.after (fun manifest heq => absurd heq (hnext manifest)) (.inl rfl) nofun

lemma downloadHistory_of_run (h₀ : (downloadsMachine x config).init s₀)
    (h : (downloadsMachine x config).Run s₀ tr s) : DownloadHistory x tr s := by
  obtain ⟨hshared, hthreads⟩ := h₀
  exact h.history ⟨by simp [hthreads], by simp [hshared], by simp⟩
    fun _ _ l _ hhistory _ => hhistory.step l

end Runs

/-- **Downloads are sound and last.**  Whatever the other host answers, and however requests come in
between each other, a response offers only what was fetched in one manifest that passed the checks,
over HTTPS and each installer beside its own checksum; and once there was a response there is one
every time, whatever becomes of the other host. -/
theorem downloads_sound (config : StartupConfig) {s₀ s : Downloads}
    {tr : List (DownloadLabel × Option (Except ApiError DownloadsResponse))}
    (h₀ : (downloadsMachine x config).init s₀) (h : (downloadsMachine x config).Run s₀ tr s) :
    DownloadsSafe x config tr where
  sound before l after response htr := by
    subst htr
    obtain ⟨m, hm, -, hanswer, -⟩ := h.cut
    have hhistory := downloadHistory_of_run h₀ hm
    obtain ⟨i, draw, t, b, -, hi, hturn⟩ := turn_of_answer hanswer.symm
    have hfetched : ∃ manifest, FetchedIn x before manifest ∧
        response = downloadsResponse config manifest := by
      cases hturn with
      | keep manifest => exact ⟨manifest, hhistory.keeping manifest (List.mem_of_getElem? hi), rfl⟩
      | standIn e cached hcached => exact ⟨cached.manifest, hhistory.kept cached hcached, rfl⟩
    obtain ⟨manifest, hin, rfl⟩ := hfetched
    obtain ⟨_, _, _, -, hremote⟩ := id hin
    exact ⟨offersSound_of_fetched hremote, manifest, hin, rfl⟩
  lasting before l between response l' e after htr := by
    subst htr
    obtain ⟨m, hm, -, hanswer, -⟩ := h.cut
    obtain ⟨i, draw, t, b, -, -, hturn⟩ := turn_of_answer hanswer.symm
    cases hturn with
    | fail _ hnone =>
      have hsome := (downloadHistory_of_run h₀ hm).filled l response (by simp)
      simp [hnone] at hsome

/-! ### A host that goes away -/

/-- A manifest of a release. -/
def releaseManifest : LocalNodeReleaseManifest where
  version := "1.0"
  commit := "0123abc"
  msi := ⟨"https://host/node.msi", "".pushn 'a' 64⟩
  exe := ⟨"https://host/node.exe", "".pushn 'b' 64⟩
  macosAarch64Dmg := none
  dmg := some ⟨"https://host/node.dmg", "".pushn 'c' 64⟩

/-- The libraries, as they behave on that manifest. -/
def releaseCrates : DownloadCrates :=
  { configCrates with
    urlScheme := fun text => if "https:".toList.isPrefixOf text.toList then some "https" else none
    readManifest := fun body => if body = "manifest" then some releaseManifest else none }

/-- The first request is answered, and the second after the host has gone. -/
def goneHostSteps : List DownloadLabel :=
  [.downloads, .downloads, .advance 0 ⟨.answered true "manifest", 0⟩,
    .advance 1 ⟨.unreachable, 0⟩, .advance 0 ⟨.unreachable, 1⟩, .advance 1 ⟨.unreachable, 2⟩]

theorem downloads_sound_gone_host :
    DownloadsSafe releaseCrates devConfig
        ((downloadsMachine releaseCrates devConfig).exec ⟨none, []⟩ goneHostSteps).1 ∧
      (((downloadsMachine releaseCrates devConfig).exec ⟨none, []⟩ goneHostSteps).1.map
          fun e => e.2.any fun answer => answer.isOk) =
        [false, false, false, false, true, true] := by
  have hallows : (downloadsMachine releaseCrates devConfig).Allows ⟨none, []⟩ goneHostSteps :=
    ⟨trivial, trivial, trivial, trivial, trivial, trivial, trivial⟩
  exact ⟨downloads_sound releaseCrates devConfig ⟨rfl, rfl⟩ (Machine.run_exec hallows),
    by decide +kernel⟩

end OzonSuite
