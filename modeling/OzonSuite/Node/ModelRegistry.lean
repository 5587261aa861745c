/-
# The cached model registry

The registry of model providers is loaded from the secret store on the first use and cached.  A
user interface adds a provider by fetching the registry, merging one entry and posting the whole
back.  This file follows the cache and the registry that was last saved through every run of
loads, fetches and saves.
-/
import OzonSuite.Lib.Machine
import OzonSuite.Node.Providers

namespace OzonSuite

open Lib

/-! ## Runs -/

/-- A node, and the registry that was last put into its secret store. -/
structure RegistryNode where
  node : LocalState
  persisted : StoredModelRegistry

/-- What a client of the registry asks for. -/
inductive RegistryCall
  | load
  | fetch (headers : TokenHeaders)
  | save (headers : TokenHeaders) (input : StoredModelRegistry)

/-- What it is answered. -/
inductive RegistryAnswer
  | registry (registry : StoredModelRegistry)
  | saved (response : ModelRegistryResponse)
  | refused (e : ApiError)

/-- A registry has been saved. -/
def RegistryAnswer.isSaved : RegistryAnswer → Bool
  | .saved _ => true
  | _ => false

/-- The answer of a handler, and the node that it leaves. -/
def RegistryAnswer.of {α : Type} (f : α → RegistryAnswer) :
    EStateM.Result ApiError LocalState α → RegistryAnswer × LocalState
  | .ok a node => (f a, node)
  | .error e node => (.refused e, node)

/-- What is persisted after a save: the checked registry, if the store has taken it. -/
def RegistryNode.persistedBy (x : NodeCrates) (w : NodeWorld) (headers : TokenHeaders)
    (input : StoredModelRegistry) (s : RegistryNode) : StoredModelRegistry :=
  match putModelRegistry x w headers input s.node with
  | .ok validated _ => validated
  | .error _ _ => s.persisted

/-- The answer to a call. -/
def RegistryNode.serve (x : NodeCrates) (s : RegistryNode) :
    RegistryCall × NodeWorld → RegistryAnswer × RegistryNode
  | (.load, w) =>
    let (answer, node) := RegistryAnswer.of .registry (loadPersistedModelRegistry x w s.node)
    (answer, { s with node := node })
  | (.fetch headers, w) =>
    let (answer, node) := RegistryAnswer.of .registry (Handlers.getModelRegistry x w headers s.node)
    (answer, { s with node := node })
  | (.save headers input, w) =>
    let (answer, node) := RegistryAnswer.of .saved
      (Handlers.saveModelRegistry x w headers input s.node)
    (answer, { node := node, persisted := s.persistedBy x w headers input })

/-- The store has the registry; none is stored before the first save. -/
def RegistryNode.Stored (x : NodeCrates) (s : RegistryNode) : Prop :=
  s.node.secrets.lookup secretModelRegistry = some (x.registryText s.persisted) ∨
    s.node.secrets.lookup secretModelRegistry = none ∧ s.persisted = .default

/-- The calls of a node that has just been started, in any order, whatever the store answers. -/
def registryMachine (x : NodeCrates) :
    Machine RegistryNode (RegistryCall × NodeWorld) RegistryAnswer where
  init s := s.node.modelRegistryCache = none ∧ s.Stored x
  enabled _ _ := True
  step s l := s.serve x l

/-! ## Coherence -/

/-- The cache is empty, or holds the registry that was last saved. -/
def RegistryNode.Coherent (s : RegistryNode) : Prop :=
  s.node.modelRegistryCache = none ∨ s.node.modelRegistryCache = some s.persisted

/-- The store gives the registry back that was put into it.  When it does not answer, there is no
provider to be lost. -/
def RegistryNode.ReadsBack (x : NodeCrates) (w : NodeWorld) (s : RegistryNode) : Prop :=
  (w.getFails secretModelRegistry = true → s.persisted = .default) ∧
    (w.getFails secretModelRegistry = false →
      s.node.secrets.lookup secretModelRegistry = none ∨
        x.parseRegistry (x.registryText s.persisted) = some s.persisted)

/-- The call finds the registry in the cache, or the store gives it back. -/
def ReadsRegistry (x : NodeCrates) (s : RegistryNode) : RegistryCall × NodeWorld → Prop
  | (.save _ _, _) => True
  | (_, w) => s.node.modelRegistryCache = none → s.ReadsBack x w

/-- The same provider, with its URL and its reference to a key in normal form. -/
def ProviderEntry.SameProvider (entry entry' : ProviderEntry) : Prop :=
  entry' = { entry with baseUrl := entry'.baseUrl, secretRef := trim entry.secretRef }

/-- Every entry of the one registry is an entry of the other. -/
structure StoredModelRegistry.MergedInto (registry input : StoredModelRegistry) : Prop where
  imageGen : registry.imageGen ⊆ input.imageGen
  textGen : registry.textGen ⊆ input.textGen
  videoGen : registry.videoGen ⊆ input.videoGen

/-- No provider of the one registry is missing from the other. -/
structure StoredModelRegistry.KeptIn (registry registry' : StoredModelRegistry) : Prop where
  imageGen : ∀ entry ∈ registry.imageGen, ∃ entry' ∈ registry'.imageGen, entry.SameProvider entry'
  textGen : ∀ entry ∈ registry.textGen, ∃ entry' ∈ registry'.textGen, entry.SameProvider entry'
  videoGen : ∀ entry ∈ registry.videoGen, ∃ entry' ∈ registry'.videoGen, entry.SameProvider entry'

section Steps

variable {x : NodeCrates} {w : NodeWorld} {headers : TokenHeaders} {input : StoredModelRegistry}
  {s : RegistryNode} {n n' : LocalState}

/-- What putting a registry does: nothing, or the checked registry is in the store. -/
lemma putModelRegistry_cases :
    (∃ e, putModelRegistry x w headers input n = .error e n) ∨
      ∃ validated, validateModelRegistry x w input n = .ok validated n ∧
        putModelRegistry x w headers input n = .ok validated { n with
          secrets := n.secrets.insert secretModelRegistry (x.registryText validated) } := by
  have hget : (get : NodeM LocalState) n = .ok n n := rfl
  rw [putModelRegistry, bind_of_ok hget]
  cases htoken : requireOperatorToken n.config headers with
  | error e => exact .inl ⟨e, rfl⟩
  | ok u =>
    have hcheck : (ofExcept (Except.ok u) : NodeM Unit) n = .ok u n := rfl
    rw [bind_of_ok hcheck]
    have hsame : finalState (validateModelRegistry x w input n) = n :=
      (moves_validateModelRegistry n).symm
    cases hvalid : validateModelRegistry x w input n with
    | error e n' =>
      rw [hvalid] at hsame
      obtain rfl : n' = n := hsame
      exact .inl ⟨e, bind_of_error hvalid⟩
    | ok validated n' =>
      rw [hvalid] at hsame
      obtain rfl : n' = n := hsame
      rw [bind_of_ok hvalid]
      by_cases hput : w.putFails secretModelRegistry = true
      · refine .inl ⟨.internal "failed to save model registry", ?_⟩
        simp only [putSecret, refuseIf, hput]
        rfl
      · refine .inr ⟨validated, rfl, ?_⟩
        simp only [putSecret, refuseIf, hput]
        rfl

/-- A save leaves everything as it is, or the store and the cache both have the checked
registry. -/
lemma serve_save_cases :
    (∃ e, s.serve x (.save headers input, w) = (.refused e, s)) ∨
      ∃ validated response, validateModelRegistry x w input s.node = .ok validated s.node ∧
        s.serve x (.save headers input, w) = (.saved response,
          { node := { s.node with
              secrets := s.node.secrets.insert secretModelRegistry (x.registryText validated)
              modelRegistryCache := some validated }
            persisted := validated }) := by
  rcases @putModelRegistry_cases x w headers input s.node with ⟨e, h⟩ | ⟨validated, hvalid, h⟩
  · refine .inl ⟨e, ?_⟩
    simp only [RegistryNode.serve, RegistryNode.persistedBy, Handlers.saveModelRegistry,
      bind_of_error h, h]
    rfl
  · refine .inr ⟨validated,
      { ok := true
        imageGenEntries := validated.imageGen.length
        textGenEntries := validated.textGen.length
        videoGenEntries := validated.videoGen.length
        savedAt := w.now }, hvalid, ?_⟩
    simp only [RegistryNode.serve, RegistryNode.persistedBy, Handlers.saveModelRegistry,
      bind_of_ok h, h]
    rfl

/-- A load answers with what is cached, or else with what it reads, and caches it. -/
lemma serve_load :
    s.serve x (.load, w) =
      (.registry (s.node.modelRegistryCache.getD (readModelRegistry x w s.node)),
        { s with node := { s.node with
            modelRegistryCache :=
              some (s.node.modelRegistryCache.getD (readModelRegistry x w s.node)) } }) := by
  simp only [RegistryNode.serve, loadPersistedModelRegistry_eq]
  rfl

/-- A fetch is refused, or is a load. -/
lemma serve_fetch_cases :
    (∃ e, s.serve x (.fetch headers, w) = (.refused e, s)) ∨
      s.serve x (.fetch headers, w) = s.serve x (.load, w) := by
  have hget : (get : NodeM LocalState) s.node = .ok s.node s.node := rfl
  cases htoken : requireOperatorToken s.node.config headers with
  | error e =>
    refine .inl ⟨e, ?_⟩
    simp only [RegistryNode.serve, Handlers.getModelRegistry, bind_of_ok hget, htoken]
    rfl
  | ok u =>
    refine .inr ?_
    have hcheck : (ofExcept (Except.ok u) : NodeM Unit) s.node = .ok u s.node := rfl
    simp only [RegistryNode.serve, Handlers.getModelRegistry, bind_of_ok hget, htoken,
      bind_of_ok hcheck]

/-- What is read is the registry last saved. -/
lemma readModelRegistry_eq (hstored : s.Stored x) (hback : s.ReadsBack x w) :
    readModelRegistry x w s.node = s.persisted := by
  cases hfails : w.getFails secretModelRegistry with
  | true => simp [readModelRegistry, getSecretForStatus, hfails, hback.1 hfails]
  | false =>
    rcases hstored with hstored | ⟨hstored, hdefault⟩
    · rcases hback.2 hfails with hnone | hjson
      · rw [hstored] at hnone
        cases hnone
      · simp [readModelRegistry, getSecretForStatus, hfails, hstored, hjson]
    · simp [readModelRegistry, getSecretForStatus, hfails, hstored, hdefault]

end Steps

/-! ## Every run -/

section Runs

variable {x : NodeCrates} {s s' : RegistryNode} {l : RegistryCall × NodeWorld}

/-- Of every state of a run: what is persisted is in the store, and the cache has nothing else. -/
structure RegistryNode.Inv (x : NodeCrates) (s : RegistryNode) : Prop where
  stored : s.Stored x
  coherent : s.Coherent

/-- What a call that reads the registry finds, caches and answers. -/
lemma RegistryNode.Inv.load (h : s.Inv x) {w : NodeWorld}
    (hreads : ReadsRegistry x s (.load, w)) :
    s.serve x (.load, w) =
      (.registry s.persisted,
        { s with node := { s.node with modelRegistryCache := some s.persisted } }) := by
  have hfound : s.node.modelRegistryCache.getD (readModelRegistry x w s.node) = s.persisted := by
    rcases h.coherent with hnone | hsome
    · rw [hnone]
      exact readModelRegistry_eq h.stored (hreads hnone)
    · rw [hsome]
      rfl
  rw [serve_load, hfound]

/-- Every call keeps the invariant, and what it shows of the registry is what was last saved. -/
lemma RegistryNode.Inv.step (h : s.Inv x) (hreads : ReadsRegistry x s l) :
    (s.serve x l).2.Inv x ∧ (∀ registry, (s.serve x l).1 = .registry registry →
        registry = s.persisted) ∧
      ((s.serve x l).1.isSaved = false → (s.serve x l).2.persisted = s.persisted) := by
  obtain ⟨call, w⟩ := l
  have hload : ReadsRegistry x s (.load, w) → (s.serve x (.load, w)).2.Inv x ∧
      (∀ registry, (s.serve x (.load, w)).1 = .registry registry → registry = s.persisted) ∧
      ((s.serve x (.load, w)).1.isSaved = false →
        (s.serve x (.load, w)).2.persisted = s.persisted) := by
    intro hreads
    rw [h.load hreads]
    exact ⟨⟨h.stored, .inr rfl⟩, fun registry hr => (RegistryAnswer.registry.inj hr).symm,
      fun _ => rfl⟩
  cases call with
  | load => exact hload hreads
  | fetch headers =>
    rcases @serve_fetch_cases x w headers s with ⟨e, he⟩ | he
    · rw [he]
      exact ⟨h, nofun, fun _ => rfl⟩
    · rw [he]
      exact hload hreads
  | save headers input =>
    rcases @serve_save_cases x w headers input s with ⟨e, he⟩ | ⟨validated, response, -, he⟩
    · rw [he]
      exact ⟨h, nofun, fun _ => rfl⟩
    · rw [he]
      refine ⟨⟨.inl ?_, .inr rfl⟩, nofun, nofun⟩
      exact Finmap.lookup_insert ..

lemma validateProviderEntry_ok {w : NodeWorld} {entry entry' : ProviderEntry} {n n' : LocalState}
    (h : validateProviderEntry x w entry n = .ok entry' n') : entry.SameProvider entry' := by
  simp only [validateProviderEntry, bind_eq_ok, refuseIf_eq_ok, ofExcept_eq_ok, pure_eq_ok] at h
  obtain ⟨_, _, -, _, _, -, baseUrl, _, -, rfl, -⟩ := h
  rfl

/-- The check keeps every provider. -/
lemma keptIn_of_validate {w : NodeWorld} {registry input validated : StoredModelRegistry}
    {n n' : LocalState} (h : validateModelRegistry x w input n = .ok validated n')
    (hmerged : registry.MergedInto input) : registry.KeptIn validated := by
  simp only [validateModelRegistry, bind_eq_ok, pure_eq_ok] at h
  obtain ⟨imageGen, _, himage, textGen, _, htext, videoGen, _, hvideo, rfl, -⟩ := h
  have hkept : ∀ {entries entries' : List ProviderEntry} {n n' : LocalState},
      entries.mapM (validateProviderEntry x w) n = .ok entries' n' →
      ∀ entry ∈ entries, ∃ entry' ∈ entries', entry.SameProvider entry' := by
    intro entries entries' n n' hentries entry hentry
    have hall := forall₂_mapM hentries
    obtain ⟨i, hi, rfl⟩ := List.getElem_of_mem hentry
    have hi' : i < entries'.length := hall.length_eq ▸ hi
    obtain ⟨m, m', hentry'⟩ := hall.get hi hi'
    exact ⟨_, List.getElem_mem hi', validateProviderEntry_ok hentry'⟩
  exact ⟨fun entry he => hkept himage entry (hmerged.imageGen he),
    fun entry he => hkept htext entry (hmerged.textGen he),
    fun entry he => hkept hvideo entry (hmerged.videoGen he)⟩

/-- **The cached registry.**  In every run in which a registry that is not cached is read back from
the store, the cache is empty or holds the registry that was last saved, and
every answer shows that registry.  So whoever fetches the registry, merges into it and posts it
back, before another save, loses no provider that was saved. -/
theorem registry_cache_coherent {x : NodeCrates} {s₀ s : RegistryNode}
    {tr : List ((RegistryCall × NodeWorld) × RegistryAnswer)} (hinit : (registryMachine x).init s₀)
    (h : ((registryMachine x).restrict (ReadsRegistry x)).Run s₀ tr s) :
    s.Coherent ∧
      ∀ l registry, ReadsRegistry x s l → (s.serve x l).1 = .registry registry →
        registry = s.persisted ∧
        ∀ tr' s' headers input w response,
          ((registryMachine x).restrict (ReadsRegistry x)).Run (s.serve x l).2 tr' s' →
          (∀ e ∈ tr', e.2.isSaved = false) → registry.MergedInto input →
          (s'.serve x (.save headers input, w)).1 = .saved response →
          s'.persisted = registry ∧
            registry.KeptIn (s'.serve x (.save headers input, w)).2.persisted := by
  have hstep : ∀ s l, RegistryNode.Inv x s →
      ((registryMachine x).restrict (ReadsRegistry x)).enabled s l →
      RegistryNode.Inv x (((registryMachine x).restrict (ReadsRegistry x)).step s l).2 :=
    fun s l hs hen => (hs.step hen.2).1
  have hinv : s.Inv x := h.invariant hstep ⟨hinit.2, .inl hinit.1⟩
  refine ⟨hinv.coherent, fun l registry hreads hanswer => ?_⟩
  obtain ⟨hinv₁, hshown, hkeeps⟩ := hinv.step hreads
  obtain rfl := hshown registry hanswer
  refine ⟨rfl, fun tr' s' headers input w response hrun hquiet hmerged hsaved => ?_⟩
  have hpersisted : s'.persisted = s.persisted := by
    -- no call in between is a save, so what was fetched is still what is persisted
    have hall : (∀ e ∈ tr', e.2.isSaved = false) → s'.persisted = (s.serve x l).2.persisted := by
      refine hrun.history (P := fun tr m => (∀ e ∈ tr, e.2.isSaved = false) →
        m.persisted = (s.serve x l).2.persisted) (fun _ => rfl) ?_
      intro tr m l' hm ih hen hno
      obtain ⟨-, -, hkeeps'⟩ := RegistryNode.Inv.step (hm.invariant hstep hinv₁) hen.2
      have hlast := hno (l', _) (List.mem_append_right _ (List.mem_singleton_self _))
      exact (hkeeps' hlast).trans (ih fun e he => hno e (List.mem_append_left _ he))
    rw [hall hquiet]
    exact hkeeps (by rw [hanswer]; rfl)
  refine ⟨hpersisted, ?_⟩
  rcases @serve_save_cases x w headers input s' with ⟨e, he⟩ | ⟨validated, response', hvalid, he⟩
  · rw [he] at hsaved
    cases hsaved
  · rw [he]
    exact keptIn_of_validate hvalid hmerged

end Runs

/-! ### A store that does not answer -/

/-- A provider whose key is the OpenAI key. -/
def imageProvider (model : String) : ProviderEntry where
  kind := .openAiImages
  baseUrl := "https://api.openai.com"
  model := model
  secretRef := "openai_config"
  auth := .bearer
  enabled := true
  videoDialect := .openAiCompat
  extra := []

/-- A registry with one model for images. -/
def imageRegistry (model : String) : StoredModelRegistry :=
  { imageGen := [imageProvider model], textGen := [], videoGen := [] }

/-- That registry as it is stored. -/
def imageRegistryText (model : String) : String :=
  r#"{"image_gen":[{"kind":"openai_images","base_url":"https://api.openai.com","# ++
  r#""model":""# ++ model ++ r#"","secret_ref":"openai_config","auth":"bearer","# ++
  r#""enabled":true,"video_dialect":"open_ai_compat","extra":{}}],"# ++
  r#""text_gen":[],"video_gen":[]}"#

/-- Libraries that read and write such registries. -/
def registryCrates : NodeCrates :=
  { leaseCrates with
    registryText := fun registry =>
      if registry = imageRegistry "gpt-image-1" then imageRegistryText "gpt-image-1"
      else imageRegistryText "gpt-image-2"
    parseRegistry := fun text =>
      if text = imageRegistryText "gpt-image-1" then some (imageRegistry "gpt-image-1")
      else if text = imageRegistryText "gpt-image-2" then some (imageRegistry "gpt-image-2")
      else none
    parseUrl := fun url =>
      if url = "https://api.openai.com" then some ("https", "api.openai.com") else none }

/-- The laptop with a key in its environment, and a secret store that may fail to read. -/
def registryWorld (getFails : Bool) : NodeWorld :=
  { laptopWorld with
    getFails := fun _ => getFails
    env := fun name => if name = "OPENAI_API_KEY" then some "sk-key" else none }

/-- A node that has just been started; one provider has been saved before. -/
def registryNode : RegistryNode where
  node := LocalState.new nodeConfig
    (Finmap.singleton secretModelRegistry (imageRegistryText "gpt-image-1"))
  persisted := imageRegistry "gpt-image-1"

/-- The headers of the operator. -/
def operatorHeaders : TokenHeaders := ⟨some "operator-secret", none⟩

lemma registryText_imageRegistry : registryCrates.registryText (imageRegistry "gpt-image-1") =
    imageRegistryText "gpt-image-1" := by
  simp [registryCrates]

lemma registryNode_init : (registryMachine registryCrates).init registryNode := by
  refine ⟨rfl, .inl ?_⟩
  rw [registryNode, registryText_imageRegistry]
  exact Finmap.lookup_singleton_eq

/-- The registry is loaded from a store that answers. -/
theorem registry_cache_coherent_loaded :
    ((registryMachine registryCrates).exec registryNode
        [(.load, registryWorld false)]).2.Coherent ∧
      ∀ registry, (((registryMachine registryCrates).exec registryNode
          [(.load, registryWorld false)]).2.serve registryCrates
          (.fetch operatorHeaders, registryWorld true)).1 = .registry registry →
        registry = imageRegistry "gpt-image-1" := by
  have hreads : ((registryMachine registryCrates).restrict (ReadsRegistry registryCrates)).Allows
      registryNode [(.load, registryWorld false)] := by
    refine ⟨⟨trivial, fun _ => ⟨nofun, fun _ => .inr ?_⟩⟩, trivial⟩
    rw [registryNode, registryText_imageRegistry]
    simp [registryCrates]
  have hrun := Machine.run_exec hreads
  rw [Machine.exec_restrict] at hrun
  obtain ⟨hcoherent, hshown⟩ := registry_cache_coherent registryNode_init hrun
  refine ⟨hcoherent, fun registry hanswer => ?_⟩
  exact (hshown (.fetch operatorHeaders, registryWorld true) registry nofun hanswer).1

/-- The store does not answer once: the empty registry is cached and fetched, and posting it back
with another provider erases the one that had been saved. -/
theorem fetched_registry_erases :
    ¬ ∀ (x : NodeCrates) (s₀ s : RegistryNode)
        (tr : List ((RegistryCall × NodeWorld) × RegistryAnswer)) (headers : TokenHeaders)
        (w w' : NodeWorld) (registry input : StoredModelRegistry)
        (response : ModelRegistryResponse),
      (registryMachine x).init s₀ → (registryMachine x).Run s₀ tr s →
      (s.serve x (.fetch headers, w)).1 = .registry registry → registry.MergedInto input →
      ((s.serve x (.fetch headers, w)).2.serve x (.save headers input, w')).1 = .saved response →
      s.Coherent ∧ s.persisted.KeptIn
        ((s.serve x (.fetch headers, w)).2.serve x (.save headers input, w')).2.persisted := by
  intro h
  have hallows : (registryMachine registryCrates).Allows registryNode
      [(.load, registryWorld true)] := ⟨trivial, trivial⟩
  obtain ⟨-, hkept⟩ := h registryCrates registryNode _ _ operatorHeaders (registryWorld true)
    (registryWorld false) .default (imageRegistry "gpt-image-2")
    { ok := true, imageGenEntries := 1, textGenEntries := 0, videoGenEntries := 0
      savedAt := laptopWorld.now }
    registryNode_init (Machine.run_exec hallows) (by rfl) ⟨nofun, nofun, nofun⟩ (by rfl)
  obtain ⟨entry, hentry, hsame⟩ :=
    hkept.imageGen (imageProvider "gpt-image-1") (List.mem_singleton_self _)
  obtain rfl : entry = imageProvider "gpt-image-2" := List.mem_singleton.mp hentry
  have hmodel : "gpt-image-2" = "gpt-image-1" := congrArg ProviderEntry.model hsame
  revert hmodel
  decide

end OzonSuite
