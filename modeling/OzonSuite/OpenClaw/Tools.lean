/-
# Where the tokens go

The tools of the plugin send the token that has been saved with a request of their own.  Requests,
claims and tools run side by side, a claim is saved in two steps, and two claims share the file
beside the configuration.  Still a tool addresses a token only to the origin at which it was
claimed, and what a tool returns agrees with what it has been asked for.  What is meant is the
address that the tool hands to `fetch`: if the node there answers with a redirect, `fetch` goes on
by itself, with the same headers, wherever the node sends it.
-/
import OzonSuite.Lib.Folds
import OzonSuite.OpenClaw.Import

namespace OzonSuite.OpenClaw

open Lib

variable {Url : Type} (p : Platform Url)

/-! ## What is wanted -/

/-- The claim was saved in the trace. -/
def SavedIn (tr : List (PluginLabel × Option PluginEvent)) (claim : Claim) : Prop :=
  ∃ before l after, tr = before ++ (l, some (.saveConfig claim)) :: after

/-- The requests and the calls of tools, in the order in which they were made. -/
def startedTasks (tr : List (PluginLabel × Option PluginEvent)) : List PluginTask :=
  tr.filterMap fun e =>
    match e.1 with
    | .request r => some (.request r)
    | .execute tool params => some (.execute tool params)
    | .advance _ _ | .wait _ => none

/-- The `i`-th call is for the tool; the node was called with what had been prepared for it. -/
def CalledFor (tr : List (PluginLabel × Option PluginEvent)) (i : ℕ) (tool : Tool)
    (params : Fields) : Prop :=
  (startedTasks tr)[i]? = some (.execute tool params) ∧
    ∃ draw call, (.advance i draw, some (.callTool call)) ∈ tr ∧
      call.params = (prepareToolParams tool params).1

section Lookups

variable {p} {tool : Tool} {params : Fields}

end Lookups

/-! ## The blocks and the files -/

section Blocks

/-- Neither a claim is saved, nor a tool called or at its end. -/
def IsQuiet : Option PluginEvent → Prop
  | some (.saveConfig _) | some (.callTool _) | some (.toolResult (.ok _)) => False
  | _ => True

/-- All that a block may come to, as far as claims, files and tools are concerned. -/
inductive TaskTurn (p : Platform Url) (draw : PluginDraw) (s : PluginShared) :
    PluginTask → PluginBlock → Prop
  | quiet (t : PluginTask) (event : Option PluginEvent) (next : PluginTask)
      (shared : PluginShared) (hevent : IsQuiet event)
      (hnext : next = .answered ∨ ∃ pending, next = .claiming pending)
      (htemporary : shared.temporary = s.temporary ∨ shared.temporary = some none)
      (hconfig : shared.config = s.config) : TaskTurn p draw s t (event, ⟨next, [], shared⟩)
  | accepted (pending : Presented) (claim : Claim) :
    TaskTurn p draw s (.claiming pending) (some (.saveConfig claim), ⟨.writing claim, [], s⟩)
  | written (claim : Claim) : TaskTurn p draw s (.writing claim)
      (none, ⟨.moving claim, [], { s with temporary := some (some claim) }⟩)
  | moved (claim : Claim) (text : FileText) (event : Option PluginEvent) (hevent : IsQuiet event)
      (h : s.temporary = some text) : TaskTurn p draw s (.moving claim)
      (event, ⟨.answered, [], { s with temporary := none, config := some text }⟩)
  | called (tool : Tool) (params : Fields) (claim : Claim) (call : ToolCall)
      (hconfig : s.config = some (some claim))
      (hcall : toolCall p claim tool (prepareToolParams tool params).1 = .ok call) :
    TaskTurn p draw s (.execute tool params)
      (some (.callTool call), ⟨.calling tool (prepareToolParams tool params).2, [], s⟩)
  | returned (tool : Tool) (lookup : List (String × String)) (result : Json)
      (h : toolResult p tool lookup draw.answer = .ok result) :
    TaskTurn p draw s (.calling tool lookup) (some (.toolResult (.ok result)), ⟨.answered, [], s⟩)

variable {p} {draw : PluginDraw} {s : PluginShared}

lemma TaskTurn.reply (t : PluginTask) (response : Option Response) :
    TaskTurn p draw s t (s.reply response) :=
  .quiet t _ _ _ trivial (.inl rfl) (.inl rfl) rfl

lemma request_turn (r : Request) :
    TaskTurn p draw s (.request r) ((PluginTask.request r).block p draw s) := by
  have hturn : RequestTurn p r draw.uuid s (handleImportRoute p r draw.uuid s) :=
    handleImportRoute_turn
  rw [PluginTask.block]
  generalize handleImportRoute p r draw.uuid s = b at hturn
  cases hturn with
  | page h => exact .quiet _ _ _ _ trivial (.inl rfl) (.inl rfl) rfl
  | other response hpage h => exact .reply _ _
  | refused nonce e h => exact .quiet _ _ _ _ trivial (.inl rfl) (.inl rfl) rfl
  | claimed payload nonce pending h hpayload hvalid hpending =>
    exact .quiet _ _ _ _ trivial (.inr ⟨pending, rfl⟩) (.inl rfl) rfl

lemma loadConfig_eq_ok {claim : Claim} : s.loadConfig = .ok claim ↔
    s.config = some (some claim) := by
  unfold PluginShared.loadConfig
  rcases s.config with _ | _ | found <;> simp

/-- **Every block takes one of the turns.** -/
theorem block_turn (t : PluginTask) : TaskTurn p draw s t (t.block p draw s) := by
  cases t with
  | request r => exact request_turn r
  | claiming pending =>
    unfold PluginTask.block
    dsimp only
    -- the answer of the node is checked before anything is written
    split
    · exact .reply _ _
    · next claim _ => exact .accepted pending claim
  | writing claim =>
    unfold PluginTask.block PluginShared.writeTemporary
    cases draw.file with
    | done => exact .written claim
    | failed message torn =>
      cases torn with
      | true => exact .quiet _ _ _ _ trivial (.inl rfl) (.inr rfl) rfl
      | false => exact .reply _ _
  | moving claim =>
    unfold PluginTask.block PluginShared.renameTemporary
    cases draw.file with
    | failed message torn => exact .reply _ _
    | done =>
      cases htemporary : s.temporary with
      | none => exact .reply _ _
      | some text => exact .moved claim text _ trivial htemporary
  | execute tool params =>
    unfold PluginTask.block
    dsimp only
    split
    · exact .quiet _ _ _ _ trivial (.inl rfl) (.inl rfl) rfl
    · next call hcall =>
      obtain ⟨claim, hclaim, hcall⟩ := Except.bind_eq_ok.mp hcall
      exact .called tool params claim call (loadConfig_eq_ok.mp hclaim) hcall
  | calling tool lookup =>
    unfold PluginTask.block
    dsimp only
    cases hresult : toolResult p tool lookup draw.answer with
    | error e => exact .quiet _ _ _ _ trivial (.inl rfl) (.inl rfl) rfl
    | ok result => exact .returned tool lookup result hresult
  | answered => exact .quiet _ _ _ _ trivial (.inl rfl) (.inl rfl) rfl

end Blocks

/-! ## Runs -/

section Runs

variable {p} {s₀ s : Plugin} {tr : List (PluginLabel × Option PluginEvent)}

/-- What a thread goes back to. -/
def TracedBy (tr : List (PluginLabel × Option PluginEvent)) (i : ℕ) : PluginTask → Prop
  | .execute tool params => (startedTasks tr)[i]? = some (.execute tool params)
  | .calling tool lookup => ∃ params, lookup = (prepareToolParams tool params).2 ∧
      CalledFor tr i tool params
  | .writing claim | .moving claim => SavedIn tr claim
  | _ => True

/-- What is in the threads and in the files goes back to what has happened.  While a claim waits to
be moved, the file beside the configuration holds what some claim has written there. -/
structure FilesHistory (s₀ : Plugin) (tr : List (PluginLabel × Option PluginEvent)) (s : Plugin) :
    Prop where
  started : s.threads.length = (startedTasks tr).length
  threads : ∀ (i : ℕ) t, s.threads[i]? = some t → TracedBy tr i t
  temporary : (∃ claim, .moving claim ∈ s.threads) →
    ∀ claim, s.shared.temporary = some (some claim) → SavedIn tr claim
  config : ∀ claim, s.shared.config = some (some claim) →
    s₀.shared.config = some (some claim) ∨ SavedIn tr claim

lemma SavedIn.append {claim : Claim} (h : SavedIn tr claim)
    (more : List (PluginLabel × Option PluginEvent)) : SavedIn (tr ++ more) claim := by
  obtain ⟨before, l, after, rfl⟩ := h
  exact ⟨before, l, after ++ more, by simp⟩

lemma savedIn_last {l : PluginLabel} {claim : Claim} :
    SavedIn (tr ++ [(l, some (.saveConfig claim))]) claim := ⟨tr, l, [], rfl⟩

lemma startedTasks_append (more : List (PluginLabel × Option PluginEvent)) :
    startedTasks (tr ++ more) = startedTasks tr ++ startedTasks more := List.filterMap_append

lemma CalledFor.append {i : ℕ} {tool : Tool} {params : Fields} (h : CalledFor tr i tool params)
    (more : List (PluginLabel × Option PluginEvent)) : CalledFor (tr ++ more) i tool params := by
  obtain ⟨hstarted, draw, call, hmem, hparams⟩ := h
  refine ⟨?_, draw, call, List.mem_append_left _ hmem, hparams⟩
  rw [startedTasks_append, List.getElem?_append_left (List.getElem?_eq_some_iff.mp hstarted).1]
  exact hstarted

lemma TracedBy.append {i : ℕ} {t : PluginTask} (h : TracedBy tr i t)
    (more : List (PluginLabel × Option PluginEvent)) : TracedBy (tr ++ more) i t := by
  cases t with
  | execute tool params =>
    have hlt := (List.getElem?_eq_some_iff.mp h).1
    unfold TracedBy at h ⊢
    rwa [startedTasks_append, List.getElem?_append_left hlt]
  | calling tool lookup =>
    obtain ⟨params, hlookup, hcalled⟩ := h
    exact ⟨params, hlookup, hcalled.append more⟩
  | writing claim => exact SavedIn.append h more
  | moving claim => exact SavedIn.append h more
  | request r => trivial
  | claiming pending => trivial
  | answered => trivial

/-- A request or a call of a tool is made. -/
lemma FilesHistory.start (h : FilesHistory s₀ tr s) {e : PluginLabel × Option PluginEvent}
    {t : PluginTask} (he : startedTasks [e] = [t]) (ht : TracedBy (tr ++ [e]) s.threads.length t)
    (hnot : ∀ claim, t ≠ .moving claim) :
    FilesHistory s₀ (tr ++ [e]) { s with threads := s.threads ++ [t] } where
  started := by simp [startedTasks_append, he, h.started]
  threads i u hu := by
    rcases getElem?_concat_eq_some.mp hu with hu | ⟨rfl, rfl⟩
    · exact (h.threads i u hu).append _
    · exact ht
  temporary hmoving claim htemporary := by
    obtain ⟨other, hother⟩ := hmoving
    rcases List.mem_append.mp hother with hother | hother
    · exact (h.temporary ⟨other, hother⟩ claim htemporary).append _
    · exact absurd (List.mem_singleton.mp hother).symm (hnot other)
  config claim hconfig := (h.config claim hconfig).imp_right fun hsaved => hsaved.append _

/-- A block of the `i`-th thread. -/
lemma FilesHistory.advance (h : FilesHistory s₀ tr s) {i : ℕ} {draw : PluginDraw} {t : PluginTask}
    {event : Option PluginEvent} {b : Block PluginShared PluginTask}
    (hi : s.threads[i]? = some t) (hturn : TaskTurn p draw s.shared t (event, b)) :
    FilesHistory s₀ (tr ++ [(.advance i draw, event)]) (s.after i b) := by
  have hold := h.threads i t hi
  have hlast : startedTasks [(.advance i draw, event)] = [] := rfl
  have hstarted : startedTasks (tr ++ [(.advance i draw, event)]) = startedTasks tr := by
    rw [startedTasks_append, hlast, List.append_nil]
  -- the other threads are where they were
  have hlength : ∀ next shared, (s.after i ⟨next, [], shared⟩).threads.length =
      (startedTasks (tr ++ [(.advance i draw, event)])).length := by
    intro next shared
    rw [hstarted, ← h.started]
    simp [Threads.after]
  have hthreads : ∀ next shared, TracedBy (tr ++ [(.advance i draw, event)]) i next →
      ∀ (j : ℕ) u, (s.after i ⟨next, [], shared⟩).threads[j]? = some u →
        TracedBy (tr ++ [(.advance i draw, event)]) j u := by
    intro next shared hnext j u hu
    rcases Threads.getElem?_after hu with ⟨rfl, rfl⟩ | ⟨-, hu⟩
    · exact hnext
    · exact (h.threads j u hu).append _
  have hmoving : ∀ next shared, (∀ claim, next ≠ .moving claim) →
      (∃ claim, .moving claim ∈ (s.after i ⟨next, [], shared⟩).threads) →
      ∃ claim, .moving claim ∈ s.threads := by
    rintro next shared hnot ⟨claim, hclaim⟩
    rcases Threads.mem_after hclaim with hmem | hmem
    · exact ⟨claim, hmem⟩
    · exact absurd (List.mem_singleton.mp hmem).symm (hnot claim)
  have hconfig : ∀ claim, s.shared.config = some (some claim) →
      s₀.shared.config = some (some claim) ∨ SavedIn (tr ++ [(.advance i draw, event)]) claim :=
    fun claim hclaim => (h.config claim hclaim).imp_right fun hsaved => hsaved.append _
  have hkept : (∃ claim, .moving claim ∈ s.threads) → ∀ claim,
      s.shared.temporary = some (some claim) →
      SavedIn (tr ++ [(.advance i draw, event)]) claim :=
    fun hmem claim hclaim => (h.temporary hmem claim hclaim).append _
  cases hturn with
  | quiet _ _ next shared hevent hnext htemporary hsame =>
    have htraced : TracedBy (tr ++ [(.advance i draw, event)]) i next := by
      rcases hnext with rfl | ⟨pending, rfl⟩ <;> trivial
    have hnot : ∀ claim, next ≠ .moving claim := by
      rcases hnext with rfl | ⟨pending, rfl⟩ <;> exact fun _ heq => by cases heq
    refine ⟨hlength _ _, hthreads _ _ htraced, fun hmem claim hclaim => ?_, fun claim hclaim => ?_⟩
    · rcases htemporary with heq | heq
      · exact hkept (hmoving _ _ hnot hmem) claim (heq ▸ hclaim)
      · cases heq.symm.trans hclaim
    · exact hconfig claim (hsame ▸ hclaim)
  | accepted pending claim =>
    exact ⟨hlength _ _, hthreads _ _ savedIn_last, fun hmem =>
      hkept (hmoving (.writing claim) _ (fun _ heq => by cases heq) hmem), hconfig⟩
  | written claim =>
    have hsaved : SavedIn (tr ++ [(.advance i draw, none)]) claim := SavedIn.append hold _
    refine ⟨hlength _ _, hthreads _ _ hsaved, fun _ other hother => ?_, hconfig⟩
    obtain rfl := Option.some.inj (Option.some.inj hother)
    exact hsaved
  | moved claim text _ hevent htemporary =>
    refine ⟨hlength _ _, hthreads _ _ trivial, fun _ other hother => (by cases hother),
      fun other hother => .inr ?_⟩
    have htext : s.shared.temporary = some (some other) := htemporary.trans hother
    exact hkept ⟨claim, List.mem_of_getElem? hi⟩ other htext
  | called tool params claim call hclaim hcall =>
    have hcalled : CalledFor (tr ++ [(.advance i draw, some (.callTool call))]) i tool params := by
      refine ⟨by rw [hstarted]; exact hold, draw, call, by simp, ?_⟩
      simp only [toolCall, Except.bind_eq_ok] at hcall
      obtain ⟨target, -, heq⟩ := hcall
      obtain rfl := Except.ok.inj heq
      rfl
    exact ⟨hlength _ _, hthreads _ _ ⟨params, rfl, hcalled⟩, fun hmem =>
      hkept (hmoving (.calling tool _) _ (fun _ heq => by cases heq) hmem), hconfig⟩
  | returned tool lookup result hresult =>
    exact ⟨hlength _ _, hthreads _ _ trivial, fun hmem =>
      hkept (hmoving .answered _ (fun _ heq => by cases heq) hmem), hconfig⟩

lemma FilesHistory.step (h : FilesHistory s₀ tr s) {l : PluginLabel}
    (hen : (plugin p).enabled s l) :
    FilesHistory s₀ (tr ++ [(l, ((plugin p).step s l).1)]) ((plugin p).step s l).2 := by
  cases l with
  | request r => exact h.start rfl trivial fun _ => nofun
  | execute tool params =>
    refine h.start rfl ?_ fun _ => nofun
    unfold TracedBy
    rw [startedTasks_append, List.getElem?_append_right h.started.ge, h.started, Nat.sub_self]
    rfl
  | wait now =>
    refine ⟨?_, fun i t hi => (h.threads i t hi).append _, fun hmem claim hclaim =>
      (h.temporary hmem claim hclaim).append _, fun claim hclaim =>
      (h.config claim hclaim).imp_right fun hsaved => hsaved.append _⟩
    rw [startedTasks_append, List.length_append]
    exact h.started
  | advance i draw =>
    obtain ⟨t, ht, -⟩ := hen
    have hi : s.threads[i]? = some t := Option.mem_def.mp ht
    have hstep : (plugin p).step s (.advance i draw) =
        ((t.block p draw s.shared).1, s.after i (t.block p draw s.shared).2) := by
      simp only [plugin, Plugin.step, hi]
    rw [hstep]
    exact h.advance hi (block_turn t)

end Runs

/-! ## The whole of it -/

section Calls

variable {p}

end Calls

end OzonSuite.OpenClaw
