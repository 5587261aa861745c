/-
# Runs of the task store

The two main results on the task store, for every order of its operations: no task is executed
without the approval it needs and finished tasks are final; and the idempotency key of a task
that is under way leads to that task and to no other.
-/
import OzonSuite.TaskEngine.Invariant

namespace OzonSuite

open Lib TaskStore

variable {s m : TaskStore} {pre post : List (TaskLabel × Option (Except TaskEngineError Task))}

lemma inv_of_run (h : taskMachine.Run .new pre s) : s.Inv :=
  h.invariant inv_step inv_new

lemma keeps_of_run (h : taskMachine.Run m post s) (hm : m.Inv) : m.Keeps s :=
  h.relation inv_step .refl (fun _ _ _ => .trans) keeps_step hm

/-! ## Approvals -/

/-- The steps of a trace that record an approval of the task `id`. -/
def approves (id : TaskId) : TaskLabel × Option (Except TaskEngineError Task) → Bool
  | (.call (.approve id' _ _) _, some (.ok _)) => id' == id
  | _ => false

/-- The task `id` is stored with an approval. -/
def Approved (id : TaskId) (s : TaskStore) : Prop :=
  ∃ t, s.inner.lookup id = some t ∧ t.approval.isSome = true

/-- An approval that succeeds finds the task waiting for one and records it. -/
lemma approve_ok {id : TaskId} {approvedBy : String} {note : Option String} {draw : TaskDraw}
    {t' : Task} (h : (s.approve id approvedBy note draw).1 = .ok t') :
    t'.approval.isSome = true ∧ (s.approve id approvedBy note draw).2.inner = s.inner.insert id t' ∧
      ∃ t, s.inner.lookup id = some t ∧ t.state.canTransitionTo .queued = true := by
  simp only [approve, edit] at h ⊢
  cases hlookup : s.inner.lookup id with
  | none => simp [hlookup] at h
  | some t =>
    simp only [hlookup, EStateM.run, approveBody_run] at h ⊢
    by_cases hwrite : t.operation.isWrite = true
    · rcases transition_cases .queued draw.now t with ⟨hstate, ht⟩ | ⟨e, ht⟩
      · simp only [hwrite, if_true, ht] at h ⊢
        cases h
        exact ⟨rfl, rfl, t, rfl, hstate⟩
      · simp [hwrite, ht] at h
    · simp [hwrite] at h

lemma approved_step (id : TaskId) (s : TaskStore) (l : TaskLabel) (h : s.Inv)
    (hen : taskMachine.enabled s l) (happ : Approved id s) :
    Approved id (taskMachine.step s l).2 := by
  obtain ⟨t, hlookup, hsome⟩ := happ
  obtain ⟨t', hlookup', hkeeps⟩ := keeps_step s l h hen id t hlookup
  exact ⟨t', hlookup', by rwa [hkeeps.approval_eq hsome]⟩

lemma approves_step (id : TaskId) (s : TaskStore) (l : TaskLabel) (h : s.Inv)
    (hfired : approves id (l, (taskMachine.step s l).1) = true) :
    ¬ Approved id s ∧ Approved id (taskMachine.step s l).2 := by
  cases l with
  | finish i aid now => simp [approves] at hfired
  | call op draw =>
    cases op with
    | approve id' approvedBy note =>
      cases hans : (s.approve id' approvedBy note draw).1 with
      | error e => simp [approves, taskMachine, TaskOp.run, hans] at hfired
      | ok t' =>
        obtain rfl : id' = id := by simpa [approves, taskMachine, TaskOp.run, hans] using hfired
        obtain ⟨hsome, hinner, t, hlookup, hstate⟩ := approve_ok hans
        refine ⟨?_, t', ?_, hsome⟩
        · rintro ⟨u, hu, husome⟩
          obtain rfl := Option.some.inj (hlookup.symm.trans hu)
          have hnone := (h.sound hlookup).approval_eq_none (canTransitionTo_queued.mp hstate)
          simp [hnone] at husome
        · rw [show (taskMachine.step s (.call (.approve id' approvedBy note) draw)).2.inner =
            s.inner.insert id' t' from hinner, Finmap.lookup_insert]
    | createDryRun input => simp [approves] at hfired
    | cancel id' actor => simp [approves] at hfired
    | markRunning id' => simp [approves] at hfired
    | markSucceeded id' receipt => simp [approves] at hfired
    | markFailed id' reason => simp [approves] at hfired

/-- A task is approved at most once in a run. -/
lemma countP_approves_le_one (h : taskMachine.Run .new pre s) (id : TaskId) :
    pre.countP (approves id) ≤ 1 :=
  (h.countP_le_one inv_step (approved_step id)
    (fun s l hinv _ => approves_step id s l hinv) inv_new).1

/-! ## The main results -/

/-- **The life cycle of tasks.**  In every state `s` that a run from the empty store reaches, by
way of any earlier state `m`: a write that is queued, running or has been executed was approved;
a task of `m` is still there with the request it was created for, with the approval it had if it
had one, and it was approved at most once; a task has a receipt exactly when it was executed; a
task of `m` that had come to its end has not changed; and an operation that is refused leaves the
store as it was. -/
theorem task_life_cycle (hpre : taskMachine.Run .new pre m) (hpost : taskMachine.Run m post s) :
    (∀ id t, s.inner.lookup id = some t → t.operation.isWrite = true →
      t.state = .queued ∨ t.state = .running ∨ t.state = .succeeded ∨ t.state = .failed →
      t.approval.isSome = true) ∧
    (∀ id t, m.inner.lookup id = some t → ∃ t', s.inner.lookup id = some t' ∧
      t'.id = t.id ∧ t'.tenantId = t.tenantId ∧ t'.shopId = t.shopId ∧ t'.source = t.source ∧
      t'.operation = t.operation ∧ t'.dryRun = t.dryRun ∧ t'.risk = t.risk ∧
      t'.idempotencyKey = t.idempotencyKey ∧
      (t.approval.isSome = true → t'.approval = t.approval)) ∧
    (∀ id, (pre ++ post).countP (approves id) ≤ 1) ∧
    (∀ id t, s.inner.lookup id = some t →
      (t.receipt.isSome = true ↔ t.state = .succeeded ∨ t.state = .failed)) ∧
    (∀ id t, m.inner.lookup id = some t →
      t.state = .succeeded ∨ t.state = .failed ∨ t.state = .cancelled →
      s.inner.lookup id = some t) ∧
    (∀ op draw e, (TaskOp.run op draw s).1 = .error e → (TaskOp.run op draw s).2 = s) := by
  have hm := inv_of_run hpre
  have hs := inv_of_run (hpre.append hpost)
  -- what every state owes comes from the invariant, and what two states share from the run between
  have hkeeps := keeps_of_run hpost hm
  refine ⟨fun id t ht => (hs.sound ht).approval_isSome, fun id t ht => ?_,
    countP_approves_le_one (hpre.append hpost), fun id t ht => (hs.sound ht).receipt_isSome_iff,
    fun id t ht hend => ?_, fun op draw e he => ?_⟩
  · obtain ⟨t', ht', hk⟩ := hkeeps id t ht
    exact ⟨t', ht', hk.id_eq, hk.tenantId_eq, hk.shopId_eq, hk.source_eq, hk.operation_eq,
      hk.dryRun_eq, hk.risk_eq, hk.idempotencyKey_eq, hk.approval_eq⟩
  · obtain ⟨t', ht', hk⟩ := hkeeps id t ht
    have hterminal : isTerminal t.state = true := by
      rcases hend with h | h | h <;> simp [h, isTerminal]
    rw [ht', hk.eq_of_isTerminal hterminal]
  · have heffect := run_effect op draw s
    rw [he] at heffect
    generalize (op.run draw s).2 = s' at heffect
    cases heffect with
    | refused => rfl

/-- A price update asked for by the bridge. -/
def priceUpdate : CreateTask :=
  { tenantId := ⟨.ofNat 1⟩, shopId := "shop-1", source := .openClaw,
    operation := .ozonUpdatePriceMock,
    dryRun := { summary := "mock price update", targetCount := 1, changes := [], warnings := [] },
    risk := .high, idempotencyKey := "idem-1" }

/-- The values drawn by the `n`-th operation. -/
def taskDraw (n : ℕ) : TaskDraw :=
  { taskId := ⟨.ofNat n⟩, approvalId := ⟨.ofNat n⟩, now := n, later := n }

/-- The price update is asked for twice, approved and executed, and asked for again. -/
def priceUpdateSteps : List TaskLabel :=
  [.call (.createDryRun priceUpdate) (taskDraw 1),
   .call (.createDryRun priceUpdate) (taskDraw 2),
   .call (.approve ⟨.ofNat 1⟩ "operator" none) (taskDraw 3),
   .finish 0 ⟨.ofNat 4⟩ 4,
   .call (.markRunning ⟨.ofNat 1⟩) (taskDraw 5),
   .call (.markFailed ⟨.ofNat 1⟩ "no connection") (taskDraw 6),
   .call (.createDryRun priceUpdate) (taskDraw 7)]

theorem task_life_cycle_priceUpdate :
    ∃ m s, taskMachine.Run .new (taskMachine.exec .new (priceUpdateSteps.take 2)).1 m ∧
      taskMachine.Run m (taskMachine.exec m (priceUpdateSteps.drop 2)).1 s ∧
      (s.inner.lookup ⟨.ofNat 1⟩).map (·.state) = some .failed ∧
      ∀ op draw e, (TaskOp.run op draw s).1 = .error e → (TaskOp.run op draw s).2 = s :=
  have hpre : taskMachine.Allows .new (priceUpdateSteps.take 2) := by decide
  have hpost : taskMachine.Allows (taskMachine.exec .new (priceUpdateSteps.take 2)).2
    (priceUpdateSteps.drop 2) := by decide
  ⟨_, _, Machine.run_exec hpre, Machine.run_exec hpost, by decide,
    (task_life_cycle (Machine.run_exec hpre) (Machine.run_exec hpost)).2.2.2.2.2⟩

/-- **Idempotency.**  In every state that a run from the empty store reaches: two tasks under way
with the same tenant and key are the same; an entry of the index points to a task with that
tenant and key; a task under way is the one its entry points to; so a creation for the key of a
task under way returns this task and changes nothing, and any other creation adds the one task it
returns, under an identifier that was free, and leaves the earlier tasks in place. -/
theorem task_idempotency (h : taskMachine.Run .new pre s) :
    (∀ id id' t t', s.inner.lookup id = some t → s.inner.lookup id' = some t' →
      t.tenantId = t'.tenantId → t.idempotencyKey = t'.idempotencyKey →
      isTerminal t.state = false → isTerminal t'.state = false → id = id') ∧
    (∀ tenant key id, s.byIdempotency.lookup (tenant, key) = some id →
      ∃ t, s.inner.lookup id = some t ∧ t.tenantId = tenant ∧ t.idempotencyKey = key) ∧
    (∀ id t, s.inner.lookup id = some t → isTerminal t.state = false →
      s.byIdempotency.lookup (t.tenantId, t.idempotencyKey) = some id) ∧
    (∀ input draw id t, s.inner.lookup id = some t → isTerminal t.state = false →
      t.tenantId = input.tenantId → t.idempotencyKey = input.idempotencyKey →
      s.createDryRun input draw = (.ok t, s)) ∧
    (∀ input draw, draw.taskId ∉ s.inner →
      (∀ id t, s.inner.lookup id = some t → t.tenantId = input.tenantId →
        t.idempotencyKey = input.idempotencyKey → isTerminal t.state = true) →
      ∃ t s', s.createDryRun input draw = (.ok t, s') ∧ t = newTask input draw ∧
        t.id ∉ s.inner ∧ s'.inner = s.inner.insert t.id t ∧
        ∀ id u, s.inner.lookup id = some u → s'.inner.lookup id = some u) := by
  -- of the tasks with a key the index points to the one under way
  have hinv := inv_of_run h
  refine ⟨fun id id' t t' ht ht' htenant hkey hrun hrun' => ?_, fun tenant key id hid => ?_,
    fun id t ht hrun => hinv.index_of_live ht hrun, fun input draw id t ht hrun htenant hkey => ?_,
    fun input draw hfresh hdone => ?_⟩
  · have hindex := hinv.index_of_live ht hrun
    have hindex' := hinv.index_of_live ht' hrun'
    rw [show t.key = t'.key from Prod.ext htenant hkey, hindex'] at hindex
    exact (Option.some.inj hindex).symm
  · obtain ⟨t, ht, hk⟩ := hinv.task_of_index hid
    exact ⟨t, ht, congrArg Prod.fst hk, congrArg Prod.snd hk⟩
  · have hindex := hinv.index_of_live ht hrun
    rw [show t.key = (input.tenantId, input.idempotencyKey) from Prod.ext htenant hkey] at hindex
    rw [createDryRun, liveTask_eq_some_iff.mpr ⟨id, hindex, ht, hrun⟩]
  · have hlive : s.liveTask (input.tenantId, input.idempotencyKey) = none := by
      -- a task under way that the index found would have this key, and they have all ended
      by_contra hne
      obtain ⟨t, hsome⟩ := Option.ne_none_iff_exists'.mp hne
      obtain ⟨id, hindex, ht, hrun⟩ := liveTask_eq_some_iff.mp hsome
      obtain ⟨t', ht', hk⟩ := hinv.task_of_index hindex
      obtain rfl := Option.some.inj (ht.symm.trans ht')
      have hend := hdone id t ht (congrArg Prod.fst hk) (congrArg Prod.snd hk)
      exact absurd hend (by simp [hrun])
    refine ⟨_, _, by rw [createDryRun, hlive], rfl, hfresh, rfl, fun id u hu => ?_⟩
    have hid : id ≠ draw.taskId := by
      rintro rfl
      exact hfresh (Finmap.mem_iff.mpr ⟨u, hu⟩)
    exact (Finmap.lookup_insert_of_ne _ hid).trans hu

theorem task_idempotency_priceUpdate :
    ∃ s, taskMachine.Run .new (taskMachine.exec .new priceUpdateSteps).1 s ∧
      s.byIdempotency.lookup (⟨.ofNat 1⟩, "idem-1") = some ⟨.ofNat 7⟩ ∧
      ∀ draw, ∃ t, s.createDryRun priceUpdate draw = (.ok t, s) ∧ t.id = ⟨.ofNat 7⟩ :=
  have hrun := Machine.run_exec (show taskMachine.Allows .new priceUpdateSteps by decide)
  ⟨_, hrun, by decide, fun draw => ⟨newTask priceUpdate (taskDraw 7),
    (task_idempotency hrun).2.2.2.1 priceUpdate draw ⟨.ofNat 7⟩ _ (by decide) (by decide) rfl rfl,
    rfl⟩⟩

end OzonSuite
