/-
# Tasks over HTTP

The two routes of the node that create tasks: `POST /tasks/dry-run` and the proposal of a schedule.
Both fill in what the request leaves out and hand the rest to the task store, which knows a
repeated request by its tenant and its idempotency key.
-/
import OzonSuite.Node.LeaseSafety
import OzonSuite.TaskEngine.Runs

namespace OzonSuite

open Lib

/-! ## Errors and tokens -/

/-- The state, as messages name it. -/
def TaskState.debug : TaskState → String
  | .draft => "Draft"
  | .pendingApproval => "PendingApproval"
  | .queued => "Queued"
  | .running => "Running"
  | .succeeded => "Succeeded"
  | .failed => "Failed"
  | .cancelled => "Cancelled"

/-- The text of an error of the domain. -/
def DomainError.message : DomainError → String
  | .invalidTaskTransition source target =>
    s!"invalid task transition from {source.debug} to {target.debug}"
  | .writeRequiresApproval => "write operation requires approval"

/-- The text of an error of the engine. -/
def TaskEngineError.message : TaskEngineError → String
  | .taskNotFound => "task not found"
  | .approvalNotRequired => "approval is not required for this operation"
  | .domain e => e.message

/-- The headers of a request that carry a token. -/
structure TokenHeaders where
  localToken : Option String
  openclawToken : Option String
deriving DecidableEq

/-- The check of either token. -/
def requireBridgeOrOperatorToken (config : LocalConfig) (headers : TokenHeaders) :
    Except ApiError Unit :=
  refuseIf (headers.localToken ≠ some config.operatorToken ∧
      headers.openclawToken ≠ some config.openclawToken)
    (ApiError.unauthorized "missing or invalid x-openclaw-token / x-local-token")

/-! ## The requests -/

/-- A request for a dry run. -/
structure DryRunRequest where
  tenantId : Option Uuid
  shopId : Option String
  source : Option TaskSource
  operation : Option OperationKind
  dryRun : Option DryRunDiff
  risk : Option RiskLevel
  idempotencyKey : Option String
deriving DecidableEq

/-- A proposal of a schedule. -/
structure ProposeEcommerceScheduleRequest where
  tenantId : Option Uuid
  shopId : Option String
  source : Option TaskSource
  intervalSecs : Option ℕ
  limit : Option ℕ
  idempotencyKey : Option String
deriving DecidableEq

/-- What the dry run of a mock operation shows. -/
def sampleDryRun : OperationKind → DryRunDiff
  | .import1688Mock =>
    { summary := "Import 3 authorized mock 1688 source items into local draft catalog"
      targetCount := 3
      changes := [⟨"draft-1688-001", "source", none, some "mock-import"⟩]
      warnings := ["Live 1688 collection is disabled in MVP"] }
  | .draftUploadMock =>
    { summary := "Prepare 2 local product drafts for Ozon upload preview"
      targetCount := 2
      changes := []
      warnings := ["No real Ozon write will be sent by mock executor"] }
  | _ =>
    { summary := "Mock Ozon write proposal; approval required before execution"
      targetCount := 1
      changes := [⟨"SKU-MOCK-1", "price", some "1299 RUB", some "1199 RUB"⟩]
      warnings := ["AI/OpenClaw can propose this task, but local approval is mandatory"] }

/-- The tenant of a request: the one it names, or else a new one, as `TenantId::default` makes
it. -/
def requestTenant (w : NodeWorld) (tenantId : Option Uuid) : TenantId :=
  ⟨tenantId.getD (w.uuid 1)⟩

/-- What a dry run asks of the store. -/
def DryRunRequest.createTask (input : DryRunRequest) (w : NodeWorld) : CreateTask :=
  let operation := input.operation.getD .ozonUpdatePriceMock
  { tenantId := requestTenant w input.tenantId
    shopId := input.shopId.getD "default-shop"
    source := input.source.getD .openClaw
    operation := operation
    dryRun := input.dryRun.getD (sampleDryRun operation)
    risk := input.risk.getD .high
    idempotencyKey := input.idempotencyKey.getD s!"idem-{w.uuid 2}" }

/-- What the proposal of a schedule asks of the store. -/
def ProposeEcommerceScheduleRequest.createTask (input : ProposeEcommerceScheduleRequest)
    (config : LocalConfig) (w : NodeWorld) : CreateTask :=
  let intervalSecs :=
    max 60 (min (input.intervalSecs.getD config.defaultEcommerceIntervalSecs) (24 * 60 * 60))
  let limit := max 1 (min (input.limit.getD config.defaultEcommerceLimit) 100)
  { tenantId := requestTenant w input.tenantId
    shopId := input.shopId.getD "default-shop"
    source := input.source.getD .openClaw
    operation := .ozonProductsList
    dryRun :=
      { summary := s!"Propose official Ozon read-only product polling every {intervalSecs}s " ++
          s!"with limit {limit}"
        targetCount := .ofNat limit
        changes := []
        warnings :=
          ["This proposal does not enable a scheduler; local operator token is required",
            "Real connector mode uses official Ozon Seller API credentials only; no live 1688 " ++
              "scraping"] }
    risk := .low
    idempotencyKey := input.idempotencyKey.getD s!"schedule-proposal-{w.uuid 2}" }

/-! ## The handlers -/

/-- Hand a task to the store, with its error as the answer. -/
def storeTask (input : CreateTask) (draw : TaskDraw) : NodeM Task := fun s =>
  match s.tasks.createDryRun input draw with
  | (.ok task, tasks) => .ok task { s with tasks := tasks }
  | (.error e, tasks) => .error (.badRequest e.message) { s with tasks := tasks }

/-- Make the task of a dry run. -/
def Handlers.createDryRun (w : NodeWorld) (headers : TokenHeaders) (input : DryRunRequest)
    (draw : TaskDraw) : NodeM Task := do
  ofExcept (requireBridgeOrOperatorToken (← get).config headers)
  storeTask (input.createTask w) draw

/-- Make the task that proposes a schedule. -/
def Handlers.proposeEcommerceSchedule (x : NodeCrates) (w : NodeWorld) (headers : TokenHeaders)
    (input : ProposeEcommerceScheduleRequest) (draw : TaskDraw) : NodeM Task := do
  ofExcept (requireBridgeOrOperatorToken (← get).config headers)
  requireValidLeaseWithFeature x w .ozonRead
  storeTask (input.createTask (← get).config w) draw

/-- A request that creates a task, by either route. -/
inductive TaskRequest
  | dryRun (input : DryRunRequest)
  | propose (input : ProposeEcommerceScheduleRequest)
deriving DecidableEq

namespace TaskRequest

/-- The tenant that the request names. -/
def tenantId : TaskRequest → Option Uuid
  | .dryRun input => input.tenantId
  | .propose input => input.tenantId

/-- The key that the request brings. -/
def idempotencyKey : TaskRequest → Option String
  | .dryRun input => input.idempotencyKey
  | .propose input => input.idempotencyKey

/-- The handler of the request. -/
def run (x : NodeCrates) (request : TaskRequest) (w : NodeWorld) (headers : TokenHeaders)
    (draw : TaskDraw) : NodeM Task :=
  match request with
  | .dryRun input => Handlers.createDryRun w headers input draw
  | .propose input => Handlers.proposeEcommerceSchedule x w headers input draw

end TaskRequest

/-! ## The gate leaves the tasks alone -/

variable {x : NodeCrates} {w : NodeWorld}

/-- The tasks are as they were. -/
def SameTasks (s s' : LocalState) : Prop := s'.tasks = s.tasks

lemma SameTasks.trans (a b c : LocalState) (h : SameTasks a b) (h' : SameTasks b c) :
    SameTasks a c := Eq.trans h' h

lemma sameTasks_of_finalState {α : Type} {m : NodeM α} (h : ∀ s, finalState (m s) = s) :
    Moves SameTasks m := .refl_of (fun _ => rfl) h

lemma requireValidLeaseWithFeature_sameTasks {feature : Feature} :
    Moves SameTasks (requireValidLeaseWithFeature x w feature) :=
  moves_requireValidLeaseWithFeature (fun _ => rfl) SameTasks.trans (fun _ _ => rfl) fun _ _ => rfl

/-! ## What a request does to the store -/

variable {s : LocalState} {request : TaskRequest} {headers : TokenHeaders} {draw : TaskDraw}

/-- What a request asks of the store. -/
def TaskRequest.createTask (request : TaskRequest) (config : LocalConfig) (w : NodeWorld) :
    CreateTask :=
  match request with
  | .dryRun input => input.createTask w
  | .propose input => input.createTask config w

lemma TaskRequest.tenantId_createTask (request : TaskRequest) (config : LocalConfig)
    (w : NodeWorld) :
    (request.createTask config w).tenantId = requestTenant w request.tenantId := by
  cases request <;> rfl

lemma TaskRequest.idempotencyKey_createTask {key : String} (config : LocalConfig) (w : NodeWorld)
    (h : request.idempotencyKey = some key) :
    (request.createTask config w).idempotencyKey = key := by
  cases request with
  | dryRun input =>
    rw [idempotencyKey] at h
    simp [createTask, DryRunRequest.createTask, h]
  | propose input =>
    rw [idempotencyKey] at h
    simp [createTask, ProposeEcommerceScheduleRequest.createTask, h]

/-- A request either is refused and leaves the tasks alone, or is a creation at the store. -/
inductive TaskRequest.Outcome (s : LocalState) (request : TaskRequest) (w : NodeWorld)
    (draw : TaskDraw) : Except ApiError Task → LocalState → Prop
  | refused (e : ApiError) {s' : LocalState} (htasks : s'.tasks = s.tasks) :
    Outcome s request w draw (.error e) s'
  | stored (config : LocalConfig) {r : Except TaskEngineError Task}
    {answer : Except ApiError Task} {s' : LocalState}
    (hanswer : answer = r.mapError fun e => ApiError.badRequest e.message)
    (hstore : s.tasks.createDryRun (request.createTask config w) draw = (r, s'.tasks)) :
    Outcome s request w draw answer s'

/-- A step of the handler that leaves the tasks alone, taken apart at a bind. -/
lemma TaskRequest.Outcome.bind {α : Type} {m : NodeM α} {f : α → NodeM Task} {s₁ : LocalState}
    (hm : Moves SameTasks m) (hs : s₁.tasks = s.tasks)
    (hf : ∀ a s', s'.tasks = s.tasks →
      request.Outcome s w draw (outcome (f a s')) (finalState (f a s'))) :
    request.Outcome s w draw (outcome ((m >>= f) s₁)) (finalState ((m >>= f) s₁)) := by
  have hsame := hm s₁
  cases hresult : m s₁ with
  | ok a s' =>
    rw [hresult] at hsame
    rw [bind_of_ok hresult]
    exact hf a s' (Eq.trans hsame hs)
  | error e s' =>
    rw [hresult] at hsame
    rw [bind_of_error hresult]
    exact .refused e (Eq.trans hsame hs)

lemma storeTask_outcome {s₁ : LocalState} (config : LocalConfig) (hs : s₁.tasks = s.tasks) :
    request.Outcome s w draw (outcome (storeTask (request.createTask config w) draw s₁))
      (finalState (storeTask (request.createTask config w) draw s₁)) := by
  rw [storeTask, hs]
  cases hcreate : s.tasks.createDryRun (request.createTask config w) draw with
  | mk r tasks =>
    cases r with
    | ok task => exact .stored config rfl hcreate
    | error e => exact .stored config rfl hcreate

/-- **A request is refused, or creates at the store what it says.** -/
theorem TaskRequest.run_outcome (x : NodeCrates) (request : TaskRequest) (w : NodeWorld)
    (headers : TokenHeaders) (draw : TaskDraw) (s : LocalState) :
    request.Outcome s w draw (outcome (request.run x w headers draw s))
      (finalState (request.run x w headers draw s)) := by
  have hget : Moves SameTasks (get : NodeM LocalState) := sameTasks_of_finalState fun _ => rfl
  have htoken : ∀ config, Moves SameTasks
      (ofExcept (requireBridgeOrOperatorToken config headers) : NodeM Unit) := fun _ =>
    sameTasks_of_finalState fun _ => finalState_ofExcept _
  cases request with
  | dryRun input =>
    refine .bind hget rfl fun s₁ s₂ hs => .bind (htoken _) hs fun _ s₃ hs => ?_
    exact storeTask_outcome s₁.config hs
  | propose input =>
    refine .bind hget rfl fun s₁ s₂ hs => .bind (htoken _) hs fun _ s₃ hs => ?_
    refine .bind requireValidLeaseWithFeature_sameTasks hs fun _ s₄ hs => ?_
    exact .bind hget hs fun s₅ s₆ hs => storeTask_outcome s₅.config hs

/-! ## The node and its tasks -/

/-- The steps of a node, as far as its tasks are concerned: a request that creates a task, any
other operation of the store, the second half of one, and any step that leaves the tasks alone. -/
inductive TaskNodeLabel
  | request (request : TaskRequest) (w : NodeWorld) (headers : TokenHeaders) (draw : TaskDraw)
  | task (op : TaskOp) (draw : TaskDraw)
  | finish (i : ℕ) (id : AuditEventId) (now : Time)
  | elsewhere (next : LocalState)

/-- No task belongs to the tenant. -/
def TaskStore.TenantFree (tasks : TaskStore) (tenant : TenantId) : Prop :=
  ∀ id t, tasks.inner.lookup id = some t → t.tenantId ≠ tenant

/-- The node as a machine.  The identifiers that a request draws are not in use yet. -/
def taskNodeMachine (x : NodeCrates) :
    Machine LocalState TaskNodeLabel (Option (Except ApiError Task)) where
  init s := s.tasks = .new
  enabled s
    | .request _ w _ draw => draw.taskId ∉ s.tasks.inner ∧ s.tasks.TenantFree ⟨w.uuid 1⟩
    | .task _ draw => draw.taskId ∉ s.tasks.inner
    | .finish _ _ _ => True
    | .elsewhere _ => True
  step s
    | .request request w headers draw =>
      (some (outcome (request.run x w headers draw s)),
        finalState (request.run x w headers draw s))
    | .task op draw => (none, { s with tasks := (op.run draw s.tasks).2 })
    | .finish i id now => (none, { s with tasks := s.tasks.finish i id now })
    | .elsewhere next => (none, { next with tasks := s.tasks })

/-- A step of the node is a step of its task store, or none. -/
lemma taskNode_step (s : LocalState) (l : TaskNodeLabel) (hen : (taskNodeMachine x).enabled s l) :
    ((taskNodeMachine x).step s l).2.tasks = s.tasks ∨
      ∃ l', taskMachine.enabled s.tasks l' ∧
        ((taskNodeMachine x).step s l).2.tasks = (taskMachine.step s.tasks l').2 := by
  cases l with
  | request request w headers draw =>
    have houtcome := request.run_outcome x w headers draw s
    simp only [taskNodeMachine]
    generalize outcome (request.run x w headers draw s) = answer at houtcome
    generalize finalState (request.run x w headers draw s) = s' at houtcome
    cases houtcome with
    | refused e htasks => exact .inl htasks
    | stored config hanswer hstore =>
      refine .inr ⟨.call (.createDryRun (request.createTask config w)) draw, hen.1, ?_⟩
      simp only [taskMachine, TaskOp.run, hstore]
  | task op draw => exact .inr ⟨.call op draw, hen, rfl⟩
  | finish i id now => exact .inr ⟨.finish i id now, trivial, rfl⟩
  | elsewhere next => exact .inl rfl

/-- The run of the task store inside a run of the node. -/
lemma taskNode_run {s s' : LocalState} {tr : List (TaskNodeLabel × Option (Except ApiError Task))}
    (h : (taskNodeMachine x).Run s tr s') : ∃ tr', taskMachine.Run s.tasks tr' s'.tasks := by
  induction h with
  | nil => exact ⟨[], .nil⟩
  | @snoc tr s' l hrun hen ih =>
    obtain ⟨tr', hrun'⟩ := ih
    rcases taskNode_step s' l hen with heq | ⟨l', hen', heq⟩
    · exact ⟨tr', heq ▸ hrun'⟩
    · exact ⟨_, heq ▸ hrun'.snoc hen'⟩

/-! ## Repeated requests -/

lemma createDryRun_ok {tasks tasks' : TaskStore} {input : CreateTask}
    {r : Except TaskEngineError Task} (hinv : tasks.Inv)
    (h : tasks.createDryRun input draw = (r, tasks')) :
    ∃ task, r = .ok task ∧ tasks'.inner.lookup task.id = some task ∧
      task.key = (input.tenantId, input.idempotencyKey) := by
  rw [TaskStore.createDryRun] at h
  cases hlive : tasks.liveTask (input.tenantId, input.idempotencyKey) with
  | some existing =>
    simp only [hlive, Prod.mk.injEq] at h
    obtain ⟨rfl, rfl⟩ := h
    obtain ⟨id, hindex, hlookup, -⟩ := TaskStore.liveTask_eq_some_iff.mp hlive
    obtain ⟨task, htask, hkey⟩ := hinv.task_of_index hindex
    obtain rfl := Option.some.inj (hlookup.symm.trans htask)
    exact ⟨existing, rfl, by rw [hinv.id_eq hlookup, hlookup], hkey⟩
  | none =>
    simp only [hlive, Prod.mk.injEq] at h
    obtain ⟨rfl, rfl⟩ := h
    exact ⟨_, rfl, Finmap.lookup_insert _, rfl⟩

variable {s₀ s₁ s₂ : LocalState} {first second : TaskRequest} {w₁ w₂ : NodeWorld}
  {headers₁ headers₂ : TokenHeaders} {draw₁ draw₂ : TaskDraw} {t₁ t₂ : Task} {key : String}
  {pre mid : List (TaskNodeLabel × Option (Except ApiError Task))}

/-- The task a request was answered with is stored under the tenant and the key of the request. -/
lemma answered_task (hinv : s₁.tasks.Inv)
    (hanswer : ((taskNodeMachine x).step s₁ (.request first w₁ headers₁ draw₁)).1 =
      some (.ok t₁)) :
    ∃ config, s₁.tasks.createDryRun (first.createTask config w₁) draw₁ =
        (.ok t₁, ((taskNodeMachine x).step s₁ (.request first w₁ headers₁ draw₁)).2.tasks) ∧
      ((taskNodeMachine x).step s₁ (.request first w₁ headers₁ draw₁)).2.tasks.inner.lookup t₁.id =
        some t₁ ∧
      t₁.key = (requestTenant w₁ first.tenantId, (first.createTask config w₁).idempotencyKey) := by
  have houtcome := first.run_outcome x w₁ headers₁ draw₁ s₁
  simp only [taskNodeMachine, Option.some.injEq] at hanswer ⊢
  rw [hanswer] at houtcome
  generalize finalState (first.run x w₁ headers₁ draw₁ s₁) = s' at houtcome
  cases houtcome with
  | stored config hans hstore =>
    obtain ⟨task, rfl, hlookup, hkey⟩ := createDryRun_ok hinv hstore
    obtain rfl : t₁ = task := by simpa [Except.mapError] using hans
    exact ⟨config, hstore, hlookup, by rw [hkey, TaskRequest.tenantId_createTask]⟩

/-- **Repeated requests.**  Let a request that creates a task be answered in a reachable state of
the node, and later another one with the same idempotency key and the same tenant, given or left
out, when the task of the first is still under way.  The second is answered with the same task,
and no task is created for it, exactly if the tenant is given: one that is left out is a new one
each time, so the two requests have no key in common. -/
theorem dry_run_repeated_iff (h₀ : (taskNodeMachine x).init s₀)
    (hpre : (taskNodeMachine x).Run s₀ pre s₁)
    (hen₁ : (taskNodeMachine x).enabled s₁ (.request first w₁ headers₁ draw₁))
    (hanswer₁ : ((taskNodeMachine x).step s₁ (.request first w₁ headers₁ draw₁)).1 =
      some (.ok t₁))
    (hmid : (taskNodeMachine x).Run
      ((taskNodeMachine x).step s₁ (.request first w₁ headers₁ draw₁)).2 mid s₂)
    (hlive : ∃ t, s₂.tasks.inner.lookup t₁.id = some t ∧ isTerminal t.state = false)
    (hen₂ : (taskNodeMachine x).enabled s₂ (.request second w₂ headers₂ draw₂))
    (hanswer₂ : ((taskNodeMachine x).step s₂ (.request second w₂ headers₂ draw₂)).1 =
      some (.ok t₂))
    (hkey₁ : first.idempotencyKey = some key) (hkey₂ : second.idempotencyKey = some key)
    (htenant : first.tenantId = second.tenantId) :
    (t₂.id = t₁.id ∧
      ((taskNodeMachine x).step s₂ (.request second w₂ headers₂ draw₂)).2.tasks.inner =
        s₂.tasks.inner) ↔
      first.tenantId.isSome := by
  obtain ⟨tr₁, hrun₁⟩ := taskNode_run hpre
  rw [show s₀.tasks = .new from h₀] at hrun₁
  have hinv₁ := inv_of_run hrun₁
  obtain ⟨config₁, hstore₁, hlookup₁, htask₁⟩ := answered_task hinv₁ hanswer₁
  rw [TaskRequest.idempotencyKey_createTask _ _ hkey₁] at htask₁
  -- the task of the first request is there at the second, with its key
  have hnode := Machine.Run.snoc hpre hen₁
  obtain ⟨trₘ, hrunₘ⟩ := taskNode_run hnode
  obtain ⟨trₘ', hrunₘ'⟩ := taskNode_run hmid
  rw [show s₀.tasks = .new from h₀] at hrunₘ
  have hrun₂ := hrunₘ.append hrunₘ'
  obtain ⟨t, ht, hrun⟩ := hlive
  obtain ⟨t', ht', hkeeps⟩ := keeps_of_run hrunₘ' (inv_of_run hrunₘ) t₁.id t₁ hlookup₁
  obtain rfl := Option.some.inj (ht.symm.trans ht')
  obtain ⟨config₂, hstore₂, -, -⟩ := answered_task (inv_of_run hrun₂) hanswer₂
  have hkeyₜ := hkeeps.key_eq.trans htask₁
  cases hgiven : first.tenantId with
  | some tenant =>
    rw [hgiven] at hkeyₜ
    have hsame := (task_idempotency hrun₂).2.2.2.1 (second.createTask config₂ w₂) draw₂ t₁.id t ht
      hrun (by rw [TaskRequest.tenantId_createTask, ← htenant, hgiven]
               exact congrArg Prod.fst hkeyₜ)
      (by rw [TaskRequest.idempotencyKey_createTask _ _ hkey₂]; exact congrArg Prod.snd hkeyₜ)
    rw [hsame] at hstore₂
    obtain ⟨rfl, htasks⟩ : t = t₂ ∧ _ = _ := by simpa using hstore₂
    exact iff_of_true ⟨hkeeps.id_eq, by rw [← htasks]⟩ rfl
  | none =>
    -- no task has the tenant that has just been drawn
    refine iff_of_false ?_ (by simp)
    rintro ⟨hid, -⟩
    have hfree := hen₂.2
    obtain ⟨new, _, hnew, rfl, hfresh, -⟩ := (task_idempotency hrun₂).2.2.2.2
      (second.createTask config₂ w₂) draw₂ hen₂.1 fun id u hu htenantᵤ => by
        rw [TaskRequest.tenantId_createTask, ← htenant, hgiven] at htenantᵤ
        exact absurd htenantᵤ (hfree id u hu)
    rw [hnew] at hstore₂
    obtain rfl : _ = t₂ := by simpa using congrArg Prod.fst hstore₂
    exact hfresh (hid ▸ Finmap.mem_iff.mpr ⟨t, ht⟩)

/-! ## A price update asked for twice -/

/-- The world of the `n`-th request, with the identifiers that it draws. -/
def requestWorld (n : ℕ) : NodeWorld := { laptopWorld with uuid := fun i => .ofNat (100 * n + i) }

/-- The bridge asks for a price update, for a given tenant or for none. -/
def priceUpdateRequest (tenantId : Option Uuid) (n : ℕ) : TaskNodeLabel :=
  .request
    (.dryRun { tenantId := tenantId, shopId := none, source := none, operation := none,
               dryRun := none, risk := none, idempotencyKey := some "idem-1" })
    (requestWorld n) { localToken := none, openclawToken := some "bridge-secret" } (taskDraw n)

/-- The node after the first request. -/
def priceUpdateNode (tenantId : Option Uuid) : LocalState :=
  ((taskNodeMachine leaseCrates).step (.new nodeConfig ∅) (priceUpdateRequest tenantId 1)).2

/-- The task that the first request is answered with. -/
def priceUpdateTask (tenantId : Option Uuid) : Task :=
  TaskStore.newTask
    (DryRunRequest.createTask { tenantId := tenantId, shopId := none, source := none,
                                operation := none, dryRun := none, risk := none,
                                idempotencyKey := some "idem-1" } (requestWorld 1)) (taskDraw 1)

lemma priceUpdate_answer (tenantId : Option Uuid) :
    ((taskNodeMachine leaseCrates).step (.new nodeConfig ∅) (priceUpdateRequest tenantId 1)).1 =
      some (.ok (priceUpdateTask tenantId)) := by
  rfl

lemma priceUpdateNode_inner (tenantId : Option Uuid) :
    (priceUpdateNode tenantId).tasks.inner =
      (∅ : Finmap fun _ : TaskId => Task).insert ⟨.ofNat 1⟩ (priceUpdateTask tenantId) := by
  rfl

lemma priceUpdate_enabled_first (tenantId : Option Uuid) :
    (taskNodeMachine leaseCrates).enabled (.new nodeConfig ∅) (priceUpdateRequest tenantId 1) :=
  ⟨Finmap.notMem_empty, fun id t h => by simp [LocalState.new, TaskStore.new] at h⟩

lemma priceUpdate_enabled_second {tenantId : Option Uuid}
    (h : (priceUpdateTask tenantId).tenantId ≠ ⟨(requestWorld 2).uuid 1⟩) :
    (taskNodeMachine leaseCrates).enabled (priceUpdateNode tenantId)
      (priceUpdateRequest tenantId 2) := by
  constructor
  · rw [priceUpdateNode_inner, Finmap.mem_insert]
    exact not_or.mpr ⟨by decide, Finmap.notMem_empty⟩
  · intro id t hlookup
    rw [priceUpdateNode_inner, lookup_insert_eq_some] at hlookup
    rcases hlookup with ⟨-, rfl⟩ | ⟨-, hlookup⟩
    · exact h
    · simp at hlookup

theorem dry_run_repeated_given :
    ∃ t, ((taskNodeMachine leaseCrates).step (priceUpdateNode (some (.ofNat 1)))
        (priceUpdateRequest (some (.ofNat 1)) 2)).1 = some (.ok t) ∧
      t.id = (priceUpdateTask (some (.ofNat 1))).id := by
  have hinit : (taskNodeMachine leaseCrates).init (.new nodeConfig ∅) := rfl
  refine ⟨_, rfl, ((dry_run_repeated_iff hinit .nil
    (priceUpdate_enabled_first (some (.ofNat 1))) (priceUpdate_answer _) .nil
    ⟨_, Finmap.lookup_insert _, rfl⟩ (priceUpdate_enabled_second (by decide)) rfl rfl rfl
    rfl).mpr rfl).1⟩

/-- Without a tenant the same request creates a second task. -/
theorem dry_run_repeated_omitted :
    ¬ ∀ (x : NodeCrates) (s₀ s₁ s₂ : LocalState) (first second : TaskRequest) (w₁ w₂ : NodeWorld)
      (headers₁ headers₂ : TokenHeaders) (draw₁ draw₂ : TaskDraw) (t₁ t₂ : Task) (key : String)
      (pre mid : List (TaskNodeLabel × Option (Except ApiError Task))),
      (taskNodeMachine x).init s₀ → (taskNodeMachine x).Run s₀ pre s₁ →
      (taskNodeMachine x).enabled s₁ (.request first w₁ headers₁ draw₁) →
      ((taskNodeMachine x).step s₁ (.request first w₁ headers₁ draw₁)).1 = some (.ok t₁) →
      (taskNodeMachine x).Run
        ((taskNodeMachine x).step s₁ (.request first w₁ headers₁ draw₁)).2 mid s₂ →
      (∃ t, s₂.tasks.inner.lookup t₁.id = some t ∧ isTerminal t.state = false) →
      (taskNodeMachine x).enabled s₂ (.request second w₂ headers₂ draw₂) →
      ((taskNodeMachine x).step s₂ (.request second w₂ headers₂ draw₂)).1 = some (.ok t₂) →
      first.idempotencyKey = some key → second.idempotencyKey = some key →
      first.tenantId = second.tenantId →
      t₂.id = t₁.id ∧
        ((taskNodeMachine x).step s₂ (.request second w₂ headers₂ draw₂)).2.tasks.inner =
          s₂.tasks.inner := by
  intro h
  have hinit : (taskNodeMachine leaseCrates).init (.new nodeConfig ∅) := rfl
  have hsame := h leaseCrates _ _ _ _ _ _ _ _ _ _ _ _ _ "idem-1" [] [] hinit .nil
    (priceUpdate_enabled_first none) (priceUpdate_answer none) .nil
    ⟨_, Finmap.lookup_insert _, rfl⟩ (priceUpdate_enabled_second (by decide)) rfl rfl rfl rfl
  exact absurd hsame.1 (by decide)

end OzonSuite
