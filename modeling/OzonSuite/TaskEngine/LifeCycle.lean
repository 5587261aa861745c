/-
# The life cycle of one task

What may happen to a stored task, said once: `Task.Move` lists the changes, `Task.Sound` is what
they keep, `Task.Keeps` compares a task with a later version of itself.  The bodies of the store
operations either make one of these moves or fail without having touched the task.
-/
import OzonSuite.TaskEngine.Store

namespace OzonSuite

lemma canTransitionTo_of_isTerminal {a b : TaskState} (h : isTerminal a = true) :
    a.canTransitionTo b = false := by
  cases a <;> cases b <;> first | rfl | exact absurd h (by decide)

lemma canTransitionTo_queued {a : TaskState} :
    a.canTransitionTo .queued = true ↔ a = .draft ∨ a = .pendingApproval := by
  cases a <;> decide

lemma canTransitionTo_settled {a next : TaskState} (hnext : next = .succeeded ∨ next = .failed) :
    a.canTransitionTo next = true ↔ a = .running := by
  rcases hnext with rfl | rfl <;> cases a <;> decide

namespace Task

/-- The changes that a stored task may undergo. -/
inductive Move : Task → Task → Prop
  | approve {t : Task} (hwrite : t.operation.isWrite = true)
      (hstate : t.state.canTransitionTo .queued = true) (record : ApprovalRecord) (now : Time) :
      Move t { t with state := .queued, updatedAt := now, approval := some record }
  | cancel {t : Task} (hstate : t.state.canTransitionTo .cancelled = true) (now : Time) :
      Move t { t with state := .cancelled, updatedAt := now }
  | start {t : Task} (happroved : t.operation.isWrite = true → t.approval.isSome = true)
      (hstate : t.state.canTransitionTo .running = true) (now : Time) :
      Move t { t with state := .running, updatedAt := now }
  | settle {t : Task} {next : TaskState} (hnext : next = .succeeded ∨ next = .failed)
      (hstate : t.state.canTransitionTo next = true) (receipt : ExecutionReceipt) (now : Time) :
      Move t { t with state := next, updatedAt := now, receipt := some receipt }

/-- What holds of every stored task: a write that is past its approval has an approval record,
and there is none before; a receipt belongs to a task that has been executed. -/
structure Sound (t : Task) : Prop where
  approval_isSome : t.operation.isWrite = true →
    t.state = .queued ∨ t.state = .running ∨ t.state = .succeeded ∨ t.state = .failed →
    t.approval.isSome = true
  approval_eq_none : t.state = .draft ∨ t.state = .pendingApproval → t.approval = none
  receipt_isSome_iff : t.receipt.isSome = true ↔ t.state = .succeeded ∨ t.state = .failed

/-- A later version `t'` of a task `t`: the request is the same, an approval that was given
stands, and a task that had come to its end is the same altogether. -/
structure Keeps (t t' : Task) : Prop where
  id_eq : t'.id = t.id
  tenantId_eq : t'.tenantId = t.tenantId
  shopId_eq : t'.shopId = t.shopId
  source_eq : t'.source = t.source
  operation_eq : t'.operation = t.operation
  dryRun_eq : t'.dryRun = t.dryRun
  risk_eq : t'.risk = t.risk
  idempotencyKey_eq : t'.idempotencyKey = t.idempotencyKey
  approval_eq : t.approval.isSome = true → t'.approval = t.approval
  eq_of_isTerminal : isTerminal t.state = true → t' = t

lemma Keeps.refl (t : Task) : t.Keeps t :=
  ⟨rfl, rfl, rfl, rfl, rfl, rfl, rfl, rfl, fun _ => rfl, fun _ => rfl⟩

lemma Keeps.trans {t t' t'' : Task} (h : t.Keeps t') (h' : t'.Keeps t'') : t.Keeps t'' where
  id_eq := h'.id_eq.trans h.id_eq
  tenantId_eq := h'.tenantId_eq.trans h.tenantId_eq
  shopId_eq := h'.shopId_eq.trans h.shopId_eq
  source_eq := h'.source_eq.trans h.source_eq
  operation_eq := h'.operation_eq.trans h.operation_eq
  dryRun_eq := h'.dryRun_eq.trans h.dryRun_eq
  risk_eq := h'.risk_eq.trans h.risk_eq
  idempotencyKey_eq := h'.idempotencyKey_eq.trans h.idempotencyKey_eq
  approval_eq hsome := by
    have happ := h.approval_eq hsome
    rw [h'.approval_eq (by rwa [happ]), happ]
  eq_of_isTerminal hend := by
    obtain rfl := h.eq_of_isTerminal hend
    exact h'.eq_of_isTerminal hend

namespace Move

variable {t t' : Task}

/-- A task that has come to its end does not move. -/
lemma not_isTerminal (h : Move t t') : isTerminal t.state = false := by
  by_contra hend
  have hstuck := fun next => canTransitionTo_of_isTerminal (b := next) (Bool.not_eq_false _ ▸ hend)
  cases h with
  | approve _ hstate => exact absurd hstate (by simp [hstuck])
  | cancel hstate => exact absurd hstate (by simp [hstuck])
  | start _ hstate => exact absurd hstate (by simp [hstuck])
  | settle _ hstate => exact absurd hstate (by simp [hstuck])

lemma sound (h : Move t t') (hs : t.Sound) : t'.Sound := by
  cases h with
  | approve hwrite hstate record now =>
    refine ⟨fun _ _ => rfl, by simp, ?_⟩
    rcases canTransitionTo_queued.mp hstate with h | h <;>
      simpa [h] using hs.receipt_isSome_iff
  | cancel hstate now =>
    refine ⟨by simp, by simp, ?_⟩
    have hrec := hs.receipt_isSome_iff
    cases hst : t.state <;> simp_all [TaskState.canTransitionTo]
  | start happroved hstate now =>
    refine ⟨fun hwrite _ => happroved hwrite, by simp, ?_⟩
    have hrec := hs.receipt_isSome_iff
    cases hst : t.state <;> simp_all [TaskState.canTransitionTo]
  | settle hnext hstate receipt now =>
    have hrun := (canTransitionTo_settled hnext).mp hstate
    refine ⟨fun hwrite _ => hs.approval_isSome hwrite (by simp [hrun]), ?_, by simpa using hnext⟩
    rcases hnext with rfl | rfl <;> simp

/-- The one move that sets an approval starts from a task that has none. -/
lemma keeps (h : Move t t') (hs : t.Sound) : t.Keeps t' := by
  have hlive := h.not_isTerminal
  have hend : isTerminal t.state = true → t' = t := by simp [hlive]
  cases h with
  | approve hwrite hstate record now =>
    have hnone := hs.approval_eq_none (canTransitionTo_queued.mp hstate)
    exact ⟨rfl, rfl, rfl, rfl, rfl, rfl, rfl, rfl, by simp [hnone], hend⟩
  | cancel hstate now => exact ⟨rfl, rfl, rfl, rfl, rfl, rfl, rfl, rfl, fun _ => rfl, hend⟩
  | start happroved hstate now =>
    exact ⟨rfl, rfl, rfl, rfl, rfl, rfl, rfl, rfl, fun _ => rfl, hend⟩
  | settle hnext hstate receipt now =>
    exact ⟨rfl, rfl, rfl, rfl, rfl, rfl, rfl, rfl, fun _ => rfl, hend⟩

end Move

end Task

/-- A new task has neither approval nor receipt, and a write waits for its approval. -/
lemma newTask_sound (input : CreateTask) (draw : TaskDraw) :
    (TaskStore.newTask input draw).Sound := by
  cases hw : input.operation.isWrite <;> constructor <;> simp [TaskStore.newTask, hw]

/-! ## The bodies of the operations -/

open TaskStore

lemma transition_run (next : TaskState) (now : Time) (t : Task) :
    transition next now t =
      if t.state.canTransitionTo next then .ok () { t with state := next, updatedAt := now }
      else .error (.domain (.invalidTaskTransition t.state next)) t := by
  cases h : t.state.canTransitionTo next <;>
    simp [transition, get, getThe, MonadStateOf.get, set, EStateM.get, EStateM.set, EStateM.bind,
      bind, throw, throwThe, MonadExceptOf.throw, EStateM.throw, h]

lemma approveBody_run (approvedBy : String) (note : Option String) (draw : TaskDraw) (t : Task) :
    approveBody approvedBy note draw t =
      if t.operation.isWrite then
        match transition .queued draw.now t with
        | .error e t => .error e t
        | .ok _ t =>
          .ok () { t with approval := some ⟨draw.approvalId, approvedBy, draw.later, note⟩ }
      else .error .approvalNotRequired t := by
  cases hw : t.operation.isWrite <;> cases ht : transition .queued draw.now t <;>
    simp [approveBody, get, getThe, MonadStateOf.get, EStateM.get, EStateM.bind, bind, throw,
      throwThe, MonadExceptOf.throw, EStateM.throw, modify, modifyGet, MonadStateOf.modifyGet,
      EStateM.modifyGet, hw, ht]

lemma markRunningBody_run (draw : TaskDraw) (t : Task) :
    markRunningBody draw t =
      if t.operation.isWrite && t.approval.isNone then .error (.domain .writeRequiresApproval) t
      else transition .running draw.now t := by
  cases hw : t.operation.isWrite && t.approval.isNone <;>
    simp [markRunningBody, get, getThe, MonadStateOf.get, EStateM.get, EStateM.bind, bind, throw,
      throwThe, MonadExceptOf.throw, EStateM.throw, hw]

lemma settleBody_run (next : TaskState) (receipt : ExecutionReceipt) (draw : TaskDraw) (t : Task) :
    settleBody next receipt draw t =
      match transition next draw.now t with
      | .error e t => .error e t
      | .ok _ t => .ok () { t with receipt := some receipt } := by
  cases ht : transition next draw.now t <;>
    simp [settleBody, EStateM.bind, bind, modify, modifyGet, MonadStateOf.modifyGet,
      EStateM.modifyGet, ht]

/-- A body that makes one of the moves, or fails and leaves the task alone. -/
def MakesMove (body : TaskM Unit) : Prop :=
  ∀ t, (∃ t', body t = .ok () t' ∧ t.Move t') ∨ ∃ e, body t = .error e t

lemma transition_cases (next : TaskState) (now : Time) (t : Task) :
    (t.state.canTransitionTo next = true ∧
      transition next now t = .ok () { t with state := next, updatedAt := now }) ∨
    ∃ e, transition next now t = .error e t := by
  rw [transition_run]
  by_cases h : t.state.canTransitionTo next = true
  · exact .inl ⟨h, if_pos h⟩
  · exact .inr ⟨_, if_neg h⟩

lemma approveBody_makesMove (approvedBy : String) (note : Option String) (draw : TaskDraw) :
    MakesMove (approveBody approvedBy note draw) := by
  intro t
  rw [approveBody_run]
  by_cases hwrite : t.operation.isWrite = true
  · rw [if_pos hwrite]
    rcases transition_cases .queued draw.now t with ⟨hstate, ht⟩ | ⟨e, ht⟩
    · exact .inl ⟨_, by rw [ht], .approve hwrite hstate _ _⟩
    · exact .inr ⟨e, by rw [ht]⟩
  · exact .inr ⟨_, if_neg hwrite⟩

lemma cancelBody_makesMove (draw : TaskDraw) : MakesMove (transition .cancelled draw.now) := by
  intro t
  rcases transition_cases .cancelled draw.now t with ⟨hstate, ht⟩ | ⟨e, ht⟩
  · exact .inl ⟨_, ht, .cancel hstate _⟩
  · exact .inr ⟨e, ht⟩

lemma markRunningBody_makesMove (draw : TaskDraw) : MakesMove (markRunningBody draw) := by
  intro t
  rw [markRunningBody_run]
  by_cases hguard : (t.operation.isWrite && t.approval.isNone) = true
  · exact .inr ⟨_, if_pos hguard⟩
  · rw [if_neg hguard]
    have happroved : t.operation.isWrite = true → t.approval.isSome = true := by
      intro hwrite
      simpa [hwrite, Option.isSome_iff_ne_none] using hguard
    rcases transition_cases .running draw.now t with ⟨hstate, ht⟩ | ⟨e, ht⟩
    · exact .inl ⟨_, ht, .start happroved hstate _⟩
    · exact .inr ⟨e, ht⟩

lemma settleBody_makesMove {next : TaskState} (hnext : next = .succeeded ∨ next = .failed)
    (receipt : ExecutionReceipt) (draw : TaskDraw) : MakesMove (settleBody next receipt draw) := by
  intro t
  rw [settleBody_run]
  rcases transition_cases next draw.now t with ⟨hstate, ht⟩ | ⟨e, ht⟩
  · exact .inl ⟨_, by rw [ht], .settle hnext hstate _ _⟩
  · exact .inr ⟨e, by rw [ht]⟩

end OzonSuite
