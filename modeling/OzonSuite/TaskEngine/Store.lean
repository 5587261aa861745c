/-
# The task store

The operations of `TaskStore`.  An operation takes the write lock on the task map (creation also
the one on the idempotency index), does its work, releases the locks and, when it succeeded,
appends to the audit log and announces the task.  The audit log has a lock of its own, so between
the two halves of one operation others may run: the second half of an operation is therefore a
step of its own, `finish`, and what it still has to write is kept in `unaudited`.

The bodies run on the task itself, in place, as they do behind `get_mut`: a body that fails leaves
behind whatever it had written by then.
-/
import OzonSuite.Domain
import OzonSuite.Lib.Machine

namespace OzonSuite

open Lib

/-- What a task is made from. -/
structure CreateTask where
  tenantId : TenantId
  shopId : String
  source : TaskSource
  operation : OperationKind
  dryRun : DryRunDiff
  risk : RiskLevel
  idempotencyKey : String
deriving DecidableEq

/-- What the subscribers are told. -/
inductive TaskEvent
  | changed (task : Task)
deriving DecidableEq

/-- Why an operation has been refused. -/
inductive TaskEngineError
  | taskNotFound
  | approvalNotRequired
  | domain (e : DomainError)
deriving DecidableEq

/-- The arguments of a call to `audit`, with the task announced after it. -/
structure AuditCall where
  tenantId : Option TenantId
  actor : String
  action : String
  target : String
  summary : String
  task : Task
deriving DecidableEq

/-- The store: the task map, the idempotency index, the audit log and the events sent so far,
together with the operations that have released the task map and not written their audit event
yet. -/
structure TaskStore where
  inner : Finmap (fun _ : TaskId => Task)
  byIdempotency : Finmap (fun _ : TenantId × String => TaskId)
  audit : List AuditEvent
  events : List TaskEvent
  unaudited : List AuditCall

/-- The values an operation draws: fresh identifiers, and the clock read twice. -/
structure TaskDraw where
  taskId : TaskId
  approvalId : ApprovalId
  now : Time
  later : Time
deriving DecidableEq

/-- Whether a task in this state has come to its end. -/
def isTerminal : TaskState → Bool
  | .succeeded | .failed | .cancelled => true
  | _ => false

/-- Work on one task in place that may fail. -/
abbrev TaskM := EStateM TaskEngineError Task

/-- Move the task to the state `next`, if its life cycle allows that. -/
def transition (next : TaskState) (now : Time) : TaskM Unit := do
  let task ← get
  if !task.state.canTransitionTo next then
    throw (.domain (.invalidTaskTransition task.state next))
  set { task with state := next, updatedAt := now }

namespace TaskStore

/-- The empty store. -/
def new : TaskStore :=
  { inner := ∅, byIdempotency := ∅, audit := [], events := [], unaudited := [] }

/-- Leave the audit event and the announcement of an operation to its second half. -/
def thenAudit (s : TaskStore) (call : AuditCall) : TaskStore :=
  { s with unaudited := s.unaudited ++ [call] }

/-- Announce a task. -/
def send (s : TaskStore) (task : Task) : TaskStore :=
  { s with events := s.events ++ [.changed task] }

/-- The task a creation adds. -/
def newTask (input : CreateTask) (draw : TaskDraw) : Task :=
  { id := draw.taskId
    tenantId := input.tenantId
    shopId := input.shopId
    source := input.source
    operation := input.operation
    state := if input.operation.isWrite then .pendingApproval else .queued
    dryRun := input.dryRun
    risk := input.risk
    idempotencyKey := input.idempotencyKey
    approval := none
    receipt := none
    createdAt := draw.now
    updatedAt := draw.now }

/-- The task that the index has for a key, if it is still under way. -/
def liveTask (s : TaskStore) (key : TenantId × String) : Option Task := do
  let existingId ← s.byIdempotency.lookup key
  let existing ← s.inner.lookup existingId
  if !isTerminal existing.state then some existing else none

/-- Make a task, or find the one with the same idempotency key. -/
def createDryRun (s : TaskStore) (input : CreateTask) (draw : TaskDraw) :
    Except TaskEngineError Task × TaskStore :=
  let idemKey := (input.tenantId, input.idempotencyKey)
  match s.liveTask idemKey with
  | some existing => (.ok existing, s)
  | none =>
    let task := newTask input draw
    let s := { s with
      inner := s.inner.insert task.id task
      byIdempotency := s.byIdempotency.insert idemKey task.id }
    (.ok task, s.thenAudit
      { tenantId := some task.tenantId, actor := "system", action := "task.created",
        target := task.id.debug, summary := s!"{task.operation.debug} dry-run created",
        task := task })

/-- Run `body` on the stored task `id` in place; when it succeeds, `publish` the outcome. -/
def edit (s : TaskStore) (id : TaskId) (body : TaskM Unit)
    (publish : TaskStore → Task → TaskStore) : Except TaskEngineError Task × TaskStore :=
  match s.inner.lookup id with
  | none => (.error .taskNotFound, s)
  | some task =>
    match body.run task with
    | .error e task => (.error e, { s with inner := s.inner.insert id task })
    | .ok _ task => (.ok task, publish { s with inner := s.inner.insert id task } task)

/-- The work of `approve` on the task. -/
def approveBody (approvedBy : String) (note : Option String) (draw : TaskDraw) : TaskM Unit := do
  if !(← get).operation.isWrite then
    throw .approvalNotRequired
  transition .queued draw.now
  modify fun task => { task with
    approval := some
      { id := draw.approvalId, approvedBy := approvedBy, approvedAt := draw.later, note := note } }

/-- Approve a task. -/
def approve (s : TaskStore) (id : TaskId) (approvedBy : String) (note : Option String)
    (draw : TaskDraw) : Except TaskEngineError Task × TaskStore :=
  s.edit id (approveBody approvedBy note draw) fun s task => s.thenAudit
    { tenantId := some task.tenantId, actor := "approver", action := "task.approved",
      target := task.id.debug, summary := "write task approved and queued", task := task }

/-- Cancel a task. -/
def cancel (s : TaskStore) (id : TaskId) (actor : String) (draw : TaskDraw) :
    Except TaskEngineError Task × TaskStore :=
  s.edit id (transition .cancelled draw.now) fun s task => s.thenAudit
    { tenantId := some task.tenantId, actor := actor, action := "task.cancelled",
      target := task.id.debug, summary := "task cancelled", task := task }

/-- The work of `mark_running` on the task. -/
def markRunningBody (draw : TaskDraw) : TaskM Unit := do
  let task ← get
  if task.operation.isWrite && task.approval.isNone then
    throw (.domain .writeRequiresApproval)
  transition .running draw.now

/-- The task is being executed. -/
def markRunning (s : TaskStore) (id : TaskId) (draw : TaskDraw) :
    Except TaskEngineError Task × TaskStore :=
  s.edit id (markRunningBody draw) send

/-- The work of `mark_succeeded` and `mark_failed`: the end of a run with its receipt. -/
def settleBody (next : TaskState) (receipt : ExecutionReceipt) (draw : TaskDraw) : TaskM Unit := do
  transition next draw.now
  modify fun task => { task with receipt := some receipt }

/-- The execution has succeeded. -/
def markSucceeded (s : TaskStore) (id : TaskId) (receipt : ExecutionReceipt) (draw : TaskDraw) :
    Except TaskEngineError Task × TaskStore :=
  s.edit id (settleBody .succeeded receipt draw) send

/-- The execution has failed. -/
def markFailed (s : TaskStore) (id : TaskId) (reason : String) (draw : TaskDraw) :
    Except TaskEngineError Task × TaskStore :=
  s.edit id (settleBody .failed
    { externalRequestId := none, executedAt := draw.later, resultSummary := reason } draw) send

/-- The second half of an operation: write the `i`-th outstanding audit event and announce its
task. -/
def finish (s : TaskStore) (i : ℕ) (id : AuditEventId) (now : Time) : TaskStore :=
  match s.unaudited[i]? with
  | none => s
  | some call =>
    let event : AuditEvent :=
      { id := id, tenantId := call.tenantId, actor := call.actor, action := call.action,
        target := call.target, summary := call.summary, createdAt := now }
    ({ s with unaudited := s.unaudited.eraseIdx i, audit := s.audit ++ [event] }).send call.task

end TaskStore

/-- The operations of the store that change it. -/
inductive TaskOp
  | createDryRun (input : CreateTask)
  | approve (id : TaskId) (approvedBy : String) (note : Option String)
  | cancel (id : TaskId) (actor : String)
  | markRunning (id : TaskId)
  | markSucceeded (id : TaskId) (receipt : ExecutionReceipt)
  | markFailed (id : TaskId) (reason : String)
deriving DecidableEq

/-- Run an operation up to the point where it has released the task map. -/
def TaskOp.run (op : TaskOp) (draw : TaskDraw) (s : TaskStore) :
    Except TaskEngineError Task × TaskStore :=
  match op with
  | .createDryRun input => s.createDryRun input draw
  | .approve id approvedBy note => s.approve id approvedBy note draw
  | .cancel id actor => s.cancel id actor draw
  | .markRunning id => s.markRunning id draw
  | .markSucceeded id receipt => s.markSucceeded id receipt draw
  | .markFailed id reason => s.markFailed id reason draw

/-- The steps of the store: an operation, or the second half of one that is under way. -/
inductive TaskLabel
  | call (op : TaskOp) (draw : TaskDraw)
  | finish (i : ℕ) (id : AuditEventId) (now : Time)
deriving DecidableEq

/-- The store as a machine.  A version 4 identifier is assumed not to repeat one that is in
use; nothing is assumed of the arguments, of the clock or of the order of the steps. -/
def taskMachine : Machine TaskStore TaskLabel (Option (Except TaskEngineError Task)) where
  init s := s = .new
  enabled s
    | .call _ draw => draw.taskId ∉ s.inner
    | .finish _ _ _ => True
  step s
    | .call op draw => ((op.run draw s).1, (op.run draw s).2)
    | .finish i id now => (none, s.finish i id now)

instance (s : TaskStore) (l : TaskLabel) : Decidable (taskMachine.enabled s l) :=
  match l with
  | .call _ draw => inferInstanceAs (Decidable (draw.taskId ∉ s.inner))
  | .finish _ _ _ => inferInstanceAs (Decidable True)

end OzonSuite
