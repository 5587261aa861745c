/-
# What the task store tells the outside

An operation of the store that has released the task map writes its audit event and then sends the
changed task to the subscribers; between these two steps, and before them, other operations may
run.  The operations that mark the progress of a run send while they still hold the lock and write
no audit event.  This file takes the second half of an operation apart into its two steps, and
asks in which order the outside hears of what has happened to a task.
-/
import OzonSuite.Lib.Sequences
import OzonSuite.TaskEngine.Runs

namespace OzonSuite

open Lib TaskStore

/-- The task that was sent. -/
def TaskEvent.task : TaskEvent → Task
  | .changed task => task

/-- The task whose progress an operation marks. -/
def TaskOp.marks : TaskOp → Option TaskId
  | .markRunning id => some id
  | .markSucceeded id _ => some id
  | .markFailed id _ => some id
  | _ => none

/-- What an audit event says, apart from its own identifier and time. -/
def AuditEvent.entry (e : AuditEvent) : Option TenantId × String × String × String × String :=
  (e.tenantId, e.actor, e.action, e.target, e.summary)

/-- What the audit event of an operation will say. -/
def AuditCall.entry (c : AuditCall) : Option TenantId × String × String × String × String :=
  (c.tenantId, c.actor, c.action, c.target, c.summary)

/-- The audit event of an operation. -/
def AuditCall.event (c : AuditCall) (id : AuditEventId) (now : Time) : AuditEvent :=
  { id := id, tenantId := c.tenantId, actor := c.actor, action := c.action, target := c.target,
    summary := c.summary, createdAt := now }

/-! ## The steps -/

/-- The store with its operations under way: `unaudited`, in the store, has those that have not
written their audit event yet, and `unsent` the tasks of those that have, and have not sent it.
`transitions` notes which operations that are audited have happened, in this order. -/
structure Publisher where
  store : TaskStore
  unsent : List Task
  transitions : List AuditCall

/-- A step of the engine: an operation up to its event, an entry of the audit log, or the sending of
an event. -/
inductive PublishLabel
  | call (op : TaskOp) (draw : TaskDraw)
  | audit (i : ℕ) (id : AuditEventId) (now : Time)
  | send (i : ℕ)
deriving DecidableEq

namespace Publisher

/-- The engine before its first operation. -/
def new : Publisher := ⟨.new, [], []⟩

/-- An operation up to the point where it releases the task map. -/
def call (s : Publisher) (op : TaskOp) (draw : TaskDraw) :
    Except TaskEngineError Task × Publisher :=
  let (answer, store) := op.run draw s.store
  (answer, { s with
    store := store
    transitions := s.transitions ++ store.unaudited.drop s.store.unaudited.length })

/-- The `i`-th operation that has not done so yet writes its audit event. -/
def audit (s : Publisher) (i : ℕ) (id : AuditEventId) (now : Time) : Publisher :=
  match s.store.unaudited[i]? with
  | none => s
  | some c => { s with
      store := { s.store with
        unaudited := s.store.unaudited.eraseIdx i
        audit := s.store.audit ++ [c.event id now] }
      unsent := s.unsent ++ [c.task] }

/-- The `i`-th operation that still has to do so sends its task. -/
def send (s : Publisher) (i : ℕ) : Publisher :=
  match s.unsent[i]? with
  | none => s
  | some task => { s with store := s.store.send task, unsent := s.unsent.eraseIdx i }

/-- Every operation has returned. -/
def Quiet (s : Publisher) : Prop := s.store.unaudited = [] ∧ s.unsent = []

/-- What a subscriber has who keeps the last event of every task. -/
def subscriber (s : Publisher) : TaskId → Option Task :=
  lastOfEach Task.id (s.store.events.map TaskEvent.task)

end Publisher

/-- The store as a machine with three kinds of steps, for any order of the steps. -/
def publishMachine : Machine Publisher PublishLabel (Option (Except TaskEngineError Task)) where
  init s := s = .new
  enabled s
    | .call _ draw => draw.taskId ∉ s.store.inner
    | .audit _ _ _ => True
    | .send _ => True
  step s
    | .call op draw => (some (s.call op draw).1, (s.call op draw).2)
    | .audit i id now => (none, s.audit i id now)
    | .send i => (none, s.send i)

instance (s : Publisher) (l : PublishLabel) : Decidable (publishMachine.enabled s l) :=
  match l with
  | .call _ draw => inferInstanceAs (Decidable (draw.taskId ∉ s.store.inner))
  | .audit _ _ _ => inferInstanceAs (Decidable True)
  | .send _ => inferInstanceAs (Decidable True)

/-- Both steps of the second half of an operation at once are the step `finish` of the store. -/
lemma Publisher.finish_eq (s : Publisher) (i : ℕ) (id : AuditEventId) (now : Time)
    (h : s.unsent = []) :
    ((s.audit i id now).send 0).store = s.store.finish i id now ∧
      ((s.audit i id now).send 0).unsent = [] := by
  rw [audit, finish]
  cases s.store.unaudited[i]? with
  | none => simp [Publisher.send, h]
  | some c => simp [Publisher.send, h, AuditCall.event]

/-! ## What an operation hands on -/

namespace TaskStore

variable {s : TaskStore} {op : TaskOp} {draw : TaskDraw}

/-- What an operation leaves to be told: nothing; an audit event and the task; or nothing, because
it has sent the task itself. -/
inductive HandsOn (s : TaskStore) (op : TaskOp) : TaskStore → Prop
  | nothing : HandsOn s op s
  | later (c : AuditCall) {s' : TaskStore} (htarget : c.target = c.task.id.debug)
      (hinner : s'.inner = s.inner.insert c.task.id c.task)
      (hunaudited : s'.unaudited = s.unaudited ++ [c]) (haudit : s'.audit = s.audit)
      (hevents : s'.events = s.events) : HandsOn s op s'
  | sent (t : Task) {s' : TaskStore} (hmarks : op.marks = some t.id)
      (hinner : s'.inner = s.inner.insert t.id t) (hunaudited : s'.unaudited = s.unaudited)
      (haudit : s'.audit = s.audit) (hevents : s'.events = s.events ++ [.changed t]) :
      HandsOn s op s'

/-- An operation on one task hands on what its `publish` makes of the changed task. -/
lemma edit_handsOn {id : TaskId} {body : TaskM Unit} {publish : TaskStore → Task → TaskStore}
    (hinv : s.Inv) (hbody : MakesMove body)
    (hpub : ∀ t, t.id = id →
      HandsOn s op (publish { s with inner := s.inner.insert t.id t } t)) :
    HandsOn s op (s.edit id body publish).2 := by
  rw [edit]
  cases hlookup : s.inner.lookup id with
  | none => exact .nothing
  | some t =>
    rcases hbody t with ⟨t', hrun, hmove⟩ | ⟨e, hrun⟩
    · have hid : t'.id = id := by
        rw [(hmove.keeps (hinv.sound hlookup)).id_eq, hinv.id_eq hlookup]
      simp only [EStateM.run, hrun]
      have hgoal := hpub t' hid
      rwa [hid] at hgoal
    · simp only [EStateM.run, hrun, insert_lookup_self hlookup]
      exact .nothing

lemma createDryRun_handsOn (input : CreateTask) :
    HandsOn s (.createDryRun input) (s.createDryRun input draw).2 := by
  rw [createDryRun]
  cases s.liveTask (input.tenantId, input.idempotencyKey) with
  | some t => exact .nothing
  | none => exact .later _ rfl rfl rfl rfl rfl

/-- **What every operation hands on.** -/
theorem run_handsOn (op : TaskOp) (draw : TaskDraw) (hinv : s.Inv) :
    HandsOn s op (op.run draw s).2 := by
  cases op with
  | createDryRun input => exact createDryRun_handsOn input
  | approve id approvedBy note =>
    exact edit_handsOn hinv (approveBody_makesMove approvedBy note draw) fun t _ =>
      .later _ rfl rfl rfl rfl rfl
  | cancel id actor =>
    exact edit_handsOn hinv (cancelBody_makesMove draw) fun t _ => .later _ rfl rfl rfl rfl rfl
  | markRunning id =>
    exact edit_handsOn hinv (markRunningBody_makesMove draw) fun t hid =>
      .sent t (by rw [hid]; rfl) rfl rfl rfl rfl
  | markSucceeded id receipt =>
    exact edit_handsOn hinv (settleBody_makesMove (.inl rfl) receipt draw) fun t hid =>
      .sent t (by rw [hid]; rfl) rfl rfl rfl rfl
  | markFailed id reason =>
    exact edit_handsOn hinv (settleBody_makesMove (.inr rfl) _ draw) fun t hid =>
      .sent t (by rw [hid]; rfl) rfl rfl rfl rfl

end TaskStore

/-! ## Telling in order -/

namespace Publisher

/-- The tasks that an operation is still to tell of. -/
def outstanding (s : Publisher) : List TaskId :=
  s.store.unaudited.map (fun c => c.task.id) ++ s.unsent.map Task.id

/-- A step that does not overtake: progress is marked when nothing of the task is outstanding, and
an audit event is written, and a task sent, for the oldest operation on the task that still has to
do so. -/
def InOrder (s : Publisher) : PublishLabel → Prop
  | .call op _ =>
    match op.marks with
    | some id => id ∉ s.outstanding
    | none => True
  | .audit i _ _ => OldestAt (fun c : AuditCall => c.task.id) s.store.unaudited i
  | .send i => OldestAt Task.id s.unsent i

instance (s : Publisher) (l : PublishLabel) : Decidable (s.InOrder l) :=
  match l with
  | .call op _ =>
    match h : op.marks with
    | some id => decidable_of_iff (id ∉ s.outstanding) (by simp [InOrder, h])
    | none => .isTrue (by simp [InOrder, h])
  | .audit i _ _ =>
    inferInstanceAs (Decidable (OldestAt (fun c : AuditCall => c.task.id) s.store.unaudited i))
  | .send i => inferInstanceAs (Decidable (OldestAt Task.id s.unsent i))

/-- The versions of a task, those that have been sent first and those that are outstanding after
them. -/
def versions (s : Publisher) (id : TaskId) : List Task :=
  itemsOf Task.id id (s.store.events.map TaskEvent.task) ++ itemsOf Task.id id s.unsent ++
    itemsOf Task.id id (s.store.unaudited.map AuditCall.task)

/-- What the audit log says of a task, and what it will say of it. -/
def entries (s : Publisher) (id : TaskId) :
    List (Option TenantId × String × String × String × String) :=
  (itemsOf AuditEvent.target id.debug s.store.audit).map AuditEvent.entry ++
    (itemsOf AuditCall.target id.debug s.store.unaudited).map AuditCall.entry

/-- The invariant of runs in order: the last version of every task is the stored one, and what is
said of a task is what has happened to it. -/
structure Inv (s : Publisher) : Prop where
  store : s.store.Inv
  targets : ∀ c ∈ s.store.unaudited, c.target = c.task.id.debug
  versions : ∀ id, (s.versions id).getLast? = s.store.inner.lookup id
  entries : ∀ id : TaskId, s.entries id =
    (itemsOf AuditCall.target id.debug s.transitions).map AuditCall.entry

variable {s : Publisher}

lemma inv_new : Inv new where
  store := TaskStore.inv_new
  targets := by simp [new, TaskStore.new]
  versions id := by simp [Publisher.versions, new, TaskStore.new]
  entries id := by simp [Publisher.entries, new, TaskStore.new]

lemma audit_eq {i : ℕ} {c : AuditCall} (hc : s.store.unaudited[i]? = some c) (id : AuditEventId)
    (now : Time) :
    s.audit i id now = { s with
      store := { s.store with
        unaudited := s.store.unaudited.eraseIdx i
        audit := s.store.audit ++ [c.event id now] }
      unsent := s.unsent ++ [c.task] } := by
  rw [audit, hc]

lemma send_eq {i : ℕ} {t : Task} (ht : s.unsent[i]? = some t) :
    s.send i = { s with store := s.store.send t, unsent := s.unsent.eraseIdx i } := by
  rw [send, ht]

/-- The audit event of the oldest operation on a task moves from one end of the line to the
other. -/
lemma Inv.audit (h : s.Inv) {i : ℕ} (id : AuditEventId) (now : Time)
    (horder : OldestAt (fun c : AuditCall => c.task.id) s.store.unaudited i) :
    (s.audit i id now).Inv := by
  cases hc : s.store.unaudited[i]? with
  | none =>
    rw [Publisher.audit, hc]
    exact h
  | some c =>
    rw [audit_eq hc]
    have hmem : c ∈ s.store.unaudited := List.mem_of_getElem? hc
    have htarget : OldestAt AuditCall.target s.store.unaudited i := by
      simp only [OldestAt, hc] at horder ⊢
      intro b hb heq
      rw [h.targets b (List.mem_of_mem_take hb), h.targets c hmem] at heq
      exact horder b hb (TaskId.debug_injective heq)
    refine ⟨h.store.congr rfl rfl, fun b hb => h.targets b (List.mem_of_mem_eraseIdx hb),
      fun k => ?_, fun k => ?_⟩
    · rw [← h.versions k]
      have hmove := itemsOf_eraseIdx hc horder k
      simp only [Publisher.versions, itemsOf_append, itemsOf_map, ← hmove, List.map_append,
        List.append_assoc]
      congr 4
      by_cases hk : c.task.id = k <;> simp [itemsOf, hk]
    · rw [← h.entries k]
      have hmove := itemsOf_eraseIdx hc htarget k.debug
      simp only [Publisher.entries, itemsOf_append, ← hmove, List.map_append, List.append_assoc]
      congr 2
      by_cases hk : c.target = k.debug <;>
        simp [itemsOf, AuditCall.event, hk, AuditEvent.entry, AuditCall.entry]

lemma Inv.send (h : s.Inv) {i : ℕ} (horder : OldestAt Task.id s.unsent i) : (s.send i).Inv := by
  cases ht : s.unsent[i]? with
  | none =>
    rw [Publisher.send, ht]
    exact h
  | some t =>
    rw [send_eq ht]
    refine ⟨h.store.congr rfl rfl, h.targets, fun k => ?_, h.entries⟩
    refine Eq.trans ?_ (h.versions k)
    have hmove := itemsOf_eraseIdx ht horder k
    simp only [Publisher.versions, TaskStore.send, List.map_append, List.map_singleton,
      TaskEvent.task, itemsOf_append, ← hmove, List.append_assoc]

/-- A version that is added last is the stored one; nothing changes for the other tasks. -/
lemma getLast?_concat_version {l l' : List Task} {t : Task} {inner : Finmap fun _ : TaskId => Task}
    {id : TaskId} (h : l.getLast? = inner.lookup id) (hl : l' = l ++ itemsOf Task.id id [t]) :
    l'.getLast? = (inner.insert t.id t).lookup id := by
  subst hl
  by_cases hid : t.id = id
  · subst hid
    rw [itemsOf_singleton_self, List.getLast?_concat, Finmap.lookup_insert]
  · rw [itemsOf_singleton_of_ne hid, List.append_nil, Finmap.lookup_insert_of_ne _ (Ne.symm hid), h]

lemma Inv.call (h : s.Inv) {op : TaskOp} {draw : TaskDraw} (hfresh : draw.taskId ∉ s.store.inner)
    (horder : s.InOrder (.call op draw)) : (s.call op draw).2.Inv := by
  have hinv : (op.run draw s.store).2.Inv := h.store.effect hfresh (run_effect op draw s.store)
  have hhands := run_handsOn op draw h.store
  simp only [Publisher.call]
  generalize (op.run draw s.store).2 = store at hinv hhands
  cases hhands with
  | nothing => simpa using h
  | later c htarget hinner hunaudited haudit hevents =>
    refine ⟨hinv, ?_, fun id => ?_, fun id => ?_⟩
    · intro b hb
      rw [hunaudited, List.mem_append, List.mem_singleton] at hb
      rcases hb with hb | rfl
      · exact h.targets b hb
      · exact htarget
    · rw [hinner]
      refine getLast?_concat_version (h.versions id) ?_
      simp [Publisher.versions, hunaudited, hevents, List.append_assoc]
    · have hentries := h.entries id
      simp only [Publisher.entries] at hentries
      simp only [Publisher.entries, hunaudited, haudit, List.drop_left, itemsOf_append,
        List.map_append, ← List.append_assoc, hentries]
  | sent t hmarks hinner hunaudited haudit hevents =>
    simp only [InOrder, hmarks, outstanding, List.mem_append, List.mem_map, not_or, not_exists,
      not_and] at horder
    refine ⟨hinv, hunaudited ▸ h.targets, fun id => ?_, fun id => ?_⟩
    · rw [hinner]
      refine getLast?_concat_version (h.versions id) ?_
      simp only [Publisher.versions, hunaudited, hevents, List.map_append, List.map_singleton,
        TaskEvent.task, itemsOf_append, List.append_assoc]
      by_cases hid : t.id = id
      · -- nothing of this task is outstanding, so the event that is sent is the last one
        subst hid
        have hunsent : itemsOf Task.id t.id s.unsent = [] := itemsOf_eq_nil horder.2
        have hunaudited : itemsOf Task.id t.id (s.store.unaudited.map AuditCall.task) = [] :=
          itemsOf_eq_nil (by simpa using horder.1)
        rw [hunsent, hunaudited]
        simp
      · simp [itemsOf_singleton_of_ne hid]
    · have hentries := h.entries id
      simp only [Publisher.entries] at hentries
      simp [Publisher.entries, hunaudited, haudit, hentries]

lemma inv_step (s : Publisher) (l : PublishLabel) (h : s.Inv)
    (hen : (publishMachine.restrict InOrder).enabled s l) :
    ((publishMachine.restrict InOrder).step s l).2.Inv := by
  obtain ⟨hen, horder⟩ := hen
  cases l with
  | call op draw => exact h.call hen horder
  | audit i id now => exact h.audit id now horder
  | send i => exact h.send horder

end Publisher

/-- The outside knows what has happened: the last event of every task has its current state, a
subscriber who keeps the last event of every task has the tasks of the store, and the audit events
of a task stand in the order of what they report. -/
structure Publisher.WellTold (s : Publisher) : Prop where
  events : ∀ id, (itemsOf Task.id id (s.store.events.map TaskEvent.task)).getLast? =
    s.store.inner.lookup id
  subscriber : ∀ id, s.subscriber id = s.store.inner.lookup id
  audit : ∀ id : TaskId, (itemsOf AuditEvent.target id.debug s.store.audit).map AuditEvent.entry =
    (itemsOf AuditCall.target id.debug s.transitions).map AuditCall.entry

/-- **Events and audit events in order.**  Take any run of the store in which no step overtakes
another one on the same task: the progress of a task is marked when nothing of it is outstanding,
and audit events are written and tasks are sent oldest first.  Whenever all operations have
returned, the outside knows what has happened. -/
theorem published_in_order {s : Publisher}
    {tr : List (PublishLabel × Option (Except TaskEngineError Task))}
    (h : (publishMachine.restrict Publisher.InOrder).Run .new tr s) (hquiet : s.Quiet) :
    s.WellTold := by
  have hinv : s.Inv := h.invariant Publisher.inv_step Publisher.inv_new
  obtain ⟨hunaudited, hunsent⟩ := hquiet
  have hevents : ∀ id, (itemsOf Task.id id (s.store.events.map TaskEvent.task)).getLast? =
      s.store.inner.lookup id := by
    intro id
    simpa [Publisher.versions, hunaudited, hunsent] using hinv.versions id
  refine ⟨hevents, fun id => ?_, fun id => ?_⟩
  · rw [Publisher.subscriber, lastOfEach_eq, hevents id]
  · simpa [Publisher.entries, hunaudited] using hinv.entries id

/-- A price update is created, approved, and its run begins, one after the other. -/
def toldSteps : List PublishLabel :=
  [.call (.createDryRun priceUpdate) (taskDraw 1), .audit 0 ⟨.ofNat 11⟩ 1, .send 0,
   .call (.approve ⟨.ofNat 1⟩ "operator" none) (taskDraw 2), .audit 0 ⟨.ofNat 12⟩ 2, .send 0,
   .call (.markRunning ⟨.ofNat 1⟩) (taskDraw 3)]

theorem published_in_order_told :
    ∃ tr s, publishMachine.Run .new tr s ∧ s.WellTold ∧
      (s.subscriber ⟨.ofNat 1⟩).map Task.state = some .running := by
  have hallows : (publishMachine.restrict Publisher.InOrder).Allows .new toldSteps := by decide
  have hrun : publishMachine.Allows .new toldSteps := by decide
  refine ⟨_, _, Machine.run_exec hrun, ?_, by decide⟩
  have htold := published_in_order (Machine.run_exec hallows) ⟨by decide, by decide⟩
  rwa [Machine.exec_restrict] at htold

/-- The same, but the run begins before the approval has been told. -/
def crossedSteps : List PublishLabel :=
  [.call (.createDryRun priceUpdate) (taskDraw 1), .audit 0 ⟨.ofNat 11⟩ 1, .send 0,
   .call (.approve ⟨.ofNat 1⟩ "operator" none) (taskDraw 2),
   .call (.markRunning ⟨.ofNat 1⟩) (taskDraw 3), .audit 0 ⟨.ofNat 12⟩ 4, .send 0]

/-- The last event says that the task is queued, while it is running. -/
theorem published_out_of_order :
    ¬ ∀ (s : Publisher) (tr : List (PublishLabel × Option (Except TaskEngineError Task))),
      publishMachine.Run .new tr s → s.Quiet → s.WellTold := by
  intro h
  have hallows : publishMachine.Allows .new crossedSteps := by decide
  have htold := (h _ _ (Machine.run_exec hallows) ⟨by decide, by decide⟩).subscriber ⟨.ofNat 1⟩
  exact absurd (congrArg (Option.map Task.state) htold) (by decide)

end OzonSuite
