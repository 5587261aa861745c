/-
# What holds of the task store after every run

`TaskStore.Effect` says what one operation can do to the store; everything else is derived from
it.  The index and the task map are kept in step by creation alone, while the other operations
silently change which tasks are under way, so the invariant relates the two in both directions:
an entry points to a task with its key, and a task under way is the one its key points to.
-/
import OzonSuite.Lib.Lookups
import OzonSuite.TaskEngine.LifeCycle

namespace OzonSuite

open Lib

/-- The key under which the index has a task. -/
def Task.key (t : Task) : TenantId × String := (t.tenantId, t.idempotencyKey)

lemma Task.Keeps.key_eq {t t' : Task} (h : t.Keeps t') : t'.key = t.key := by
  simp only [Task.key, h.tenantId_eq, h.idempotencyKey_eq]

namespace TaskStore

variable {s s' : TaskStore} {op : TaskOp} {draw : TaskDraw}

/-- What an operation can do: refuse and change nothing, find the task asked for under way and
change nothing, add a new task, or move one task. -/
inductive Effect (s : TaskStore) (draw : TaskDraw) :
    TaskOp → Except TaskEngineError Task → TaskStore → Prop
  | refused {op : TaskOp} (e : TaskEngineError) : Effect s draw op (.error e) s
  | existing {input : CreateTask} {t : Task}
      (hlive : s.liveTask (input.tenantId, input.idempotencyKey) = some t) :
      Effect s draw (.createDryRun input) (.ok t) s
  | created {input : CreateTask} {s' : TaskStore}
      (hlive : s.liveTask (input.tenantId, input.idempotencyKey) = none)
      (hinner : s'.inner = s.inner.insert draw.taskId (newTask input draw))
      (hindex : s'.byIdempotency =
        s.byIdempotency.insert (input.tenantId, input.idempotencyKey) draw.taskId) :
      Effect s draw (.createDryRun input) (.ok (newTask input draw)) s'
  | moved {op : TaskOp} {id : TaskId} {t t' : Task} {s' : TaskStore}
      (hlookup : s.inner.lookup id = some t) (hmove : t.Move t')
      (hinner : s'.inner = s.inner.insert id t') (hindex : s'.byIdempotency = s.byIdempotency) :
      Effect s draw op (.ok t') s'

/-- The operations on one task succeed with a move of it, or leave the store as it was. -/
lemma edit_effect {id : TaskId} {body : TaskM Unit} {publish : TaskStore → Task → TaskStore}
    (hbody : MakesMove body)
    (hpub : ∀ s t, (publish s t).inner = s.inner ∧
      (publish s t).byIdempotency = s.byIdempotency) :
    Effect s draw op (s.edit id body publish).1 (s.edit id body publish).2 := by
  rw [edit]
  cases hlookup : s.inner.lookup id with
  | none => exact .refused _
  | some t =>
    rcases hbody t with ⟨t', hrun, hmove⟩ | ⟨e, hrun⟩
    · simp only [EStateM.run, hrun]
      exact .moved hlookup hmove (hpub _ _).1 (hpub _ _).2
    · simp only [EStateM.run, hrun, insert_lookup_self hlookup]
      exact .refused e

lemma createDryRun_effect (input : CreateTask) :
    Effect s draw (.createDryRun input) (s.createDryRun input draw).1
      (s.createDryRun input draw).2 := by
  rw [createDryRun]
  cases hlive : s.liveTask (input.tenantId, input.idempotencyKey) with
  | some t => exact .existing hlive
  | none => exact .created hlive rfl rfl

/-- **Every operation has one of the four effects.** -/
theorem run_effect (op : TaskOp) (draw : TaskDraw) (s : TaskStore) :
    Effect s draw op (op.run draw s).1 (op.run draw s).2 := by
  cases op with
  | createDryRun input => exact createDryRun_effect input
  | approve id approvedBy note =>
    exact edit_effect (approveBody_makesMove approvedBy note draw) fun _ _ => ⟨rfl, rfl⟩
  | cancel id actor => exact edit_effect (cancelBody_makesMove draw) fun _ _ => ⟨rfl, rfl⟩
  | markRunning id => exact edit_effect (markRunningBody_makesMove draw) fun _ _ => ⟨rfl, rfl⟩
  | markSucceeded id receipt =>
    exact edit_effect (settleBody_makesMove (.inl rfl) receipt draw) fun _ _ => ⟨rfl, rfl⟩
  | markFailed id reason =>
    exact edit_effect (settleBody_makesMove (.inr rfl) _ draw) fun _ _ => ⟨rfl, rfl⟩

lemma liveTask_eq_some_iff {key : TenantId × String} {t : Task} :
    s.liveTask key = some t ↔ ∃ id, s.byIdempotency.lookup key = some id ∧
      s.inner.lookup id = some t ∧ isTerminal t.state = false := by
  simp only [liveTask, Option.bind_eq_bind, Option.bind_eq_some_iff]
  constructor
  · rintro ⟨id, hindex, t', hlookup, h⟩
    split at h
    · next hlive =>
      obtain rfl : t' = t := by simpa using h
      exact ⟨id, hindex, hlookup, by simpa using hlive⟩
    · cases h
  · rintro ⟨id, hindex, hlookup, hlive⟩
    exact ⟨id, hindex, t, hlookup, by simp [hlive]⟩

/-! ## The invariant -/

/-- The invariant of the store. -/
structure Inv (s : TaskStore) : Prop where
  id_eq : ∀ {id t}, s.inner.lookup id = some t → t.id = id
  sound : ∀ {id t}, s.inner.lookup id = some t → t.Sound
  task_of_index : ∀ {key id}, s.byIdempotency.lookup key = some id →
    ∃ t, s.inner.lookup id = some t ∧ t.key = key
  index_of_live : ∀ {id t}, s.inner.lookup id = some t → isTerminal t.state = false →
    s.byIdempotency.lookup t.key = some id

lemma inv_new : Inv new where
  id_eq h := by simp [new] at h
  sound h := by simp [new] at h
  task_of_index h := by simp [new] at h
  index_of_live h := by simp [new] at h

/-- The invariant speaks of the task map and the index only. -/
lemma Inv.congr (h : s.Inv) (hinner : s'.inner = s.inner)
    (hindex : s'.byIdempotency = s.byIdempotency) : s'.Inv where
  id_eq := by rw [hinner]; exact h.id_eq
  sound := by rw [hinner]; exact h.sound
  task_of_index := by rw [hinner, hindex]; exact h.task_of_index
  index_of_live := by rw [hinner, hindex]; exact h.index_of_live

/-- A creation is only let through when no task of its key is under way, so the entry it
overwrites is of no use any more. -/
lemma Inv.created {input : CreateTask} (h : s.Inv) (hfresh : draw.taskId ∉ s.inner)
    (hlive : s.liveTask (input.tenantId, input.idempotencyKey) = none)
    (hinner : s'.inner = s.inner.insert draw.taskId (newTask input draw))
    (hindex : s'.byIdempotency =
      s.byIdempotency.insert (input.tenantId, input.idempotencyKey) draw.taskId) : s'.Inv := by
  -- a stored task is the new one or an old one under another identifier
  have hcases : ∀ {id t}, s'.inner.lookup id = some t →
      (id = draw.taskId ∧ t = newTask input draw) ∨
        (id ≠ draw.taskId ∧ s.inner.lookup id = some t) := by
    intro id t hlookup
    rwa [hinner, lookup_insert_eq_some] at hlookup
  refine ⟨fun hlookup => ?_, fun hlookup => ?_, fun {key id} hkey => ?_, fun hlookup hrun => ?_⟩
  · rcases hcases hlookup with ⟨rfl, rfl⟩ | ⟨-, hold⟩
    · rfl
    · exact h.id_eq hold
  · rcases hcases hlookup with ⟨-, rfl⟩ | ⟨-, hold⟩
    · exact newTask_sound input draw
    · exact h.sound hold
  · by_cases hk : key = (input.tenantId, input.idempotencyKey)
    · subst hk
      rw [hindex, Finmap.lookup_insert] at hkey
      obtain rfl := Option.some.inj hkey
      exact ⟨newTask input draw, by rw [hinner, Finmap.lookup_insert], rfl⟩
    · rw [hindex, Finmap.lookup_insert_of_ne _ hk] at hkey
      obtain ⟨t, hlookup, hkt⟩ := h.task_of_index hkey
      have hid : id ≠ draw.taskId := by
        rintro rfl
        exact hfresh (Finmap.mem_iff.mpr ⟨t, hlookup⟩)
      exact ⟨t, by rw [hinner, Finmap.lookup_insert_of_ne _ hid, hlookup], hkt⟩
  · rcases hcases hlookup with ⟨rfl, rfl⟩ | ⟨-, hold⟩
    · rw [hindex]
      exact Finmap.lookup_insert _
    · have hentry := h.index_of_live hold hrun
      rw [hindex, Finmap.lookup_insert_of_ne, hentry]
      intro hk
      rw [hk] at hentry
      rw [liveTask_eq_some_iff.mpr ⟨_, hentry, hold, hrun⟩] at hlive
      cases hlive

/-- A move keeps the key of the task, and the tasks under way can only become fewer. -/
lemma Inv.moved {id : TaskId} {t t' : Task} (h : s.Inv) (hlookup : s.inner.lookup id = some t)
    (hmove : t.Move t') (hinner : s'.inner = s.inner.insert id t')
    (hindex : s'.byIdempotency = s.byIdempotency) : s'.Inv := by
  have hkeeps := hmove.keeps (h.sound hlookup)
  have hcases : ∀ {id' u}, s'.inner.lookup id' = some u →
      (id' = id ∧ u = t') ∨ (id' ≠ id ∧ s.inner.lookup id' = some u) := by
    intro id' u hu
    rwa [hinner, lookup_insert_eq_some] at hu
  refine ⟨fun hu => ?_, fun hu => ?_, fun {key id'} hkey => ?_, fun hu hrun => ?_⟩
  · rcases hcases hu with ⟨rfl, rfl⟩ | ⟨-, hold⟩
    · rw [hkeeps.id_eq, h.id_eq hlookup]
    · exact h.id_eq hold
  · rcases hcases hu with ⟨-, rfl⟩ | ⟨-, hold⟩
    · exact hmove.sound (h.sound hlookup)
    · exact h.sound hold
  · rw [hindex] at hkey
    obtain ⟨u, hu, hku⟩ := h.task_of_index hkey
    by_cases hid : id' = id
    · subst hid
      obtain rfl := Option.some.inj (hlookup.symm.trans hu)
      exact ⟨t', by rw [hinner, Finmap.lookup_insert], hkeeps.key_eq.trans hku⟩
    · exact ⟨u, by rw [hinner, Finmap.lookup_insert_of_ne _ hid, hu], hku⟩
  · rw [hindex]
    rcases hcases hu with ⟨rfl, rfl⟩ | ⟨-, hold⟩
    · rw [hkeeps.key_eq]
      exact h.index_of_live hlookup hmove.not_isTerminal
    · exact h.index_of_live hold hrun

lemma Inv.effect {r : Except TaskEngineError Task} (h : s.Inv) (hfresh : draw.taskId ∉ s.inner)
    (he : Effect s draw op r s') : s'.Inv := by
  cases he with
  | refused e => exact h
  | existing hlive => exact h
  | created hlive hinner hindex => exact h.created hfresh hlive hinner hindex
  | moved hlookup hmove hinner hindex => exact h.moved hlookup hmove hinner hindex

lemma finish_inner (s : TaskStore) (i : ℕ) (id : AuditEventId) (now : Time) :
    (s.finish i id now).inner = s.inner := by
  rw [finish]
  cases s.unaudited[i]? <;> rfl

lemma finish_byIdempotency (s : TaskStore) (i : ℕ) (id : AuditEventId) (now : Time) :
    (s.finish i id now).byIdempotency = s.byIdempotency := by
  rw [finish]
  cases s.unaudited[i]? <;> rfl

/-- Every step of the store keeps the invariant. -/
theorem inv_step (s : TaskStore) (l : TaskLabel) (h : s.Inv) (hen : taskMachine.enabled s l) :
    (taskMachine.step s l).2.Inv := by
  cases l with
  | call op draw => exact h.effect hen (run_effect op draw s)
  | finish i id now => exact h.congr (finish_inner ..) (finish_byIdempotency ..)

/-! ## Earlier and later states -/

/-- Every task of `s` is still there in `s'`, as a later version of itself. -/
def Keeps (s s' : TaskStore) : Prop :=
  ∀ id t, s.inner.lookup id = some t → ∃ t', s'.inner.lookup id = some t' ∧ t.Keeps t'

lemma Keeps.refl (s : TaskStore) : s.Keeps s := fun _ t h => ⟨t, h, .refl t⟩

lemma Keeps.trans {a b c : TaskStore} (h : a.Keeps b) (h' : b.Keeps c) : a.Keeps c := by
  intro id t hlookup
  obtain ⟨t', hlookup', hkeeps⟩ := h id t hlookup
  obtain ⟨t'', hlookup'', hkeeps'⟩ := h' id t' hlookup'
  exact ⟨t'', hlookup'', hkeeps.trans hkeeps'⟩

lemma Keeps.of_inner_eq (h : s'.inner = s.inner) : s.Keeps s' :=
  fun _ t ht => ⟨t, by rw [h, ht], .refl t⟩

lemma Keeps.effect {r : Except TaskEngineError Task} (h : s.Inv) (hfresh : draw.taskId ∉ s.inner)
    (he : Effect s draw op r s') : s.Keeps s' := by
  cases he with
  | refused e => exact .refl s
  | existing hlive => exact .refl s
  | created hlive hinner hindex =>
    intro id t hlookup
    have hid : id ≠ draw.taskId := by
      rintro rfl
      exact hfresh (Finmap.mem_iff.mpr ⟨t, hlookup⟩)
    exact ⟨t, by rw [hinner, Finmap.lookup_insert_of_ne _ hid, hlookup], .refl t⟩
  | @moved _ id t t' _ hlookup hmove hinner hindex =>
    intro id' u hu
    by_cases hid : id' = id
    · subst hid
      obtain rfl := Option.some.inj (hlookup.symm.trans hu)
      exact ⟨t', by rw [hinner, Finmap.lookup_insert], hmove.keeps (h.sound hlookup)⟩
    · exact ⟨u, by rw [hinner, Finmap.lookup_insert_of_ne _ hid, hu], .refl u⟩

/-- Every step keeps the tasks that were there. -/
theorem keeps_step (s : TaskStore) (l : TaskLabel) (h : s.Inv) (hen : taskMachine.enabled s l) :
    s.Keeps (taskMachine.step s l).2 := by
  cases l with
  | call op draw => exact .effect h hen (run_effect op draw s)
  | finish i id now => exact .of_inner_eq (finish_inner ..)

end TaskStore

end OzonSuite
