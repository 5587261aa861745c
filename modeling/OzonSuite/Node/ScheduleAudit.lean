/-
# The audit of the schedule

What happens to the schedule is noted in its audit: that it was enabled or disabled, what was read,
and what could not be read.  A successful read cuts the audit to its last hundred entries, and the
other notes are only appended.  What has been noted ever is a history variable beside the state.
-/
import OzonSuite.Lib.Machine
import OzonSuite.Lib.Sequences
import OzonSuite.Node.ScheduleWorkers

namespace OzonSuite

open Lib

/-- What the next scope of a task notes. -/
def ScheduleTask.noted (w : ScheduleWorld) : ScheduleTask → List ScheduleAuditEvent
  | .noteFirst run _ _ | .noteNow run | .noteRead _ run => [⟨w.node.now, "scheduler",
      "schedule.read_succeeded",
      s!"read {run.sampleSize} products in {w.elapsedMs}ms through {run.connectorMode} connector"⟩]
  | .enable intervalSecs limit => [⟨w.node.now, "local-operator", "schedule.enabled",
      s!"official Ozon read-only polling enabled every {intervalSecs}s with limit {limit}"⟩]
  | .disable reason => [⟨w.node.now, "local-operator", "schedule.disabled", reason⟩]
  | .noteFailure _ message => [⟨w.node.now, "scheduler", "schedule.read_failed", message⟩]
  | _ => []

/-- The scope notes a successful read. -/
def ScheduleTask.trims : ScheduleTask → Bool
  | .noteFirst _ _ _ | .noteNow _ | .noteRead _ _ => true
  | _ => false

/-- The scope appends a note and leaves the audit as long as it is then. -/
def ScheduleTask.appends : ScheduleTask → Bool
  | .enable _ _ | .disable _ | .noteFailure _ _ => true
  | _ => false

namespace Scheduler

/-- The audit log of the schedule. -/
def audit (s : Scheduler) : List ScheduleAuditEvent := s.shared.schedule.audit

/-- What a step notes. -/
def noted (s : Scheduler) : ScheduleLabel → List ScheduleAuditEvent
  | .advance i w => (s.threads[i]?.map (·.noted w)).getD []
  | .configure _ _ | .runNow _ | .lose _ | .rest _ => []

/-- A step that only appends a note finds an audit of less than a hundred entries. -/
def HasRoom (s : Scheduler) : ScheduleLabel → Prop
  | .advance i _ => ∀ t ∈ s.threads[i]?, t.appends = true → s.audit.length < 100
  | .configure _ _ | .runNow _ | .lose _ | .rest _ => True

instance (s : Scheduler) : DecidablePred s.HasRoom
  | .advance i _ =>
    inferInstanceAs (Decidable (∀ t ∈ s.threads[i]?, t.appends = true → s.audit.length < 100))
  | .configure _ _ | .runNow _ | .lose _ | .rest _ => inferInstanceAs (Decidable True)

end Scheduler

/-- The scheduler, with all that has been noted. -/
def auditedScheduler (x : NodeCrates) :
    Machine (Scheduler × List ScheduleAuditEvent) ScheduleLabel Unit :=
  (scheduler x).withHistory (fun past s l => past ++ s.noted l) []

instance (x : NodeCrates) (s : Scheduler × List ScheduleAuditEvent) (l : ScheduleLabel) :
    Decidable ((auditedScheduler x).enabled s l) :=
  inferInstanceAs (Decidable (s.1.Enabled l))

/-- The step has room for what it appends. -/
def AuditHasRoom (s : Scheduler × List ScheduleAuditEvent) (l : ScheduleLabel) : Prop :=
  s.1.HasRoom l

instance (s : Scheduler × List ScheduleAuditEvent) (l : ScheduleLabel) :
    Decidable (AuditHasRoom s l) :=
  inferInstanceAs (Decidable (s.1.HasRoom l))

/-- The audit has the last hundred notes, in their order. -/
def AuditBounded (s : Scheduler × List ScheduleAuditEvent) : Prop :=
  KeepsLast 100 s.1.audit s.2

/-! ## What a step does to the audit -/

section Steps

variable {x : NodeCrates} {s : Scheduler} {past : List ScheduleAuditEvent}

/-- **The audit after a scope.** -/
lemma audit_block (w : ScheduleWorld) (s : ScheduleShared) (t : ScheduleTask) :
    (t.block x w s).shared.schedule.audit =
      if t.trims then (s.schedule.audit ++ t.noted w).rtake 100
      else s.schedule.audit ++ t.noted w := by
  have hread : ∀ limit, (finalState (executeEcommerceRead x w limit s.node)).schedules =
      s.node.schedules := fun limit => executeEcommerceRead_sameSchedules w limit s.node
  -- a read leaves the schedules of the node alone
  have hcall : ∀ {limit : ℕ} {next : Except ApiError EcommerceReadRun → ScheduleTask},
      (s.call (executeEcommerceRead x w limit) next).shared.schedule.audit =
        s.schedule.audit ++ [] := by
    intro limit next
    rw [List.append_nil]
    exact congrArg EcommerceReadSchedule.audit (hread limit)
  cases t with
  | configure headers input =>
    simp only [ScheduleTask.block]
    split
    · exact (List.append_nil _).symm
    · split <;> exact (List.append_nil _).symm
  | readFirst intervalSecs limit => exact hcall
  | readNow limit => exact hcall
  | read worker => exact hcall
  | runNow headers =>
    simp only [ScheduleTask.block]
    split <;> exact (List.append_nil _).symm
  | tick worker =>
    simp only [ScheduleTask.block]
    split <;> exact (List.append_nil _).symm
  -- these scopes add a note, and those that note a read cut the log after it
  | noteFirst run intervalSecs limit => rfl
  | noteNow run => rfl
  | noteRead worker run => rfl
  | enable intervalSecs limit => rfl
  | disable reason => rfl
  | noteFailure worker message => rfl
  | stopOld _ _ | spawn _ _ | store _ | stop _ | respond | answered _ | lost | ended =>
    exact (List.append_nil _).symm

/-- A scope notes one thing, or nothing. -/
lemma noted_cases (w : ScheduleWorld) (t : ScheduleTask) :
    ((t.trims = true ∨ t.appends = true) ∧ ∃ entry, t.noted w = [entry]) ∨
      (t.trims = false ∧ t.appends = false ∧ t.noted w = []) := by
  cases t with
  | noteFirst _ _ _ | noteNow _ | noteRead _ _ => exact .inl ⟨.inl rfl, _, rfl⟩
  | enable _ _ | disable _ | noteFailure _ _ => exact .inl ⟨.inr rfl, _, rfl⟩
  | _ => exact .inr ⟨rfl, rfl, rfl⟩

/-- A step keeps the audit bounded if it has room for what it appends, and only then. -/
lemma auditBounded_step {l : ScheduleLabel} (hen : s.Enabled l) (h : AuditBounded (s, past)) :
    AuditBounded (s.step x l, past ++ s.noted l) ↔ s.HasRoom l := by
  -- a step that notes nothing leaves the audit as it was
  have hquiet : ∀ s' : Scheduler, s'.audit = s.audit → AuditBounded (s', past ++ []) := by
    intro s' haudit
    rw [AuditBounded, haudit, List.append_nil]
    exact h
  cases l with
  | configure headers input => exact iff_of_true (hquiet _ rfl) trivial
  | runNow headers => exact iff_of_true (hquiet _ rfl) trivial
  | lose i => exact iff_of_true (hquiet _ rfl) trivial
  | rest node =>
    have hsame : node.schedules = s.shared.node.schedules := hen
    exact iff_of_true (hquiet _ (congrArg EcommerceReadSchedule.audit hsame)) trivial
  | advance i w =>
    obtain ⟨t, hi, -⟩ := hen
    have hi : s.threads[i]? = some t := hi
    have haudit : (s.step x (.advance i w)).audit = if t.trims
        then (s.audit ++ t.noted w).rtake 100 else s.audit ++ t.noted w := by
      simp only [Scheduler.step, hi]
      exact audit_block w s.shared t
    have hnoted : s.noted (.advance i w) = t.noted w := by simp [Scheduler.noted, hi]
    have hroom : s.HasRoom (.advance i w) ↔ (t.appends = true → s.audit.length < 100) := by
      simp [Scheduler.HasRoom, hi]
    rw [AuditBounded, haudit, hnoted, hroom]
    by_cases htrims : t.trims = true
    · -- a successful read cuts the audit itself
      have hnot : t.appends = true → s.audit.length < 100 := by
        intro happends
        cases t <;> cases htrims <;> cases happends
      refine iff_of_true ?_ hnot
      obtain ⟨-, entry, hentry⟩ | ⟨hfalse, -⟩ := noted_cases w t
      · rw [if_pos htrims, hentry]
        exact h.trim entry
      · rw [hfalse] at htrims
        cases htrims
    · rw [if_neg htrims]
      obtain ⟨hone, entry, hentry⟩ | ⟨-, happends, hnone⟩ := noted_cases w t
      · have happends := hone.resolve_left htrims
        rw [hentry]
        refine ⟨fun hbounded _ => ?_, fun hroom => h.append (hroom happends) entry⟩
        by_contra hfull
        exact KeepsLast.not_append hfull entry hbounded
      · rw [hnone, List.append_nil, List.append_nil]
        exact iff_of_true h fun hfalse => by rw [happends] at hfalse; cases hfalse

/-- **The audit in runs.**  In the states of a run the audit has the last hundred notes, in their
order, exactly if all of its steps have room for what they append. -/
theorem schedule_audit_bounded_iff {s₀ s : Scheduler × List ScheduleAuditEvent}
    {tr : List (ScheduleLabel × Unit)} (h₀ : (auditedScheduler x).init s₀)
    (h : (auditedScheduler x).Run s₀ tr s) :
    (∀ before after m, tr = before ++ after → (auditedScheduler x).Run s₀ before m →
      AuditBounded m) ↔
      ((auditedScheduler x).restrict AuditHasRoom).Run s₀ tr s := by
  refine h.forall_good_iff (fun m hm => hm) (fun m l hm hen hroom => ?_)
    (fun m l hm hen hroom hbounded => ?_) ?_
  · exact (auditBounded_step hen hm).mpr hroom
  · exact hroom ((auditBounded_step hen hm).mp hbounded)
  · obtain ⟨⟨config, secrets, hs⟩, hpast⟩ := h₀
    obtain ⟨s₀, past₀⟩ := s₀
    dsimp only at hs hpast
    subst hs hpast
    exact keepsLast_nil

/-- The schedule is enabled twice, and all that was noted is there. -/
theorem schedule_audit_enabled_twice :
    ∃ s tr, (auditedScheduler leaseCrates).Run (mockScheduler, []) tr s ∧ s.1.audit.length = 4 ∧
      AuditBounded s := by
  have hinit : (auditedScheduler leaseCrates).init (mockScheduler, []) := ⟨⟨_, _, rfl⟩, rfl⟩
  have hrun := Machine.run_exec (show ((auditedScheduler leaseCrates).restrict
    AuditHasRoom).Allows (mockScheduler, []) enableTwice by decide)
  refine ⟨_, _, hrun.of_restrict, by decide, ?_⟩
  exact (schedule_audit_bounded_iff hinit hrun.of_restrict).mpr hrun _ [] _
    (List.append_nil _).symm hrun.of_restrict

/-! ### A hundred and one notes -/

/-- A request that disables the schedule. -/
def disableSchedule : ScheduleTask :=
  .configure ⟨some "operator-secret", none⟩ ⟨false, none, none⟩

/-- The last task runs a scope that starts no other. -/
lemma run_advance {shared shared' : ScheduleShared} {tasks : List ScheduleTask}
    {t next : ScheduleTask} {w : ScheduleWorld} (hready : t.configuring = true)
    (hblock : t.block x w shared = next.goesOn shared') :
    (scheduler x).Run ⟨shared, tasks ++ [t]⟩ [(.advance tasks.length w, ())]
      ⟨shared', tasks ++ [next]⟩ := by
  have hlast : (tasks ++ [t])[tasks.length]? = some t := by simp
  have hen : (scheduler x).enabled ⟨shared, tasks ++ [t]⟩ (.advance tasks.length w) :=
    ⟨t, hlast, .inl hready⟩
  have hstep : ((scheduler x).step ⟨shared, tasks ++ [t]⟩ (.advance tasks.length w)).2 =
      ⟨shared', tasks ++ [next]⟩ := by
    simp only [scheduler, Scheduler.step, hlast, hblock, Threads.after, ScheduleTask.goesOn]
    simp
  exact hstep ▸ Machine.Run.single hen

/-- A request that disables the schedule adds a note. -/
lemma exists_disable_run (s : Scheduler) (hconfig : s.shared.node.config = mockNodeConfig) :
    ∃ tr s', (scheduler leaseCrates).Run s tr s' ∧ s'.shared.node.config = mockNodeConfig ∧
      s'.audit.length = s.audit.length + 1 := by
  obtain ⟨shared, tasks⟩ := s
  have hasked : (scheduler leaseCrates).Run ⟨shared, tasks⟩
      [(.configure ⟨some "operator-secret", none⟩ ⟨false, none, none⟩, ())]
      ⟨shared, tasks ++ [disableSchedule]⟩ :=
    Machine.Run.single (M := scheduler leaseCrates) trivial
  have htoken : requireOperatorToken shared.node.config ⟨some "operator-secret", none⟩ =
      .ok () := by
    rw [hconfig]
    rfl
  have hstop : disableSchedule.block leaseCrates mockWorld shared =
      (ScheduleTask.stop "disabled by local operator").goesOn shared := by
    simp [disableSchedule, ScheduleTask.block, htoken]
  have hrun := ((hasked.append (run_advance rfl hstop)).append
    (run_advance (w := mockWorld) rfl rfl)).append (run_advance (w := mockWorld) rfl rfl)
  refine ⟨_, _, hrun, hconfig, ?_⟩
  simp [Scheduler.audit, ScheduleShared.schedule, ScheduleShared.setSchedule,
    ScheduleShared.stopExisting, EcommerceReadSchedule.disable]

lemma exists_audit_length (n : ℕ) : ∃ tr s, (scheduler leaseCrates).Run mockScheduler tr s ∧
    s.shared.node.config = mockNodeConfig ∧ s.audit.length = n := by
  induction n with
  | zero => exact ⟨[], mockScheduler, .nil, rfl, rfl⟩
  | succ n ih =>
    obtain ⟨tr, s, hrun, hconfig, hlen⟩ := ih
    obtain ⟨tr', s', hrun', hconfig', hlen'⟩ := exists_disable_run s hconfig
    exact ⟨tr ++ tr', s', hrun.append hrun', hconfig', by rw [hlen', hlen]⟩

/-- The audit grows as long as the schedule is only disabled. -/
theorem schedule_audit_unbounded :
    ¬ ∀ (x : NodeCrates) (s₀ s : Scheduler × List ScheduleAuditEvent)
      (tr : List (ScheduleLabel × Unit)), (auditedScheduler x).init s₀ →
      (auditedScheduler x).Run s₀ tr s → AuditBounded s := by
  intro h
  obtain ⟨tr, s, hrun, -, hlen⟩ := exists_audit_length 101
  obtain ⟨past, hhistory⟩ : ∃ past, (auditedScheduler leaseCrates).Run (mockScheduler, []) tr
      (s, past) := hrun.exists_history []
  have hbounded := h leaseCrates (mockScheduler, []) (s, past) tr ⟨⟨_, _, rfl⟩, rfl⟩ hhistory
  have hle : s.audit.length ≤ 100 := hbounded.1
  omega

end Steps

end OzonSuite
