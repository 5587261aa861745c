/-
# The workers of the schedule

A worker that is alive should be the one that the schedule has, polling as the schedule says.  It is
spawned by a request that stores it a scope later, so in between it belongs to the request.  Two
requests that overlap can take the schedule away from each other's worker; what a step must not do
for this to happen is said here exactly.
-/
import OzonSuite.Node.Schedule

namespace OzonSuite

open Lib

namespace Scheduler

/-! ## What is wanted -/

/-- The worker is the one that the schedule has. -/
def Stored (s : Scheduler) (v : ScheduleWorker) : Prop := s.shared.schedule.worker = some v.number

/-- The schedule is enabled, with what the worker polls with. -/
def Current (s : Scheduler) (v : ScheduleWorker) : Prop :=
  s.shared.schedule.enabled = true ∧ s.shared.schedule.intervalSecs = v.intervalSecs ∧
    s.shared.schedule.limit = v.limit

instance (s : Scheduler) (v : ScheduleWorker) : Decidable (s.Stored v) :=
  inferInstanceAs (Decidable (s.shared.schedule.worker = some v.number))

instance (s : Scheduler) (v : ScheduleWorker) : Decidable (s.Current v) :=
  inferInstanceAs (Decidable (s.shared.schedule.enabled = true ∧
    s.shared.schedule.intervalSecs = v.intervalSecs ∧ s.shared.schedule.limit = v.limit))

/-- No request to configure the schedule is in progress. -/
def Quiet (s : Scheduler) : Prop := ∀ t ∈ s.threads, t.configuring = false

/-- At most one worker is alive; it is the one that the schedule has, and the schedule is enabled
with what it polls with. -/
def WorkerUnique (s : Scheduler) : Prop :=
  s.live.length ≤ 1 ∧ ∀ v ∈ s.live, s.Stored v ∧ s.Current v

/-- Every worker that is alive is the one that the schedule has, which is enabled as it says; or
else some request is about to store it. -/
def Owned (s : Scheduler) : Prop :=
  ∀ v ∈ s.live, (s.Stored v ∧ s.Current v) ∨ v ∈ s.stores

/-- The next scope of the task does not take the schedule away from a worker that is alive. -/
def Clear (s : Scheduler) : ScheduleTask → Prop
  | .enable intervalSecs limit =>
    ∀ v ∈ s.live, s.Stored v → intervalSecs = v.intervalSecs ∧ limit = v.limit
  | .disable _ => ∀ v ∈ s.live, ¬ s.Stored v
  | .store worker => (∀ v ∈ s.live, ¬ s.Stored v) ∧ (worker ∈ s.live → s.Current worker)
  | _ => True

/-- The step takes the schedule away from no worker that is alive, and the connection that is lost
is not that of a request about to store one. -/
def Undisturbed (s : Scheduler) : ScheduleLabel → Prop
  | .advance i _ => ∀ t ∈ s.threads[i]?, s.Clear t
  | .lose i => ∀ t ∈ s.threads[i]?, ∀ v ∈ t.storing, v ∉ s.live
  | _ => True

instance (s : Scheduler) : DecidablePred s.Clear
  | .enable intervalSecs limit => inferInstanceAs (Decidable (∀ v ∈ s.live, s.Stored v →
      intervalSecs = v.intervalSecs ∧ limit = v.limit))
  | .disable _ => inferInstanceAs (Decidable (∀ v ∈ s.live, ¬ s.Stored v))
  | .store worker => inferInstanceAs (Decidable ((∀ v ∈ s.live, ¬ s.Stored v) ∧
      (worker ∈ s.live → s.Current worker)))
  | .configure _ _ | .readFirst _ _ | .noteFirst _ _ _ | .stopOld _ _ | .spawn _ _ | .stop _
  | .respond | .runNow _ | .readNow _ | .noteNow _ | .answered _ | .lost | .tick _ | .read _
  | .noteRead _ _ | .noteFailure _ _ | .ended => inferInstanceAs (Decidable True)

instance (s : Scheduler) : DecidablePred s.Undisturbed
  | .advance i _ => inferInstanceAs (Decidable (∀ t ∈ s.threads[i]?, s.Clear t))
  | .lose i => inferInstanceAs (Decidable (∀ t ∈ s.threads[i]?, ∀ v ∈ t.storing, v ∉ s.live))
  | .configure _ _ | .runNow _ | .rest _ => inferInstanceAs (Decidable True)

/-! ## What a step does -/

/-- What the rules for workers depend on, apart from the tasks. -/
structure SameSettings (a b : ScheduleShared) : Prop where
  worker : b.schedule.worker = a.schedule.worker
  enabled : b.schedule.enabled = a.schedule.enabled
  intervalSecs : b.schedule.intervalSecs = a.schedule.intervalSecs
  limit : b.schedule.limit = a.schedule.limit
  spawned : b.spawned = a.spawned
  aborted : b.aborted = a.aborted

/-- What a step can do to the workers and the schedule, and what is asked of it before. -/
inductive Turn (s : Scheduler) (asked : Prop) (s' : Scheduler) : Prop
  | keeps (hasked : asked) (hworkers : s'.workers.Subperm s.workers)
      (hstores : s'.stores.Perm s.stores) (hshared : SameSettings s.shared s'.shared)
  | stops (hasked : asked) (hworkers : s'.workers.Perm s.workers)
      (hstores : s'.stores.Perm s.stores) (hshared : s'.shared = s.shared.stopExisting)
  | enables (intervalSecs limit : ℕ) (now : Time)
      (hasked : asked ↔ ∀ v ∈ s.live, s.Stored v → intervalSecs = v.intervalSecs ∧ limit = v.limit)
      (hworkers : s'.workers.Perm s.workers) (hstores : s'.stores.Perm s.stores)
      (hshared : s'.shared = s.shared.setSchedule (s.shared.schedule.enable intervalSecs limit now))
  | disables (reason : String) (now : Time) (hasked : asked ↔ ∀ v ∈ s.live, ¬ s.Stored v)
      (hworkers : s'.workers.Perm s.workers) (hstores : s'.stores.Perm s.stores)
      (hshared : s'.shared = s.shared.setSchedule (s.shared.schedule.disable reason now))
  | spawns (v : ScheduleWorker) (hasked : asked) (hnumber : v.number = s.shared.spawned)
      (hworkers : s'.workers.Perm (v :: s.workers)) (hstores : s'.stores.Perm (v :: s.stores))
      (hshared : s'.shared = { s.shared with spawned := s.shared.spawned + 1 })
  | stores (v : ScheduleWorker)
      (hasked : asked ↔ (∀ u ∈ s.live, ¬ s.Stored u) ∧ (v ∈ s.live → s.Current v))
      (hworkers : s'.workers.Perm s.workers) (hstores : s.stores.Perm (v :: s'.stores))
      (hshared : s'.shared =
        s.shared.setSchedule { s.shared.schedule with worker := some v.number })
  | loses (lost : Option ScheduleWorker) (hasked : asked ↔ ∀ v ∈ lost, v ∉ s.live)
      (hworkers : s'.workers.Perm s.workers) (hstores : s.stores.Perm (lost.toList ++ s'.stores))
      (hshared : s'.shared = s.shared)

end Scheduler

/-- The schedule is as it was. -/
def SameSchedules (n n' : LocalState) : Prop := n'.schedules = n.schedules

lemma SameSchedules.trans (a b c : LocalState) (h : SameSchedules a b) (h' : SameSchedules b c) :
    SameSchedules a c := Eq.trans h' h

section Reads

variable {x : NodeCrates} {w : NodeWorld}

lemma sameSchedules_of_finalState {α : Type} {m : NodeM α} (h : ∀ n, finalState (m n) = n) :
    Moves SameSchedules m := .refl_of (fun _ => rfl) h

lemma sameSchedules_of_eq {α : Type} {m : NodeM α} (h : Moves Eq m) : Moves SameSchedules m :=
  sameSchedules_of_finalState fun n => (h n).symm

lemma moves_loadStoredOzonCredentials : Moves Eq (loadStoredOzonCredentials x w) := by
  rw [loadStoredOzonCredentials]
  refine .bind_eq moves_getSecret fun bundle => ?_
  cases bundle with
  | some bundle =>
    exact .bind_eq (.refl_of Eq.refl fun _ => by simp) fun _ => .refl_of Eq.refl fun _ => rfl
  | none =>
    refine .bind_eq moves_getSecret fun _ => .bind_eq moves_getSecret fun _ => ?_
    refine .bind_eq (.refl_of Eq.refl fun _ => by simp) fun _ => ?_
    exact .bind_eq (.refl_of Eq.refl fun _ => by simp) fun _ => .refl_of Eq.refl fun _ => rfl

lemma moves_loadOzonCredentials : Moves Eq (loadOzonCredentials x w) := by
  rw [loadOzonCredentials]
  refine .bind_eq moves_get fun s => ?_
  split
  · exact .refl_of Eq.refl fun _ => rfl
  · split
    · exact .refl_of Eq.refl fun _ => rfl
    · refine .bind_eq (.refl_of Eq.refl fun _ => by simp) fun credentials => ?_
      cases credentials with
      | some credentials => exact .refl_of Eq.refl fun _ => rfl
      | none => exact moves_loadStoredOzonCredentials

/-- Reading the products leaves the schedule alone. -/
lemma executeEcommerceRead_sameSchedules (w : ScheduleWorld) (limit : ℕ) :
    Moves SameSchedules (executeEcommerceRead x w limit) := by
  rw [executeEcommerceRead]
  refine .bind SameSchedules.trans (moves_requireValidLeaseWithFeature (fun _ => rfl)
    SameSchedules.trans (fun _ _ => rfl) fun _ _ => rfl) fun _ => sameSchedules_of_eq ?_
  refine .bind_eq moves_loadOzonCredentials fun credentials => ?_
  refine .bind_eq (.refl_of Eq.refl fun _ => by simp) fun page => ?_
  exact .bind_eq moves_get fun _ => .refl_of Eq.refl fun _ => rfl

end Reads

namespace Scheduler

/-! ### One case per scope -/

section Turns

variable {x : NodeCrates} {s : Scheduler} {i : ℕ} {t : ScheduleTask} {asked : Prop}

lemma mem_live {v : ScheduleWorker} :
    v ∈ s.live ↔ v ∈ s.workers ∧ v.number ∉ s.shared.aborted := by
  simp [live]

/-- The workers after a scope that starts no task. -/
lemma workers_after (hi : s.threads[i]? = some t) {next : ScheduleTask} {shared : ScheduleShared}
    (hnext : next.worker? = t.worker?) :
    (workers (s.after i (next.goesOn shared))).Perm s.workers := by
  obtain ⟨rest, hbefore, hafter⟩ := Threads.exists_held_rest hi ScheduleTask.worker?
  refine (hafter _).trans (.trans (.of_eq ?_) hbefore.symm)
  rw [← hnext]
  cases h : next.worker? <;> simp [ScheduleTask.goesOn, h]

/-- The workers to be stored after a scope that does not store one. -/
lemma stores_after (hi : s.threads[i]? = some t) {next : ScheduleTask} {shared : ScheduleShared}
    (hnext : next.storing = none) (ht : t.storing = none) :
    (stores (s.after i (next.goesOn shared))).Perm s.stores := by
  obtain ⟨rest, hbefore, hafter⟩ := Threads.exists_held_rest hi ScheduleTask.storing
  refine (hafter _).trans (.trans (.of_eq ?_) hbefore.symm)
  simp [ScheduleTask.goesOn, hnext, ht]

lemma Turn.goesOn (hi : s.threads[i]? = some t) (hasked : asked) {next : ScheduleTask}
    {shared : ScheduleShared} (hnext : next.worker? = t.worker? ∨ next.worker? = none)
    (hstoring : next.storing = none) (ht : t.storing = none)
    (hshared : SameSettings s.shared shared) : s.Turn asked (s.after i (next.goesOn shared)) := by
  refine .keeps hasked ?_ (stores_after hi hstoring ht) hshared
  rcases hnext with hnext | hnext
  · exact (workers_after hi hnext).subperm
  · obtain ⟨rest, hbefore, hafter⟩ := Threads.exists_held_rest hi ScheduleTask.worker?
    refine (List.Perm.subperm ?_).trans ((List.sublist_append_right _ rest).subperm.trans
      hbefore.symm.subperm)
    refine (hafter _).trans (.of_eq ?_)
    simp [ScheduleTask.goesOn, hnext]

lemma SameSettings.refl (a : ScheduleShared) : SameSettings a a := ⟨rfl, rfl, rfl, rfl, rfl, rfl⟩

lemma Turn.call {α : Type} {m : NodeM α} (hi : s.threads[i]? = some t) (hasked : asked)
    (hm : Moves SameSchedules m) {next : Except ApiError α → ScheduleTask}
    (hnext : ∀ r, (next r).worker? = t.worker? ∨ (next r).worker? = none)
    (hstoring : ∀ r, (next r).storing = none) (ht : t.storing = none) :
    s.Turn asked (s.after i (s.shared.call m next)) := by
  have hsame : (finalState (m s.shared.node)).schedules = s.shared.node.schedules := hm _
  refine .goesOn hi hasked (hnext _) (hstoring _) ht ⟨?_, ?_, ?_, ?_, rfl, rfl⟩
  · exact congrArg EcommerceReadSchedule.worker hsame
  · exact congrArg EcommerceReadSchedule.enabled hsame
  · exact congrArg EcommerceReadSchedule.intervalSecs hsame
  · exact congrArg EcommerceReadSchedule.limit hsame

/-- **A scope.** -/
lemma turn_block (w : ScheduleWorld) (hi : s.threads[i]? = some t) :
    s.Turn (s.Clear t) (s.after i (t.block x w s.shared)) := by
  have hsame := SameSettings.refl s.shared
  -- what a read brings changes the log and nothing else
  have hnote : ∀ run now, SameSettings s.shared
      (s.shared.setSchedule (s.shared.schedule.noteRun run w.elapsedMs now)) :=
    fun _ _ => ⟨rfl, rfl, rfl, rfl, rfl, rfl⟩
  have hread : ∀ limit, Moves SameSchedules (executeEcommerceRead x w limit) :=
    executeEcommerceRead_sameSchedules w
  cases t with
  | configure headers input =>
    simp only [ScheduleTask.block]
    split
    · exact .goesOn hi trivial (.inr rfl) rfl rfl hsame
    · split
      · exact .goesOn hi trivial (.inr rfl) rfl rfl hsame
      · exact .goesOn hi trivial (.inr rfl) rfl rfl hsame
  | readFirst intervalSecs limit =>
    refine .call hi trivial (hread limit) (fun r => .inr ?_) (fun r => ?_) rfl
    · cases r <;> rfl
    · cases r <;> rfl
  | noteFirst run intervalSecs limit => exact .goesOn hi trivial (.inr rfl) rfl rfl (hnote _ _)
  | stopOld intervalSecs limit =>
    simp only [ScheduleTask.block]
    exact .stops trivial (workers_after hi rfl) (stores_after hi rfl rfl) rfl
  | enable intervalSecs limit =>
    simp only [ScheduleTask.block]
    exact .enables intervalSecs limit w.node.now .rfl (workers_after hi rfl)
      (stores_after hi rfl rfl) rfl
  | spawn intervalSecs limit =>
    -- the request holds the handle until it is stored
    obtain ⟨workers, hbefore, hafter⟩ := Threads.exists_held_rest hi ScheduleTask.worker?
    obtain ⟨stores, hstores, hstores'⟩ := Threads.exists_held_rest hi ScheduleTask.storing
    refine .spawns ⟨s.shared.spawned, intervalSecs, limit⟩ trivial rfl ?_ ?_ rfl
    · exact (hafter _).trans (hbefore.symm.cons _)
    · exact (hstores' _).trans (hstores.symm.cons _)
  | store worker =>
    obtain ⟨stores, hstores, hstores'⟩ := Threads.exists_held_rest hi ScheduleTask.storing
    simp only [ScheduleTask.block]
    exact .stores worker .rfl (workers_after hi rfl)
      (hstores.trans ((hstores' (ScheduleTask.respond.goesOn _)).symm.cons worker)) rfl
  | stop reason =>
    simp only [ScheduleTask.block]
    exact .stops trivial (workers_after hi rfl) (stores_after hi rfl rfl) rfl
  | disable reason =>
    simp only [ScheduleTask.block]
    exact .disables reason w.node.now .rfl (workers_after hi rfl) (stores_after hi rfl rfl) rfl
  | respond => exact .goesOn hi trivial (.inr rfl) rfl rfl hsame
  | runNow headers =>
    simp only [ScheduleTask.block]
    split
    · exact .goesOn hi trivial (.inr rfl) rfl rfl hsame
    · exact .goesOn hi trivial (.inr rfl) rfl rfl hsame
  | readNow limit =>
    refine .call hi trivial (hread limit) (fun r => .inr ?_) (fun r => ?_) rfl
    · cases r <;> rfl
    · cases r <;> rfl
  | noteNow run => exact .goesOn hi trivial (.inr rfl) rfl rfl (hnote _ _)
  | tick worker =>
    simp only [ScheduleTask.block]
    split
    · exact .goesOn hi trivial (.inl rfl) rfl rfl hsame
    · exact .goesOn hi trivial (.inr rfl) rfl rfl hsame
  | read worker =>
    refine .call hi trivial (hread worker.limit) (fun r => .inl ?_) (fun r => ?_) rfl
    · cases r <;> rfl
    · cases r <;> rfl
  | noteRead worker run => exact .goesOn hi trivial (.inl rfl) rfl rfl (hnote _ _)
  | noteFailure worker message =>
    exact .goesOn hi trivial (.inl rfl) rfl rfl ⟨rfl, rfl, rfl, rfl, rfl, rfl⟩
  | answered reply => exact .goesOn hi trivial (.inr rfl) rfl rfl hsame
  | lost => exact .goesOn hi trivial (.inr rfl) rfl rfl hsame
  | ended => exact .goesOn hi trivial (.inr rfl) rfl rfl hsame

/-- A request that comes in. -/
lemma Turn.called (hasked : asked) (hworker : t.worker? = none) (hstoring : t.storing = none) :
    s.Turn asked { s with threads := s.threads ++ [t] } := by
  refine .keeps hasked (List.Perm.of_eq ?_).subperm (.of_eq ?_) (.refl _)
  · rw [workers, List.filterMap_append, List.filterMap_cons_none hworker, List.filterMap_nil,
      List.append_nil, workers]
  · rw [Scheduler.stores, List.filterMap_append, List.filterMap_cons_none hstoring,
      List.filterMap_nil, List.append_nil, Scheduler.stores]

/-- **A step.** -/
lemma turn_step {l : ScheduleLabel} (hen : s.Enabled l) :
    s.Turn (s.Undisturbed l) (s.step x l) := by
  cases l with
  | configure headers input => exact .called trivial rfl rfl
  | runNow headers => exact .called trivial rfl rfl
  | advance i w =>
    obtain ⟨t, hi, -⟩ := hen
    have hi : s.threads[i]? = some t := hi
    have hclear : s.Undisturbed (.advance i w) = s.Clear t := by simp [Undisturbed, hi]
    rw [hclear]
    simp only [step, hi]
    exact turn_block w hi
  | lose i =>
    obtain ⟨t, hi, hwaits⟩ := hen
    have hworker : t.worker? = none := by
      cases t <;> first | rfl | cases hwaits
    obtain ⟨stores, hstores, hstores'⟩ := Threads.exists_held_rest hi ScheduleTask.storing
    refine .loses t.storing ?_ (workers_after hi hworker.symm) ?_ rfl
    · simp [Undisturbed, Option.mem_def.mp hi]
    · exact hstores.trans ((hstores' (ScheduleTask.lost.goesOn s.shared)).symm.append_left _)
  | rest node =>
    have hsame : node.schedules = s.shared.node.schedules := hen
    refine .keeps trivial (.refl _) (.refl _) ⟨?_, ?_, ?_, ?_, rfl, rfl⟩
    · exact congrArg EcommerceReadSchedule.worker hsame
    · exact congrArg EcommerceReadSchedule.enabled hsame
    · exact congrArg EcommerceReadSchedule.intervalSecs hsame
    · exact congrArg EcommerceReadSchedule.limit hsame

end Turns

/-! ## What every step keeps -/

/-- Workers and handles have numbers of their own, from below the next one; and a worker that is
about to be stored is not the one that the schedule has. -/
structure WorkersInv (s : Scheduler) : Prop where
  workers_lt : ∀ v ∈ s.workers, v.number < s.shared.spawned
  stores_lt : ∀ v ∈ s.stores, v.number < s.shared.spawned
  stored_lt : ∀ n, s.shared.schedule.worker = some n → n < s.shared.spawned
  workers_nodup : (s.workers.map ScheduleWorker.number).Nodup
  stores_nodup : (s.stores.map ScheduleWorker.number).Nodup
  unstored : ∀ v ∈ s.stores, ¬ s.Stored v

section Invariants

variable {s s' : Scheduler} {asked : Prop} {v : ScheduleWorker}

/-- What holds of the workers by their numbers, where no worker has been added. -/
lemma WorkersInv.of_subperm (h : WorkersInv s) (hworkers : s'.workers.Subperm s.workers)
    (hstores : s'.stores.Subperm s.stores) (hspawned : s'.shared.spawned = s.shared.spawned)
    (hstored : ∀ n, s'.shared.schedule.worker = some n → n < s.shared.spawned)
    (hunstored : ∀ v ∈ s'.stores, ¬ s'.Stored v) : WorkersInv s' := by
  have hsubset := hworkers.subset
  have hsubset' := hstores.subset
  obtain ⟨workers, hperm, hsub⟩ := hworkers
  obtain ⟨stores, hperm', hsub'⟩ := hstores
  refine ⟨fun v hv => ?_, fun v hv => ?_, fun n hn => ?_, ?_, ?_, hunstored⟩
  · exact hspawned ▸ h.workers_lt v (hsubset hv)
  · exact hspawned ▸ h.stores_lt v (hsubset' hv)
  · exact hspawned ▸ hstored n hn
  · exact (hperm.map _).nodup_iff.mp ((hsub.map _).nodup h.workers_nodup)
  · exact (hperm'.map _).nodup_iff.mp ((hsub'.map _).nodup h.stores_nodup)

lemma WorkersInv.turn (h : WorkersInv s) (ht : s.Turn asked s') : WorkersInv s' := by
  cases ht with
  | keeps _ hworkers hstores hshared =>
    refine h.of_subperm hworkers hstores.subperm hshared.spawned (fun n hn => ?_)
      fun v hv hsame => ?_
    · exact h.stored_lt n (hshared.worker ▸ hn)
    · exact h.unstored v (hstores.mem_iff.mp hv) (hshared.worker.symm.trans hsame)
  | stops _ hworkers hstores hshared =>
    have hnone : s'.shared.schedule.worker = none := by rw [hshared]; rfl
    refine h.of_subperm hworkers.subperm hstores.subperm (by rw [hshared]; rfl) (fun n hn => ?_)
      fun v hv hsame => ?_
    · exact absurd (hnone.symm.trans hn) (by simp)
    · exact absurd (hnone.symm.trans hsame) (by simp)
  | enables _ _ _ _ hworkers hstores hshared | disables _ _ _ hworkers hstores hshared =>
    have hworker : s'.shared.schedule.worker = s.shared.schedule.worker := by rw [hshared]; rfl
    refine h.of_subperm hworkers.subperm hstores.subperm (by rw [hshared]; rfl)
      (fun n hn => h.stored_lt n (hworker ▸ hn)) fun v hv hsame => ?_
    exact h.unstored v (hstores.mem_iff.mp hv) (hworker.symm.trans hsame)
  | spawns v _ hnumber hworkers hstores hshared =>
    have hworker : s'.shared.schedule.worker = s.shared.schedule.worker := by rw [hshared]; rfl
    have hspawned : s'.shared.spawned = s.shared.spawned + 1 := by rw [hshared]
    -- the new number is beyond all those in use
    have hfresh : ∀ l : List ScheduleWorker, (∀ u ∈ l, u.number < s.shared.spawned) →
        v.number ∉ l.map ScheduleWorker.number := by
      intro l hl hmem
      obtain ⟨u, hu, hsame⟩ := List.mem_map.mp hmem
      exact absurd (hl u hu) (by omega)
    refine ⟨fun u hu => ?_, fun u hu => ?_, fun n hn => ?_, ?_, ?_, fun u hu hsame => ?_⟩
    · rcases List.mem_cons.mp (hworkers.mem_iff.mp hu) with rfl | hu
      · omega
      · exact hspawned ▸ Nat.lt_succ_of_lt (h.workers_lt u hu)
    · rcases List.mem_cons.mp (hstores.mem_iff.mp hu) with rfl | hu
      · omega
      · exact hspawned ▸ Nat.lt_succ_of_lt (h.stores_lt u hu)
    · exact hspawned ▸ Nat.lt_succ_of_lt (h.stored_lt n (hworker ▸ hn))
    · rw [(hworkers.map ScheduleWorker.number).nodup_iff, List.map_cons, List.nodup_cons]
      exact ⟨hfresh _ h.workers_lt, h.workers_nodup⟩
    · rw [(hstores.map ScheduleWorker.number).nodup_iff, List.map_cons, List.nodup_cons]
      exact ⟨hfresh _ h.stores_lt, h.stores_nodup⟩
    · have hsame : s.Stored u := hworker.symm.trans hsame
      rcases List.mem_cons.mp (hstores.mem_iff.mp hu) with rfl | hu
      · exact absurd (h.stored_lt _ hsame) (by omega)
      · exact h.unstored u hu hsame
  | stores v _ hworkers hstores hshared =>
    have hworker : s'.shared.schedule.worker = some v.number := by rw [hshared]; rfl
    -- each handle is stored once, so the one in the slot is no longer waiting
    have hnodup := (hstores.map ScheduleWorker.number).nodup_iff.mp h.stores_nodup
    rw [List.map_cons, List.nodup_cons] at hnodup
    refine h.of_subperm hworkers.subperm ((List.sublist_cons_self v _).subperm.trans
      hstores.symm.subperm) (by rw [hshared]; rfl) (fun n hn => ?_) fun u hu hsame => ?_
    · obtain rfl := Option.some.inj (hworker.symm.trans hn)
      exact h.stores_lt v (hstores.mem_iff.mpr (List.mem_cons_self ..))
    · have hsame : v.number = u.number := Option.some.inj (hworker.symm.trans hsame)
      exact hnodup.1 (List.mem_map.mpr ⟨u, hu, hsame.symm⟩)
  | loses lost _ hworkers hstores hshared =>
    have hsub : s'.stores.Subperm s.stores :=
      (List.sublist_append_right _ _).subperm.trans hstores.symm.subperm
    refine h.of_subperm hworkers.subperm hsub (by rw [hshared])
      (fun n hn => h.stored_lt n (hshared ▸ hn)) fun v hv hsame => ?_
    rw [Stored, hshared] at hsame
    exact h.unstored v (hsub.subset hv) hsame

/-- No worker comes to life that was not alive before, unless it is spawned. -/
lemma live_of_live (hworkers : s'.workers ⊆ s.workers)
    (haborted : ∀ n ∈ s.shared.aborted, n ∈ s'.shared.aborted) (hv : v ∈ s'.live) : v ∈ s.live :=
  have hv := mem_live.mp hv
  mem_live.mpr ⟨hworkers hv.1, fun hmem => hv.2 (haborted _ hmem)⟩

/-- The same of a step that aborts nothing. -/
lemma live_of_subperm (hworkers : s'.workers.Subperm s.workers)
    (haborted : s'.shared.aborted = s.shared.aborted) (hv : v ∈ s'.live) : v ∈ s.live :=
  live_of_live hworkers.subset (fun _ hn => haborted.symm ▸ hn) hv

/-- **Owned workers stay owned**, if the step does what is asked of it. -/
lemma Owned.turn (h : s.Owned) (ht : s.Turn asked s') (hasked : asked) : s'.Owned := by
  cases ht with
  | keeps _ hworkers hstores hshared =>
    intro v hv
    have hlive : v ∈ s.live := live_of_subperm hworkers hshared.aborted hv
    rcases h v hlive with ⟨hstored, henabled, hinterval, hlimit⟩ | hmem
    · exact .inl ⟨hshared.worker.trans hstored, hshared.enabled.trans henabled,
        hshared.intervalSecs.trans hinterval, hshared.limit.trans hlimit⟩
    · exact .inr (hstores.mem_iff.mpr hmem)
  | stops _ hworkers hstores hshared =>
    intro v hv
    have haborted : s'.shared.aborted = s.shared.schedule.worker.toList ++ s.shared.aborted := by
      rw [hshared]
      rfl
    have hlive : v ∈ s.live := live_of_live hworkers.subset
      (fun n hn => haborted.symm ▸ List.mem_append_right _ hn) hv
    rcases h v hlive with ⟨hstored, -⟩ | hmem
    · -- it has just been aborted
      refine absurd ?_ (mem_live.mp hv).2
      rw [haborted, show s.shared.schedule.worker = some v.number from hstored]
      exact List.mem_append_left _ (List.mem_singleton.mpr rfl)
    · exact .inr (hstores.mem_iff.mpr hmem)
  | enables intervalSecs limit now hiff hworkers hstores hshared =>
    intro v hv
    have hlive : v ∈ s.live := live_of_subperm hworkers.subperm (hshared ▸ rfl) hv
    rcases h v hlive with ⟨hstored, -⟩ | hmem
    · obtain ⟨hinterval, hlimit⟩ := hiff.mp hasked v hlive hstored
      refine .inl ⟨?_, ?_⟩
      · rw [Stored, hshared]
        exact hstored
      · rw [Current, hshared]
        exact ⟨rfl, hinterval, hlimit⟩
    · exact .inr (hstores.mem_iff.mpr hmem)
  | disables reason now hiff hworkers hstores hshared =>
    intro v hv
    have hlive : v ∈ s.live := live_of_subperm hworkers.subperm (hshared ▸ rfl) hv
    rcases h v hlive with ⟨hstored, -⟩ | hmem
    · exact absurd hstored (hiff.mp hasked v hlive)
    · exact .inr (hstores.mem_iff.mpr hmem)
  | spawns u _ hnumber hworkers hstores hshared =>
    intro v hv
    rcases List.mem_cons.mp (hworkers.mem_iff.mp (mem_live.mp hv).1) with rfl | hmem
    · exact .inr (hstores.mem_iff.mpr (List.mem_cons_self ..))
    · have hlive : v ∈ s.live := mem_live.mpr ⟨hmem, by
        have haborted := (mem_live.mp hv).2
        rwa [hshared] at haborted⟩
      rcases h v hlive with howned | hmem
      · refine .inl ?_
        rw [Stored, Current, hshared]
        exact howned
      · exact .inr (hstores.mem_iff.mpr (List.mem_cons_of_mem u hmem))
  | stores u hiff hworkers hstores hshared =>
    intro v hv
    have hlive : v ∈ s.live := live_of_subperm hworkers.subperm (hshared ▸ rfl) hv
    rcases h v hlive with ⟨hstored, -⟩ | hmem
    · exact absurd hstored ((hiff.mp hasked).1 v hlive)
    · rcases List.mem_cons.mp (hstores.mem_iff.mp hmem) with rfl | hmem
      · refine .inl ⟨?_, ?_⟩
        · rw [Stored, hshared]
          rfl
        · rw [Current, hshared]
          exact (hiff.mp hasked).2 hlive
      · exact .inr hmem
  | loses lost hiff hworkers hstores hshared =>
    intro v hv
    have hlive : v ∈ s.live := live_of_subperm hworkers.subperm (hshared ▸ rfl) hv
    rcases h v hlive with howned | hmem
    · refine .inl ?_
      rw [Stored, Current, hshared]
      exact howned
    · rcases List.mem_append.mp (hstores.mem_iff.mp hmem) with hlost | hmem
      · exact absurd hlive (hiff.mp hasked v (Option.mem_toList.mp hlost))
      · exact .inr hmem

/-- **A disturbed step** leaves a worker that is alive with no schedule of its own. -/
lemma WorkersInv.not_owned (h : WorkersInv s) (ht : s.Turn asked s') (hasked : ¬ asked) :
    ¬ s'.Owned := by
  have hstays : s.workers ⊆ s'.workers → s'.shared.aborted = s.shared.aborted →
      ∀ v ∈ s.live, v ∈ s'.live := by
    intro hworkers haborted v hv
    have hv := mem_live.mp hv
    exact mem_live.mpr ⟨hworkers hv.1, haborted.symm ▸ hv.2⟩
  intro howned
  cases ht with
  | keeps ha | stops ha | spawns _ ha => exact hasked ha
  | enables intervalSecs limit now hiff hworkers hstores hshared =>
    refine hasked (hiff.mpr fun v hlive hstored => ?_)
    rcases howned v (hstays hworkers.symm.subset (by rw [hshared]; rfl) v hlive) with hown | hmem
    · rw [Current, hshared] at hown
      exact ⟨hown.2.2.1, hown.2.2.2⟩
    · exact absurd hstored (h.unstored v (hstores.mem_iff.mp hmem))
  | disables reason now hiff hworkers hstores hshared =>
    refine hasked (hiff.mpr fun v hlive hstored => ?_)
    rcases howned v (hstays hworkers.symm.subset (by rw [hshared]; rfl) v hlive) with hown | hmem
    · rw [Current, hshared] at hown
      exact absurd hown.2.1 (by simp [ScheduleShared.setSchedule, ScheduleShared.schedule,
        EcommerceReadSchedule.disable])
    · exact h.unstored v (hstores.mem_iff.mp hmem) hstored
  | stores u hiff hworkers hstores hshared =>
    have hmem : u ∈ s.stores := hstores.mem_iff.mpr (List.mem_cons_self ..)
    have hnodup := (hstores.map ScheduleWorker.number).nodup_iff.mp h.stores_nodup
    rw [List.map_cons, List.nodup_cons] at hnodup
    have hlives := hstays hworkers.symm.subset (by rw [hshared]; rfl)
    refine hasked (hiff.mpr ⟨fun v hlive hstored => ?_, fun hlive => ?_⟩)
    · rcases howned v (hlives v hlive) with ⟨hstored', -⟩ | hmem'
      · -- the handle of the worker has been overwritten
        have hsame : u.number = v.number := by
          rw [Stored, hshared] at hstored'
          exact Option.some.inj hstored'
        exact h.unstored u hmem (hstored.trans (congrArg some hsame.symm))
      · exact h.unstored v (hstores.mem_iff.mpr (List.mem_cons_of_mem u hmem')) hstored
    · rcases howned u (hlives u hlive) with ⟨-, hcurrent⟩ | hmem'
      · rw [Current, hshared] at hcurrent
        exact hcurrent
      · exact absurd (List.mem_map_of_mem hmem') hnodup.1
  | loses lost hiff hworkers hstores hshared =>
    have hnodup := (hstores.map ScheduleWorker.number).nodup_iff.mp h.stores_nodup
    rw [List.map_append, List.nodup_append'] at hnodup
    refine hasked (hiff.mpr fun v hv hlive => ?_)
    have hlost : v ∈ lost.toList := Option.mem_toList.mpr hv
    rcases howned v (hstays hworkers.symm.subset (by rw [hshared]) v hlive) with ⟨hstored, -⟩ | hmem
    · rw [Stored, hshared] at hstored
      exact h.unstored v (hstores.mem_iff.mpr (List.mem_append_left _ hlost)) hstored
    · exact hnodup.2.2 (List.mem_map_of_mem hlost) (List.mem_map_of_mem hmem)

/-- When all is quiet, there is nothing to be stored. -/
lemma Owned.workerUnique (h : s.Owned) (hinv : WorkersInv s) (hquiet : s.Quiet) :
    s.WorkerUnique := by
  have hstores : s.stores = [] := by
    refine List.filterMap_eq_nil_iff.mpr fun t ht => ?_
    have hidle := hquiet t ht
    cases t <;> first | rfl | cases hidle
  have hlive : ∀ v ∈ s.live, s.Stored v ∧ s.Current v := by
    intro v hv
    rcases h v hv with howned | hmem
    · exact howned
    · rw [hstores] at hmem
      cases hmem
  refine ⟨?_, hlive⟩
  -- the numbers of the workers that are alive are all that of the schedule
  have hnodup : (s.live.map ScheduleWorker.number).Nodup :=
    (List.filter_sublist.map _).nodup hinv.workers_nodup
  have hsame : ∀ n ∈ s.live.map ScheduleWorker.number, s.shared.schedule.worker = some n := by
    intro n hn
    obtain ⟨v, hv, rfl⟩ := List.mem_map.mp hn
    exact (hlive v hv).1
  have hlength : s.live.length = (s.live.map ScheduleWorker.number).length :=
    (List.length_map _).symm
  rw [hlength]
  match hl : s.live.map ScheduleWorker.number with
  | [] => simp
  | [n] => simp
  | n :: m :: rest =>
    rw [hl] at hnodup hsame
    have hnm : n = m := Option.some.inj
      ((hsame n (by simp)).symm.trans (hsame m (by simp)))
    simp [hnm] at hnodup

/-! ### Workers that are gone -/

/-- Workers from before are gone: those that have not come to their end are aborted. -/
def Gone (n : ℕ) (s : Scheduler) : Prop :=
  n ≤ s.shared.spawned ∧ ∀ v ∈ s.workers, v.number < n → v.number ∈ s.shared.aborted

/-- They stay gone in a step that neither spawns nor aborts. -/
lemma Gone.of_subperm {n : ℕ} (h : Gone n s) (hworkers : s'.workers.Subperm s.workers)
    (haborted : s'.shared.aborted = s.shared.aborted)
    (hspawned : s'.shared.spawned = s.shared.spawned) : Gone n s' :=
  ⟨hspawned ▸ h.1, fun v hv hlt => haborted ▸ h.2 v (hworkers.subset hv) hlt⟩

lemma Gone.turn {n : ℕ} (h : Gone n s) (ht : s.Turn asked s') : Gone n s' := by
  cases ht with
  | keeps _ hworkers _ hshared => exact h.of_subperm hworkers hshared.aborted hshared.spawned
  | enables _ _ _ _ hworkers _ hshared | disables _ _ _ hworkers _ hshared
  | stores _ _ hworkers _ hshared | loses _ _ hworkers _ hshared =>
    exact h.of_subperm hworkers.subperm (hshared ▸ rfl) (hshared ▸ rfl)
  | stops _ hworkers _ hshared =>
    refine ⟨by rw [hshared]; exact h.1, fun v hv hlt => ?_⟩
    rw [hshared]
    exact List.mem_append_right _ (h.2 v (hworkers.subset hv) hlt)
  | spawns u _ hnumber hworkers _ hshared =>
    refine ⟨by rw [hshared]; exact Nat.le_succ_of_le h.1, fun v hv hlt => ?_⟩
    have hle := h.1
    rcases List.mem_cons.mp (hworkers.mem_iff.mp hv) with rfl | hmem
    · omega
    · rw [hshared]
      exact h.2 v hmem hlt

lemma gone_of_live_eq_nil (h : s.live = []) : Gone s.shared.spawned s := by
  refine ⟨le_rfl, fun v hv _ => ?_⟩
  by_contra hnot
  have hlive := mem_live.mpr ⟨hv, hnot⟩
  rw [h] at hlive
  cases hlive

lemma Gone.le_of_live {n : ℕ} (h : Gone n s) (hv : v ∈ s.live) : n ≤ v.number := by
  by_contra hlt
  exact (mem_live.mp hv).2 (h.2 v (mem_live.mp hv).1 (by omega))

end Invariants

end Scheduler

/-! ## Every run -/

section Runs

variable {x : NodeCrates} {s₀ s : Scheduler} {tr : List (ScheduleLabel × Unit)}

lemma workersInv_of_init (h₀ : (scheduler x).init s₀) : s₀.WorkersInv := by
  obtain ⟨config, secrets, rfl⟩ := h₀
  exact ⟨fun v hv => (by cases hv), fun v hv => (by cases hv), fun n hn => (by cases hn),
    List.nodup_nil, List.nodup_nil, fun v hv => (by cases hv)⟩

lemma owned_of_init (h₀ : (scheduler x).init s₀) : s₀.Owned := by
  obtain ⟨config, secrets, rfl⟩ := h₀
  exact fun v hv => (by cases hv)

/-- **One worker.**  All along a run, every worker that is alive has the schedule, or a request that
is about to store it, exactly if no step of the run disturbs a worker.  And if none does, then as
soon as no request to configure the schedule is in progress, at most one worker is alive, the one
that the schedule has, with its interval and limit; and if the schedule is disabled none is, and
whatever happens next, the workers that come to life are spawned later. -/
theorem schedule_worker_unique (h₀ : (scheduler x).init s₀) (h : (scheduler x).Run s₀ tr s) :
    ((∀ before after m, tr = before ++ after → (scheduler x).Run s₀ before m → m.Owned) ↔
      ((scheduler x).restrict Scheduler.Undisturbed).Run s₀ tr s) ∧
    (((scheduler x).restrict Scheduler.Undisturbed).Run s₀ tr s → s.Quiet →
      s.WorkerUnique ∧ (s.shared.schedule.enabled = false → s.live = [] ∧
        ∀ tr' s', (scheduler x).Run s tr' s' → ∀ v ∈ s'.live, s.shared.spawned ≤ v.number)) := by
  have hstep : ∀ m l, m.WorkersInv ∧ m.Owned → (scheduler x).enabled m l → m.Undisturbed l →
      ((scheduler x).step m l).2.WorkersInv ∧ ((scheduler x).step m l).2.Owned :=
    fun m l hm hen hl => ⟨hm.1.turn (Scheduler.turn_step hen),
      hm.2.turn (Scheduler.turn_step hen) hl⟩
  have hexact : ∀ m l, m.WorkersInv ∧ m.Owned → (scheduler x).enabled m l → ¬ m.Undisturbed l →
      ¬ ((scheduler x).step m l).2.Owned :=
    fun m l hm hen hl => hm.1.not_owned (Scheduler.turn_step hen) hl
  have hiff := h.forall_good_iff (fun m hm => hm.2) hstep hexact
    ⟨workersInv_of_init h₀, owned_of_init h₀⟩
  refine ⟨hiff, fun hrun hquiet => ?_⟩
  have hinv : s.WorkersInv :=
    h.invariant (fun m l hm hen => hm.turn (Scheduler.turn_step hen)) (workersInv_of_init h₀)
  have howned : s.Owned := hiff.mpr hrun tr [] s (List.append_nil tr).symm h
  have hunique := howned.workerUnique hinv hquiet
  refine ⟨hunique, fun hdisabled => ?_⟩
  have hnone : s.live = [] := by
    refine List.eq_nil_iff_forall_not_mem.mpr fun v hv => ?_
    have henabled := (hunique.2 v hv).2.1
    rw [hdisabled] at henabled
    cases henabled
  refine ⟨hnone, fun tr' s' hrun' v hv => ?_⟩
  have hgone : Scheduler.Gone s.shared.spawned s' :=
    hrun'.invariant (fun m l hm hen => hm.turn (Scheduler.turn_step hen))
      (Scheduler.gone_of_live_eq_nil hnone)
  exact hgone.le_of_live hv

end Runs

/-! ### Two requests -/

/-- A node that needs no lease and asks no marketplace. -/
def mockNodeConfig : LocalConfig :=
  { nodeConfig with
    useRealOzon := false
    allowUnsignedLease := true }

/-- What a node finds that only pretends. -/
def mockWorld : ScheduleWorld where
  node := { laptopWorld with productListPage := fun _ _ _ _ => .ok ⟨[], 1, none⟩ }
  completedAt := 1767226500000000
  elapsedMs := 0

/-- The node before its first request. -/
def mockScheduler : Scheduler := ⟨⟨.new mockNodeConfig ∅, 0, []⟩, []⟩

/-- A request that enables the schedule. -/
def enableSchedule : ScheduleLabel :=
  .configure ⟨some "operator-secret", none⟩ ⟨true, none, none⟩

/-- The `i`-th task runs `n` scopes. -/
def advances (i n : ℕ) : List ScheduleLabel := List.replicate n (.advance i mockWorld)

/-- The schedule is enabled, and enabled again. -/
def enableTwice : List ScheduleLabel :=
  enableSchedule :: advances 0 8 ++ enableSchedule :: advances 2 8

/-- One request after the other leaves one worker. -/
theorem schedule_worker_unique_twice :
    ∃ s, (scheduler leaseCrates).Reachable s ∧ s.Quiet ∧ s.live ≠ [] ∧ s.WorkerUnique := by
  have hinit : (scheduler leaseCrates).init mockScheduler := ⟨_, _, rfl⟩
  have hrun := Machine.run_exec (show ((scheduler leaseCrates).restrict
    Scheduler.Undisturbed).Allows mockScheduler enableTwice by decide)
  have hquiet : (((scheduler leaseCrates).restrict Scheduler.Undisturbed).exec mockScheduler
      enableTwice).2.Quiet := by
    unfold Scheduler.Quiet
    decide
  have hunique := (schedule_worker_unique hinit hrun.of_restrict).2 hrun hquiet
  exact ⟨_, ⟨_, _, hinit, hrun.of_restrict⟩, hquiet, by decide, hunique.1⟩

/-- Both requests have stopped the worker there is before either of them notes the schedule. -/
def enableSideBySide : List ScheduleLabel :=
  [enableSchedule, enableSchedule] ++ advances 0 4 ++ advances 1 4 ++ advances 0 4 ++ advances 1 4

/-- Two workers poll. -/
theorem schedule_worker_not_unique :
    ¬ ∀ (x : NodeCrates) (s : Scheduler), (scheduler x).Reachable s → s.Quiet →
      s.WorkerUnique := by
  intro h
  have hinit : (scheduler leaseCrates).init mockScheduler := ⟨_, _, rfl⟩
  have hrun := Machine.run_exec (show (scheduler leaseCrates).Allows mockScheduler
    enableSideBySide by decide)
  have hunique := h leaseCrates _ ⟨_, _, hinit, hrun⟩ (by unfold Scheduler.Quiet; decide)
  exact absurd hunique.1 (by decide)

end OzonSuite
