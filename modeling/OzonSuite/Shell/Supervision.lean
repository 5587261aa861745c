/-
# One sidecar at a time

The shell is to have one sidecar at most, with its handle in the child slot.  The functions that
start, stop and restart it take the lock on the slot and the lock on the snapshot one after the
other, so the blocks of several of them may mix.  This file says which orders of the blocks are
harmless, and shows what happens in another.
-/
import OzonSuite.Shell.Sidecar

namespace OzonSuite

open Lib

namespace ShellThread

/-- The child that the thread is about to store or to kill. -/
def holds : ShellThread → Option CommandChild
  | .storeChild child => some child
  | .recordStopped child => child
  | .kill child => child
  | _ => none

/-- The child that the thread works on. -/
def child? : ShellThread → Option CommandChild
  | .storeChild child => some child
  | .recordRunning child => some child
  | .drain child => some child
  | .exited child _ => some child
  | .takeChild child _ => some child
  | .recordStopped child => child
  | .kill child => child
  | _ => none

/-- The child whose exit the thread handles. -/
def exiting : ShellThread → Option CommandChild
  | .exited child _ => some child
  | .takeChild child _ => some child
  | _ => none

/-- Between the two blocks of `handle_sidecar_exit`. -/
def IsTaking : ShellThread → Prop
  | .takeChild _ _ => True
  | _ => False

instance : DecidablePred IsTaking
  | .takeChild _ _ => inferInstanceAs (Decidable True)
  | .start | .probe | .spawn | .storeChild _ | .recordRunning _ | .recordFailed _ | .drain _
  | .exited _ _ | .sleep _ | .stop | .recordStopped _ | .kill _ | .returned =>
    inferInstanceAs (Decidable False)

end ShellThread

/-! ## What is wanted -/

/-- Some thread is about to store the handle of the process, or to kill the process. -/
def Shell.InHand (s : Shell) (p : CommandChild) : Prop := ∃ t ∈ s.threads, t.holds = some p

instance (s : Shell) (p : CommandChild) : Decidable (s.InHand p) :=
  inferInstanceAs (Decidable (∃ t ∈ s.threads, t.holds = some p))

/-- One sidecar at most is alive, the slot has its handle, and no exit is about to remove the handle
of a process other than its own. -/
structure Supervised (s : Shell) : Prop where
  one_alive : ∀ p ∈ s.shared.alive, ∀ q ∈ s.shared.alive, ¬ s.InHand p → ¬ s.InHand q → p = q
  in_slot : ∀ p ∈ s.shared.alive, ¬ s.InHand p → s.shared.child = some p
  exit_keeps : ∀ p decision, .takeChild p decision ∈ s.threads →
    ∀ q ∈ s.shared.alive, s.shared.child = some q → q = p

/-- The next block of the thread stores the handle of a live process when no exit is between its
blocks; and an exit that the snapshot makes go on to its second block finds no handle of another
live process in the slot. -/
def ShellThread.StaysApart (s : Shell) : ShellThread → Prop
  | .storeChild child => child ∈ s.shared.alive → s.shared.child = none →
      ∀ t ∈ s.threads, ¬ t.IsTaking
  | .exited child _ => s.shared.snapshot.pid = some child.pid →
      ∀ q ∈ s.shared.alive, s.shared.child = some q → q = child
  | _ => True

instance (s : Shell) : DecidablePred (ShellThread.StaysApart s)
  | .storeChild child => inferInstanceAs (Decidable (child ∈ s.shared.alive →
      s.shared.child = none → ∀ t ∈ s.threads, ¬ t.IsTaking))
  | .exited child _ => inferInstanceAs (Decidable (s.shared.snapshot.pid = some child.pid →
      ∀ q ∈ s.shared.alive, s.shared.child = some q → q = child))
  | .start | .probe | .spawn | .recordRunning _ | .recordFailed _ | .drain _ | .takeChild _ _
  | .sleep _ | .stop | .recordStopped _ | .kill _ | .returned => inferInstanceAs (Decidable True)

/-- If a thread runs its next block, the thread stays apart from the others. -/
def ExitsApart (s : Shell) : ShellLabel → Prop
  | .advance i _ => ∀ t ∈ s.threads[i]?, t.StaysApart s
  | _ => True

instance (s : Shell) : (l : ShellLabel) → Decidable (ExitsApart s l)
  | .advance i _ => inferInstanceAs (Decidable (∀ t ∈ s.threads[i]?, t.StaysApart s))
  | .restartLocalNode | .terminate _ | .stdout _ _ => inferInstanceAs (Decidable True)

/-! ## The blocks -/

/-- What a block can do to the slot and to the processes. -/
inductive Does (s : Sidecars) (t : ShellThread) (b : Block Sidecars ShellThread) : Prop
  /-- Nothing. -/
  | nothing (hchild : b.shared.child = s.child) (halive : b.shared.alive = s.alive)
      (hspawned : b.shared.spawned = s.spawned) (hholds : b.next.holds = t.holds)
      (hchildren : ∀ u ∈ b.next :: b.started, ∀ p, u.child? = some p → t.child? = some p)
      (hexiting : ∀ u ∈ b.next :: b.started, ∀ p, u.exiting = some p →
        t.exiting = some p ∨ t = .drain p)
      (htaking : ∀ u ∈ b.next :: b.started, u.IsTaking →
        ∃ p reason, t = .exited p reason ∧ s.snapshot.pid = some p.pid)
  | spawn (pid : ℕ) (ht : t = .spawn)
      (hb : b = goOn (s.spawn pid) (.storeChild ⟨s.spawned, pid⟩))
  | store (child : CommandChild) (ht : t = .storeChild child) (hempty : s.child = none)
      (hb : b = goOn (s.setChild (some child)) (.recordRunning child))
  | kill (child : CommandChild) (ht : t.holds = some child) (hshared : b.shared = s.kill child)
      (hthreads : ∀ u ∈ b.next :: b.started, u.child? = none)
  | take (ht : t.IsTaking) (hshared : b.shared = s.setChild none)
      (hthreads : ∀ u ∈ b.next :: b.started, u.child? = none)
  | stop (ht : t = .stop) (hb : b = goOn (s.setChild none) (.recordStopped s.child))

namespace ShellThread

lemma holds_eq_none {t : ShellThread} (h : t.child? = none) : t.holds = none := by
  cases t <;> simp_all [child?, holds]

lemma child?_of_exiting {t : ShellThread} {p : CommandChild} (h : t.exiting = some p) :
    t.child? = some p := by
  cases t <;> simp_all [child?, exiting]

lemma exists_exiting {t : ShellThread} (h : t.IsTaking) : ∃ p, t.exiting = some p := by
  cases t with
  | takeChild child decision => exact ⟨child, rfl⟩
  | _ => exact h.elim

lemma not_isTaking {t : ShellThread} (h : t.child? = none) : ¬ t.IsTaking := by
  intro ht
  obtain ⟨p, hp⟩ := exists_exiting ht
  rw [child?_of_exiting hp] at h
  cases h

end ShellThread

section Blocks

variable {w : ShellWorld} {s : Sidecars} {t : ShellThread}

/-- A block that changes the snapshot alone and goes on without a child. -/
lemma Does.quiet {snapshot : SidecarSnapshot} {next : ShellThread} (ht : t.holds = none)
    (hnext : next.child? = none) : Does s t (goOn (s.setSnapshot snapshot) next) := by
  refine .nothing rfl rfl rfl ?_ ?_ ?_ ?_
  · exact (ShellThread.holds_eq_none hnext).trans ht.symm
  · intro u hu p hp
    obtain rfl := List.mem_singleton.mp hu
    exact absurd (hnext.symm.trans hp) (by simp)
  · intro u hu p hp
    obtain rfl := List.mem_singleton.mp hu
    exact absurd (hnext.symm.trans (ShellThread.child?_of_exiting hp)) (by simp)
  · intro u hu htaking
    obtain rfl := List.mem_singleton.mp hu
    exact absurd htaking (ShellThread.not_isTaking hnext)

/-- Every block does one of these. -/
lemma block_does : Does s t (t.block w s) := by
  have hsame : s.setSnapshot s.snapshot = s := rfl
  cases t with
  | start =>
    refine hsame ▸ .quiet rfl ?_
    split <;> rfl
  | probe =>
    simp only [ShellThread.block]
    split
    -- a node that answers is used, and none is started
    · exact hsame ▸ .quiet rfl rfl
    · split
      · exact .quiet rfl rfl
      · exact .quiet rfl rfl
  | spawn =>
    simp only [ShellThread.block]
    split
    · exact .spawn _ rfl rfl
    · exact hsame ▸ .quiet rfl rfl
  | storeChild child =>
    simp only [ShellThread.block]
    split
    · exact .kill child rfl rfl (by simp [goOn, ShellThread.child?])
    -- a child is stored only where there is none; else the new one is killed
    · next h => exact .store child rfl (by simpa using h) rfl
  | recordRunning child =>
    exact .nothing rfl rfl rfl rfl (by simp [ShellThread.block, ShellThread.child?])
      (by simp [ShellThread.block, ShellThread.exiting])
      (by simp [ShellThread.block, ShellThread.IsTaking])
  | recordFailed error => exact .quiet rfl rfl
  | drain child =>
    simp only [ShellThread.block]
    split
    · exact .nothing rfl rfl rfl rfl (by simp [goOn, ShellThread.child?])
        (by simp [goOn, ShellThread.exiting]) (by simp [goOn, ShellThread.IsTaking])
    · exact hsame ▸ .quiet rfl rfl
  -- only the thread of the stored child goes on to take it
  | exited child reason =>
    simp only [ShellThread.block]
    split
    · exact hsame ▸ .quiet rfl rfl
    · next h =>
      exact .nothing rfl rfl rfl rfl (by simp [goOn, ShellThread.child?])
        (by simp [goOn, ShellThread.exiting]) fun _ _ _ => ⟨child, reason, rfl, by simpa using h⟩
  | takeChild child decision =>
    cases decision with
    | restart delaySecs =>
      exact .take trivial rfl (by simp [ShellThread.block, ShellThread.child?])
    | giveUp => exact .take trivial rfl (by simp [ShellThread.block, goOn, ShellThread.child?])
    | stop => exact .take trivial rfl (by simp [ShellThread.block, goOn, ShellThread.child?])
  | sleep delaySecs => exact hsame ▸ .quiet rfl rfl
  | stop => exact .stop rfl rfl
  | recordStopped child =>
    exact .nothing rfl rfl rfl rfl (by simp [ShellThread.block, goOn, ShellThread.child?])
      (by simp [ShellThread.block, goOn, ShellThread.exiting])
      (by simp [ShellThread.block, goOn, ShellThread.IsTaking])
  | kill child =>
    cases child with
    | some child =>
      exact .kill child rfl rfl (by simp [ShellThread.block, goOn, ShellThread.child?])
    | none => exact hsame ▸ .quiet rfl rfl
  | returned => exact hsame ▸ .quiet rfl rfl

end Blocks

/-! ## What every step keeps -/

/-- The processes that the shell knows of have been spawned, every live one is in the slot or in the
hands of a thread, only the exits of processes that are not alive are handled, and while one is
between its blocks the slot has no live process. -/
structure ShellInv (s : Shell) : Prop where
  alive_lt : ∀ p ∈ s.shared.alive, p.process < s.shared.spawned
  child_lt : ∀ p, s.shared.child = some p → p.process < s.shared.spawned
  threads_lt : ∀ t ∈ s.threads, ∀ p, t.child? = some p → p.process < s.shared.spawned
  accounted : s.Accounted (fun σ p => p ∈ σ.alive) (fun σ p => σ.child = some p)
    fun t p => t.holds = some p
  exited : ∀ t ∈ s.threads, ∀ p, t.exiting = some p → p ∉ s.shared.alive
  apart : ∀ t ∈ s.threads, t.IsTaking → ∀ q ∈ s.shared.alive, s.shared.child ≠ some q

lemma ShellInv.supervised {s : Shell} (h : ShellInv s) : Supervised s := by
  have hslot : ∀ p ∈ s.shared.alive, ¬ s.InHand p → s.shared.child = some p := by
    intro p hp hhand
    rcases h.accounted p hp with hslot | ⟨t, ht, hheld⟩
    · exact hslot
    · exact absurd ⟨t, ht, hheld⟩ hhand
  refine ⟨fun p hp q hq hp' hq' => ?_, hslot, fun p decision ht q hq hslot' => ?_⟩
  · exact Option.some.inj ((hslot p hp hp').symm.trans (hslot q hq hq'))
  · exact absurd hslot' (h.apart _ ht trivial q hq)

section Steps

variable {s : Shell} {w : ShellWorld} {i : ℕ} {t : ShellThread} {b : Block Sidecars ShellThread}

/-- A block after which the threads have children that they had, and none more has exited. -/
lemma ShellInv.after_nothing (h : ShellInv s) (hi : s.threads[i]? = some t)
    (hchild : b.shared.child = s.shared.child) (halive : b.shared.alive = s.shared.alive)
    (hspawned : b.shared.spawned = s.shared.spawned) (hholds : b.next.holds = t.holds)
    (hchildren : ∀ u ∈ b.next :: b.started, ∀ p, u.child? = some p → t.child? = some p)
    (hexiting : ∀ u ∈ b.next :: b.started, ∀ p, u.exiting = some p → p ∉ s.shared.alive)
    (htaking : ∀ u ∈ b.next :: b.started, u.IsTaking →
      ∀ q ∈ s.shared.alive, s.shared.child ≠ some q) : ShellInv (s.after i b) := by
  have hmem : t ∈ s.threads := List.mem_of_getElem? hi
  refine ⟨?_, ?_, ?_, ?_, ?_, ?_⟩
  · simp only [Threads.after, halive, hspawned]
    exact h.alive_lt
  · simp only [Threads.after, hchild, hspawned]
    exact h.child_lt
  · simp only [Threads.shared_after, hspawned]
    exact Threads.forall_after h.threads_lt fun u hu p hp =>
      h.threads_lt t hmem p (hchildren u hu p hp)
  · refine h.accounted.after hi fun p hp hcase => ?_
    rw [hchild, hholds]
    rcases hcase with hkept | hheld | hnew
    · exact .inl hkept
    · exact .inr hheld
    · exact absurd (halive ▸ hp) hnew
  · simp only [Threads.shared_after, halive]
    exact Threads.forall_after h.exited hexiting
  · simp only [Threads.shared_after, halive, hchild]
    exact Threads.forall_after h.apart htaking

lemma ShellInv.after_spawn (h : ShellInv s) (hi : s.threads[i]? = some .spawn) (pid : ℕ) :
    ShellInv (s.after i (goOn (s.shared.spawn pid) (.storeChild ⟨s.shared.spawned, pid⟩))) := by
  have hnew : ∀ p, p ∈ (s.shared.spawn pid).alive → p ∈ s.shared.alive ∨
      p = ⟨s.shared.spawned, pid⟩ := fun p hp =>
    (List.mem_append.mp hp).imp_right List.mem_singleton.mp
  have hlt : ∀ p : CommandChild, p.process < s.shared.spawned →
      p.process < (s.shared.spawn pid).spawned := fun p hp => Nat.lt_succ_of_lt hp
  refine ⟨fun p hp => ?_, fun p hp => hlt p (h.child_lt p hp), ?_, ?_, ?_, ?_⟩
  · rcases hnew p hp with hp | rfl
    · exact hlt p (h.alive_lt p hp)
    · exact Nat.lt_succ_self _
  · refine Threads.forall_after (fun u hu p hp => hlt p (h.threads_lt u hu p hp)) ?_
    intro u hu p hp
    obtain rfl := List.mem_singleton.mp hu
    obtain rfl := Option.some.inj hp
    exact Nat.lt_succ_self _
  · refine h.accounted.after hi fun p hp hcase => ?_
    rcases hnew p hp with hold | rfl
    · rcases hcase with hkept | hheld | hdead
      · exact .inl hkept
      · cases hheld
      · exact absurd hold hdead
    · exact .inr rfl
  · refine Threads.forall_after (fun u hu p hp halive => ?_) fun u hu p hp => ?_
    · rcases hnew p halive with hold | rfl
      · exact h.exited u hu p hp hold
      · -- a process that has exited is an older one
        exact absurd (h.threads_lt u hu _ (ShellThread.child?_of_exiting hp)) (Nat.lt_irrefl _)
    · obtain rfl := List.mem_singleton.mp hu
      cases hp
  · refine Threads.forall_after (fun u hu htaking q hq hslot => ?_) fun u hu htaking => ?_
    · rcases hnew q hq with hold | rfl
      · exact h.apart u hu htaking q hold hslot
      · exact absurd (h.child_lt _ hslot) (Nat.lt_irrefl _)
    · obtain rfl := List.mem_singleton.mp hu
      exact htaking.elim

lemma ShellInv.after_store (h : ShellInv s) {child : CommandChild}
    (hi : s.threads[i]? = some (.storeChild child)) (hempty : s.shared.child = none)
    (hnone : child ∈ s.shared.alive → ∀ u ∈ s.threads, ¬ u.IsTaking) :
    ShellInv (s.after i (goOn (s.shared.setChild (some child)) (.recordRunning child))) := by
  have hlt := h.threads_lt _ (List.mem_of_getElem? hi) child rfl
  refine ⟨h.alive_lt, fun p hp => ?_, ?_, ?_, ?_, ?_⟩
  · obtain rfl := Option.some.inj hp
    exact hlt
  · refine Threads.forall_after h.threads_lt fun u hu p hp => ?_
    obtain rfl := List.mem_singleton.mp hu
    obtain rfl := Option.some.inj hp
    exact hlt
  · refine h.accounted.after hi fun p hp hcase => .inl ?_
    rcases hcase with hkept | hheld | hdead
    · rw [hempty] at hkept
      cases hkept
    · exact hheld
    · exact absurd hp hdead
  · refine Threads.forall_after h.exited fun u hu p hp => ?_
    obtain rfl := List.mem_singleton.mp hu
    cases hp
  · refine Threads.forall_after (fun u hu htaking q hq hslot => ?_) fun u hu htaking => ?_
    · obtain rfl := Option.some.inj hslot
      exact hnone hq u hu htaking
    · obtain rfl := List.mem_singleton.mp hu
      exact htaking.elim

lemma ShellInv.after_kill (h : ShellInv s) {child : CommandChild} (hi : s.threads[i]? = some t)
    (ht : t.holds = some child) (hshared : b.shared = s.shared.kill child)
    (hthreads : ∀ u ∈ b.next :: b.started, u.child? = none) : ShellInv (s.after i b) := by
  obtain ⟨next, started, shared⟩ := b
  subst hshared
  have hsub : ∀ p, p ∈ (s.shared.kill child).alive → p ∈ s.shared.alive := fun p hp =>
    List.mem_of_mem_filter hp
  refine ⟨fun p hp => h.alive_lt p (hsub p hp), h.child_lt, ?_, ?_, ?_, ?_⟩
  · exact Threads.forall_after h.threads_lt fun u hu p hp => by
      rw [hthreads u hu] at hp
      cases hp
  · refine h.accounted.after hi fun p hp hcase => .inl ?_
    rcases hcase with hkept | hheld | hdead
    · exact hkept
    · -- the process that the thread held is not alive now
      obtain rfl := Option.some.inj (ht.symm.trans hheld)
      exact absurd (List.mem_filter.mp hp).2 (by simp)
    · exact absurd (hsub p hp) hdead
  · refine Threads.forall_after (fun u hu p hp halive => h.exited u hu p hp (hsub p halive)) ?_
    intro u hu p hp
    have hnone := hthreads u hu
    rw [ShellThread.child?_of_exiting hp] at hnone
    cases hnone
  · refine Threads.forall_after (fun u hu htaking q hq => h.apart u hu htaking q (hsub q hq)) ?_
    exact fun u hu htaking => absurd htaking (ShellThread.not_isTaking (hthreads u hu))

lemma ShellInv.after_take (h : ShellInv s) (hi : s.threads[i]? = some t) (ht : t.IsTaking)
    (hshared : b.shared = s.shared.setChild none)
    (hthreads : ∀ u ∈ b.next :: b.started, u.child? = none) : ShellInv (s.after i b) := by
  obtain ⟨next, started, shared⟩ := b
  subst hshared
  refine ⟨h.alive_lt, fun p hp => (by cases hp), ?_, ?_, ?_, ?_⟩
  · exact Threads.forall_after h.threads_lt fun u hu p hp => by
      rw [hthreads u hu] at hp
      cases hp
  · refine h.accounted.after hi fun p hp hcase => ?_
    rcases hcase with hkept | hheld | hdead
    · exact absurd hkept (h.apart t (List.mem_of_getElem? hi) ht p hp)
    · cases t with
      | takeChild child decision => cases hheld
      | _ => exact ht.elim
    · exact absurd hp hdead
  · refine Threads.forall_after h.exited fun u hu p hp => ?_
    have hnone := hthreads u hu
    rw [ShellThread.child?_of_exiting hp] at hnone
    cases hnone
  · exact fun u hu htaking q hq hslot => by cases hslot

lemma ShellInv.after_stop (h : ShellInv s) (hi : s.threads[i]? = some .stop) :
    ShellInv (s.after i (goOn (s.shared.setChild none) (.recordStopped s.shared.child))) := by
  refine ⟨h.alive_lt, fun p hp => (by cases hp), ?_, ?_, ?_, ?_⟩
  · refine Threads.forall_after h.threads_lt fun u hu p hp => ?_
    obtain rfl := List.mem_singleton.mp hu
    exact h.child_lt p hp
  · refine h.accounted.after hi fun p hp hcase => .inr ?_
    rcases hcase with hkept | hheld | hdead
    · exact hkept
    · cases hheld
    · exact absurd hp hdead
  · refine Threads.forall_after h.exited fun u hu p hp => ?_
    obtain rfl := List.mem_singleton.mp hu
    cases hp
  · exact fun u hu htaking q hq hslot => by cases hslot

/-- **A block.**  In an order that keeps the exits apart, every block keeps the invariant. -/
lemma ShellInv.after (h : ShellInv s) (hi : s.threads[i]? = some t) (hready : t.Ready w s.shared)
    (hapart : ExitsApart s (.advance i w)) : ShellInv (s.after i (t.block w s.shared)) := by
  have hmem : t ∈ s.threads := List.mem_of_getElem? hi
  have hapart := hapart t hi
  rcases block_does (w := w) (s := s.shared) (t := t) with
    ⟨hchild, halive, hspawned, hholds, hchildren, hexiting, htaking⟩ | ⟨pid, rfl, hb⟩ |
    ⟨child, rfl, hempty, hb⟩ | ⟨child, ht, hshared, hthreads⟩ | ⟨ht, hshared, hthreads⟩ | ⟨rfl, hb⟩
  · refine h.after_nothing hi hchild halive hspawned hholds hchildren (fun u hu p hp => ?_)
      fun u hu hu' q hq hslot => ?_
    · rcases hexiting u hu p hp with hp | rfl
      · exact h.exited t hmem p hp
      · exact hready
    · obtain ⟨p, reason, rfl, hpid⟩ := htaking u hu hu'
      obtain rfl := hapart hpid q hq hslot
      exact h.exited _ hmem q rfl hq
  · exact hb ▸ h.after_spawn hi pid
  · exact hb ▸ h.after_store hi hempty fun halive => hapart halive hempty
  · exact h.after_kill hi ht hshared hthreads
  · exact h.after_take hi ht hshared hthreads
  · exact hb ▸ h.after_stop hi

/-- Fewer processes are alive. -/
lemma ShellInv.terminate (h : ShellInv s) (child : CommandChild) :
    ShellInv ⟨s.shared.kill child, s.threads⟩ := by
  have hsub : ∀ p, p ∈ (s.shared.kill child).alive → p ∈ s.shared.alive := fun p hp =>
    List.mem_of_mem_filter hp
  exact ⟨fun p hp => h.alive_lt p (hsub p hp), h.child_lt, h.threads_lt,
    fun p hp => h.accounted p (hsub p hp), fun t ht p hp hlive => h.exited t ht p hp (hsub p hlive),
    fun t ht htaking q hq => h.apart t ht htaking q (hsub q hq)⟩

/-- One more thread, without a child. -/
lemma ShellInv.newThread (h : ShellInv s) (ht : t.child? = none) :
    ShellInv ⟨s.shared, s.threads ++ [t]⟩ := by
  have hmem : ∀ u ∈ s.threads ++ [t], u ∈ s.threads ∨ u = t := fun u hu =>
    (List.mem_append.mp hu).imp_right List.mem_singleton.mp
  refine ⟨h.alive_lt, h.child_lt, fun u hu p hp => ?_, fun p hp => ?_, fun u hu p hp => ?_,
    fun u hu htaking => ?_⟩
  · rcases hmem u hu with hu | rfl
    · exact h.threads_lt u hu p hp
    · exact absurd (ht.symm.trans hp) (by simp)
  · refine (h.accounted p hp).imp_right fun ⟨u, hu, hheld⟩ => ⟨u, List.mem_append_left _ hu, hheld⟩
  · rcases hmem u hu with hu | rfl
    · exact h.exited u hu p hp
    · exact absurd (ht.symm.trans (ShellThread.child?_of_exiting hp)) (by simp)
  · rcases hmem u hu with hu | rfl
    · exact h.apart u hu htaking
    · exact absurd htaking (ShellThread.not_isTaking ht)

/-- The snapshot has no part in the invariant. -/
lemma ShellInv.setSnapshot (h : ShellInv s) (snapshot : SidecarSnapshot) :
    ShellInv ⟨s.shared.setSnapshot snapshot, s.threads⟩ :=
  ⟨h.alive_lt, h.child_lt, h.threads_lt, h.accounted, h.exited, h.apart⟩

/-- **A step.**  Whatever happens next, if it keeps the exits apart, it keeps the invariant. -/
lemma ShellInv.step (h : ShellInv s) {l : ShellLabel} (hen : s.Enabled l)
    (hapart : ExitsApart s l) : ShellInv (s.step l) := by
  cases l with
  | restartLocalNode => exact h.newThread rfl
  | terminate child => exact h.terminate child
  | stdout i line =>
    simp only [Shell.step]
    split
    · exact h.setSnapshot _
    · exact h
  | advance i w =>
    obtain ⟨t, hi, hready⟩ := hen
    simp only [Shell.step, Option.mem_def.mp hi]
    exact h.after hi hready hapart

/-- A step that does not keep the exits apart leaves an exit that is about to remove the handle of
another live process. -/
lemma ShellInv.not_supervised_step (h : ShellInv s) {l : ShellLabel} (hapart : ¬ ExitsApart s l) :
    ¬ Supervised (s.step l) := by
  intro hs
  cases l with
  | restartLocalNode => exact hapart trivial
  | terminate child => exact hapart trivial
  | stdout i line => exact hapart trivial
  | advance i w =>
    refine hapart fun t hi => ?_
    rw [Option.mem_def] at hi
    simp only [Shell.step, hi] at hs
    cases t with
    | storeChild child =>
      intro halive hempty u hu htaking
      cases u with
      | takeChild p decision =>
        have hdue : .takeChild p decision ∈ (s.after i ((ShellThread.storeChild child).block w
            s.shared)).threads := Threads.mem_after_of_ne hi hu (by simp)
        simp only [ShellThread.block, hempty] at hs hdue
        obtain rfl := hs.exit_keeps p decision hdue child halive rfl
        exact h.exited _ hu child rfl halive
      | _ => exact htaking.elim
    | exited child reason =>
      intro hpid q hq hslot
      have hblock : (ShellThread.exited child reason).block w s.shared =
          goOn (s.shared.setSnapshot (s.shared.snapshot.exited reason w.nowMs).1)
            (.takeChild child (s.shared.snapshot.exited reason w.nowMs).2) := by
        simp [ShellThread.block, hpid]
      rw [hblock] at hs
      exact hs.exit_keeps child _ (Threads.next_mem_after hi) q hq hslot
    | _ => trivial

end Steps

/-! ## Every run -/

lemma shellInv_setup : ShellInv .setup := by
  refine ⟨?_, ?_, ?_, ?_, ?_, ?_⟩
  · simp [Shell.setup]
  · simp [Shell.setup]
  · simp [Shell.setup, ShellThread.child?]
  · simp [Threads.Accounted, Shell.setup]
  · simp [Shell.setup, ShellThread.exiting]
  · simp [Shell.setup]

/-- **One sidecar.**  The states of a run are all as wanted exactly if its steps keep the exits
apart. -/
theorem sidecar_supervised {start s : Shell} {tr : List (ShellLabel × Unit)}
    (hstart : shell.init start) (hrun : shell.Run start tr s) :
    (∀ before after m, tr = before ++ after → shell.Run start before m → Supervised m) ↔
      (shell.restrict ExitsApart).Run start tr s := by
  have hinv : ShellInv start := hstart ▸ shellInv_setup
  have hstep : ∀ m l, ShellInv m → shell.enabled m l → ExitsApart m l →
      ShellInv (shell.step m l).2 := fun m l hm hen hapart => hm.step hen hapart
  have hexact : ∀ m l, ShellInv m → shell.enabled m l → ¬ ExitsApart m l →
      ¬ Supervised (shell.step m l).2 := fun m l hm _ hapart => hm.not_supervised_step hapart
  exact hrun.forall_good_iff (fun m hm => hm.supervised) hstep hexact hinv

/-! ### A sidecar exits, and the user restarts it -/

/-- No node is running, and a process that is spawned gets the given number. -/
def freshWorld (pid : ℕ) : ShellWorld where
  probeExistingLocalNode := .missing
  spawn := .ok pid
  nowMs := 0
  pendingExit := some "terminated"

/-- The `i`-th thread starts a sidecar. -/
def startSteps (i pid : ℕ) : List ShellLabel := List.replicate 5 (.advance i (freshWorld pid))

/-- The first sidecar has been started, it exits, and its exit is found in the snapshot. -/
def exitSteps : List ShellLabel :=
  startSteps 0 100 ++ [.terminate ⟨0, 100⟩, .advance 1 (freshWorld 0), .advance 1 (freshWorld 0)]

/-- The user restarts the sidecar, in the `i`-th thread. -/
def restartSteps (i pid : ℕ) : List ShellLabel :=
  .restartLocalNode :: List.replicate 3 (.advance i (freshWorld pid)) ++ startSteps i pid

/-- The exit is handled first, and the user restarts the sidecar then. -/
theorem sidecar_supervised_after_exit :
    Supervised (shell.exec .setup (exitSteps ++ .advance 1 (freshWorld 0) ::
      restartSteps 3 101)).2 := by
  have hrun : (shell.restrict ExitsApart).Run .setup _ _ := Machine.run_exec
    (by decide +kernel : (shell.restrict ExitsApart).Allows .setup
      (exitSteps ++ .advance 1 (freshWorld 0) :: restartSteps 3 101))
  rw [Machine.exec_restrict] at hrun
  exact (sidecar_supervised rfl hrun.of_restrict).mpr hrun _ [] _ (List.append_nil _).symm
    hrun.of_restrict

/-- The user restarts the sidecar while the exit is between its blocks: the handle of the new
sidecar is removed, and in the end two of them are alive. -/
theorem sidecar_orphaned : ¬ ∀ s, shell.Reachable s → Supervised s := by
  intro h
  have hrun : shell.Run .setup _ _ := Machine.run_exec (by decide +kernel : shell.Allows .setup
    (exitSteps ++ restartSteps 2 101 ++ .advance 1 (freshWorld 0) ::
      .advance 4 (freshWorld 0) :: startSteps 4 102))
  have hs := h _ ⟨_, _, rfl, hrun⟩
  have hone := hs.one_alive ⟨1, 101⟩ (by decide +kernel) ⟨2, 102⟩ (by decide +kernel)
    (by decide +kernel) (by decide +kernel)
  exact absurd hone (by decide)

end OzonSuite
