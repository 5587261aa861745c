/-
# Whose addresses the user is shown

The sidecar reports on its standard output the ports that it has bound, and the shell notes them in
the snapshot; an adopted node leaves its addresses there as well.  Nothing takes them out again, so
what the snapshot has beside a process need not come from that process.
-/
import OzonSuite.Lib.Machine
import OzonSuite.Shell.Supervision

namespace OzonSuite

open Lib

/-! ## What has been recorded and reported -/

/-- The history of the shell. -/
structure SidecarHistory where
  /-- The process whose number the snapshot has. -/
  recorded : Option CommandChild
  /-- The addresses that the processes have reported. -/
  reports : List (CommandChild × String × String)
deriving DecidableEq

namespace SidecarHistory

/-- No process has said anything. -/
def empty : SidecarHistory := ⟨none, []⟩

/-- A line of the process, if it reports ports. -/
def hear (h : SidecarHistory) (child : CommandChild) (line : String) : SidecarHistory :=
  { h with reports := h.reports ++ ((parseReportedPorts line).map (child, ·)).toList }

/-- A thread has run a block, and has left this snapshot. -/
def advance (h : SidecarHistory) (t : ShellThread) (snapshot : SidecarSnapshot) : SidecarHistory :=
  match t with
  | .recordRunning child => { h with recorded := some child }
  | _ => { h with recorded := h.recorded.filter fun _ => snapshot.pid.isSome }

/-- What a step adds to the history. -/
def note (h : SidecarHistory) (s : Shell) : ShellLabel → SidecarHistory
  | .stdout i line =>
    match s.threads[i]? with
    | some (.drain child) => h.hear child line
    | _ => h
  | .advance i w =>
    match s.threads[i]? with
    | some t => h.advance t (t.block w s.shared).shared.snapshot
    | none => h
  | .restartLocalNode | .terminate _ => h

end SidecarHistory

/-- The shell with its history. -/
abbrev recordedShell : Machine (Shell × SidecarHistory) ShellLabel Unit :=
  shell.withHistory SidecarHistory.note .empty

/-! ## What is wanted -/

/-- The addresses in the snapshot are missing, or the process has reported them. -/
def AddressesOf (n : SidecarSnapshot) (h : SidecarHistory) (child : CommandChild) : Prop :=
  (n.effectiveSkillApi = none ∧ n.effectiveAgentApi = none) ∨
    ∃ report ∈ h.reports, report.1 = child ∧ n.effectiveSkillApi = some report.2.1 ∧
      n.effectiveAgentApi = some report.2.2

/-- Beside a process that is said to be running, the snapshot has its own addresses or none. -/
def EndpointsFresh (s : Shell × SidecarHistory) : Prop :=
  ∀ pid, s.1.shared.snapshot.pid = some pid → s.1.shared.snapshot.status = "running" →
    ∃ child, s.2.recorded = some child ∧ child.pid = pid ∧
      AddressesOf s.1.shared.snapshot s.2 child

/-- About to write its process into the snapshot. -/
def ShellThread.IsRecording : ShellThread → Prop
  | .recordRunning _ => True
  | _ => False

instance : DecidablePred ShellThread.IsRecording
  | .recordRunning _ => inferInstanceAs (Decidable True)
  | .start | .probe | .spawn | .storeChild _ | .recordFailed _ | .drain _ | .exited _ _
  | .takeChild _ _ | .sleep _ | .stop | .recordStopped _ | .kill _ | .returned =>
    inferInstanceAs (Decidable False)

/-- A process is recorded when the snapshot has no addresses; and while one is said to be running,
the ports that are heard are its own, or the same as it has reported. -/
def ReportsTimely (s : Shell × SidecarHistory) : ShellLabel → Prop
  | .advance i _ => ∀ t ∈ s.1.threads[i]?, t.IsRecording →
      s.1.shared.snapshot.effectiveSkillApi = none ∧ s.1.shared.snapshot.effectiveAgentApi = none
  | .stdout i line => s.1.shared.snapshot.status = "running" →
      ∀ t ∈ s.1.threads[i]?, ∀ ports ∈ parseReportedPorts line, ∀ child ∈ s.2.recorded,
        t = .drain child ∨ (child, ports) ∈ s.2.reports
  | .restartLocalNode | .terminate _ => True

instance (s : Shell × SidecarHistory) : (l : ShellLabel) → Decidable (ReportsTimely s l)
  | .advance i _ => inferInstanceAs (Decidable (∀ t ∈ s.1.threads[i]?, t.IsRecording →
      s.1.shared.snapshot.effectiveSkillApi = none ∧ s.1.shared.snapshot.effectiveAgentApi = none))
  | .stdout i line => inferInstanceAs (Decidable (s.1.shared.snapshot.status = "running" →
      ∀ t ∈ s.1.threads[i]?, ∀ ports ∈ parseReportedPorts line, ∀ child ∈ s.2.recorded,
        t = .drain child ∨ (child, ports) ∈ s.2.reports))
  | .restartLocalNode | .terminate _ => inferInstanceAs (Decidable True)

/-! ## The blocks -/

namespace ShellThread

/-- The process that the thread is about to record. -/
def launches : ShellThread → Option CommandChild
  | .storeChild child => some child
  | .recordRunning child => some child
  | _ => none

end ShellThread

/-- The snapshot has lost its process, or has it still and says nothing new of it. -/
def KeepsRecord (n n' : SidecarSnapshot) : Prop :=
  n'.pid = none ∨ (n'.pid = n.pid ∧ (n'.status = n.status ∨ n'.status ≠ "running") ∧
    n'.effectiveSkillApi = n.effectiveSkillApi ∧ n'.effectiveAgentApi = n.effectiveAgentApi)

/-- What a block can do to the snapshot. -/
inductive Records (s : Sidecars) (t : ShellThread) (b : Block Sidecars ShellThread) : Prop
  | keeps (hspawned : s.spawned = b.shared.spawned)
      (hrecord : KeepsRecord s.snapshot b.shared.snapshot)
      (hlaunches : ((b.next :: b.started).filterMap ShellThread.launches).Sublist
        t.launches.toList)
      (hdrains : ∀ child, .drain child ∉ b.next :: b.started)
      (ht : ∀ child, t ≠ .recordRunning child)
  | spawn (pid : ℕ) (ht : t = .spawn)
      (hb : b = goOn (s.spawn pid) (.storeChild ⟨s.spawned, pid⟩))
  | record (child : CommandChild) (nowMs : ℕ) (ht : t = .recordRunning child)
      (hb : b = ⟨.returned, [.drain child], s.setSnapshot (s.snapshot.running child.pid nowMs)⟩)

section Blocks

variable {w : ShellWorld} {s : Sidecars} {t : ShellThread}

lemma KeepsRecord.refl (n : SidecarSnapshot) : KeepsRecord n n :=
  .inr ⟨rfl, .inl rfl, rfl, rfl⟩

lemma SidecarSnapshot.pid_exited (n : SidecarSnapshot) (reason : String) (nowMs : ℕ) :
    (n.exited reason nowMs).1.pid = none := by
  simp only [exited]
  split_ifs <;> rfl

/-- A block that goes on without a process to launch. -/
lemma Records.goOn {s' : Sidecars} {next : ShellThread} (hspawned : s.spawned = s'.spawned)
    (hrecord : KeepsRecord s.snapshot s'.snapshot) (hlaunches : next.launches = none)
    (hdrains : ∀ child, next ≠ .drain child) (ht : ∀ child, t ≠ .recordRunning child) :
    Records s t (goOn s' next) := by
  refine .keeps hspawned hrecord ?_ ?_ ht
  · simp [OzonSuite.goOn, hlaunches]
  · intro child hmem
    exact hdrains child (List.mem_singleton.mp hmem).symm

/-- Every block does one of these. -/
lemma block_records : Records s t (t.block w s) := by
  cases t with
  | start =>
    simp only [ShellThread.block]
    split
    · exact .goOn rfl (.refl _) rfl (by simp) (by simp)
    · exact .goOn rfl (.refl _) rfl (by simp) (by simp)
  | probe =>
    simp only [ShellThread.block]
    split
    · exact .goOn rfl (.refl _) rfl (by simp) (by simp)
    · split
      · exact .goOn rfl (.inl rfl) rfl (by simp) (by simp)
      -- the status is no longer that of a running process, so nothing is owed for the addresses
      · have hstarting : KeepsRecord s.snapshot s.snapshot.starting :=
          .inr ⟨rfl, .inr (by simp [SidecarSnapshot.starting]), rfl, rfl⟩
        exact .goOn rfl hstarting rfl (by simp) (by simp)
  | spawn =>
    simp only [ShellThread.block]
    split
    · exact .spawn _ rfl rfl
    · exact .goOn rfl (.refl _) rfl (by simp) (by simp)
  | storeChild child =>
    simp only [ShellThread.block]
    split
    · exact .goOn rfl (.refl _) rfl (by simp) (by simp)
    · refine .keeps rfl (.refl _) ?_ ?_ (by simp)
      · simp [OzonSuite.goOn, ShellThread.launches]
      · simp [OzonSuite.goOn]
  -- the one block that writes the addresses
  | recordRunning child => exact .record child w.nowMs rfl rfl
  | recordFailed error => exact .goOn rfl (.inl rfl) rfl (by simp) (by simp)
  | drain child =>
    simp only [ShellThread.block]
    split
    · exact .goOn rfl (.refl _) rfl (by simp) (by simp)
    · exact .goOn rfl (.refl _) rfl (by simp) (by simp)
  | exited child reason =>
    simp only [ShellThread.block]
    split
    · exact .goOn rfl (.refl _) rfl (by simp) (by simp)
    · exact .goOn rfl (.inl (SidecarSnapshot.pid_exited _ _ _)) rfl (by simp) (by simp)
  | takeChild child decision =>
    cases decision with
    | restart delaySecs =>
      exact .keeps rfl (.refl _) (by simp [ShellThread.block, ShellThread.launches])
        (by simp [ShellThread.block]) (by simp)
    | giveUp => exact .goOn rfl (.refl _) rfl (by simp) (by simp)
    | stop => exact .goOn rfl (.refl _) rfl (by simp) (by simp)
  | sleep delaySecs => exact .goOn rfl (.refl _) rfl (by simp) (by simp)
  | stop => exact .goOn rfl (.refl _) rfl (by simp) (by simp)
  | recordStopped child => exact .goOn rfl (.inl rfl) rfl (by simp) (by simp)
  | kill child =>
    cases child with
    | some child => exact .goOn rfl (.refl _) rfl (by simp) (by simp)
    | none => exact .goOn rfl (.refl _) rfl (by simp) (by simp)
  | returned => exact .goOn rfl (.refl _) rfl (by simp) (by simp)

end Blocks

/-! ## What every step keeps -/

/-- A process has been given a drain, or has been heard. -/
def Introduced (s : Shell × SidecarHistory) (child : CommandChild) : Prop :=
  .drain child ∈ s.1.threads ∨ ∃ report ∈ s.2.reports, report.1 = child

/-- The processes that are launched or introduced have been spawned; one that is launched is so by
one thread, and has not been introduced; and the history has the process of the snapshot. -/
structure RecordInv (s : Shell × SidecarHistory) : Prop where
  launched_lt : ∀ t ∈ s.1.threads, ∀ child, t.launches = some child →
    child.process < s.1.shared.spawned
  introduced_lt : ∀ child, Introduced s child → child.process < s.1.shared.spawned
  exclusive : s.1.Exclusive ShellThread.launches
  unheard : ∀ t ∈ s.1.threads, ∀ child, t.launches = some child → ¬ Introduced s child
  recorded : s.2.recorded.map (·.pid) = s.1.shared.snapshot.pid

section Steps

variable {s : Shell} {h : SidecarHistory} {w : ShellWorld} {i : ℕ} {t : ShellThread}
  {b : Block Sidecars ShellThread}

lemma RecordInv.after_keeps (hinv : RecordInv (s, h)) (hi : s.threads[i]? = some t)
    (hspawned : s.shared.spawned = b.shared.spawned)
    (hrecord : KeepsRecord s.shared.snapshot b.shared.snapshot)
    (hlaunches : ((b.next :: b.started).filterMap ShellThread.launches).Sublist t.launches.toList)
    (hdrains : ∀ child, .drain child ∉ b.next :: b.started)
    (ht : ∀ child, t ≠ .recordRunning child) :
    RecordInv (s.after i b, h.advance t b.shared.snapshot) := by
  have hadvance : h.advance t b.shared.snapshot =
      { h with recorded := h.recorded.filter fun _ => b.shared.snapshot.pid.isSome } := by
    cases t with
    | recordRunning child => exact absurd rfl (ht child)
    | _ => rfl
  -- a thread that launches a process goes back to one that did so before
  have hold : ∀ u ∈ (s.after i b).threads, ∀ child, u.launches = some child →
      ∃ u' ∈ s.threads, u'.launches = some child := by
    intro u hu child hlaunch
    rcases Threads.mem_after hu with hu | hu
    · exact ⟨u, hu, hlaunch⟩
    · have hmem := hlaunches.subset (List.mem_filterMap.mpr ⟨u, hu, hlaunch⟩)
      exact ⟨t, List.mem_of_getElem? hi, by simpa using hmem⟩
  -- the block starts no drain and hears nothing
  have hintroduced : ∀ child, Introduced (s.after i b, h.advance t b.shared.snapshot) child →
      Introduced (s, h) child := by
    rintro child (hdrain | hreport)
    · exact .inl ((Threads.mem_after hdrain).resolve_right (hdrains child))
    · rw [hadvance] at hreport
      exact .inr hreport
  refine ⟨fun u hu child hlaunch => ?_, fun child hin => ?_, hinv.exclusive.after hi hlaunches,
    fun u hu child hlaunch hin => ?_, ?_⟩
  · obtain ⟨u', hu', hlaunch'⟩ := hold u hu child hlaunch
    exact hspawned ▸ hinv.launched_lt u' hu' child hlaunch'
  · exact hspawned ▸ hinv.introduced_lt child (hintroduced child hin)
  · obtain ⟨u', hu', hlaunch'⟩ := hold u hu child hlaunch
    exact hinv.unheard u' hu' child hlaunch' (hintroduced child hin)
  · have hrecorded : h.recorded.map (·.pid) = s.shared.snapshot.pid := hinv.recorded
    rw [hadvance]
    rcases hrecord with hnone | ⟨hpid, -⟩
    · simp [hnone]
    · simp only [Threads.shared_after, hpid, ← hrecorded, Option.isSome_map]
      cases h.recorded <;> rfl

lemma RecordInv.after_spawn (hinv : RecordInv (s, h)) (hi : s.threads[i]? = some .spawn)
    (pid : ℕ) (snapshot : SidecarSnapshot) (hsnapshot : snapshot = s.shared.snapshot) :
    RecordInv (s.after i (goOn (s.shared.spawn pid) (.storeChild ⟨s.shared.spawned, pid⟩)),
      h.advance .spawn snapshot) := by
  subst hsnapshot
  have hrecorded : h.recorded.map (·.pid) = s.shared.snapshot.pid := hinv.recorded
  have hadvance : h.advance .spawn s.shared.snapshot = h := by
    have hfilter : h.recorded.filter (fun _ => s.shared.snapshot.pid.isSome) = h.recorded := by
      rw [← hrecorded, Option.isSome_map]
      cases h.recorded <;> rfl
    simp only [SidecarHistory.advance, hfilter]
  rw [hadvance]
  have hold : ∀ child, Introduced (s.after i (goOn (s.shared.spawn pid)
      (.storeChild ⟨s.shared.spawned, pid⟩)), h) child → Introduced (s, h) child := by
    rintro child (hdrain | hreport)
    · refine .inl ((Threads.mem_after hdrain).resolve_right fun hmem => ?_)
      cases List.mem_singleton.mp hmem
    · exact .inr hreport
  have hlt : ∀ child : CommandChild, child.process < s.shared.spawned →
      child.process < (s.shared.spawn pid).spawned := fun child hchild => Nat.lt_succ_of_lt hchild
  refine ⟨?_, fun child hin => hlt child (hinv.introduced_lt child (hold child hin)), ?_, ?_,
    hrecorded⟩
  · refine Threads.forall_after (fun u hu child hlaunch =>
      hlt child (hinv.launched_lt u hu child hlaunch)) fun u hu child hlaunch => ?_
    obtain rfl := List.mem_singleton.mp hu
    obtain rfl := Option.some.inj hlaunch
    exact Nat.lt_succ_self _
  · refine hinv.exclusive.after_new hi (r := ⟨s.shared.spawned, pid⟩) rfl fun u hu hlaunch => ?_
    exact absurd (hinv.launched_lt u hu _ hlaunch) (Nat.lt_irrefl _)
  · refine Threads.forall_after (fun u hu child hlaunch hin =>
      hinv.unheard u hu child hlaunch (hold child hin)) fun u hu child hlaunch hin => ?_
    obtain rfl := List.mem_singleton.mp hu
    obtain rfl := Option.some.inj hlaunch
    -- an introduced process has been spawned before
    exact absurd (hinv.introduced_lt _ (hold _ hin)) (Nat.lt_irrefl _)

lemma RecordInv.after_record (hinv : RecordInv (s, h)) {child : CommandChild}
    (hi : s.threads[i]? = some (.recordRunning child)) (nowMs : ℕ) (snapshot : SidecarSnapshot) :
    RecordInv (s.after i ⟨.returned, [.drain child],
        s.shared.setSnapshot (s.shared.snapshot.running child.pid nowMs)⟩,
      h.advance (.recordRunning child) snapshot) := by
  have hmem : .recordRunning child ∈ s.threads := List.mem_of_getElem? hi
  have hlt : child.process < s.shared.spawned := hinv.launched_lt _ hmem child rfl
  have hintroduced : ∀ c, Introduced (s.after i ⟨.returned, [.drain child],
      s.shared.setSnapshot (s.shared.snapshot.running child.pid nowMs)⟩,
      h.advance (.recordRunning child) snapshot) c → Introduced (s, h) c ∨ c = child := by
    rintro c (hdrain | hreport)
    · rcases Threads.mem_after hdrain with hdrain | hdrain
      · exact .inl (.inl hdrain)
      · exact .inr (by simpa using hdrain)
    · exact .inl (.inr hreport)
  refine ⟨?_, fun c hin => ?_, hinv.exclusive.after hi (List.nil_sublist _), ?_, rfl⟩
  · refine Threads.forall_after hinv.launched_lt fun u hu c hlaunch => ?_
    rcases List.mem_pair.mp hu with rfl | rfl <;> cases hlaunch
  · rcases hintroduced c hin with hin | rfl
    · exact hinv.introduced_lt c hin
    · exact hlt
  · intro u hu c hlaunch hin
    rcases hintroduced c hin with hin | rfl
    · rcases Threads.mem_after hu with hu | hu
      · exact hinv.unheard u hu c hlaunch hin
      · rcases List.mem_pair.mp hu with rfl | rfl <;> cases hlaunch
    · -- the thread was the one that launched it
      have hu := hinv.exclusive.mem_after hi rfl hu hlaunch
      rcases List.mem_pair.mp hu with rfl | rfl <;> cases hlaunch

/-- A line changes the addresses alone, and who has been heard. -/
lemma RecordInv.hear (hinv : RecordInv (s, h)) {child : CommandChild} {line : String}
    (hi : s.threads[i]? = some (.drain child)) :
    RecordInv (s.step (.stdout i line), h.hear child line) := by
  have hintroduced : Introduced (s, h) child := .inl (List.mem_of_getElem? hi)
  have hthreads : (s.step (.stdout i line)).threads = s.threads ∧
      (s.step (.stdout i line)).shared.spawned = s.shared.spawned ∧
      (s.step (.stdout i line)).shared.snapshot.pid = s.shared.snapshot.pid := by
    simp only [Shell.step]
    split
    · exact ⟨rfl, rfl, rfl⟩
    · exact ⟨rfl, rfl, rfl⟩
  obtain ⟨hthreads, hspawned, hpid⟩ := hthreads
  have hold : ∀ c, Introduced (s.step (.stdout i line), h.hear child line) c →
      Introduced (s, h) c := by
    rintro c (hdrain | ⟨report, hreport, rfl⟩)
    · exact .inl (hthreads ▸ hdrain)
    · rcases List.mem_append.mp hreport with hreport | hreport
      · exact .inr ⟨report, hreport, rfl⟩
      · obtain ⟨ports, -, rfl⟩ := Option.map_eq_some_iff.mp (Option.mem_toList.mp hreport)
        exact hintroduced
  refine ⟨?_, fun c hin => ?_, ?_, ?_, ?_⟩
  · simp only [hthreads, hspawned]
    exact hinv.launched_lt
  · simp only [hspawned]
    exact hinv.introduced_lt c (hold c hin)
  · simp only [Threads.Exclusive, hthreads]
    exact hinv.exclusive
  · simp only [hthreads]
    exact fun u hu c hlaunch hin => hinv.unheard u hu c hlaunch (hold c hin)
  · simp only [hpid]
    exact hinv.recorded

/-- **A step.**  Whatever happens next, it keeps the invariant. -/
lemma RecordInv.step (hinv : RecordInv (s, h)) {l : ShellLabel} (hen : s.Enabled l) :
    RecordInv (s.step l, h.note s l) := by
  cases l with
  | restartLocalNode =>
    -- a new thread launches and drains nothing
    have hlaunches : (s.threads ++ [ShellThread.stop]).filterMap ShellThread.launches =
        s.threads.filterMap ShellThread.launches := by
      rw [List.filterMap_append]
      exact List.append_nil _
    have hmem : ∀ u ∈ s.threads ++ [ShellThread.stop], u ∈ s.threads ∨ u = .stop := fun u hu =>
      (List.mem_append.mp hu).imp_right List.mem_singleton.mp
    have hold : ∀ c, Introduced (s.step .restartLocalNode, h) c → Introduced (s, h) c := by
      rintro c (hdrain | hreport)
      · exact .inl ((hmem _ hdrain).resolve_right (by simp))
      · exact .inr hreport
    refine ⟨fun u hu c hlaunch => ?_, fun c hin => hinv.introduced_lt c (hold c hin), ?_,
      fun u hu c hlaunch hin => ?_, hinv.recorded⟩
    · rcases hmem u hu with hu | rfl
      · exact hinv.launched_lt u hu c hlaunch
      · cases hlaunch
    · rw [Threads.Exclusive, Shell.step, hlaunches]
      exact hinv.exclusive
    · rcases hmem u hu with hu | rfl
      · exact hinv.unheard u hu c hlaunch (hold c hin)
      · cases hlaunch
  | terminate child =>
    exact ⟨hinv.launched_lt, hinv.introduced_lt, hinv.exclusive, hinv.unheard, hinv.recorded⟩
  | stdout i line =>
    obtain ⟨t, hi, hdraining⟩ := hen
    rw [Option.mem_def] at hi
    cases t with
    | drain child =>
      simp only [SidecarHistory.note, hi]
      exact hinv.hear hi
    | _ => cases hdraining
  | advance i w =>
    obtain ⟨t, hi, -⟩ := hen
    rw [Option.mem_def] at hi
    simp only [Shell.step, SidecarHistory.note, hi]
    rcases block_records (w := w) (s := s.shared) (t := t) with
      ⟨hspawned, hrecord, hlaunches, hdrains, ht⟩ | ⟨pid, rfl, hb⟩ | ⟨child, nowMs, rfl, hb⟩
    · exact hinv.after_keeps hi hspawned hrecord hlaunches hdrains ht
    · rw [hb]
      exact hinv.after_spawn hi pid _ rfl
    · rw [hb]
      exact hinv.after_record hi nowMs _

/-! ## Fresh addresses -/

lemma AddressesOf.hear {n : SidecarSnapshot} {child c : CommandChild} {line : String}
    (haddresses : AddressesOf n h c) : AddressesOf n (h.hear child line) c := by
  refine haddresses.imp_right fun ⟨report, hreport, hrest⟩ => ?_
  exact ⟨report, List.mem_append_left _ hreport, hrest⟩

/-- A step at the right time keeps the addresses fresh. -/
lemma EndpointsFresh.step (hfresh : EndpointsFresh (s, h)) {l : ShellLabel} (hen : s.Enabled l)
    (htimely : ReportsTimely (s, h) l) : EndpointsFresh (s.step l, h.note s l) := by
  cases l with
  | restartLocalNode => exact hfresh
  | terminate child => exact hfresh
  | stdout i line =>
    obtain ⟨t, hi, hdraining⟩ := hen
    rw [Option.mem_def] at hi
    cases t with
    | drain child =>
      simp only [Shell.step, SidecarHistory.note, hi]
      cases hports : parseReportedPorts line with
      | none =>
        intro pid hpid hrunning
        obtain ⟨c, hrecorded, hc, haddresses⟩ := hfresh pid hpid hrunning
        exact ⟨c, hrecorded, hc, haddresses.hear⟩
      -- a line with ports is the last report of its process
      | some ports =>
        intro pid hpid hrunning
        obtain ⟨c, hrecorded, hc, -⟩ := hfresh pid hpid hrunning
        refine ⟨c, hrecorded, hc, .inr ⟨(c, ports), ?_, rfl, rfl, rfl⟩⟩
        simp only [SidecarHistory.hear, hports, List.mem_append]
        rcases htimely hrunning _ hi ports hports c hrecorded with hsame | hreported
        · obtain rfl : child = c := ShellThread.drain.inj hsame
          exact .inr (List.mem_singleton.mpr rfl)
        · exact .inl hreported
    | _ => cases hdraining
  | advance i w =>
    obtain ⟨t, hi, -⟩ := hen
    rw [Option.mem_def] at hi
    simp only [Shell.step, SidecarHistory.note, hi]
    rcases block_records (w := w) (s := s.shared) (t := t) with
      ⟨-, hrecord, -, -, ht⟩ | ⟨pid, rfl, hb⟩ | ⟨child, nowMs, rfl, hb⟩
    · intro pid hpid hrunning
      simp only [Threads.shared_after] at hpid hrunning
      rcases hrecord with hnone | ⟨hsame, hstatus, hskill, hagent⟩
      · exact absurd (hnone.symm.trans hpid) (by simp)
      · rw [hsame] at hpid
        -- a block that leaves the process does not make it run
        have hbefore : s.shared.snapshot.status = "running" := by
          rcases hstatus with hstatus | hstatus
          · exact hstatus.symm.trans hrunning
          · exact absurd hrunning hstatus
        obtain ⟨c, hrecorded, hc, haddresses⟩ := hfresh pid hpid hbefore
        have hadvance : h.advance t (t.block w s.shared).shared.snapshot = h := by
          have hfilter : h.recorded.filter (fun _ =>
              (t.block w s.shared).shared.snapshot.pid.isSome) = h.recorded := by
            rw [hsame, hpid]
            cases h.recorded <;> rfl
          cases t with
          | recordRunning child => exact absurd rfl (ht child)
          | _ => simp only [SidecarHistory.advance, hfilter]
        rw [hadvance]
        refine ⟨c, hrecorded, hc, ?_⟩
        simp only [AddressesOf, Threads.shared_after, hskill, hagent]
        exact haddresses
    · rw [hb]
      intro pid' hpid hrunning
      obtain ⟨c, hrecorded, hc, haddresses⟩ := hfresh pid' hpid hrunning
      refine ⟨c, ?_, hc, haddresses⟩
      have hpid' : s.shared.snapshot.pid = some pid' := hpid
      simp only [SidecarHistory.advance, goOn, Sidecars.spawn, hpid']
      rw [show h.recorded = some c from hrecorded]
      rfl
    · rw [hb]
      intro pid hpid hrunning
      exact ⟨child, rfl, Option.some.inj hpid, .inl (htimely _ hi trivial)⟩

/-- A step at another time leaves addresses that are not those of the process. -/
lemma RecordInv.not_fresh_step (hinv : RecordInv (s, h)) {l : ShellLabel} (hen : s.Enabled l)
    (htimely : ¬ ReportsTimely (s, h) l) : ¬ EndpointsFresh (s.step l, h.note s l) := by
  intro hfresh
  cases l with
  | restartLocalNode => exact htimely trivial
  | terminate child => exact htimely trivial
  | stdout i line =>
    -- fresh addresses are those that the line has just reported, so it came from the process
    refine htimely fun hrunning t hi ports hports c hrecorded => ?_
    obtain ⟨t', hi', hdraining⟩ := hen
    obtain rfl := Option.mem_unique hi hi'
    rw [Option.mem_def] at hi hports hrecorded
    cases t with
    | drain child =>
      simp only [Shell.step, SidecarHistory.note, hi, hports] at hfresh
      have hpid : s.shared.snapshot.pid = some c.pid := by
        have hmap : h.recorded.map (·.pid) = s.shared.snapshot.pid := hinv.recorded
        rw [← hmap, show h.recorded = some c from hrecorded]
        rfl
      obtain ⟨c', hrecorded', -, haddresses⟩ := hfresh c.pid hpid hrunning
      obtain rfl : c = c' := Option.some.inj (hrecorded.symm.trans hrecorded')
      rcases haddresses with ⟨hnone, -⟩ | ⟨⟨c', skillApi, agentApi⟩, hreport, rfl, hskill, hagent⟩
      · cases hnone
      · obtain rfl : ports = (skillApi, agentApi) :=
          Prod.ext (Option.some.inj hskill) (Option.some.inj hagent)
        simp only [SidecarHistory.hear, hports, List.mem_append] at hreport
        rcases hreport with hreport | hreport
        · exact .inr hreport
        · obtain ⟨rfl, -⟩ := Prod.ext_iff.mp (List.mem_singleton.mp hreport)
          exact .inl rfl
    | _ => cases hdraining
  | advance i w =>
    refine htimely fun t hi hrecording => ?_
    rw [Option.mem_def] at hi
    cases t with
    | recordRunning child =>
      simp only [Shell.step, SidecarHistory.note, hi] at hfresh
      obtain ⟨c, hrecorded, -, haddresses⟩ := hfresh child.pid rfl rfl
      obtain rfl : child = c := Option.some.inj hrecorded
      rcases haddresses with hnone | ⟨report, hreport, hc, -⟩
      · exact hnone
      -- the process has not been heard of before its addresses are written
      · exact absurd (.inr ⟨report, hreport, hc⟩)
          (hinv.unheard _ (List.mem_of_getElem? hi) child rfl)
    | _ => exact hrecording.elim

end Steps

/-! ## Every run -/

lemma recordInv_setup : RecordInv (.setup, .empty) := by
  have hsingle : ∀ t ∈ Shell.setup.threads, t = .start := fun t ht => List.mem_singleton.mp ht
  have hnone : ∀ child, ¬ Introduced (.setup, .empty) child := by
    rintro child (hdrain | ⟨report, hreport, -⟩)
    · cases hsingle _ hdrain
    · cases hreport
  refine ⟨fun t ht child hlaunch => ?_, fun child hin => absurd hin (hnone child),
    List.nodup_nil, fun t _ child _ => hnone child, rfl⟩
  rw [hsingle t ht] at hlaunch
  cases hlaunch

/-- **Fresh addresses.**  Every run of the shell has a history, and the addresses that the snapshot
has beside a running process are those of the process, or none, all along the run exactly if its
steps are timely. -/
theorem endpoints_fresh {s : Shell} {tr : List (ShellLabel × Unit)}
    (hrun : shell.Run .setup tr s) :
    ∃ h, recordedShell.Run (.setup, .empty) tr (s, h) ∧
      ((∀ before after m, tr = before ++ after →
          recordedShell.Run (.setup, .empty) before m → EndpointsFresh m) ↔
        (recordedShell.restrict ReportsTimely).Run (.setup, .empty) tr (s, h)) := by
  have hhistory : ∃ h, recordedShell.Run (.setup, .empty) tr (s, h) :=
    hrun.exists_history SidecarHistory.empty
  obtain ⟨h, hrun⟩ := hhistory
  refine ⟨h, hrun, ?_⟩
  have hstep : ∀ m l, RecordInv m ∧ EndpointsFresh m → recordedShell.enabled m l →
      ReportsTimely m l →
      RecordInv (recordedShell.step m l).2 ∧ EndpointsFresh (recordedShell.step m l).2 :=
    fun m l hm hen htimely => ⟨hm.1.step hen, hm.2.step hen htimely⟩
  have hexact : ∀ m l, RecordInv m ∧ EndpointsFresh m → recordedShell.enabled m l →
      ¬ ReportsTimely m l → ¬ EndpointsFresh (recordedShell.step m l).2 :=
    fun m l hm hen htimely => hm.1.not_fresh_step hen htimely
  have hsetup : EndpointsFresh (.setup, .empty) := fun pid hpid => by cases hpid
  exact hrun.forall_good_iff (fun m hm => hm.2) hstep hexact ⟨recordInv_setup, hsetup⟩

/-! ### A sidecar reports its ports, exits, and is restarted -/

/-- The first sidecar is started, and reports its ports. -/
def reportSteps : List ShellLabel :=
  startSteps 0 100 ++ [.stdout 1 "LOCAL_NODE_PORTS skill=8791 agent=17871"]

/-- As long as there is one sidecar, all is well. -/
theorem endpoints_fresh_reported :
    ∃ tr s h, recordedShell.Run (.setup, .empty) tr (s, h) ∧
      s.shared.snapshot.effectiveSkillApi = some "http://127.0.0.1:8791" ∧
      ∀ before after m, tr = before ++ after →
        recordedShell.Run (.setup, .empty) before m → EndpointsFresh m := by
  have hrun := Machine.run_exec
    (by decide +kernel : (recordedShell.restrict ReportsTimely).Allows (.setup, .empty) reportSteps)
  have hlast : ((recordedShell.restrict ReportsTimely).exec (.setup, .empty)
      reportSteps).2.1.shared.snapshot.effectiveSkillApi = some "http://127.0.0.1:8791" := by
    decide +kernel
  generalize (recordedShell.restrict ReportsTimely).exec (.setup, .empty) reportSteps = last
    at hrun hlast
  obtain ⟨tr, s, h⟩ := last
  obtain ⟨h', hrun', hiff⟩ := endpoints_fresh hrun.of_restrict.forget
  obtain rfl : h = h' := congrArg Prod.snd (hrun.of_restrict.unique hrun')
  exact ⟨tr, s, h, hrun', hlast, hiff.mpr hrun⟩

/-- The sidecar exits, and the shell starts another one. -/
def exitAndRestartSteps : List ShellLabel :=
  reportSteps ++ [.terminate ⟨0, 100⟩, .advance 1 (freshWorld 0), .advance 1 (freshWorld 0),
    .advance 1 (freshWorld 0), .advance 2 (freshWorld 0)] ++ startSteps 2 101

/-- The snapshot has the addresses of the first sidecar beside the second one, which has not
reported any. -/
theorem endpoints_stale : ¬ ∀ s, recordedShell.Reachable s → EndpointsFresh s := by
  intro h
  have hrun : recordedShell.Run (.setup, .empty) _ _ := Machine.run_exec
    (by decide +kernel : recordedShell.Allows (.setup, .empty) exitAndRestartSteps)
  have hlast : (recordedShell.exec (.setup, .empty) exitAndRestartSteps).2.1.shared.snapshot.pid =
        some 101 ∧
      (recordedShell.exec (.setup, .empty) exitAndRestartSteps).2.1.shared.snapshot.status =
        "running" ∧
      (recordedShell.exec (.setup, .empty)
        exitAndRestartSteps).2.1.shared.snapshot.effectiveSkillApi ≠ none ∧
      ∀ report ∈ (recordedShell.exec (.setup, .empty) exitAndRestartSteps).2.2.reports,
        report.1.pid ≠ 101 := by decide +kernel
  obtain ⟨hpid, hrunning, hskill, hreports⟩ := hlast
  have hstart : recordedShell.init (.setup, .empty) := ⟨rfl, rfl⟩
  obtain ⟨child, -, hchild, haddresses⟩ := h _ ⟨_, _, hstart, hrun⟩ 101 hpid hrunning
  rcases haddresses with ⟨hnone, -⟩ | ⟨report, hreport, hsame, -⟩
  · exact hskill hnone
  · exact hreports report hreport (hsame ▸ hchild)

end OzonSuite
