/-
# The shell that keeps the local node running

The desktop shell starts the local node as a sidecar process, restarts it when it exits, and lets
the user restart it.  The handle of the process lies in a slot under one lock, what is known about
it in a snapshot under another.  The functions that work on them are threads here, each of which
runs one locked block at a time; what comes from outside is a `ShellWorld`.
-/
import OzonSuite.Lib.AsciiText
import OzonSuite.Lib.Digits
import OzonSuite.Lib.Machine
import OzonSuite.Lib.Threads

namespace OzonSuite

open Lib

/-! ## The sidecar and what is known of it -/

/-- The handle of a process: which of the processes spawned so far it is, and the number that the
system has given to it. -/
structure CommandChild where
  process : ℕ
  pid : ℕ
deriving DecidableEq

/-- What is known about the sidecar. -/
structure SidecarSnapshot where
  pid : Option ℕ
  status : String
  restartCount : ℕ
  lastStartedAtMs : Option ℕ
  lastExit : Option String
  lastError : Option String
  desiredRunning : Bool
  /-- The rapid exits in a row. -/
  consecutiveFailures : ℕ
  effectiveSkillApi : Option String
  effectiveAgentApi : Option String
deriving DecidableEq

/-- `SidecarState::new`. -/
def SidecarSnapshot.initial : SidecarSnapshot where
  pid := none
  status := "starting"
  restartCount := 0
  lastStartedAtMs := none
  lastExit := none
  lastError := none
  desiredRunning := true
  consecutiveFailures := 0
  effectiveSkillApi := none
  effectiveAgentApi := none

/-- Whether a node was found running, and where. -/
inductive ExistingLocalNode
  | ready (skillApi agentApi : String)
  | missing
deriving DecidableEq

/-- What is done after the sidecar has exited. -/
inductive SidecarExit
  | restart (delaySecs : ℕ)
  | giveUp
  | stop
deriving DecidableEq

/-- An exit before this time is a rapid one, in milliseconds. -/
def rapidFailureUptimeMs : ℕ := 8000

/-- After so many rapid exits in a row the shell gives up. -/
def maxRapidFailures : ℕ := 6

/-- The first delay before a restart, in seconds. -/
def restartBaseDelaySecs : ℕ := 2

/-- The longest delay before a restart, in seconds. -/
def restartMaxDelaySecs : ℕ := 30

/-- The first failure waits for the base delay, and the delay doubles up to the maximum. -/
def restartDelaySecs (failures : ℕ) : ℕ :=
  let shift := min (failures - 1) 8
  min (restartBaseDelaySecs * 2 ^ shift) restartMaxDelaySecs

/-- `text.contains(part)`. -/
def containsText (part text : String) : Bool := decide (part.toList <:+: text.toList)

/-- The reason says that a port is taken. -/
def isAddressInUse (reason : String) : Bool :=
  containsText "os error 48" reason || containsText "os error 10048" reason ||
    containsText "os error 10013" reason || containsText "Address already in use" reason ||
    containsText "Only one usage of each socket address" reason

/-- A port number, as Rust parses a `u16`. -/
def parseU16 (s : String) : Option ℕ := (parseUnsigned s).filter (· < 2 ^ 16)

/-- The addresses in a line in which the sidecar reports the ports that it has bound. -/
def parseReportedPorts (line : String) : Option (String × String) := do
  let rest ← stripPrefix "LOCAL_NODE_PORTS" (trim line)
  let ports := (wordsOf isWhitespace rest.toList).foldl (fun ports word =>
    match stripPrefix "skill=" (String.ofList word) with
    | some value => (parseU16 value, ports.2)
    | none =>
      match stripPrefix "agent=" (String.ofList word) with
      | some value => (ports.1, parseU16 value)
      | none => ports) (none, none)
  let skill ← ports.1
  let agent ← ports.2
  return (s!"http://127.0.0.1:{skill}", s!"http://127.0.0.1:{agent}")

example : parseReportedPorts "LOCAL_NODE_PORTS skill=8791 agent=17871" =
    some ("http://127.0.0.1:8791", "http://127.0.0.1:17871") := by decide +kernel

namespace SidecarSnapshot

/-! ### The locked blocks on the snapshot -/

/-- `start_managed_sidecar`, when a node is running already. -/
def attach (n : SidecarSnapshot) (skillApi agentApi : String) : SidecarSnapshot :=
  { n with
    pid := none
    status := "external"
    lastError := none
    lastExit := none
    effectiveSkillApi := some skillApi
    effectiveAgentApi := some agentApi }

/-- `start_managed_sidecar`, before the process is spawned. -/
def starting (n : SidecarSnapshot) : SidecarSnapshot :=
  { n with status := "starting", lastError := none }

/-- `start_managed_sidecar`, when the handle has been stored. -/
def running (n : SidecarSnapshot) (pid nowMs : ℕ) : SidecarSnapshot :=
  { n with
    restartCount := if n.lastStartedAtMs.isSome then n.restartCount + 1 else n.restartCount
    pid := some pid
    status := "running"
    lastStartedAtMs := some nowMs
    lastError := none }

/-- `start_managed_sidecar`, when the process could not be spawned. -/
def failed (n : SidecarSnapshot) (error : String) : SidecarSnapshot :=
  { n with pid := none, status := "failed", lastError := some error }

/-- The sidecar has reported its ports. -/
def report (n : SidecarSnapshot) (skillApi agentApi : String) : SidecarSnapshot :=
  { n with effectiveSkillApi := some skillApi, effectiveAgentApi := some agentApi }

/-- `stop_current_sidecar`. -/
def stopped (n : SidecarSnapshot) (reason : String) : SidecarSnapshot :=
  { n with
    pid := none
    status := "restarting"
    lastExit := some reason
    lastError := none
    desiredRunning := true
    consecutiveFailures := 0 }

/-- What the user is told when the sidecar is not restarted any more. -/
def blocked (reason : String) (failures : ℕ) : String :=
  if isAddressInUse reason then
    "另一个 Ozon 本地节点已占用本机端口（多半是上次没退干净留下的残留进程，或开了两份 App）。请在任务管理器结束所有 ozon-local-node 进程后点重启节点。"
  else s!"本地节点连续 {failures} 次快速退出，已停止自动重启。最后退出：{reason}"

/-- `handle_sidecar_exit`, when the snapshot has the process that has exited. -/
def exited (n : SidecarSnapshot) (reason : String) (nowMs : ℕ) : SidecarSnapshot × SidecarExit :=
  let uptimeMs := n.lastStartedAtMs.map (nowMs - ·)
  let rapid := (uptimeMs.map fun ms => decide (ms < rapidFailureUptimeMs)).getD true
  let failures := if rapid then min (n.consecutiveFailures + 1) (2 ^ 32 - 1) else 0
  let n := { n with
    pid := none
    consecutiveFailures := failures
    lastExit := some reason
    lastError := none }
  if !n.desiredRunning then ({ n with status := "stopped" }, .stop)
  else if maxRapidFailures ≤ failures then
    ({ n with status := "blocked", lastError := some (blocked reason failures) }, .giveUp)
  else ({ n with status := "restarting" }, .restart (restartDelaySecs failures))

end SidecarSnapshot

/-! ## Threads -/

/-- The state of the shell and of the processes that it has spawned. -/
structure Sidecars where
  /-- The child slot. -/
  child : Option CommandChild
  snapshot : SidecarSnapshot
  /-- The processes that are alive. -/
  alive : List CommandChild
  /-- How many have been spawned. -/
  spawned : ℕ
deriving DecidableEq

/-- The points between the locked blocks, with the local variables that are used after them. -/
inductive ShellThread
  /-- `start_managed_sidecar` has been called. -/
  | start
  /-- It has found the child slot empty. -/
  | probe
  /-- It has found no node that is running. -/
  | spawn
  | storeChild (child : CommandChild)
  | recordRunning (child : CommandChild)
  | recordFailed (error : String)
  /-- The task that `start_managed_sidecar` leaves behind to drain the events of its child. -/
  | drain (child : CommandChild)
  /-- `handle_sidecar_exit` has been called. -/
  | exited (child : CommandChild) (reason : String)
  /-- It has left its first block, and its second one is due. -/
  | takeChild (child : CommandChild) (decision : SidecarExit)
  /-- The thread of `schedule_sidecar_restart`. -/
  | sleep (delaySecs : ℕ)
  /-- `restart_local_node` has called `stop_current_sidecar`. -/
  | stop
  | recordStopped (child : Option CommandChild)
  | kill (child : Option CommandChild)
  | returned
deriving DecidableEq

/-- What comes from outside while a thread runs a block. -/
structure ShellWorld where
  probeExistingLocalNode : ExistingLocalNode
  /-- The number of the process that is spawned, or the error. -/
  spawn : Except String ℕ
  nowMs : ℕ
  /-- The reason of the last exit event, once the channel of events is closed. -/
  pendingExit : Option String

namespace Sidecars

/-- `child.kill()`. -/
def kill (s : Sidecars) (child : CommandChild) : Sidecars :=
  { s with alive := s.alive.filter (· ≠ child) }

/-- A process with the given number is spawned. -/
def spawn (s : Sidecars) (pid : ℕ) : Sidecars :=
  { s with alive := s.alive ++ [⟨s.spawned, pid⟩], spawned := s.spawned + 1 }

/-- The shell with another snapshot. -/
def setSnapshot (s : Sidecars) (snapshot : SidecarSnapshot) : Sidecars :=
  { s with snapshot := snapshot }

/-- The shell with another process in the slot. -/
def setChild (s : Sidecars) (child : Option CommandChild) : Sidecars :=
  { s with child := child }

end Sidecars

/-- The thread goes on at `next`. -/
def goOn (s : Sidecars) (next : ShellThread) : Block Sidecars ShellThread := ⟨next, [], s⟩

/-- The next block of a thread. -/
def ShellThread.block (w : ShellWorld) (s : Sidecars) : ShellThread → Block Sidecars ShellThread
  | .start => goOn s (if s.child.isSome then .returned else .probe)
  | .probe =>
    if !s.snapshot.desiredRunning then goOn s .returned
    else match w.probeExistingLocalNode with
      | .ready skillApi agentApi =>
        goOn (s.setSnapshot (s.snapshot.attach skillApi agentApi)) .returned
      | .missing => goOn (s.setSnapshot s.snapshot.starting) .spawn
  | .spawn =>
    match w.spawn with
    | .ok pid => goOn (s.spawn pid) (.storeChild ⟨s.spawned, pid⟩)
    | .error error => goOn s (.recordFailed error)
  | .storeChild child =>
    if s.child.isSome then goOn (s.kill child) .returned
    else goOn (s.setChild (some child)) (.recordRunning child)
  | .recordRunning child =>
    ⟨.returned, [.drain child], s.setSnapshot (s.snapshot.running child.pid w.nowMs)⟩
  | .recordFailed error => goOn (s.setSnapshot (s.snapshot.failed error)) .returned
  | .drain child =>
    match w.pendingExit with
    | some reason => goOn s (.exited child reason)
    | none => goOn s .returned
  | .exited child reason =>
    if s.snapshot.pid ≠ some child.pid then goOn s .returned
    else
      let (snapshot, decision) := s.snapshot.exited reason w.nowMs
      goOn (s.setSnapshot snapshot) (.takeChild child decision)
  | .takeChild _ decision =>
    -- whatever the slot holds is taken out of it
    match decision with
    | .restart delaySecs => ⟨.returned, [.sleep delaySecs], s.setChild none⟩
    | .giveUp => goOn (s.setChild none) .returned
    | .stop => goOn (s.setChild none) .returned
  | .sleep _ => goOn s .start
  | .stop => goOn (s.setChild none) (.recordStopped s.child)
  | .recordStopped child =>
    goOn (s.setSnapshot (s.snapshot.stopped "manual restart requested")) (.kill child)
  | .kill child =>
    match child with
    | some child => goOn (s.kill child) .start
    | none => goOn s .start
  | .returned => goOn s .returned

/-- When a thread runs its next block, and what may come from outside then. -/
def ShellThread.Ready (w : ShellWorld) (s : Sidecars) : ShellThread → Prop
  -- no other process has the number of one that is alive
  | .spawn => ∀ child ∈ s.alive, w.spawn.toOption ≠ some child.pid
  -- the channel of events is closed when the process has been waited for
  | .drain child => child ∉ s.alive
  | .returned => False
  | _ => True

instance (w : ShellWorld) (s : Sidecars) : DecidablePred (ShellThread.Ready w s)
  | .spawn => inferInstanceAs (Decidable (∀ child ∈ s.alive, w.spawn.toOption ≠ some child.pid))
  | .drain child => inferInstanceAs (Decidable (child ∉ s.alive))
  | .returned => inferInstanceAs (Decidable False)
  | .start | .probe | .storeChild _ | .recordRunning _ | .recordFailed _ | .exited _ _
  | .takeChild _ _ | .sleep _ | .stop | .recordStopped _ | .kill _ =>
    inferInstanceAs (Decidable True)

/-- The thread receives the lines of its sidecar. -/
def ShellThread.isDraining : ShellThread → Bool
  | .drain _ => true
  | _ => false

/-- What the functions of the shell share, and the functions that run. -/
abbrev Shell := Threads Sidecars ShellThread

/-- What happens next. -/
inductive ShellLabel
  /-- The user calls `restart_local_node`. -/
  | restartLocalNode
  /-- A sidecar exits. -/
  | terminate (child : CommandChild)
  /-- The `i`-th thread receives a line that its sidecar has written. -/
  | stdout (i : ℕ) (line : String)
  /-- The `i`-th thread runs its next block. -/
  | advance (i : ℕ) (w : ShellWorld)

/-- The shell when `start_managed_sidecar` is called for the first time. -/
def Shell.setup : Shell := ⟨⟨none, .initial, [], 0⟩, [.start]⟩

namespace Shell

/-- The step can be taken. -/
def Enabled (s : Shell) : ShellLabel → Prop
  | .restartLocalNode => True
  | .terminate child => child ∈ s.shared.alive
  | .stdout i _ => ∃ t ∈ s.threads[i]?, t.isDraining
  | .advance i w => ∃ t ∈ s.threads[i]?, t.Ready w s.shared

instance (s : Shell) : DecidablePred s.Enabled
  | .restartLocalNode => inferInstanceAs (Decidable True)
  | .terminate child => inferInstanceAs (Decidable (child ∈ s.shared.alive))
  | .stdout i _ => inferInstanceAs (Decidable (∃ t ∈ s.threads[i]?, t.isDraining))
  | .advance i w => inferInstanceAs (Decidable (∃ t ∈ s.threads[i]?, t.Ready w s.shared))

/-- What a step does. -/
def step (s : Shell) : ShellLabel → Shell
  | .restartLocalNode => ⟨s.shared, s.threads ++ [.stop]⟩
  | .terminate child => ⟨s.shared.kill child, s.threads⟩
  | .stdout _ line =>
    match parseReportedPorts line with
    | some (skillApi, agentApi) =>
      ⟨s.shared.setSnapshot (s.shared.snapshot.report skillApi agentApi), s.threads⟩
    | none => s
  | .advance i w =>
    match s.threads[i]? with
    | some t => s.after i (t.block w s.shared)
    | none => s

end Shell

/-- The shell, from its setup on. -/
def shell : Machine Shell ShellLabel Unit where
  init s := s = .setup
  enabled := Shell.Enabled
  step s l := ((), s.step l)

instance (s : Shell) (l : ShellLabel) : Decidable (shell.enabled s l) :=
  inferInstanceAs (Decidable (s.Enabled l))

end OzonSuite
