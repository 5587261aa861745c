/-
# The schedule of read-only polling

An operator enables the schedule or disables it; a worker that is spawned for it reads the product
list at every tick.  The record of the schedule is under a lock, which a request takes several
times: to take the old worker out and abort it, to note the new interval and limit, and to store
the new worker; and a worker takes it to see whether it is to go on and to note what it has read.
Between two of these scopes other tasks may run theirs.
-/
import OzonSuite.Lib.Threads
import OzonSuite.Node.Providers

namespace OzonSuite

open Lib

/-! ## Credentials -/

/-- The credentials of a node that only pretends. -/
def debugMockOzonCredentials : OzonCredentials :=
  { clientId := "debug-local-client-id", apiKey := "debug-local-api-key" }

/-- The credentials in the environment. -/
def loadOzonEnvCredentials (w : NodeWorld) : Except ApiError (Option OzonCredentials) :=
  let clientId := (optionalEnv w "OZON_CLIENT_ID").or (optionalEnv w "OZON_SELLER_CLIENT_ID")
  let apiKey := (optionalEnv w "OZON_API_KEY").or (optionalEnv w "OZON_SELLER_API_KEY")
  match clientId, apiKey with
  | some clientId, some apiKey => .ok (some { clientId := clientId, apiKey := apiKey })
  | none, none => .ok none
  | some _, none | none, some _ => .error
    (.badRequest "OZON_CLIENT_ID/OZON_API_KEY environment credentials are incomplete")

/-- The stored credentials, of the new form or of the old one. -/
def loadStoredOzonCredentials (x : NodeCrates) (w : NodeWorld) : NodeM OzonCredentials := do
  match ← getSecret w secretOzonConfig with
  | some bundle =>
    let stored ← okOr (x.parseOzonConfig bundle)
      (ApiError.internal "stored Ozon config is invalid")
    return { clientId := stored.clientId, apiKey := stored.apiKey }
  | none =>
    let clientId ← getSecret w "ozon_client_id"
    let apiKey ← getSecret w "ozon_api_key"
    let clientId ← okOr clientId (ApiError.badRequest "Ozon credentials are not configured")
    let apiKey ← okOr apiKey (ApiError.badRequest "Ozon credentials are not configured")
    return { clientId := clientId, apiKey := apiKey }

/-- The credentials: of the mock, or from the environment, the cache or the store. -/
def loadOzonCredentials (x : NodeCrates) (w : NodeWorld) : NodeM OzonCredentials := do
  let s ← get
  if !s.config.useRealOzon then
    return debugMockOzonCredentials
  match s.ozonConfigCache with
  | some stored => return { clientId := stored.clientId, apiKey := stored.apiKey }
  | none =>
    match ← ofExcept (loadOzonEnvCredentials w) with
    | some credentials => return credentials
    | none => loadStoredOzonCredentials x w

/-! ## Reading -/

/-- What a scope finds outside. -/
structure ScheduleWorld where
  node : NodeWorld
  /-- When the read has come to its end. -/
  completedAt : Time
  elapsedMs : ℕ

/-- Whether the marketplace is real. -/
def connectorMode (config : LocalConfig) : String := if config.useRealOzon then "real" else "mock"

/-- `n.clamp(lo, hi)`. -/
def clamp (lo hi n : ℕ) : ℕ := max lo (min n hi)

/-- The first page of the product list, or of the archived products where there are no others. -/
def readProductPage (w : NodeWorld) (credentials : OzonCredentials) (limit : ℕ) :
    Except ApiError OzonProductListPage := do
  let page ← (w.productListPage credentials (clamp 1 100 limit) none none).mapError
    fun error => ApiError.badGateway s!"scheduled Ozon read failed: {error.text}"
  if page.total = 0 ∧ page.products = [] then
    let archivedPage ← (w.productListPage credentials (clamp 1 100 limit) none
      (some "ARCHIVED")).mapError fun error =>
        ApiError.badGateway s!"scheduled archived Ozon read failed: {error.text}"
    if 0 < archivedPage.total ∨ archivedPage.products ≠ [] then
      return archivedPage
  return page

/-- `execute_ecommerce_read_once`, up to the lock under which the read is noted. -/
def executeEcommerceRead (x : NodeCrates) (w : ScheduleWorld) (limit : ℕ) :
    NodeM EcommerceReadRun := do
  requireValidLeaseWithFeature x w.node .ozonRead
  let credentials ← loadOzonCredentials x w.node
  let page ← ofExcept (readProductPage w.node credentials limit)
  return {
    startedAt := w.node.now
    completedAt := w.completedAt
    connectorMode := connectorMode (← get).config
    productCount := page.total
    sampleSize := page.products.length % 2 ^ 16
    nextLastId := page.lastId
    products := page.products
    total := page.total }

namespace EcommerceReadSchedule

/-! ### The scopes of the lock -/

/-- `start_ecommerce_schedule`, when the old worker has been stopped. -/
def enable (n : EcommerceReadSchedule) (intervalSecs limit : ℕ) (now : Time) :
    EcommerceReadSchedule :=
  { n with
    enabled := true
    intervalSecs := intervalSecs
    limit := limit
    lastError := none
    audit := n.audit ++ [⟨now, "local-operator", "schedule.enabled",
      s!"official Ozon read-only polling enabled every {intervalSecs}s with limit {limit}"⟩] }

/-- `stop_ecommerce_schedule`, when the old worker has been stopped. -/
def disable (n : EcommerceReadSchedule) (reason : String) (now : Time) : EcommerceReadSchedule :=
  { n with
    enabled := false
    audit := n.audit ++ [⟨now, "local-operator", "schedule.disabled", reason⟩] }

/-- The end of `execute_ecommerce_read_once`; the audit keeps its last hundred entries. -/
def noteRun (n : EcommerceReadSchedule) (run : EcommerceReadRun) (elapsedMs : ℕ) (now : Time) :
    EcommerceReadSchedule :=
  let audit := n.audit ++ [⟨now, "scheduler", "schedule.read_succeeded",
    s!"read {run.sampleSize} products in {elapsedMs}ms through {run.connectorMode} connector"⟩]
  { n with
    lastError := none
    lastRun := some run
    audit := audit.drop (audit.length - 100) }

/-- A read of the worker has failed. -/
def noteFailure (n : EcommerceReadSchedule) (message : String) (now : Time) :
    EcommerceReadSchedule :=
  { n with
    lastError := some message
    audit := n.audit ++ [⟨now, "scheduler", "schedule.read_failed", message⟩] }

end EcommerceReadSchedule

/-! ## Tasks -/

/-- A request to configure the schedule. -/
structure ConfigureEcommerceScheduleRequest where
  enabled : Bool
  intervalSecs : Option ℕ
  limit : Option ℕ

/-- The answer, with what is configured. -/
structure EcommerceScheduleResponse where
  enabled : Bool
  intervalSecs : ℕ
  limit : ℕ
  connectorMode : String
  lastRun : Option EcommerceReadRun
  lastError : Option String
  audit : List ScheduleAuditEvent
  safety : List String

/-- The answer in a state. -/
def scheduleResponse (s : LocalState) : EcommerceScheduleResponse :=
  { enabled := s.schedules.enabled
    intervalSecs := s.schedules.intervalSecs
    limit := s.schedules.limit
    connectorMode := connectorMode s.config
    lastRun := s.schedules.lastRun
    lastError := s.schedules.lastError
    audit := s.schedules.audit
    safety := ["official_ozon_api_only", "read_only", "operator_token_required_to_enable",
      "openclaw_proposal_only", "no_1688_live_scraping"] }

/-- What a request is answered. -/
inductive ScheduleReply
  | schedule (response : EcommerceScheduleResponse)
  | run (run : EcommerceReadRun)

/-- A worker, with the number under which it was spawned, and what it polls with. -/
structure ScheduleWorker where
  number : ℕ
  intervalSecs : ℕ
  limit : ℕ
deriving DecidableEq

/-- A task of the node, at its next scope. -/
inductive ScheduleTask
  /-- `configure_ecommerce_schedule`. -/
  | configure (headers : TokenHeaders) (input : ConfigureEcommerceScheduleRequest)
  /-- The read that goes before the schedule is enabled. -/
  | readFirst (intervalSecs limit : ℕ)
  | noteFirst (run : EcommerceReadRun) (intervalSecs limit : ℕ)
  /-- `start_ecommerce_schedule`, about to stop the worker there is. -/
  | stopOld (intervalSecs limit : ℕ)
  | enable (intervalSecs limit : ℕ)
  | spawn (intervalSecs limit : ℕ)
  | store (worker : ScheduleWorker)
  /-- `stop_ecommerce_schedule`, about to stop the worker there is. -/
  | stop (reason : String)
  | disable (reason : String)
  | respond
  /-- `run_ecommerce_schedule_now`. -/
  | runNow (headers : TokenHeaders)
  | readNow (limit : ℕ)
  | noteNow (run : EcommerceReadRun)
  | answered (reply : Except ApiError ScheduleReply)
  /-- The connection of the request was lost. -/
  | lost
  /-- A worker, waiting for its next tick. -/
  | tick (worker : ScheduleWorker)
  | read (worker : ScheduleWorker)
  | noteRead (worker : ScheduleWorker) (run : EcommerceReadRun)
  | noteFailure (worker : ScheduleWorker) (message : String)
  /-- A worker that has found the schedule disabled. -/
  | ended

/-- What the tasks share: the node, the number of workers that have been spawned, and those of them
that have been aborted. -/
structure ScheduleShared where
  node : LocalState
  spawned : ℕ
  aborted : List ℕ

namespace ScheduleShared

/-- The schedule. -/
def schedule (s : ScheduleShared) : EcommerceReadSchedule := s.node.schedules

/-- The node with another schedule. -/
def setSchedule (s : ScheduleShared) (schedule : EcommerceReadSchedule) : ScheduleShared :=
  { s with node := { s.node with schedules := schedule } }

/-- `stop_existing_schedule_worker`. -/
def stopExisting (s : ScheduleShared) : ScheduleShared :=
  { s.setSchedule { s.schedule with worker := none } with
    aborted := s.schedule.worker.toList ++ s.aborted }

end ScheduleShared

/-- A task has run a scope and goes on. -/
def ScheduleTask.goesOn (next : ScheduleTask) (s : ScheduleShared) :
    Block ScheduleShared ScheduleTask :=
  ⟨next, [], s⟩

/-- Run a handler on the node. -/
def ScheduleShared.call {α : Type} (s : ScheduleShared) (m : NodeM α)
    (next : Except ApiError α → ScheduleTask) : Block ScheduleShared ScheduleTask :=
  let result := m s.node
  (next (outcome result)).goesOn { s with node := finalState result }

/-- The next scope of a task. -/
def ScheduleTask.block (x : NodeCrates) (w : ScheduleWorld) (s : ScheduleShared) :
    ScheduleTask → Block ScheduleShared ScheduleTask
  | .configure headers input =>
    match requireOperatorToken s.node.config headers with
    | .error e => (answered (.error e)).goesOn s
    | .ok () =>
      let intervalSecs := clamp 60 (24 * 60 * 60)
        (input.intervalSecs.getD s.node.config.defaultEcommerceIntervalSecs)
      let limit := clamp 1 100 (input.limit.getD s.node.config.defaultEcommerceLimit)
      if input.enabled then (readFirst intervalSecs limit).goesOn s
      else (stop "disabled by local operator").goesOn s
  | .readFirst intervalSecs limit => s.call (executeEcommerceRead x w limit) fun
    | .ok run => .noteFirst run intervalSecs limit
    | .error e => .answered (.error e)
  | .noteFirst run intervalSecs limit => (stopOld intervalSecs limit).goesOn
      (s.setSchedule (s.schedule.noteRun run w.elapsedMs w.node.now))
  | .stopOld intervalSecs limit => (enable intervalSecs limit).goesOn s.stopExisting
  | .enable intervalSecs limit => (spawn intervalSecs limit).goesOn
      (s.setSchedule (s.schedule.enable intervalSecs limit w.node.now))
  | .spawn intervalSecs limit =>
    let worker : ScheduleWorker := ⟨s.spawned, intervalSecs, limit⟩
    ⟨store worker, [tick worker], { s with spawned := s.spawned + 1 }⟩
  | .store worker =>
    -- the handle that is there is dropped, which does not abort its worker
    respond.goesOn (s.setSchedule { s.schedule with worker := some worker.number })
  | .stop reason => (disable reason).goesOn s.stopExisting
  | .disable reason => respond.goesOn (s.setSchedule (s.schedule.disable reason w.node.now))
  | .respond => (answered (.ok (.schedule (scheduleResponse s.node)))).goesOn s
  | .runNow headers =>
    match requireOperatorToken s.node.config headers with
    | .error e => (answered (.error e)).goesOn s
    | .ok () => (readNow s.schedule.limit).goesOn s
  | .readNow limit => s.call (executeEcommerceRead x w limit) fun
    | .ok run => .noteNow run
    | .error e => .answered (.error e)
  | .noteNow run => (answered (.ok (.run run))).goesOn
      (s.setSchedule (s.schedule.noteRun run w.elapsedMs w.node.now))
  | .tick worker => if s.schedule.enabled then (read worker).goesOn s else ended.goesOn s
  | .read worker => s.call (executeEcommerceRead x w worker.limit) fun
    | .ok run => .noteRead worker run
    | .error e => .noteFailure worker e.message
  | .noteRead worker run => (tick worker).goesOn
      (s.setSchedule (s.schedule.noteRun run w.elapsedMs w.node.now))
  | .noteFailure worker message => (tick worker).goesOn
      (s.setSchedule (s.schedule.noteFailure message w.node.now))
  | .answered reply => (answered reply).goesOn s
  | .lost => lost.goesOn s
  | .ended => ended.goesOn s

namespace ScheduleTask

/-- The worker that the task is. -/
def worker? : ScheduleTask → Option ScheduleWorker
  | .tick worker | .read worker | .noteRead worker _ | .noteFailure worker _ => some worker
  | _ => none

/-- The worker that the request is about to store. -/
def storing : ScheduleTask → Option ScheduleWorker
  | .store worker => some worker
  | _ => none

/-- A request to configure the schedule that has not been answered. -/
def configuring : ScheduleTask → Bool
  | .configure _ _ | .readFirst _ _ | .noteFirst _ _ _ => true
  | .stopOld _ _ | .enable _ _ | .spawn _ _ => true
  | .store _ | .stop _ | .disable _ | .respond => true
  | _ => false

/-- A request to read now that has not been answered. -/
def readingNow : ScheduleTask → Bool
  | .runNow _ | .readNow _ | .noteNow _ => true
  | _ => false

/-- A connection is lost where the request waits; between noting the schedule and spawning the
worker it does not. -/
def waits : ScheduleTask → Bool
  | .spawn _ _ => false
  | t => t.configuring || t.readingNow

end ScheduleTask

/-! ## The scheduler -/

/-- What the tasks share, and the tasks that run. -/
abbrev Scheduler := Threads ScheduleShared ScheduleTask

/-- A step of the node. -/
inductive ScheduleLabel
  | configure (headers : TokenHeaders) (input : ConfigureEcommerceScheduleRequest)
  | runNow (headers : TokenHeaders)
  /-- The `i`-th task runs its next scope. -/
  | advance (i : ℕ) (w : ScheduleWorld)
  /-- The connection of the `i`-th task is lost. -/
  | lose (i : ℕ)
  /-- Another handler of the node leaves this state. -/
  | rest (node : LocalState)

namespace Scheduler

/-- The workers that are not at their end. -/
def workers (s : Scheduler) : List ScheduleWorker := s.threads.filterMap ScheduleTask.worker?

/-- The workers that are alive: neither aborted nor at their end. -/
def live (s : Scheduler) : List ScheduleWorker :=
  s.workers.filter (·.number ∉ s.shared.aborted)

/-- The workers that are about to be stored. -/
def stores (s : Scheduler) : List ScheduleWorker := s.threads.filterMap ScheduleTask.storing

/-- A task that can run a scope: a request until it is answered, a worker while it is alive. -/
def Ready (s : Scheduler) (t : ScheduleTask) : Prop :=
  t.configuring ∨ t.readingNow ∨ ∃ worker ∈ t.worker?, worker.number ∉ s.shared.aborted

instance (s : Scheduler) (t : ScheduleTask) : Decidable (s.Ready t) :=
  inferInstanceAs (Decidable (t.configuring ∨ t.readingNow ∨
    ∃ worker ∈ t.worker?, worker.number ∉ s.shared.aborted))

/-- The step can be taken. -/
def Enabled (s : Scheduler) : ScheduleLabel → Prop
  | .configure _ _ | .runNow _ => True
  | .advance i _ => ∃ t ∈ s.threads[i]?, s.Ready t
  | .lose i => ∃ t ∈ s.threads[i]?, t.waits
  | .rest node => node.schedules = s.shared.schedule

/-- A new request, or the next block of a task. -/
def step (x : NodeCrates) (s : Scheduler) : ScheduleLabel → Scheduler
  | .configure headers input => { s with threads := s.threads ++ [.configure headers input] }
  | .runNow headers => { s with threads := s.threads ++ [.runNow headers] }
  | .advance i w =>
    match s.threads[i]? with
    | some t => s.after i (t.block x w s.shared)
    | none => s
  | .lose i => s.after i (ScheduleTask.lost.goesOn s.shared)
  | .rest node => { s with shared := { s.shared with node := node } }

instance (s : Scheduler) : DecidablePred s.Enabled
  | .configure _ _ | .runNow _ => inferInstanceAs (Decidable True)
  | .advance i _ => inferInstanceAs (Decidable (∃ t ∈ s.threads[i]?, s.Ready t))
  | .lose i => inferInstanceAs (Decidable (∃ t ∈ s.threads[i]?, t.waits = true))
  | .rest node => inferInstanceAs (Decidable (node.schedules = s.shared.schedule))

end Scheduler

/-- The scheduler of a node that has just been started. -/
def scheduler (x : NodeCrates) : Machine Scheduler ScheduleLabel Unit where
  init s := ∃ config secrets, s = ⟨⟨.new config secrets, 0, []⟩, []⟩
  enabled s l := s.Enabled l
  step s l := ((), s.step x l)

instance (x : NodeCrates) (s : Scheduler) (l : ScheduleLabel) :
    Decidable ((scheduler x).enabled s l) :=
  inferInstanceAs (Decidable (s.Enabled l))

end OzonSuite
