/-
# The life of a video job

A request for a video stores a job and starts a poller for it.  The poller polls the provider a
bounded number of times and writes what it learns into the job, until the job has ended; what comes
out of a poll depends on nothing but the answers.  The pollers of a node run side by side over one
store of jobs.
-/
import OzonSuite.Lib.Lookups
import OzonSuite.Lib.Machine
import OzonSuite.Lib.Threads
import OzonSuite.Node.VideoFrames
import OzonSuite.Node.VideoPolls

namespace OzonSuite

open Lib

/-! ## Jobs and pollers -/

/-- The longest video, in seconds. -/
def videoMaxDurationSecs : ℕ := 15

/-- The length of a video by default, in seconds. -/
def videoDefaultDurationSecs : ℕ := 8

/-- How often a provider is asked. -/
def videoPollMaxAttempts : ℕ := 120

/-- The length of a video, from the one that is asked for. -/
def clampVideoDuration : Option ℕ → ℕ
  | some value => if 0 < value then min value videoMaxDurationSecs else videoDefaultDurationSecs
  | none => videoDefaultDurationSecs

/-- A request for a video. -/
structure VideoCreateRequestBody where
  firstFrameUrl : String
  lastFrameUrl : Option String
  prompt : Option String
  durationSeconds : Option ℕ

/-- The jobs by their identifiers. -/
abbrev VideoJobs := Finmap (fun _ : Uuid => VideoJob)

/-- Where a poller is, and how many attempts are left to it: it waits for the next tick, or it has
seen that its job is there and polls. -/
inductive PollPoint
  | waiting (left : ℕ)
  | polling (left : ℕ)
  | stopped
deriving DecidableEq

/-- A poller: its job, and how far it is. -/
structure VideoPoller where
  jobId : Uuid
  providerJobId : String
  point : PollPoint
deriving DecidableEq

/-- The jobs of a node and the pollers that work on them. -/
abbrev VideoNode := Threads VideoJobs VideoPoller

/-- The answer of a step: that of the request, or what the poller has done. -/
inductive VideoAnswer
  | created (result : Except ApiError VideoJob)
  | ticked
  | polled
  | gaveUp
  | gone

/-! ## Creating a job -/

/-- The job of a request that the provider has accepted. -/
def VideoCreateRequestBody.job (input : VideoCreateRequestBody) (id : Uuid) (providerJobId : String)
    (now : Time) : VideoJob :=
  { id := id
    status := .queued
    providerJobId := some providerJobId
    videoUrl := none
    error := none
    createdAt := now
    updatedAt := now
    firstFrameUrl := trim input.firstFrameUrl
    lastFrameUrl := (input.lastFrameUrl.map trim).filter (· ≠ "")
    prompt := ((input.prompt.map trim).filter (· ≠ "")).getD ""
    durationSeconds := clampVideoDuration input.durationSeconds }

/-- The request for a video that has passed its gates.  `providerJobId` is what comes of the request
to the provider. -/
def videoCreate (s : VideoNode) (input : VideoCreateRequestBody) (id : Uuid)
    (providerJobId : Except ApiError String) (now : Time) : Except ApiError VideoJob × VideoNode :=
  if trim input.firstFrameUrl = "" then (.error (.badRequest "first_frame_url is required"), s)
  else match providerJobId with
    | .error error => (.error error, s)
    | .ok providerJobId =>
      let job := input.job id providerJobId now
      (.ok job, ⟨s.shared.insert id job,
        s.threads ++ [⟨id, providerJobId, .waiting videoPollMaxAttempts⟩]⟩)

/-! ## Polling -/

namespace VideoJob

/-- A report is written into the job.  An error that the job has is kept. -/
def noteReport (job : VideoJob) (report : VideoReport) (now : Time) : VideoJob :=
  { job with
    status := report.status
    updatedAt := now
    videoUrl := match report.videoUrl with
      | some url => some url
      | none => job.videoUrl
    error := if report.status = .failed then
        some (report.error.getD "provider reported failure") else job.error }

/-- The job with an error. -/
def noteError (job : VideoJob) (message : String) (now : Time) : VideoJob :=
  { job with error := some message, updatedAt := now }

/-- The job when its provider has been asked too often. -/
def timeOut (job : VideoJob) (now : Time) : VideoJob :=
  if job.status.isTerminal then job
  else { job with
    status := .failed
    error := some "timed out waiting for the video provider"
    updatedAt := now }

end VideoJob

/-- Change a job, if it is there. -/
def VideoJobs.change (jobs : VideoJobs) (id : Uuid) (f : VideoJob → VideoJob) : VideoJobs :=
  match jobs.lookup id with
  | some job => jobs.insert id (f job)
  | none => jobs

/-- The poller stops after a report that ends the job. -/
def PollPoint.afterReport (left : ℕ) (status : VideoStatus) : PollPoint :=
  if status.isTerminal then .stopped else .waiting left

/-- The next block of a poller: a tick with the look whether the job is there, a poll with what it
writes, or the end of the attempts. -/
def VideoPoller.advance (x : PollCrates) (p : VideoPoller) (jobs : VideoJobs)
    (found : PollFindings) (now : Time) : VideoAnswer × Block VideoJobs VideoPoller :=
  match p.point with
  | .stopped => (.gone, ⟨p, [], jobs⟩)
  | .waiting 0 =>
    (.gaveUp, ⟨{ p with point := .stopped }, [], jobs.change p.jobId fun job => job.timeOut now⟩)
  | .waiting (left + 1) =>
    if (jobs.lookup p.jobId).isSome then (.ticked, ⟨{ p with point := .polling left }, [], jobs⟩)
    else (.gone, ⟨{ p with point := .stopped }, [], jobs⟩)
  | .polling left =>
    match videoPollStatus x found p.providerJobId with
    | .ok report =>
      match jobs.lookup p.jobId with
      | none => (.polled, ⟨{ p with point := .stopped }, [], jobs⟩)
      | some job => (.polled, ⟨{ p with point := .afterReport left report.status }, [],
          jobs.insert p.jobId (job.noteReport report now)⟩)
    | .error error => (.polled, ⟨{ p with point := .waiting left }, [],
        jobs.change p.jobId fun job => job.noteError error.message now⟩)

/-! ## The node -/

/-- A step of the node. -/
inductive VideoLabel
  | create (input : VideoCreateRequestBody) (id : Uuid) (providerJobId : Except ApiError String)
      (now : Time)
  /-- The next block of the poller with a number. -/
  | advance (i : ℕ) (found : PollFindings) (now : Time)

namespace VideoNode

/-- Identifiers of jobs are new, and a poller that has stopped does nothing more. -/
def Enabled (s : VideoNode) : VideoLabel → Prop
  | .create _ id _ _ => s.shared.lookup id = none
  | .advance i _ _ => ∃ p ∈ s.threads[i]?, p.point ≠ .stopped

instance (s : VideoNode) : DecidablePred s.Enabled
  | .create _ id _ _ => inferInstanceAs (Decidable (s.shared.lookup id = none))
  | .advance i _ _ => inferInstanceAs (Decidable (∃ p ∈ s.threads[i]?, p.point ≠ .stopped))

/-- What a step does. -/
def step (x : PollCrates) (s : VideoNode) : VideoLabel → VideoAnswer × VideoNode
  | .create input id providerJobId now =>
    let (result, s') := videoCreate s input id providerJobId now
    (.created result, s')
  | .advance i found now =>
    match s.threads[i]? with
    | some p =>
      let (answer, block) := p.advance x s.shared found now
      (answer, s.after i block)
    | none => (.gone, s)

/-- A node that has just been started has no jobs. -/
def Initial (s : VideoNode) : Prop := s = ⟨∅, []⟩

end VideoNode

/-- Requests for videos and the blocks of the pollers, in any order. -/
def videoMachine (x : PollCrates) : Machine VideoNode VideoLabel VideoAnswer where
  init := VideoNode.Initial
  enabled := VideoNode.Enabled
  step := VideoNode.step x

/-! ## What a step does -/

variable {x : PollCrates} {found : PollFindings} {now : Time}

/-- What a poller that has not stopped does to its job. -/
inductive Advance (x : PollCrates) (found : PollFindings) (now : Time) (providerJobId : String)
    (job : VideoJob) : PollPoint → VideoAnswer → PollPoint → VideoJob → Prop
  | tick (left : ℕ) :
    Advance x found now providerJobId job (.waiting (left + 1)) .ticked (.polling left) job
  | report (left : ℕ) {report : VideoReport}
      (h : videoPollStatus x found providerJobId = .ok report) :
    Advance x found now providerJobId job (.polling left) .polled
      (.afterReport left report.status) (job.noteReport report now)
  | fail (left : ℕ) {error : ApiError} (h : videoPollStatus x found providerJobId = .error error) :
    Advance x found now providerJobId job (.polling left) .polled (.waiting left)
      (job.noteError error.message now)
  | giveUp : Advance x found now providerJobId job (.waiting 0) .gaveUp .stopped (job.timeOut now)

lemma VideoJobs.change_of_lookup {jobs : VideoJobs} {id : Uuid} {job : VideoJob}
    {f : VideoJob → VideoJob} (h : jobs.lookup id = some job) :
    jobs.change id f = jobs.insert id (f job) := by
  rw [change, h]

/-- **Blocks of a poller.**  A poller whose job is there writes into that job only. -/
theorem VideoPoller.advance_spec {jobs : VideoJobs} {job : VideoJob} (x : PollCrates)
    (p : VideoPoller) (found : PollFindings) (now : Time)
    (hjob : jobs.lookup p.jobId = some job) (hpoint : p.point ≠ .stopped) :
    ∃ answer point job', Advance x found now p.providerJobId job p.point answer point job' ∧
      p.advance x jobs found now =
        (answer, ⟨{ p with point := point }, [], jobs.insert p.jobId job'⟩) := by
  obtain ⟨id, providerJobId, point⟩ := p
  cases point with
  | stopped => exact absurd rfl hpoint
  | waiting left =>
    cases left with
    | zero =>
      refine ⟨_, _, _, .giveUp, ?_⟩
      simp only [advance, VideoJobs.change_of_lookup hjob]
    | succ left =>
      refine ⟨_, _, _, .tick left, ?_⟩
      simp only [advance, hjob, Option.isSome_some, if_true, insert_lookup_self hjob]
  | polling left =>
    cases hpoll : videoPollStatus x found providerJobId with
    | ok report =>
      refine ⟨_, _, _, .report left hpoll, ?_⟩
      simp only [advance, hpoll, hjob]
    | error error =>
      refine ⟨_, _, _, .fail left hpoll, ?_⟩
      simp only [advance, hpoll, VideoJobs.change_of_lookup hjob]

namespace Advance

variable {providerJobId : String} {job job' : VideoJob} {point point' : PollPoint}
  {answer : VideoAnswer}

/-- The poller stops exactly when the job ends. -/
lemma stopped_iff (h : Advance x found now providerJobId job point answer point' job')
    (hlive : job.status.isTerminal = false) :
    job'.status.isTerminal = true ↔ point' = .stopped := by
  cases h with
  | tick left => simp [hlive]
  | report left hreport =>
    simp only [PollPoint.afterReport, VideoJob.noteReport]
    split_ifs with hend <;> simp [hend]
  | fail left herror => simp [VideoJob.noteError, hlive]
  | giveUp =>
    have hended : (job.timeOut now).status = .failed := by simp [VideoJob.timeOut, hlive]
    simp [hended, VideoStatus.isTerminal]

end Advance

/-! ## Every job has a poller of its own -/

namespace VideoNode

/-- Every job has exactly one poller, which works on it until it has ended. -/
structure Inv (s : VideoNode) : Prop where
  unique : ∀ (i j : ℕ) (p q : VideoPoller), s.threads[i]? = some p → s.threads[j]? = some q →
    p.jobId = q.jobId → i = j
  polled : ∀ id job, s.shared.lookup id = some job → ∃ (i : ℕ) (p : VideoPoller),
    s.threads[i]? = some p ∧ p.jobId = id
  working : ∀ (i : ℕ) (p : VideoPoller), s.threads[i]? = some p →
    ∃ job, s.shared.lookup p.jobId = some job ∧
      (job.status.isTerminal = true ↔ p.point = .stopped)

variable {s : VideoNode} {l : VideoLabel} {i : ℕ} {p : VideoPoller}

lemma inv_of_initial (h : s.Initial) : s.Inv := by
  obtain rfl := h
  exact ⟨by simp, by simp, by simp⟩

/-- What a step can do: create a job with its poller, refuse to, or have a poller work on its job,
which has not ended. -/
inductive Turn (x : PollCrates) (s : VideoNode) : VideoLabel → VideoAnswer × VideoNode → Prop
  | creates (input : VideoCreateRequestBody) (id : Uuid) (providerJobId : String) (now : Time)
      (result : Except ApiError VideoJob) (hnew : s.shared.lookup id = none) :
    Turn x s (.create input id (.ok providerJobId) now)
      (.created result, ⟨s.shared.insert id (input.job id providerJobId now),
        s.threads ++ [⟨id, providerJobId, .waiting videoPollMaxAttempts⟩]⟩)
  | refuses (input : VideoCreateRequestBody) (id : Uuid) (created : Except ApiError String)
      (now : Time) (result : Except ApiError VideoJob) :
    Turn x s (.create input id created now) (.created result, s)
  | advances {i : ℕ} {found : PollFindings} {now : Time} {p : VideoPoller} {job job' : VideoJob}
      {answer : VideoAnswer} {point : PollPoint} (hp : s.threads[i]? = some p)
      (hjob : s.shared.lookup p.jobId = some job) (hlive : job.status.isTerminal = false)
      (hadvance : Advance x found now p.providerJobId job p.point answer point job') :
    Turn x s (.advance i found now)
      (answer, s.after i ⟨{ p with point := point }, [], s.shared.insert p.jobId job'⟩)

/-- **Steps.**  Every step takes one of the turns. -/
theorem turn_step (hs : s.Inv) (hen : s.Enabled l) : Turn x s l (step x s l) := by
  cases l with
  | create input id created now =>
    simp only [step, videoCreate]
    split_ifs with hblank
    · exact .refuses input id created now _
    · cases created with
      | error error => exact .refuses input id _ now _
      | ok providerJobId => exact .creates input id providerJobId now _ hen
  | advance i found now =>
    obtain ⟨p, hp, hpoint⟩ := hen
    rw [Option.mem_def] at hp
    obtain ⟨job, hjob, hended⟩ := hs.working i p hp
    obtain ⟨answer, point, job', hadvance, hstep⟩ :=
      VideoPoller.advance_spec x p found now hjob hpoint
    have hlive : job.status.isTerminal = false := by
      rw [← Bool.not_eq_true, hended]
      exact hpoint
    simp only [step, hp, hstep]
    exact .advances hp hjob hlive hadvance

/-- A job that is new brings a poller of its own. -/
lemma Inv.create (hs : s.Inv) {id : Uuid} {providerJobId : String} {job : VideoJob}
    (hnew : s.shared.lookup id = none) (hjob : job.status = .queued) :
    VideoNode.Inv ⟨s.shared.insert id job,
      s.threads ++ [⟨id, providerJobId, .waiting videoPollMaxAttempts⟩]⟩ := by
  have hold : ∀ (i : ℕ) (p : VideoPoller), s.threads[i]? = some p → p.jobId ≠ id := by
    rintro i p hp rfl
    obtain ⟨job, hfound, -⟩ := hs.working i p hp
    rw [hnew] at hfound
    exact absurd hfound nofun
  constructor
  · intro i j p q hp hq hid
    rcases getElem?_concat_eq_some.mp hp with hp | ⟨hi, rfl⟩ <;>
      rcases getElem?_concat_eq_some.mp hq with hq | ⟨hj, rfl⟩
    · exact hs.unique i j p q hp hq hid
    · exact absurd hid (hold i p hp)
    · exact absurd hid.symm (hold j q hq)
    · rw [hi, hj]
  · intro other found hfound
    rcases lookup_insert_eq_some.mp hfound with ⟨rfl, -⟩ | ⟨-, hfound⟩
    · exact ⟨s.threads.length, _, List.getElem?_concat_length, rfl⟩
    · obtain ⟨i, p, hp, hid⟩ := hs.polled other found hfound
      exact ⟨i, p, getElem?_concat_eq_some.mpr (.inl hp), hid⟩
  · intro i p hp
    rcases getElem?_concat_eq_some.mp hp with hp | ⟨-, rfl⟩
    · obtain ⟨found, hfound, hended⟩ := hs.working i p hp
      refine ⟨found, ?_, hended⟩
      exact lookup_insert_eq_some.mpr (.inr ⟨hold i p hp, hfound⟩)
    · refine ⟨job, Finmap.lookup_insert _, ?_⟩
      simp [hjob, VideoStatus.isTerminal]

/-- A poller works on no job but its own. -/
lemma Inv.advance (hs : s.Inv) {point : PollPoint} {job : VideoJob} (hp : s.threads[i]? = some p)
    (hended : job.status.isTerminal = true ↔ point = .stopped) :
    VideoNode.Inv (s.after i ⟨{ p with point := point }, [], s.shared.insert p.jobId job⟩) := by
  have hself : (s.after i ⟨{ p with point := point }, [],
      s.shared.insert p.jobId job⟩).threads[i]? = some { p with point := point } :=
    Threads.getElem?_after_self hp
  have hcases : ∀ (j : ℕ) (q : VideoPoller),
      (s.after i ⟨{ p with point := point }, [],
        s.shared.insert p.jobId job⟩).threads[j]? = some q →
      ∃ q', s.threads[j]? = some q' ∧ q.jobId = q'.jobId := by
    intro j q hq
    rcases Threads.getElem?_after hq with ⟨rfl, rfl⟩ | ⟨-, hq⟩
    · exact ⟨p, hp, rfl⟩
    · exact ⟨q, hq, rfl⟩
  constructor
  · intro j k q r hq hr hid
    obtain ⟨q', hq', hqid⟩ := hcases j q hq
    obtain ⟨r', hr', hrid⟩ := hcases k r hr
    exact hs.unique j k q' r' hq' hr' (by rw [← hqid, ← hrid, hid])
  · intro id found hfound
    rcases lookup_insert_eq_some.mp hfound with ⟨rfl, -⟩ | ⟨hne, hfound⟩
    · exact ⟨i, _, hself, rfl⟩
    · obtain ⟨j, q, hq, hid⟩ := hs.polled id found hfound
      have hij : i ≠ j := by
        rintro rfl
        rw [hp] at hq
        exact hne (hid.symm.trans (congrArg VideoPoller.jobId (Option.some.inj hq)).symm)
      exact ⟨j, q, Threads.getElem?_after_of_ne hij hq, hid⟩
  · intro j q hq
    rcases Threads.getElem?_after hq with ⟨rfl, rfl⟩ | ⟨hji, hq⟩
    · exact ⟨job, Finmap.lookup_insert _, hended⟩
    -- another poller has another job, which the step leaves alone
    · obtain ⟨found, hfound, hiff⟩ := hs.working j q hq
      have hne : q.jobId ≠ p.jobId := fun hid => hji (hs.unique j i q p hq hp hid)
      exact ⟨found, lookup_insert_eq_some.mpr (.inr ⟨hne, hfound⟩), hiff⟩

/-- **Pollers.**  Every step keeps one poller for each job. -/
theorem inv_step (hs : s.Inv) (hen : s.Enabled l) : VideoNode.Inv (step x s l).2 := by
  have hturn := turn_step (x := x) hs hen
  generalize step x s l = next at hturn
  cases hturn with
  | creates input id providerJobId now result hnew => exact hs.create hnew rfl
  | refuses input id created now result => exact hs
  | advances hp hjob hlive hadvance => exact hs.advance hp (hadvance.stopped_iff hlive)

end VideoNode

/-! ## Every job ends -/

/-- The steps of a poller. -/
def isStepOf (i : ℕ) (e : VideoLabel × VideoAnswer) : Bool :=
  match e.1 with
  | .advance j _ _ => decide (j = i)
  | .create _ _ _ _ => false

/-- The polls of a poller. -/
def isPollOf (i : ℕ) (e : VideoLabel × VideoAnswer) : Bool :=
  match e.2 with
  | .polled => isStepOf i e
  | _ => false

/-- How a poller has used its attempts: every one takes a tick and a poll. -/
def PollPoint.Spent (polls steps : ℕ) : PollPoint → Prop
  | .waiting left => polls + left = videoPollMaxAttempts ∧ steps = 2 * polls
  | .polling left => polls + left + 1 = videoPollMaxAttempts ∧ steps = 2 * polls + 1
  | .stopped => polls ≤ videoPollMaxAttempts

/-- What the steps that have been taken say of the pollers. -/
structure PollHistory (tr : List (VideoLabel × VideoAnswer)) (s : VideoNode) : Prop where
  spent : ∀ (i : ℕ) (p : VideoPoller), s.threads[i]? = some p →
    p.point.Spent (tr.countP (isPollOf i)) (tr.countP (isStepOf i))
  unborn : ∀ i, s.threads.length ≤ i →
    tr.countP (isPollOf i) = 0 ∧ tr.countP (isStepOf i) = 0

/-- An advance of a poller counts as a step, and as a poll exactly if it polls. -/
lemma Advance.spent {providerJobId : String} {job job' : VideoJob} {point point' : PollPoint}
    {answer : VideoAnswer} {i polls steps : ℕ}
    (h : Advance x found now providerJobId job point answer point' job')
    (hspent : point.Spent polls steps) :
    point'.Spent (polls + if isPollOf i (.advance i found now, answer) then 1 else 0)
      (steps + 1) := by
  cases h with
  | tick left =>
    obtain ⟨hpolls, hsteps⟩ := hspent
    exact ⟨by simp [isPollOf]; omega, by simp [isPollOf]; omega⟩
  | report left hreport =>
    obtain ⟨hpolls, hsteps⟩ := hspent
    rw [PollPoint.afterReport]
    split_ifs with hpoll hend hend
    · show polls + 1 ≤ videoPollMaxAttempts
      omega
    · exact ⟨by omega, by omega⟩
    · exact absurd (by simp [isPollOf, isStepOf]) hpoll
    · exact absurd (by simp [isPollOf, isStepOf]) hpoll
  | fail left herror =>
    obtain ⟨hpolls, hsteps⟩ := hspent
    exact ⟨by simp [isPollOf, isStepOf]; omega, by simp [isPollOf, isStepOf]; omega⟩
  | giveUp =>
    obtain ⟨hpolls, -⟩ := hspent
    show _ ≤ videoPollMaxAttempts
    simp [isPollOf]
    omega

variable {s s₀ s' : VideoNode} {l : VideoLabel} {tr tr' : List (VideoLabel × VideoAnswer)}

/-- The step of another counts for nothing. -/
lemma countP_of_not_isStepOf {i : ℕ} {e : VideoLabel × VideoAnswer} (h : isStepOf i e = false) :
    (tr ++ [e]).countP (isPollOf i) = tr.countP (isPollOf i) ∧
      (tr ++ [e]).countP (isStepOf i) = tr.countP (isStepOf i) := by
  have hpoll : isPollOf i e = false := by
    rw [isPollOf]
    cases e.2 with
    | polled => exact h
    | _ => rfl
  rw [List.countP_append, List.countP_append, List.countP_singleton, List.countP_singleton, h,
    hpoll]
  exact ⟨rfl, rfl⟩

/-- A request is no step of a poller. -/
lemma PollHistory.request (h : PollHistory tr s) {e : VideoLabel × VideoAnswer}
    (hrequest : ∀ i, isStepOf i e = false) : PollHistory (tr ++ [e]) s := by
  constructor
  · intro i p hp
    rw [(countP_of_not_isStepOf (hrequest i)).1, (countP_of_not_isStepOf (hrequest i)).2]
    exact h.spent i p hp
  · intro i hi
    rw [(countP_of_not_isStepOf (hrequest i)).1, (countP_of_not_isStepOf (hrequest i)).2]
    exact h.unborn i hi

/-- A new poller has all of its attempts before it. -/
lemma PollHistory.start (h : PollHistory tr s) {jobs : VideoJobs} {id : Uuid}
    {providerJobId : String} :
    PollHistory tr
      ⟨jobs, s.threads ++ [⟨id, providerJobId, .waiting videoPollMaxAttempts⟩]⟩ := by
  constructor
  · intro i p hp
    rcases getElem?_concat_eq_some.mp hp with hp | ⟨rfl, rfl⟩
    · exact h.spent i p hp
    · obtain ⟨hpolls, hsteps⟩ := h.unborn _ le_rfl
      rw [hpolls, hsteps]
      exact ⟨Nat.zero_add _, rfl⟩
  · intro i hi
    rw [List.length_append, List.length_singleton] at hi
    exact h.unborn i (by omega)

namespace VideoNode

/-- **Attempts.**  Every step keeps the account of the attempts. -/
theorem pollHistory_step (hs : s.Inv) (hen : s.Enabled l) (h : PollHistory tr s) :
    PollHistory (tr ++ [(l, (step x s l).1)]) (step x s l).2 := by
  have hturn := turn_step (x := x) hs hen
  generalize step x s l = next at hturn
  cases hturn with
  | creates input id providerJobId now result hnew => exact h.start.request fun _ => rfl
  | refuses input id created now result => exact h.request fun _ => rfl
  | @advances i found now p job job' answer point hp hjob hlive hadvance =>
    have hlt : i < s.threads.length := (List.getElem?_eq_some_iff.mp hp).1
    constructor
    · intro j q hq
      rcases Threads.getElem?_after hq with ⟨rfl, rfl⟩ | ⟨hji, hq⟩
      · have hspent := hadvance.spent (i := j) (h.spent j p hp)
        rw [List.countP_append, List.countP_append, List.countP_singleton, List.countP_singleton]
        simpa [isStepOf] using hspent
      · have hother : isStepOf j (.advance i found now, answer) = false :=
          decide_eq_false hji.symm
        rw [(countP_of_not_isStepOf hother).1, (countP_of_not_isStepOf hother).2]
        exact h.spent j q hq
    · intro j hj
      have hlength : (s.after i ⟨{ p with point := point }, [],
          s.shared.insert p.jobId job'⟩).threads.length = s.threads.length := by
        simp [Threads.after]
      replace hj : s.threads.length ≤ j := hlength ▸ hj
      have hother : isStepOf j (.advance i found now, answer) = false :=
        decide_eq_false (by omega)
      rw [(countP_of_not_isStepOf hother).1, (countP_of_not_isStepOf hother).2]
      exact h.unborn j hj

/-- A job stays, and as it is once it has ended. -/
lemma lookup_step (hs : s.Inv) (hen : s.Enabled l) {id : Uuid} {job : VideoJob}
    (hjob : s.shared.lookup id = some job) : ∃ job', (step x s l).2.shared.lookup id = some job' ∧
      (job.status.isTerminal = true → job' = job) := by
  have hturn := turn_step (x := x) hs hen
  generalize step x s l = next at hturn
  cases hturn with
  | creates input other providerJobId now result hnew =>
    refine ⟨job, lookup_insert_eq_some.mpr (.inr ⟨?_, hjob⟩), fun _ => rfl⟩
    rintro rfl
    rw [hnew] at hjob
    exact absurd hjob nofun
  | refuses input other created now result => exact ⟨job, hjob, fun _ => rfl⟩
  | @advances i found now p live job' answer point hp hlookup hlive hadvance =>
    by_cases hid : id = p.jobId
    · subst hid
      rw [hlookup] at hjob
      obtain rfl := Option.some.inj hjob
      refine ⟨job', Finmap.lookup_insert _, fun hended => ?_⟩
      rw [hlive] at hended
      exact absurd hended Bool.false_ne_true
    · exact ⟨job, lookup_insert_eq_some.mpr (.inr ⟨hid, hjob⟩), fun _ => rfl⟩

lemma inv_of_run (h₀ : s₀.Initial) (hrun : (videoMachine x).Run s₀ tr s) : s.Inv :=
  hrun.invariant (fun _ _ hs hen => inv_step hs hen) (inv_of_initial h₀)

lemma pollHistory_of_run (h₀ : s₀.Initial) (hrun : (videoMachine x).Run s₀ tr s) :
    PollHistory tr s := by
  refine hrun.history ⟨?_, ?_⟩ fun tr m l hm h hen => pollHistory_step (inv_of_run h₀ hm) hen h
  · obtain rfl := h₀
    intro i p hp
    exact absurd hp (by simp)
  · exact fun _ _ => ⟨rfl, rfl⟩

lemma lookup_of_run (hs : s.Inv) (hrun : (videoMachine x).Run s tr' s') {id : Uuid}
    {job : VideoJob} (hjob : s.shared.lookup id = some job) :
    ∃ job', s'.shared.lookup id = some job' ∧ (job.status.isTerminal = true → job' = job) := by
  refine (hrun.invariant (I := fun m : VideoNode => m.Inv ∧ ∃ job', m.shared.lookup id = some job' ∧
    (job.status.isTerminal = true → job' = job)) ?_ ⟨hs, job, hjob, fun _ => rfl⟩).2
  rintro m l ⟨hinv, job', hjob', hkept⟩ hen
  obtain ⟨job'', hjob'', hkept'⟩ := lookup_step (x := x) hinv hen hjob'
  refine ⟨inv_step hinv hen, job'', hjob'', fun hended => ?_⟩
  obtain rfl := hkept hended
  exact hkept' hended

end VideoNode

/-- **Life of a job.**  At any point of any run, a job has a poller which has polled at most
`videoPollMaxAttempts` times.  The poller can go on as long as the job has not ended; when it has
taken a tick and a poll for every attempt and one step more, the job has ended.  A job is never
lost, and once it has ended it never changes. -/
theorem video_jobs_end (x : PollCrates) {s₀ s : VideoNode} {tr : List (VideoLabel × VideoAnswer)}
    (h₀ : (videoMachine x).init s₀) (hrun : (videoMachine x).Run s₀ tr s) {id : Uuid}
    {job : VideoJob} (hjob : s.shared.lookup id = some job) :
    ∃ (i : ℕ) (p : VideoPoller), s.threads[i]? = some p ∧ p.jobId = id ∧
      tr.countP (isPollOf i) ≤ videoPollMaxAttempts ∧
      (2 * videoPollMaxAttempts < tr.countP (isStepOf i) → job.status.isTerminal = true) ∧
      (job.status.isTerminal = false →
        ∀ found now, (videoMachine x).enabled s (.advance i found now)) ∧
      ∀ tr' s', (videoMachine x).Run s tr' s' → ∃ job', s'.shared.lookup id = some job' ∧
        (job.status.isTerminal = true → job' = job) := by
  have hs : s.Inv := VideoNode.inv_of_run h₀ hrun
  obtain ⟨i, p, hp, rfl⟩ := hs.polled id job hjob
  obtain ⟨job', hjob', hended⟩ := hs.working i p hp
  rw [hjob] at hjob'
  obtain rfl := Option.some.inj hjob'
  -- the point of the poller says how many of its attempts are spent
  have hspent := (VideoNode.pollHistory_of_run h₀ hrun).spent i p hp
  refine ⟨i, p, hp, rfl, ?_, ?_, ?_, fun tr' s' hrun' => VideoNode.lookup_of_run hs hrun' hjob⟩
  · cases hpoint : p.point with
    | waiting left =>
      rw [hpoint] at hspent
      obtain ⟨hpolls, -⟩ := hspent
      omega
    | polling left =>
      rw [hpoint] at hspent
      obtain ⟨hpolls, -⟩ := hspent
      omega
    | stopped =>
      rw [hpoint] at hspent
      exact hspent
  · intro hsteps
    rw [hended]
    cases hpoint : p.point with
    | waiting left =>
      rw [hpoint] at hspent
      obtain ⟨hpolls, hcount⟩ := hspent
      omega
    | polling left =>
      rw [hpoint] at hspent
      obtain ⟨hpolls, hcount⟩ := hspent
      omega
    | stopped => rfl
  · intro hlive found now
    refine ⟨p, hp, fun hstopped => ?_⟩
    rw [← hended, hlive] at hstopped
    exact absurd hstopped Bool.false_ne_true

/-! ## A provider -/

/-- The address of a clip. -/
def clipUrl : String := "https://cdn.example.com/7.mp4"

/-- The answers of a provider that is done, with a URL and without one. -/
def doneWithUrl : String := r#"{"status":"succeeded","video_url":""# ++ clipUrl ++ r#""}"#

/-- An answer that reports success and no address. -/
def doneWithoutUrl : String := r#"{"status":"succeeded"}"#

/-- The libraries, which read the two answers. -/
def mockProviderCrates : PollCrates :=
  { unsignedCrates with
    readJson := fun _ => .error "expected value at line 1 column 1"
    readStatusResponse := fun body =>
      if body = doneWithUrl then .ok ⟨some "succeeded", some clipUrl, none, none, none⟩
      else if body = doneWithoutUrl then .ok ⟨some "succeeded", none, none, none, none⟩
      else .error "expected value at line 1 column 1"
    readErrorEnvelope := fun _ => none }

/-- A provider of videos. -/
def mockVideoProvider : GenericProvider where
  kind := .cloudVideo
  baseUrl := "https://video.example.com"
  model := "clip-1"
  apiKey := "sk-video"
  auth := .bearer
  videoDialect := .openAiCompat
  extra := []

/-- A poll that gets an answer. -/
def pollFinds (answer : HttpAnswer) : PollFindings :=
  { provider := .ok mockVideoProvider, send := fun _ => answer, now := 1767225600 }

/-- A request for a video, and the polls of its poller, each after a tick. -/
def videoRun (answers : List HttpAnswer) : List VideoLabel :=
  .create ⟨"https://cdn.example.com/first.png", none, some "turn", none⟩ (.ofNat 1) (.ok "job-7")
      1767225600 ::
    answers.flatMap fun answer =>
      [.advance 0 (pollFinds answer) 1767225610, .advance 0 (pollFinds answer) 1767225610]

/-- A node just started, after such a run. -/
def nodeAfter (answers : List HttpAnswer) : List (VideoLabel × VideoAnswer) × VideoNode :=
  (videoMachine mockProviderCrates).exec ⟨∅, []⟩ (videoRun answers)

/-- The job of such a run, with what has become of it. -/
def jobWith (status : VideoStatus) (videoUrl error : Option String) : VideoJob where
  id := .ofNat 1
  status := status
  providerJobId := some "job-7"
  videoUrl := videoUrl
  error := error
  createdAt := 1767225600
  updatedAt := 1767225610
  firstFrameUrl := "https://cdn.example.com/first.png"
  lastFrameUrl := none
  prompt := "turn"
  durationSeconds := 8

instance (x : PollCrates) (s : VideoNode) (l : VideoLabel) :
    Decidable ((videoMachine x).enabled s l) :=
  inferInstanceAs (Decidable (s.Enabled l))

lemma run_doneWithUrl : (videoMachine mockProviderCrates).Run ⟨∅, []⟩
    (nodeAfter [.answered (.ok doneWithUrl)]).1 (nodeAfter [.answered (.ok doneWithUrl)]).2 :=
  Machine.run_exec (by decide)

/-- A video that is done stays as it is. -/
theorem video_jobs_end_done : ∃ (i : ℕ) (p : VideoPoller),
    (nodeAfter [.answered (.ok doneWithUrl)]).2.threads[i]? = some p ∧ p.jobId = .ofNat 1 ∧
    ∀ tr' s', (videoMachine mockProviderCrates).Run (nodeAfter [.answered (.ok doneWithUrl)]).2
        tr' s' →
      s'.shared.lookup (.ofNat 1) = some (jobWith .succeeded (some clipUrl) none) := by
  have hjob : (nodeAfter [.answered (.ok doneWithUrl)]).2.shared.lookup (.ofNat 1) =
      some (jobWith .succeeded (some clipUrl) none) := by decide
  obtain ⟨i, p, hp, hid, -, -, -, hkept⟩ := video_jobs_end mockProviderCrates rfl
    run_doneWithUrl hjob
  refine ⟨i, p, hp, hid, fun tr' s' hrun' => ?_⟩
  obtain ⟨job', hjob', hended⟩ := hkept tr' s' hrun'
  rw [hjob', hended rfl]

/-! ## What the status of a job means -/

/-- A job that has succeeded has a URL and no error; one that has failed says why. -/
structure VideoJob.Meaningful (job : VideoJob) : Prop where
  succeeded : job.status = .succeeded →
    (∃ url, job.videoUrl = some url ∧ url ≠ "") ∧ job.error = none
  failed : job.status = .failed → job.error.isSome = true

/-- The poller waits for an answer. -/
def PollPoint.isPolling : PollPoint → Bool
  | .polling _ => true
  | .waiting _ | .stopped => false

/-- The job can be done: it has no error of an earlier poll, and it gets a URL or has one. -/
def VideoJob.Ready (job : VideoJob) (url : Option String) : Prop :=
  job.error = none ∧ (url.isSome = true ∨ job.videoUrl.isSome = true)

/-- Where the provider hands over a video that is done, the job can be done. -/
def VideoNode.CleanlyDone (x : PollCrates) (s : VideoNode) : VideoLabel → Prop
  | .create _ _ _ _ => True
  | .advance i found _ => ∀ p ∈ s.threads[i]?, p.point.isPolling = true →
      ∀ url ∈ found.handedOver x p.providerJobId, ∀ job ∈ s.shared.lookup p.jobId, job.Ready url

instance (job : VideoJob) (url : Option String) : Decidable (job.Ready url) :=
  inferInstanceAs (Decidable (job.error = none ∧ (url.isSome = true ∨ job.videoUrl.isSome = true)))

instance (x : PollCrates) (s : VideoNode) : DecidablePred (s.CleanlyDone x)
  | .create _ _ _ _ => inferInstanceAs (Decidable True)
  | .advance i found _ => inferInstanceAs (Decidable (∀ p ∈ s.threads[i]?,
      p.point.isPolling = true → ∀ url ∈ found.handedOver x p.providerJobId,
        ∀ job ∈ s.shared.lookup p.jobId, job.Ready url))

/-- All jobs of a node are meaningful, and their URLs are not empty. -/
structure VideoNode.Sound (s : VideoNode) : Prop extends s.Inv where
  meaningful : ∀ id job, s.shared.lookup id = some job → job.Meaningful
  urls : ∀ id job url, s.shared.lookup id = some job → job.videoUrl = some url → url ≠ ""

lemma VideoJob.meaningful_of_live {job : VideoJob} (h : job.status.isTerminal = false) :
    job.Meaningful := by
  constructor
  · intro hstatus
    rw [hstatus] at h
    exact absurd h nofun
  · intro hstatus
    rw [hstatus] at h
    exact absurd h nofun

/-- A report of a video that is done, as it is handed over. -/
lemma handedOver_of_report {providerJobId : String} {report : VideoReport}
    (h : videoPollStatus x found providerJobId = .ok report) :
    found.handedOver x providerJobId = report.handedOver := by
  rw [handedOver_eq, h]
  rfl

namespace Advance

variable {providerJobId : String} {job job' : VideoJob} {point point' : PollPoint}
  {answer : VideoAnswer}

/-- URLs that are written into a job are not empty. -/
lemma ne_empty (h : Advance x found now providerJobId job point answer point' job')
    (hurls : ∀ url, job.videoUrl = some url → url ≠ "") :
    ∀ url, job'.videoUrl = some url → url ≠ "" := by
  cases h with
  | tick left => exact hurls
  | @report left report hreport =>
    intro url hurl
    simp only [VideoJob.noteReport] at hurl
    split at hurl
    · next reported hreported =>
      obtain rfl := Option.some.inj hurl
      exact ne_empty_of_videoPollStatus hreport hreported
    · exact hurls url hurl
  | fail left herror => exact hurls
  | giveUp =>
    intro url hurl
    refine hurls url ?_
    rw [VideoJob.timeOut] at hurl
    split_ifs at hurl <;> exact hurl

/-- A job that a report ends with success is meaningful exactly if it could be done. -/
lemma meaningful_of_succeeded {report : VideoReport}
    (hreport : videoPollStatus x found providerJobId = .ok report)
    (hdone : report.status = .succeeded) (hurls : ∀ url, job.videoUrl = some url → url ≠ "") :
    (job.noteReport report now).Meaningful ↔ job.Ready report.videoUrl := by
  have herror : (job.noteReport report now).error = job.error := by
    simp [VideoJob.noteReport, hdone]
  have hurl : (job.noteReport report now).videoUrl = report.videoUrl.or job.videoUrl := by
    cases hreported : report.videoUrl <;> simp [VideoJob.noteReport, hreported]
  have hadvance : Advance x found now providerJobId job (.polling 0) .polled
      (.afterReport 0 report.status) (job.noteReport report now) := .report 0 hreport
  have hne := hadvance.ne_empty hurls
  constructor
  · intro hmeaning
    obtain ⟨⟨url, hfound, -⟩, hnone⟩ := hmeaning.succeeded hdone
    refine ⟨herror ▸ hnone, ?_⟩
    rw [hurl] at hfound
    rcases Option.or_eq_some_iff.mp hfound with hfound | ⟨-, hfound⟩
    · exact .inl (hfound ▸ rfl)
    · exact .inr (hfound ▸ rfl)
  · rintro ⟨hnone, hsome⟩
    constructor
    · intro _
      have hfound : (report.videoUrl.or job.videoUrl).isSome = true := by
        rw [Option.isSome_or, Bool.or_eq_true]
        exact hsome
      obtain ⟨url, hfound⟩ := Option.isSome_iff_exists.mp hfound
      rw [← hurl] at hfound
      exact ⟨⟨url, hfound, hne url hfound⟩, herror.trans hnone⟩
    · intro hfailed
      exact absurd (hdone.symm.trans hfailed) nofun

/-- **Meaning.**  After the advance of a poller its job is meaningful exactly if it could be done
when the provider handed over the video. -/
theorem meaningful_iff (h : Advance x found now providerJobId job point answer point' job')
    (hlive : job.status.isTerminal = false) (hurls : ∀ url, job.videoUrl = some url → url ≠ "") :
    job'.Meaningful ↔ (point.isPolling = true →
      ∀ url ∈ found.handedOver x providerJobId, job.Ready url) := by
  cases h with
  | tick left =>
    exact iff_of_true (VideoJob.meaningful_of_live hlive) fun hpolling =>
      absurd hpolling Bool.false_ne_true
  | @report left report hreport =>
    rw [handedOver_of_report hreport, VideoReport.handedOver]
    by_cases hdone : report.status = .succeeded
    · rw [if_pos hdone, meaningful_of_succeeded hreport hdone hurls]
      constructor
      · rintro hready - url hurl
        obtain rfl := Option.some.inj hurl
        exact hready
      · exact fun hready => hready rfl _ rfl
    · rw [if_neg hdone]
      refine iff_of_true ⟨fun hstatus => absurd hstatus hdone, fun hfailed => ?_⟩
        fun _ _ hnone => absurd hnone (Option.not_mem_none _)
      have hstatus : report.status = .failed := hfailed
      simp [VideoJob.noteReport, hstatus]
  | fail left herror =>
    refine iff_of_true (VideoJob.meaningful_of_live hlive) fun _ url hurl => ?_
    rw [handedOver_eq, herror] at hurl
    exact absurd hurl (Option.not_mem_none _)
  | giveUp =>
    refine iff_of_true ?_ fun hpolling => absurd hpolling Bool.false_ne_true
    rw [VideoJob.timeOut, if_neg (by simp [hlive])]
    refine ⟨fun hdone => ?_, fun _ => rfl⟩
    cases hdone

end Advance

namespace VideoNode

lemma sound_of_initial (h : s.Initial) : s.Sound := by
  obtain rfl := h
  exact ⟨inv_of_initial rfl, by simp, by simp⟩

/-- A step keeps the jobs meaningful if it has the job ready when the video is done. -/
lemma sound_step (hs : s.Sound) (hen : s.Enabled l) (hclean : s.CleanlyDone x l) :
    VideoNode.Sound (step x s l).2 := by
  refine ⟨inv_step hs.toInv hen, ?_, ?_⟩
  · have hturn := turn_step (x := x) hs.toInv hen
    generalize step x s l = next at hturn
    intro id found hfound
    cases hturn with
    | creates input other providerJobId now result hnew =>
      rcases lookup_insert_eq_some.mp hfound with ⟨-, rfl⟩ | ⟨-, hfound⟩
      · exact VideoJob.meaningful_of_live rfl
      · exact hs.meaningful id found hfound
    | refuses input other created now result => exact hs.meaningful id found hfound
    | @advances i findings now p job job' answer point hp hjob hlive hadvance =>
      rcases lookup_insert_eq_some.mp hfound with ⟨-, rfl⟩ | ⟨-, hfound⟩
      · refine (hadvance.meaningful_iff hlive fun url => hs.urls _ _ url hjob).mpr ?_
        exact fun hpoint url hurl => hclean p hp hpoint url hurl job hjob
      · exact hs.meaningful id found hfound
  · have hturn := turn_step (x := x) hs.toInv hen
    generalize step x s l = next at hturn
    intro id found url hfound
    cases hturn with
    | creates input other providerJobId now result hnew =>
      rcases lookup_insert_eq_some.mp hfound with ⟨-, rfl⟩ | ⟨-, hfound⟩
      · exact nofun
      · exact hs.urls id found url hfound
    | refuses input other created now result => exact hs.urls id found url hfound
    | @advances i findings now p job job' answer point hp hjob hlive hadvance =>
      rcases lookup_insert_eq_some.mp hfound with ⟨-, rfl⟩ | ⟨-, hfound⟩
      · exact hadvance.ne_empty (fun url => hs.urls _ _ url hjob) url
      · exact hs.urls id found url hfound

/-- A step that does not leaves a job that is not meaningful. -/
lemma not_meaningful_step (hs : s.Sound) (hen : s.Enabled l) (hclean : ¬ s.CleanlyDone x l) :
    ¬ ∀ id job, (step x s l).2.shared.lookup id = some job → job.Meaningful := by
  have hturn := turn_step (x := x) hs.toInv hen
  generalize step x s l = next at hturn
  intro hall
  cases hturn with
  | creates input other providerJobId now result hnew => exact hclean trivial
  | refuses input other created now result => exact hclean trivial
  | @advances i findings now p job job' answer point hp hjob hlive hadvance =>
    have hmeaning : job'.Meaningful := hall p.jobId job' (Finmap.lookup_insert _)
    refine hclean fun q hq hpoint url hurl found hfound => ?_
    rw [Option.mem_def, hp] at hq
    obtain rfl := Option.some.inj hq
    rw [Option.mem_def, hjob] at hfound
    obtain rfl := Option.some.inj hfound
    exact (hadvance.meaningful_iff hlive fun url => hs.urls _ _ url hjob).mp hmeaning hpoint url
      hurl

end VideoNode

/-- **Meaning of success.**  All jobs are meaningful all through a run exactly if in every step that
has a provider hand over a video the job is ready for it: no earlier poll of the job has failed, and
a URL comes with the video or has come before. -/
theorem video_job_meaning_iff (x : PollCrates) {s₀ s : VideoNode}
    {tr : List (VideoLabel × VideoAnswer)} (h₀ : (videoMachine x).init s₀)
    (hrun : (videoMachine x).Run s₀ tr s) :
    (∀ before after m, tr = before ++ after → (videoMachine x).Run s₀ before m →
      ∀ id job, m.shared.lookup id = some job → job.Meaningful) ↔
      ((videoMachine x).restrict (VideoNode.CleanlyDone x)).Run s₀ tr s :=
  hrun.forall_good_iff (fun _ hs => hs.meaningful)
    (fun _ _ hs hen hclean => VideoNode.sound_step hs hen hclean)
    (fun _ _ hs hen hclean => VideoNode.not_meaningful_step hs hen hclean)
    (VideoNode.sound_of_initial h₀)

theorem video_job_meaning_done :
    (nodeAfter [.answered (.ok doneWithUrl)]).2.shared.lookup (.ofNat 1) =
        some (jobWith .succeeded (some clipUrl) none) ∧
      (jobWith .succeeded (some clipUrl) none).Meaningful := by
  have hclean : ((videoMachine mockProviderCrates).restrict
      (VideoNode.CleanlyDone mockProviderCrates)).Run ⟨∅, []⟩
      (nodeAfter [.answered (.ok doneWithUrl)]).1 (nodeAfter [.answered (.ok doneWithUrl)]).2 := by
    rw [nodeAfter, ← Machine.exec_restrict (VideoNode.CleanlyDone mockProviderCrates)]
    exact Machine.run_exec (by decide)
  have hjob : (nodeAfter [.answered (.ok doneWithUrl)]).2.shared.lookup (.ofNat 1) =
      some (jobWith .succeeded (some clipUrl) none) := by decide
  exact ⟨hjob, (video_job_meaning_iff mockProviderCrates rfl run_doneWithUrl).mpr hclean _ [] _
    (List.append_nil _).symm run_doneWithUrl _ _ hjob⟩

/-- A poll that fails before the one that finds the video leaves its error in the job. -/
theorem succeeded_job_with_error :
    ¬ ∀ (x : PollCrates) (s₀ s : VideoNode) (tr : List (VideoLabel × VideoAnswer)),
      (videoMachine x).init s₀ → (videoMachine x).Run s₀ tr s →
        ∀ id job, s.shared.lookup id = some job → job.Meaningful := by
  intro hall
  have hrun : (videoMachine mockProviderCrates).Run ⟨∅, []⟩
      (nodeAfter [.unreachable "operation timed out", .answered (.ok doneWithUrl)]).1
      (nodeAfter [.unreachable "operation timed out", .answered (.ok doneWithUrl)]).2 :=
    Machine.run_exec (by decide)
  have hjob : (nodeAfter [.unreachable "operation timed out",
      .answered (.ok doneWithUrl)]).2.shared.lookup (.ofNat 1) = some (jobWith .succeeded
        (some clipUrl) (some "video poll request failed: operation timed out")) := by decide
  exact absurd ((hall _ _ _ _ rfl hrun _ _ hjob).succeeded rfl).2 nofun

/-- A provider that is done can leave the job without a URL, too. -/
example : (nodeAfter [.answered (.ok doneWithoutUrl)]).2.shared.lookup (.ofNat 1) =
    some (jobWith .succeeded none none) := by decide

end OzonSuite
