/-
# What a provider says of a video

The node asks a provider for the status of a video.  Six parsers read the status and the URL out of
the answer, each on its own, and one of them asks for another request.  This file has a poll from
the request to the report, and says which answers report a video as done.
-/
import OzonSuite.Lib.AsciiText
import OzonSuite.Node.Capabilities
import OzonSuite.Node.PosterCopy

namespace OzonSuite

open Lib

/-! ## The words for a status -/

/-- Nothing more is to come. -/
def VideoStatus.isTerminal : VideoStatus → Bool
  | .succeeded | .failed => true
  | .queued | .running => false

/-- A word of a vocabulary.  A word that is not in it leaves the video running. -/
def statusFor (queued running succeeded failed : List String) (word : String) : VideoStatus :=
  if word ∈ queued then .queued
  else if word ∈ running then .running
  else if word ∈ succeeded then .succeeded
  else if word ∈ failed then .failed
  else .running

/-- The words of OpenAI. -/
def mapStatusOpenai (raw : String) : VideoStatus :=
  statusFor ["queued", "pending", "created", "accepted"]
    ["running", "processing", "in_progress", "in-progress", "started"]
    ["succeeded", "success", "completed", "complete", "done", "finished"]
    ["failed", "failure", "error", "errored", "canceled", "cancelled"] (toAsciiLowercase (trim raw))

/-- The node has a copy of its own for the default dialect. -/
def mapVideoStatus (raw : String) : VideoStatus :=
  statusFor ["queued", "pending", "created", "accepted"]
    ["running", "processing", "in_progress", "in-progress", "started"]
    ["succeeded", "success", "completed", "complete", "done", "finished"]
    ["failed", "failure", "error", "errored", "canceled", "cancelled"] (toAsciiLowercase (trim raw))

/-- The words of MiniMax. -/
def mapStatusMinimax (raw : String) : VideoStatus :=
  statusFor ["queueing", "preparing"] ["processing"] ["success"] ["fail", "failed"]
    (toAsciiLowercase (trim raw))

/-- The words of Vidu. -/
def mapStatusVidu (raw : String) : VideoStatus :=
  statusFor ["created", "queueing"] ["processing"] ["success"] ["failed"]
    (toAsciiLowercase (trim raw))

/-- The words of Runway. -/
def mapStatusRunway (raw : String) : VideoStatus :=
  statusFor ["PENDING", "THROTTLED"] ["RUNNING"] ["SUCCEEDED"] ["FAILED", "CANCELLED", "CANCELED"]
    (toAsciiUppercase (trim raw))

/-- The words of Kling. -/
def mapStatusKling (raw : String) : VideoStatus :=
  statusFor ["submitted"] ["processing"] ["succeed", "succeeded"] ["failed"]
    (toAsciiLowercase (trim raw))

/-- The words of Jimeng. -/
def mapStatusJimeng (raw : String) : VideoStatus :=
  statusFor ["in_queue", "submitted", "pending", "queued"] ["generating", "processing", "running"]
    ["done", "success", "succeeded"] ["not_found", "expired", "failed", "fail", "error"]
    (toAsciiLowercase (trim raw))

/-- The words of a dialect. -/
def mapStatus : VideoDialect → String → VideoStatus
  | .openAiCompat => mapStatusOpenai
  | .miniMax => mapStatusMinimax
  | .vidu => mapStatusVidu
  | .runway => mapStatusRunway
  | .kling => mapStatusKling
  | .jimeng => mapStatusJimeng

/-! ## Answers -/

/-- What comes of a request. -/
inductive HttpAnswer
  /-- No answer came. -/
  | unreachable (error : String)
  /-- The status was not one of success; the body, where it could be read. -/
  | refused (body : Option String)
  /-- The status was one of success; the body, or why it could not be read. -/
  | answered (body : Except String String)

/-- The error of a provider in the form of OpenAI. -/
structure OpenAiErrorBody where
  code : Option String
  message : Option String
  errorType : Option String

/-- The answer to a poll in the default dialect. -/
structure VideoStatusResponse where
  status : Option String
  videoUrl : Option String
  url : Option String
  outputUrl : Option String
  error : Option String

/-- What the polls take from libraries: besides the requests, the reading of JSON. -/
structure PollCrates extends VideoCrates where
  readJson : String → Except String Json
  readStatusResponse : String → Except String VideoStatusResponse
  readErrorEnvelope : String → Option OpenAiErrorBody

/-- What is shown of an error. -/
def summarizeOpenaiError (x : PollCrates) (body : String) : String :=
  match x.readErrorEnvelope body with
  | some error =>
    let message := error.message.getD "upstream returned an error without a message"
    if error.code = some "model_not_found" then
      "image model is not available for this API key: " ++ message ++
        ". Use an API key or proxy with gpt-image-1 / gpt-image-2 enabled."
    else match error.code, error.errorType with
      | some code, _ => code ++ ": " ++ message
      | none, some errorType => errorType ++ ": " ++ message
      | none, none => message
  | none => truncateText (trim body) 600

/-- The body of a success, read. -/
def HttpAnswer.read {α : Type} (x : PollCrates) (requestFailed refused invalid : String)
    (read : String → Except String α) : HttpAnswer → Except ApiError α
  | .unreachable error => .error (.badGateway (requestFailed ++ ": " ++ error))
  | .refused body =>
    .error (.badGateway (refused ++ ": " ++ summarizeOpenaiError x (body.getD "unknown error")))
  | .answered body => (body.bind read).mapError fun error => .badGateway (invalid ++ ": " ++ error)

/-- Send a request and read the answer. -/
def executeVideoSpec (x : PollCrates) (send : OutboundRequest → HttpAnswer) (spec : HttpSpec)
    (phase : String) : Except ApiError Json :=
  (send { spec with query := [] }).read x ("video " ++ phase ++ " request failed")
    ("video " ++ phase ++ " failed") ("invalid video " ++ phase ++ " response") x.readJson

/-! ## Reading an answer -/

/-- What the node takes from an answer. -/
structure VideoReport where
  status : VideoStatus
  videoUrl : Option String
  error : Option String

/-- What an answer comes to. -/
inductive PollOutcome
  | status (report : VideoReport)
  /-- Another request is needed for the URL. -/
  | needsFetch (fetch : HttpSpec)

/-- The text, trimmed, unless it is blank. -/
def nonemptyTrim (s : String) : Option String := if trim s = "" then none else some (trim s)

/-- The address in an answer of the default dialect. -/
def VideoStatusResponse.hostedUrl (response : VideoStatusResponse) : Option String :=
  (((response.videoUrl.or response.outputUrl).or response.url).map trim).filter (· ≠ "")

/-- The first text of an array. -/
def Json.first (value : Json) : Option Json := value.asArray.bind List.head?

/-- The report in an answer in the dialect of OpenAI. -/
def parsePollOpenai (v : Json) : VideoReport :=
  let url := (((v.textAt "video_url").or (v.textAt "output_url")).or (v.textAt "url")).bind
    nonemptyTrim
  let status := match v.textAt "status" with
    | some s => mapStatusOpenai s
    | none => if url.isSome then .succeeded else .running
  { status := status, videoUrl := url, error := (v.textAt "error").bind nonemptyTrim }

/-- Where the file of a video is asked for. -/
def minimaxFileRequest (inputs : PollInputs) (fileId : String) : HttpSpec :=
  let url := trimBase inputs.baseUrl ++ "/v1/files/retrieve?file_id=" ++ fileId
  { method := .get
    url := match inputs.extra.text "group_id" with
      | some groupId => url ++ "&GroupId=" ++ groupId
      | none => url
    headers := [bearer inputs.apiKey]
    body := none }

/-- What an answer of MiniMax comes to. -/
def parsePollMinimax (v : Json) (inputs : PollInputs) : PollOutcome :=
  let status := mapStatusMinimax ((v.textAt "status").getD "")
  match if status = .succeeded then (v.textAt "file_id").bind nonemptyTrim else none with
  | some fileId => .needsFetch (minimaxFileRequest inputs fileId)
  | none => .status { status := status, videoUrl := none, error := none }

/-- The address in an answer of MiniMax about a file. -/
def parseMinimaxFileRetrieve (v : Json) : Option String :=
  (((v.get? "file").bind (Json.textAt "download_url")).or (v.textAt "download_url")).bind
    nonemptyTrim

/-- The report in an answer of Vidu. -/
def parsePollVidu (v : Json) : VideoReport :=
  { status := ((v.textAt "state").map mapStatusVidu).getD .running
    videoUrl := (((v.get? "creations").bind Json.first).bind (Json.textAt "url")).bind nonemptyTrim
    error := none }

/-- The report in an answer of Runway. -/
def parsePollRunway (v : Json) : VideoReport :=
  { status := ((v.textAt "status").map mapStatusRunway).getD .running
    videoUrl := (((v.get? "output").bind Json.first).bind Json.asString).bind nonemptyTrim
    error := ((v.textAt "failure").or (v.textAt "error")).bind nonemptyTrim }

/-- The report in an answer of Kling. -/
def parsePollKling (v : Json) : VideoReport :=
  let data := v.get? "data"
  let videos := (data.bind (Json.get? "task_result")).bind (Json.get? "videos")
  { status := ((data.bind (Json.textAt "task_status")).map mapStatusKling).getD .running
    videoUrl := ((videos.bind Json.first).bind (Json.textAt "url")).bind nonemptyTrim
    error := (data.bind (Json.textAt "task_status_msg")).bind nonemptyTrim }

/-- The report in an answer of Jimeng. -/
def parsePollJimeng (v : Json) : VideoReport :=
  let data := v.get? "data"
  { status := ((data.bind (Json.textAt "status")).map mapStatusJimeng).getD .running
    videoUrl := (data.bind (Json.textAt "video_url")).bind nonemptyTrim
    error := none }

/-- What an answer in a dialect comes to. -/
def parsePoll (dialect : VideoDialect) (v : Json) (inputs : PollInputs) : PollOutcome :=
  match dialect with
  | .openAiCompat => .status (parsePollOpenai v)
  | .miniMax => parsePollMinimax v inputs
  | .vidu => .status (parsePollVidu v)
  | .runway => .status (parsePollRunway v)
  | .kling => .status (parsePollKling v)
  | .jimeng => .status (parsePollJimeng v)

/-! ## A poll -/

/-- What a poll finds: the provider, which is resolved at every poll, the answers to the requests,
and the time that goes into a signature. -/
structure PollFindings where
  provider : Except ApiError GenericProvider
  send : OutboundRequest → HttpAnswer
  now : ℤ

/-- The request of a poll in the default dialect. -/
def pollRequest (provider : GenericProvider) (providerJobId : String) : OutboundRequest :=
  applyAuth
    { method := .get
      url := endpointFor .cloudVideo provider.baseUrl ++ "/" ++ providerJobId
      headers := []
      body := none
      query := [] } provider.auth provider.apiKey

/-- What a provider is asked with. -/
def GenericProvider.pollInputs (provider : GenericProvider) (providerJobId : String) : PollInputs :=
  { baseUrl := provider.baseUrl
    apiKey := provider.apiKey
    providerJobId := providerJobId
    extra := provider.extra }

/-- The report in an answer of the default dialect. -/
def VideoStatusResponse.report (response : VideoStatusResponse) : VideoReport :=
  { status := match response.status with
      | some raw => mapVideoStatus raw
      | none => if response.hostedUrl.isSome then .succeeded else .running
    videoUrl := response.hostedUrl
    error := response.error }

/-- A report at once, or after the request for a file. -/
def PollOutcome.followUp (x : PollCrates) (send : OutboundRequest → HttpAnswer) :
    PollOutcome → Except ApiError VideoReport
  | .status report => .ok report
  | .needsFetch fetch => do
    let filePayload ← executeVideoSpec x send fetch "file retrieve"
    return { status := .succeeded, videoUrl := parseMinimaxFileRetrieve filePayload, error := none }

/-- Ask a provider for a video. -/
def videoPollStatus (x : PollCrates) (found : PollFindings) (providerJobId : String) :
    Except ApiError VideoReport := do
  let provider ← found.provider
  if provider.videoDialect = .openAiCompat then
    let payload ← (found.send (pollRequest provider providerJobId)).read x
      "video poll request failed" "video poll failed" "invalid video status response"
      x.readStatusResponse
    return payload.report
  else
    let inputs := provider.pollInputs providerJobId
    let spec := buildPoll x.toVideoCrates provider.videoDialect inputs found.now
    let payload ← executeVideoSpec x found.send spec "poll"
    (parsePoll provider.videoDialect payload inputs).followUp x found.send

/-! ## When a video is done -/

/-- The words by which the providers of a dialect say that a video is done. -/
def doneWords : VideoDialect → List String
  | .openAiCompat => ["succeeded", "success", "completed", "complete", "done", "finished"]
  | .miniMax | .vidu => ["success"]
  | .runway => ["succeeded"]
  | .kling => ["succeed", "succeeded"]
  | .jimeng => ["done", "success", "succeeded"]

/-- A word says that a video is done; blanks around it and letter case do not count. -/
def saysDone (dialect : VideoDialect) (word : String) : Bool :=
  decide (toAsciiLowercase (trim word) ∈ doneWords dialect)

/-- The status in an answer. -/
def statusField (dialect : VideoDialect) (v : Json) : Option String :=
  match dialect with
  | .openAiCompat | .miniMax | .runway => v.textAt "status"
  | .vidu => v.textAt "state"
  | .kling => (v.get? "data").bind (Json.textAt "task_status")
  | .jimeng => (v.get? "data").bind (Json.textAt "status")

/-- The URL in an answer, where it is not blank. -/
def urlField (dialect : VideoDialect) (v : Json) : Option String :=
  match dialect with
  | .openAiCompat => (parsePollOpenai v).videoUrl
  | .miniMax => none
  | .vidu => (parsePollVidu v).videoUrl
  | .runway => (parsePollRunway v).videoUrl
  | .kling => (parsePollKling v).videoUrl
  | .jimeng => (parsePollJimeng v).videoUrl

/-- The body of a success, where it can be read. -/
def HttpAnswer.success {α : Type} (read : String → Except String α) : HttpAnswer → Option α
  | .answered (.ok body) => (read body).toOption
  | _ => none

/-- What is handed over with a video that is done in the default dialect: a URL, where there is
one.  Without a status, a URL says that the video is done. -/
def VideoStatusResponse.handedOver (response : VideoStatusResponse) : Option (Option String) :=
  if response.status.elim response.hostedUrl.isSome (saysDone .openAiCompat) then
    some response.hostedUrl
  else none

/-- The URL that comes with a video that is done.  With a file, it is the one that the file is found
at; then it is `none` if the file is not found. -/
def PollFindings.urlOf (x : PollCrates) (found : PollFindings) (dialect : VideoDialect)
    (inputs : PollInputs) (payload : Json) : Option (Option String) :=
  match dialect, (payload.textAt "file_id").bind nonemptyTrim with
  | .miniMax, some fileId =>
    let fetch := minimaxFileRequest inputs fileId
    ((found.send { fetch with query := [] }).success x.readJson).map parseMinimaxFileRetrieve
  | dialect, _ => some (urlField dialect payload)

/-- What is handed over with a video that is done: a URL, where there is one.  It is `none` if the
poll fails, or if the video is not done. -/
def PollFindings.handedOver (x : PollCrates) (found : PollFindings) (providerJobId : String) :
    Option (Option String) := do
  let provider ← found.provider.toOption
  if provider.videoDialect = .openAiCompat then
    let response ← (found.send (pollRequest provider providerJobId)).success x.readStatusResponse
    response.handedOver
  else
    let inputs := provider.pollInputs providerJobId
    let spec := buildPoll x.toVideoCrates provider.videoDialect inputs found.now
    let payload ← (found.send { spec with query := [] }).success x.readJson
    if (statusField provider.videoDialect payload).any (saysDone provider.videoDialect) then
      found.urlOf x provider.videoDialect inputs payload
    else none

variable {x : PollCrates} {found : PollFindings} {providerJobId : String}

lemma statusFor_eq_succeeded_iff {queued running succeeded failed : List String} {word : String}
    (h : ∀ w ∈ succeeded, w ∉ queued ∧ w ∉ running) :
    statusFor queued running succeeded failed word = .succeeded ↔ word ∈ succeeded := by
  constructor
  · intro hstatus
    unfold statusFor at hstatus
    split_ifs at hstatus with hq hr hs hf
    exact hs
  · intro hs
    rw [statusFor, if_neg (h word hs).1, if_neg (h word hs).2, if_pos hs]

lemma mapVideoStatus_eq : mapVideoStatus = mapStatus .openAiCompat := rfl

lemma mapStatus_miniMax : mapStatus .miniMax = mapStatusMinimax := rfl

/-- Upper case or lower case, it is the same word. -/
lemma toAsciiUppercase_eq_iff {s upper lower : String} (hlower : toAsciiLowercase upper = lower)
    (hupper : toAsciiUppercase lower = upper) :
    toAsciiUppercase s = upper ↔ toAsciiLowercase s = lower := by
  constructor
  · intro h
    rw [← toAsciiLowercase_toAsciiUppercase, h, hlower]
  · intro h
    rw [← toAsciiUppercase_toAsciiLowercase, h, hupper]

/-- **Done words.**  A word is mapped to success exactly if it says that the video is done. -/
theorem mapStatus_eq_succeeded_iff (dialect : VideoDialect) (raw : String) :
    mapStatus dialect raw = .succeeded ↔ saysDone dialect raw = true := by
  rw [saysDone, decide_eq_true_iff]
  cases dialect with
  | openAiCompat =>
    rw [mapStatus, mapStatusOpenai, doneWords]
    exact statusFor_eq_succeeded_iff (by decide)
  | miniMax =>
    rw [mapStatus, mapStatusMinimax, doneWords]
    exact statusFor_eq_succeeded_iff (by decide)
  | vidu =>
    rw [mapStatus, mapStatusVidu, doneWords]
    exact statusFor_eq_succeeded_iff (by decide)
  | runway =>
    rw [mapStatus, mapStatusRunway, doneWords, statusFor_eq_succeeded_iff (by decide),
      List.mem_singleton, List.mem_singleton]
    exact toAsciiUppercase_eq_iff (by decide) (by decide)
  | kling =>
    rw [mapStatus, mapStatusKling, doneWords]
    exact statusFor_eq_succeeded_iff (by decide)
  | jimeng =>
    rw [mapStatus, mapStatusJimeng, doneWords]
    exact statusFor_eq_succeeded_iff (by decide)

/-- A status that is missing does not say that the video is done. -/
lemma getD_mapStatus_eq_succeeded_iff {dialect : VideoDialect} {status : Option String} :
    (status.map (mapStatus dialect)).getD .running = .succeeded ↔
      status.any (saysDone dialect) = true := by
  cases status with
  | none => simp
  | some word => exact mapStatus_eq_succeeded_iff dialect word

/-- Without a status the empty word is mapped. -/
lemma mapStatusMinimax_getD_eq_succeeded_iff (status : Option String) :
    mapStatusMinimax (status.getD "") = .succeeded ↔ status.any (saysDone .miniMax) = true := by
  cases status with
  | none =>
    have hempty : saysDone .miniMax "" = false := by decide
    rw [Option.getD_none, ← mapStatus_miniMax, mapStatus_eq_succeeded_iff, hempty, Option.any_none]
  | some word =>
    rw [Option.getD_some, ← mapStatus_miniMax, mapStatus_eq_succeeded_iff, Option.any_some]

/-- What is handed over with a report. -/
def VideoReport.handedOver (report : VideoReport) : Option (Option String) :=
  if report.status = .succeeded then some report.videoUrl else none

lemma success_eq {α : Type} {requestFailed refused invalid : String}
    {read : String → Except String α} (answer : HttpAnswer) :
    answer.success read = (answer.read x requestFailed refused invalid read).toOption := by
  cases answer with
  | unreachable error => rfl
  | refused body => rfl
  | answered body =>
    cases body with
    | error error => rfl
    | ok body =>
      simp only [HttpAnswer.success, HttpAnswer.read, Except.bind]
      cases read body <;> rfl

lemma toOption_bind {α β : Type} {m : Except ApiError α} {f : α → Except ApiError β} :
    (m >>= f).toOption = m.toOption.bind fun a => (f a).toOption := by
  cases m <;> rfl

lemma handedOver_report (response : VideoStatusResponse) :
    response.report.handedOver = response.handedOver := by
  have hdone : response.report.status = .succeeded ↔
      response.status.elim response.hostedUrl.isSome (saysDone .openAiCompat) = true := by
    simp only [VideoStatusResponse.report]
    cases response.status with
    | none => cases response.hostedUrl <;> simp
    | some raw => simp only [mapVideoStatus_eq, mapStatus_eq_succeeded_iff, Option.elim_some]
  exact if_congr hdone rfl rfl

/-- The dialects that answer with a report at once. -/
lemma parsePoll_eq_status {dialect : VideoDialect} (hdefault : dialect ≠ .openAiCompat)
    (hfile : dialect ≠ .miniMax) (v : Json) (inputs : PollInputs) :
    ∃ report, parsePoll dialect v inputs = .status report ∧
      report.handedOver = if (statusField dialect v).any (saysDone dialect) then
        some (urlField dialect v) else none := by
  have hreport : ∃ error, parsePoll dialect v inputs = .status
      { status := ((statusField dialect v).map (mapStatus dialect)).getD .running
        videoUrl := urlField dialect v
        error := error } := by
    cases dialect with
    | openAiCompat => exact absurd rfl hdefault
    | miniMax => exact absurd rfl hfile
    | vidu => exact ⟨_, rfl⟩
    | runway => exact ⟨_, rfl⟩
    | kling => exact ⟨_, rfl⟩
    | jimeng => exact ⟨_, rfl⟩
  obtain ⟨error, hreport⟩ := hreport
  exact ⟨_, hreport, if_congr getD_mapStatus_eq_succeeded_iff rfl rfl⟩

lemma handedOver_fetch {fetch : HttpSpec} :
    ((PollOutcome.needsFetch fetch).followUp x found.send).toOption.bind VideoReport.handedOver =
      ((found.send { fetch with query := [] }).success x.readJson).map
        parseMinimaxFileRetrieve := by
  rw [PollOutcome.followUp, toOption_bind, executeVideoSpec, ← success_eq]
  cases (found.send { fetch with query := [] }).success x.readJson with
  | none => rfl
  | some file => simp [VideoReport.handedOver, pure, Except.pure, Except.toOption]

lemma handedOver_status {report : VideoReport} :
    ((PollOutcome.status report).followUp x found.send).toOption.bind VideoReport.handedOver =
      report.handedOver := rfl

/-- The answer of MiniMax, with the request for the file where the video is done and has one. -/
lemma handedOver_minimax (payload : Json) (inputs : PollInputs) :
    ((parsePollMinimax payload inputs).followUp x found.send).toOption.bind
        VideoReport.handedOver =
      if (payload.textAt "status").any (saysDone .miniMax) then
        found.urlOf x .miniMax inputs payload
      else none := by
  have hdone := mapStatusMinimax_getD_eq_succeeded_iff (payload.textAt "status")
  rw [← if_congr hdone rfl rfl]
  cases hid : (payload.textAt "file_id").bind nonemptyTrim with
  | none =>
    have hurl : found.urlOf x .miniMax inputs payload = some none := by
      simp only [hid, PollFindings.urlOf, urlField]
    have hreport : parsePollMinimax payload inputs = .status
        { status := mapStatusMinimax ((payload.textAt "status").getD "")
          videoUrl := none
          error := none } := by
      simp only [parsePollMinimax, hid, ite_self]
    rw [hreport, hurl, handedOver_status, VideoReport.handedOver]
  | some fileId =>
    simp only [parsePollMinimax, hid, PollFindings.urlOf]
    split_ifs with hstatus
    · exact handedOver_fetch
    · rw [handedOver_status, VideoReport.handedOver, if_neg hstatus]

/-- What is handed over with the outcome of a poll, once the file has been asked for. -/
lemma handedOver_followUp {dialect : VideoDialect} (hdefault : dialect ≠ .openAiCompat)
    (payload : Json) (inputs : PollInputs) :
    ((parsePoll dialect payload inputs).followUp x found.send).toOption.bind
        VideoReport.handedOver =
      if (statusField dialect payload).any (saysDone dialect) then
        found.urlOf x dialect inputs payload
      else none := by
  by_cases hfile : dialect = .miniMax
  · subst hfile
    exact handedOver_minimax payload inputs
  · obtain ⟨report, hreport, hover⟩ := parsePoll_eq_status hdefault hfile payload inputs
    have hurl : found.urlOf x dialect inputs payload = some (urlField dialect payload) := by
      rw [PollFindings.urlOf]
      exact fun _ hminimax _ => hfile hminimax
    rw [hreport, handedOver_status, hurl, hover]

/-- **Handing over.**  A poll reports a video as done exactly if the answers say so, and the URL
that it reports is the one that they hand over. -/
theorem handedOver_eq :
    found.handedOver x providerJobId =
      (videoPollStatus x found providerJobId).toOption.bind VideoReport.handedOver := by
  rw [PollFindings.handedOver, videoPollStatus, toOption_bind, Option.bind_assoc]
  refine Option.bind_congr fun provider _ => ?_
  split_ifs with hdefault
  · rw [toOption_bind, Option.bind_assoc, ← success_eq]
    refine Option.bind_congr fun response _ => ?_
    exact (handedOver_report response).symm
  · rw [toOption_bind, Option.bind_assoc, executeVideoSpec, ← success_eq]
    refine Option.bind_congr fun payload _ => ?_
    exact (handedOver_followUp hdefault payload _).symm

/-! ## URLs are not blank -/

lemma ne_empty_of_nonemptyTrim {s t : String} (h : nonemptyTrim s = some t) : t ≠ "" := by
  unfold nonemptyTrim at h
  split_ifs at h with hblank
  exact Option.some.inj h ▸ hblank

lemma ne_empty_of_bind_nonemptyTrim {o : Option String} {t : String}
    (h : o.bind nonemptyTrim = some t) : t ≠ "" := by
  obtain ⟨s, -, hs⟩ := Option.bind_eq_some_iff.mp h
  exact ne_empty_of_nonemptyTrim hs

lemma VideoStatusResponse.ne_empty_of_hostedUrl {response : VideoStatusResponse} {url : String}
    (h : response.hostedUrl = some url) : url ≠ "" := by
  have hfilter := (Option.filter_eq_some_iff.mp h).2
  simpa using hfilter

lemma ne_empty_of_parsePoll {dialect : VideoDialect} {v : Json} {inputs : PollInputs}
    {report : VideoReport} {url : String} (h : parsePoll dialect v inputs = .status report)
    (hurl : report.videoUrl = some url) : url ≠ "" := by
  cases dialect with
  | miniMax =>
    rw [parsePoll, parsePollMinimax] at h
    split at h
    · exact absurd h nofun
    · rw [PollOutcome.status.injEq] at h
      subst h
      exact absurd hurl nofun
  | openAiCompat =>
    rw [parsePoll, PollOutcome.status.injEq, parsePollOpenai] at h
    subst h
    exact ne_empty_of_bind_nonemptyTrim hurl
  | vidu =>
    rw [parsePoll, PollOutcome.status.injEq, parsePollVidu] at h
    subst h
    exact ne_empty_of_bind_nonemptyTrim hurl
  | runway =>
    rw [parsePoll, PollOutcome.status.injEq, parsePollRunway] at h
    subst h
    exact ne_empty_of_bind_nonemptyTrim hurl
  | kling =>
    rw [parsePoll, PollOutcome.status.injEq, parsePollKling] at h
    subst h
    exact ne_empty_of_bind_nonemptyTrim hurl
  | jimeng =>
    rw [parsePoll, PollOutcome.status.injEq, parsePollJimeng] at h
    subst h
    exact ne_empty_of_bind_nonemptyTrim hurl

lemma PollOutcome.ne_empty_of_followUp {outcome : PollOutcome} {report : VideoReport}
    {url : String} (hstatus : ∀ r, outcome = .status r → r.videoUrl = some url → url ≠ "")
    (h : outcome.followUp x found.send = .ok report) (hurl : report.videoUrl = some url) :
    url ≠ "" := by
  cases outcome with
  | status r =>
    obtain rfl := Except.ok.inj h
    exact hstatus r rfl hurl
  | needsFetch fetch =>
    obtain ⟨file, -, hreport⟩ := Except.bind_eq_ok.mp h
    obtain rfl := Except.ok.inj hreport
    exact ne_empty_of_bind_nonemptyTrim hurl

/-- **URLs of reports.**  A URL that a poll reports is not empty. -/
theorem ne_empty_of_videoPollStatus {report : VideoReport} {url : String}
    (h : videoPollStatus x found providerJobId = .ok report) (hurl : report.videoUrl = some url) :
    url ≠ "" := by
  obtain ⟨provider, -, h⟩ := Except.bind_eq_ok.mp h
  split_ifs at h with hdefault
  · obtain ⟨response, -, hreport⟩ := Except.bind_eq_ok.mp h
    obtain rfl := Except.ok.inj hreport
    exact response.ne_empty_of_hostedUrl hurl
  · obtain ⟨payload, -, h⟩ := Except.bind_eq_ok.mp h
    exact PollOutcome.ne_empty_of_followUp (fun r hr => ne_empty_of_parsePoll hr) h hurl

end OzonSuite
