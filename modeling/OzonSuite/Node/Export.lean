/-
# Exporting a deliverable

An export fills a template with the reviewed rows and lets the engine write and verify the
deliverable.  The engine is a child process: whether it starts, how it ends, what it prints and
which file it leaves behind is up to it.  Three files may be on the disk when a stage fails.
-/
import OzonSuite.Cloud.Queries
import OzonSuite.Lib.Effects
import OzonSuite.Lib.Utf8
import OzonSuite.Node.OzonClient

namespace OzonSuite

open Lib

/-! ## Requests and the engine -/

/-- A product that is exported. -/
structure ExportRow where
  title : String
  listing : String
  primaryImageUrl : Option String
  additionalImageUrls : List String
deriving DecidableEq

/-- A request to export products. -/
structure RelistExportRequest where
  templatePath : String
  configPath : Option String
  rows : List ExportRow
deriving DecidableEq

/-- A row as the injector reads it. -/
structure InjectRow where
  title : String
  listing : String
  primaryImage : Option String
  additionalImages : List String
deriving DecidableEq

/-- What the verifier has counted. -/
structure VerifySummary where
  ok : Bool
  expectedChanges : ℕ
  unexpectedChanges : ℕ
  frozenCellsCompared : ℕ
  sheetsCompared : ℕ
deriving DecidableEq

/-- What the engine has come to. -/
structure ExportPipelineOutput where
  outPath : String
  verify : Option VerifySummary
  warnings : List String
deriving DecidableEq

/-- The files, by their paths. -/
abbrev Disk := String → Option Bytes

/-- A child process: the interpreter, where it runs, where it looks for modules, its arguments. -/
structure EngineCommand where
  python : String
  currentDir : String
  pythonpath : String
  args : List String
deriving DecidableEq

/-- How a child process has ended, and the file that it has left at the path it writes to. -/
structure EngineOutput where
  code : Option ℤ
  stdout : Bytes
  stderr : Bytes
  left : Option Bytes
deriving DecidableEq

/-- What an export finds around it: the answers of the file system and of the engine, and the
crates that write and read JSON. -/
structure ExportWorld where
  createDirAll : String → Option String
  /-- Why the file of rows could not be written, and what is there of it all the same. -/
  writeRows : Option (String × Option Bytes)
  toVec : List InjectRow → Except String Bytes
  fromSlice : Bytes → Option Json
  engine : EngineCommand → Except String EngineOutput
  isFile : String → Bool
  python : String
  engineRoot : String
  exportsDir : String
  stem : String
  deliverableId : String

/-- What a request makes the engine do. -/
structure ExportJob where
  python : String
  root : String
  template : String
  configPath : String
  exports : String
  outPath : String
  rows : List InjectRow

/-- An export ends early by a panic or by an error. -/
inductive Halt
  | panicked
  | refused (e : ApiError)
deriving DecidableEq

/-- A stage of the export, which leaves files behind. -/
abbrev ExportM := EStateM Halt Disk

/-- `Path::join`. -/
def joinPath (base name : String) : String := base ++ "/" ++ name

/-! ## What the engine says -/

/-- The last line of the text that is not blank. -/
def lastLine (text : String) : String :=
  (((linesOf text).map trim).filter (· ≠ "")).getLast?.getD ""

/-- The line that stands for what the child has printed.  Cutting it inside a character panics. -/
def summarizeStderr (stderr : Bytes) : Option String :=
  let last := lastLine (fromUtf8Lossy stderr)
  if byteLength last > 280 then
    (bytePrefix 277 last.toList).map fun start => String.ofList start ++ "…"
  else some last

/-- The error for an exit of the engine. -/
def mapEngineExit (code : ℤ) (stderr stage : String) : ApiError :=
  let detail := if stderr = "" then "" else s!" — {stderr}"
  if code = 1 then
    .badGateway ("verification found unexpected changes — deliverable is unsafe and was discarded"
      ++ detail)
  else if code = 2 then .badRequest s!"config/mapping error ({stage}){detail}"
  else if code = 3 then .badRequest s!"preflight risk ({stage}){detail}"
  else .internal s!"export engine failed at {stage} (exit {code}){detail}"

/-- The summary in the report of the verifier. -/
def parseVerifySummary (w : ExportWorld) (stdout : Bytes) : Option VerifySummary := do
  let value ← w.fromSlice stdout
  let summary ← value.get? "summary"
  let asU64 (key : String) : ℕ := ((summary.get? key).bind Json.asU64).getD 0
  return {
    ok := match value.get? "ok" with
      | some (.bool b) => b
      | _ => false
    expectedChanges := asU64 "expected_changes"
    unexpectedChanges := asU64 "unexpected_changes"
    frozenCellsCompared := asU64 "frozen_cells_compared"
    sheetsCompared := asU64 "sheets_compared"
  }

/-! ## The pipeline -/

/-- The files go one after the other. -/
def removeFiles (paths : List String) (disk : Disk) : Disk :=
  paths.foldl (fun disk path => Function.update disk path none) disk

/-- The disk when a child has ended that writes to `target`. -/
def EngineOutput.leave (out : EngineOutput) (target : String) (disk : Disk) : Disk :=
  match out.left with
  | some body => Function.update disk target (some body)
  | none => disk

section Pipeline

variable (w : ExportWorld) (job : ExportJob)

/-- The file with the rows. -/
def rowsJson : String := joinPath job.exports s!"export-rows-{w.stem}.json"

/-- The template with the rows put in. -/
def populated : String := joinPath job.exports s!"export-populated-{w.stem}.xlsx"

/-- A call of the engine. -/
def engineCommand (args : List String) : EngineCommand :=
  { python := job.python
    currentDir := job.root
    pythonpath := joinPath job.root "src"
    args := ["-m", "ozon_excel_core.cli"] ++ args }

/-- The call that puts the rows in. -/
def injectCommand : EngineCommand :=
  engineCommand job ["inject", "--in", job.template, "--rows", rowsJson w job, "--out",
    populated w job, "--config", job.configPath, "--quiet"]

/-- The call that writes the deliverable. -/
def processCommand : EngineCommand :=
  engineCommand job ["process", "--in", populated w job, "--out", job.outPath, "--config",
    job.configPath, "--transform", "identity", "--verify", "--quiet"]

/-- The call that verifies the deliverable. -/
def verifyCommand : EngineCommand :=
  engineCommand job ["verify", "--in", populated w job, "--out", job.outPath, "--config",
    job.configPath, "--report", "json"]

/-- The error when the engine does not start. -/
def launchFailure (err : String) : ApiError :=
  .internal s!"failed to launch Python engine ({job.python}): {err}"

/-- A stage that has to succeed: which files go when the child cannot be launched, and which when
it fails.  What it has printed is summarised before any of them goes. -/
def runStage (command : EngineCommand) (target : String) (unlaunched failed : List String)
    (stage : String) : ExportM Unit :=
  match w.engine command with
  | .error err => do
    modify (removeFiles unlaunched)
    throw (.refused (launchFailure job err))
  | .ok out => do
    modify (out.leave target)
    if out.code = some 0 then pure ()
    else
      let stderr ← okOr (summarizeStderr out.stderr) Halt.panicked
      modify (removeFiles failed)
      throw (.refused (mapEngineExit (out.code.getD (-1)) stderr stage))

/-- Make the directory of the deliverables. -/
def createExportsDir : ExportM Unit :=
  match w.createDirAll job.exports with
  | some err => throw (.refused (.internal s!"cannot create exports dir: {err}"))
  | none => pure ()

/-- The file of rows, and no file at all when it cannot be opened. -/
def writeRowsJson (body : Bytes) : ExportM Unit :=
  match w.writeRows with
  | some (err, left) => do
    modify fun disk => Function.update disk (rowsJson w job) left
    throw (.refused (.internal s!"cannot write rows.json: {err}"))
  | none => modify fun disk => Function.update disk (rowsJson w job) (some body)

/-- The report on the deliverable, as far as it can be had. -/
def verifyReport : Option VerifySummary × List String :=
  match w.engine (verifyCommand w job) with
  | .ok out =>
    if out.code = some 0 then (parseVerifySummary w out.stdout, [])
    else (none, ["verify --report json did not return a parseable summary"])
  | .error err => (none, [s!"verify --report json could not run: {err}"])

/-- What the engine has to do once the rows are written. -/
def runEngine : ExportM ExportPipelineOutput := do
  runStage w job (injectCommand w job) (populated w job) [rowsJson w job]
    [rowsJson w job, populated w job] "inject"
  runStage w job (processCommand w job) job.outPath [rowsJson w job, populated w job]
    [job.outPath, rowsJson w job, populated w job] "process --verify"
  let report := verifyReport w job
  modify (removeFiles [rowsJson w job, populated w job])
  return { outPath := job.outPath, verify := report.1, warnings := report.2 }

/-- The stages of the export. -/
def runExportPipeline : ExportM ExportPipelineOutput := do
  createExportsDir w job
  let rowsBody ← ofExcept ((w.toVec job.rows).mapError fun err =>
    Halt.refused (.internal s!"cannot serialize export rows: {err}"))
  writeRowsJson w job rowsBody
  runEngine w job

end Pipeline

/-! ## The request -/

/-- The most rows of one export. -/
def relistExportMaxRows : ℕ := 200

/-- The answer to a request. -/
structure RelistExportResponse where
  ok : Bool
  outPath : String
  fileUrl : String
  verify : Option VerifySummary
  warnings : List String
deriving DecidableEq

/-- The row, as the engine reads it. -/
def ExportRow.toInjectRow (row : ExportRow) : InjectRow where
  title := row.title
  listing := row.listing
  primaryImage := normalizeOptional row.primaryImageUrl
  additionalImages := (row.additionalImageUrls.map trim).filter (· ≠ "")

/-- The checks of a request.  The deliverable gets a path of its own. -/
def relistExportJob (w : ExportWorld) (input : RelistExportRequest) :
    Except ApiError ExportJob := do
  let templatePath := trim input.templatePath
  refuseIf (templatePath = "") (ApiError.badRequest "template_path is required")
  refuseIf (!w.isFile templatePath)
    (ApiError.badRequest s!"template .xlsx not found: {templatePath}")
  refuseIf (input.rows = []) (ApiError.badRequest "provide at least one export row")
  refuseIf (input.rows.length > relistExportMaxRows)
    (ApiError.badRequest s!"export at most {relistExportMaxRows} rows per call")
  let configPath := (normalizeOptional input.configPath).getD
    (joinPath w.engineRoot "fields.example.yaml")
  refuseIf (!w.isFile configPath) (ApiError.badRequest s!"config not found: {configPath}")
  return {
    python := w.python
    root := w.engineRoot
    template := templatePath
    configPath := configPath
    exports := w.exportsDir
    outPath := joinPath w.exportsDir s!"ozon-deliverable-{w.deliverableId}.xlsx"
    rows := input.rows.map ExportRow.toInjectRow
  }

/-- A pipeline that panics takes its task down, and its caller answers in its place. -/
def Halt.toApiError : Halt → ApiError
  | .panicked => .internal "export task panicked"
  | .refused e => e

/-- The handler of a request. -/
def relistExport (w : ExportWorld) (input : RelistExportRequest) :
    EStateM ApiError Disk RelistExportResponse := do
  let job ← ofExcept (relistExportJob w input)
  let output ← EStateM.adaptExcept Halt.toApiError (runExportPipeline w job)
  return {
    ok := true
    outPath := output.outPath
    fileUrl := s!"file://{output.outPath}"
    verify := output.verify
    warnings := output.warnings
  }

/-! ## One stage -/

section Stages

variable {w : ExportWorld} {job : ExportJob} {command : EngineCommand} {target stage : String}
  {unlaunched failed : List String} {out : EngineOutput} {disk : Disk}

lemma runStage_ok (h : w.engine command = .ok out) (hcode : out.code = some 0) :
    runStage w job command target unlaunched failed stage disk =
      .ok () (out.leave target disk) := by
  simp only [runStage, h, hcode, if_true]
  rfl

lemma runStage_unlaunched {err : String} (h : w.engine command = .error err) :
    runStage w job command target unlaunched failed stage disk =
      .error (.refused (launchFailure job err)) (removeFiles unlaunched disk) := by
  simp only [runStage, h]
  rfl

lemma runStage_failed {text : String} (h : w.engine command = .ok out) (hcode : out.code ≠ some 0)
    (htext : summarizeStderr out.stderr = some text) :
    runStage w job command target unlaunched failed stage disk =
      .error (.refused (mapEngineExit (out.code.getD (-1)) text stage))
        (removeFiles failed (out.leave target disk)) := by
  simp only [runStage, h, if_neg hcode, htext]
  rfl

lemma runStage_panicked (h : w.engine command = .ok out) (hcode : out.code ≠ some 0)
    (htext : summarizeStderr out.stderr = none) :
    runStage w job command target unlaunched failed stage disk =
      .error .panicked (out.leave target disk) := by
  simp only [runStage, h, if_neg hcode, htext]
  rfl

end Stages

section Files

variable {paths : List String} {path : String} {disk : Disk}

lemma removeFiles_apply :
    removeFiles paths disk path = if path ∈ paths then none else disk path := by
  induction paths generalizing disk with
  | nil => simp [removeFiles]
  | cons q paths ih =>
    rw [removeFiles, List.foldl_cons]
    rw [show paths.foldl _ _ = removeFiles paths (Function.update disk q none) from rfl, ih]
    by_cases hq : path = q
    · subst hq
      simp
    · simp [hq]

/-- A file that goes leaves no trace of what was in it. -/
lemma removeFiles_update (h : path ∈ paths) (body : Option Bytes) :
    removeFiles paths (Function.update disk path body) = removeFiles paths disk := by
  funext q
  rw [removeFiles_apply, removeFiles_apply]
  by_cases hq : q = path
  · rw [hq, if_pos h, if_pos h]
  · rw [Function.update_of_ne hq]

lemma removeFiles_leave (h : path ∈ paths) (out : EngineOutput) :
    removeFiles paths (out.leave path disk) = removeFiles paths disk := by
  rw [EngineOutput.leave]
  cases out.left with
  | none => rfl
  | some body => exact removeFiles_update h _

lemma removeFiles_eq_none (h : disk path = none) : removeFiles paths disk path = none := by
  rw [removeFiles_apply, h, ite_self]

end Files

/-! ## The whole pipeline -/

section Runs

variable {w : ExportWorld} {job : ExportJob} {body : Bytes} {halt : Halt} {disk disk' : Disk}

/-- The rows are on the disk, and the engine can begin. -/
structure RowsWritten (w : ExportWorld) (job : ExportJob) (body : Bytes) : Prop where
  dir : w.createDirAll job.exports = none
  body : w.toVec job.rows = .ok body
  rows : w.writeRows = none

/-- The child has been launched and has ended with success. -/
def Succeeds (w : ExportWorld) (command : EngineCommand) : Prop :=
  ∃ out, w.engine command = .ok out ∧ out.code = some 0

lemma run_noDir {err : String} (h : w.createDirAll job.exports = some err) :
    runExportPipeline w job disk =
      .error (.refused (.internal s!"cannot create exports dir: {err}")) disk := by
  simp only [runExportPipeline, createExportsDir, h]
  rfl

lemma run_noBody {err : String} (hdir : w.createDirAll job.exports = none)
    (h : w.toVec job.rows = .error err) :
    runExportPipeline w job disk =
      .error (.refused (.internal s!"cannot serialize export rows: {err}")) disk := by
  simp only [runExportPipeline, createExportsDir, hdir, h]
  rfl

variable (disk) in
lemma run_noRows {err : String} {left : Option Bytes} (hdir : w.createDirAll job.exports = none)
    (hbody : w.toVec job.rows = .ok body) (h : w.writeRows = some (err, left)) :
    runExportPipeline w job disk =
      .error (.refused (.internal s!"cannot write rows.json: {err}"))
        (Function.update disk (rowsJson w job) left) := by
  simp only [runExportPipeline, createExportsDir, writeRowsJson, hdir, hbody, h]
  rfl

lemma run_engine (hrows : RowsWritten w job body) :
    runExportPipeline w job disk =
      runEngine w job (Function.update disk (rowsJson w job) (some body)) := by
  simp only [runExportPipeline, createExportsDir, writeRowsJson, hrows.dir, hrows.body, hrows.rows]
  rfl

variable (disk) in
lemma run_inject_error (hrows : RowsWritten w job body)
    (h : runStage w job (injectCommand w job) (populated w job) [rowsJson w job]
      [rowsJson w job, populated w job] "inject"
      (Function.update disk (rowsJson w job) (some body)) = .error halt disk') :
    runExportPipeline w job disk = .error halt disk' := by
  rw [run_engine hrows, runEngine]
  exact bind_of_error h

variable (disk) in
lemma run_process_error (hrows : RowsWritten w job body) {out : EngineOutput}
    (hout : w.engine (injectCommand w job) = .ok out) (hcode : out.code = some 0)
    (h : runStage w job (processCommand w job) job.outPath [rowsJson w job, populated w job]
      [job.outPath, rowsJson w job, populated w job] "process --verify"
      (out.leave (populated w job) (Function.update disk (rowsJson w job) (some body))) =
        .error halt disk') :
    runExportPipeline w job disk = .error halt disk' := by
  rw [run_engine hrows, runEngine, bind_of_ok (runStage_ok hout hcode)]
  exact bind_of_error h

variable (disk) in
lemma run_ok (hrows : RowsWritten w job body) (hinject : Succeeds w (injectCommand w job))
    (hprocess : Succeeds w (processCommand w job)) :
    ∃ out disk', runExportPipeline w job disk = .ok out disk' := by
  obtain ⟨out, hout, hcode⟩ := hinject
  obtain ⟨out', hout', hcode'⟩ := hprocess
  rw [run_engine hrows, runEngine, bind_of_ok (runStage_ok hout hcode),
    bind_of_ok (runStage_ok hout' hcode')]
  exact ⟨_, _, rfl⟩

end Runs

/-! ## The error path -/

/-- None of the files of the export is on the disk. -/
structure NothingLeft (w : ExportWorld) (job : ExportJob) (disk : Disk) : Prop where
  rows : disk (rowsJson w job) = none
  populated : disk (populated w job) = none
  deliverable : disk job.outPath = none

/-- The error that goes with the stage that has failed. -/
inductive StageError (w : ExportWorld) (job : ExportJob) : ApiError → Prop
  | dir {err : String} : w.createDirAll job.exports = some err →
      StageError w job (.internal s!"cannot create exports dir: {err}")
  | body {err : String} : w.toVec job.rows = .error err →
      StageError w job (.internal s!"cannot serialize export rows: {err}")
  | rows {err : String} {left : Option Bytes} : w.writeRows = some (err, left) →
      StageError w job (.internal s!"cannot write rows.json: {err}")
  | launchInject {err : String} : w.engine (injectCommand w job) = .error err →
      StageError w job (launchFailure job err)
  | inject {out : EngineOutput} {text : String} : w.engine (injectCommand w job) = .ok out →
      out.code ≠ some 0 → summarizeStderr out.stderr = some text →
      StageError w job (mapEngineExit (out.code.getD (-1)) text "inject")
  | launchProcess {err : String} : Succeeds w (injectCommand w job) →
      w.engine (processCommand w job) = .error err → StageError w job (launchFailure job err)
  | process {out : EngineOutput} {text : String} : Succeeds w (injectCommand w job) →
      w.engine (processCommand w job) = .ok out → out.code ≠ some 0 →
      summarizeStderr out.stderr = some text →
      StageError w job (mapEngineExit (out.code.getD (-1)) text "process --verify")

/-- The export succeeds only when both stages do; otherwise it answers the error of the stage that
has failed, and leaves nothing behind. -/
structure ErrorPath (w : ExportWorld) (job : ExportJob) (disk : Disk) : Prop where
  on_ok : ∀ out, outcome (runExportPipeline w job disk) = .ok out →
    Succeeds w (injectCommand w job) ∧ Succeeds w (processCommand w job)
  on_failure : ∀ halt, outcome (runExportPipeline w job disk) = .error halt →
    (∃ e, halt = .refused e ∧ StageError w job e) ∧
      NothingLeft w job (finalState (runExportPipeline w job disk))

/-- The last line of what was printed is short, or ends a character after 277 bytes. -/
def Summarizable (stderr : Bytes) : Prop :=
  byteLength (lastLine (fromUtf8Lossy stderr)) ≤ 280 ∨
    BytesEnd 277 (lastLine (fromUtf8Lossy stderr))

instance (stderr : Bytes) : Decidable (Summarizable stderr) :=
  inferInstanceAs (Decidable (_ ∨ _))

/-- What the stages that fail print can be summarised, and a file of rows that cannot be written
whole is not there at all. -/
structure CleanFailure (w : ExportWorld) (job : ExportJob) : Prop where
  rows : ∀ err left, w.createDirAll job.exports = none → (∃ body, w.toVec job.rows = .ok body) →
    w.writeRows = some (err, left) → left = none
  inject : ∀ body out, RowsWritten w job body → w.engine (injectCommand w job) = .ok out →
    out.code ≠ some 0 → Summarizable out.stderr
  process : ∀ body out, RowsWritten w job body → Succeeds w (injectCommand w job) →
    w.engine (processCommand w job) = .ok out → out.code ≠ some 0 → Summarizable out.stderr

section ErrorPaths

variable {w : ExportWorld} {job : ExportJob} {disk disk' : Disk}

lemma summarizable_iff {stderr : Bytes} :
    Summarizable stderr ↔ ∃ text, summarizeStderr stderr = some text := by
  simp only [Summarizable, summarizeStderr, bytesEnd_iff]
  by_cases h : byteLength (lastLine (fromUtf8Lossy stderr)) > 280
  · simp [if_pos h, Nat.not_le.mpr h]
  · simp [if_neg h, Nat.not_lt.mp h]

lemma NothingLeft.removeFiles (h : NothingLeft w job disk) (paths : List String) :
    NothingLeft w job (removeFiles paths disk) where
  rows := removeFiles_eq_none h.rows
  populated := removeFiles_eq_none h.populated
  deliverable := removeFiles_eq_none h.deliverable

lemma errorPath_of_refused {e : ApiError}
    (hrun : runExportPipeline w job disk = .error (.refused e) disk')
    (he : StageError w job e) (hleft : NothingLeft w job disk') : ErrorPath w job disk where
  on_ok := by
    intro out h
    rw [hrun] at h
    cases h
  on_failure := by
    intro halt h
    rw [hrun] at h ⊢
    cases h
    exact ⟨⟨e, rfl, he⟩, hleft⟩

lemma not_errorPath_of_panicked (hrun : runExportPipeline w job disk = .error .panicked disk') :
    ¬ ErrorPath w job disk := by
  intro h
  obtain ⟨⟨e, he, -⟩, -⟩ := h.on_failure .panicked (by rw [hrun]; rfl)
  cases he

lemma cleanFailure_of_unwritten (h : ∀ body, ¬ RowsWritten w job body) :
    CleanFailure w job ↔ ∀ err left, w.createDirAll job.exports = none →
      (∃ body, w.toVec job.rows = .ok body) → w.writeRows = some (err, left) → left = none where
  mp hclean := hclean.rows
  mpr hrows :=
    ⟨hrows, fun body _ hbody => (h body hbody).elim, fun body _ hbody => (h body hbody).elim⟩

lemma cleanFailure_of_written {body : Bytes} (h : RowsWritten w job body) :
    CleanFailure w job ↔
      (∀ out, w.engine (injectCommand w job) = .ok out → out.code ≠ some 0 →
        Summarizable out.stderr) ∧
      (Succeeds w (injectCommand w job) → ∀ out, w.engine (processCommand w job) = .ok out →
        out.code ≠ some 0 → Summarizable out.stderr) := by
  constructor
  · intro hclean
    exact ⟨fun out => hclean.inject body out h, fun hs out => hclean.process body out h hs⟩
  · rintro ⟨hinject, hprocess⟩
    refine ⟨fun err left _ _ hrows => ?_, fun _ out _ => hinject out,
      fun _ out _ hs => hprocess hs out⟩
    cases h.rows.symm.trans hrows

/-- The file of rows is not written. -/
lemma errorPath_unwritten (hleft : NothingLeft w job disk)
    (h : ∀ body, ¬ RowsWritten w job body) : ErrorPath w job disk ↔ CleanFailure w job := by
  rw [cleanFailure_of_unwritten h]
  cases hdir : w.createDirAll job.exports with
  | some err =>
    exact iff_of_true (errorPath_of_refused (run_noDir hdir) (.dir hdir) hleft) (by simp)
  | none =>
  cases hbody : w.toVec job.rows with
  | error err =>
    exact iff_of_true (errorPath_of_refused (run_noBody hdir hbody) (.body hbody) hleft) (by simp)
  | ok body =>
  cases hrows : w.writeRows with
  | none => exact (h body ⟨hdir, hbody, hrows⟩).elim
  | some failure =>
    obtain ⟨err, left⟩ := failure
    have hrun := run_noRows disk hdir hbody hrows
    constructor
    · intro herr err' left' _ _ hsome
      obtain ⟨rfl, rfl⟩ : err = err' ∧ left = left' := by simpa using hsome
      have hgone := (herr.on_failure _ (by rw [hrun]; rfl)).2.rows
      rwa [hrun, finalState, Function.update_self] at hgone
    · intro hnone
      obtain rfl : left = none := hnone err left rfl ⟨body, rfl⟩ rfl
      exact errorPath_of_refused hrun (.rows hrows) (hleft.removeFiles [rowsJson w job])

/-- The file of rows is written, and the engine has the say. -/
lemma errorPath_written {body : Bytes} (hleft : NothingLeft w job disk)
    (h : RowsWritten w job body) : ErrorPath w job disk ↔ CleanFailure w job := by
  rw [cleanFailure_of_written h]
  cases hinject : w.engine (injectCommand w job) with
  | error err =>
    have hrun := run_inject_error disk h (runStage_unlaunched hinject)
    rw [removeFiles_update (by simp)] at hrun
    refine iff_of_true
      (errorPath_of_refused hrun (.launchInject hinject) (hleft.removeFiles _)) ⟨nofun, ?_⟩
    rintro ⟨out, hout, -⟩
    cases hinject.symm.trans hout
  | ok out =>
  by_cases hcode : out.code = some 0
  · have hsucceeds : Succeeds w (injectCommand w job) := ⟨out, hinject, hcode⟩
    cases hprocess : w.engine (processCommand w job) with
    | error err =>
      have hrun := run_process_error disk h hinject hcode (runStage_unlaunched hprocess)
      rw [removeFiles_leave (by simp), removeFiles_update (by simp)] at hrun
      refine iff_of_true
        (errorPath_of_refused hrun (.launchProcess hsucceeds hprocess) (hleft.removeFiles _)) ?_
      simp [hcode]
    | ok out' =>
    by_cases hcode' : out'.code = some 0
    · obtain ⟨answer, disk', hrun⟩ := run_ok disk h hsucceeds ⟨out', hprocess, hcode'⟩
      refine iff_of_true ⟨fun _ _ => ⟨hsucceeds, out', hprocess, hcode'⟩, ?_⟩ ?_
      · intro halt hhalt
        rw [hrun] at hhalt
        cases hhalt
      · simp [hcode, hcode']
    · cases htext : summarizeStderr out'.stderr with
      | some text =>
        have hrun := run_process_error disk h hinject hcode
          (runStage_failed hprocess hcode' htext)
        rw [removeFiles_leave (by simp), removeFiles_leave (by simp),
          removeFiles_update (by simp)] at hrun
        refine iff_of_true (errorPath_of_refused hrun
          (.process hsucceeds hprocess hcode' htext) (hleft.removeFiles _)) ?_
        simp [hcode, summarizable_iff, htext]
      | none =>
        -- the deliverable is still there
        have hrun := run_process_error disk h hinject hcode
          (runStage_panicked hprocess hcode' htext)
        refine iff_of_false (not_errorPath_of_panicked hrun) ?_
        simp [hcode, hcode', hsucceeds, summarizable_iff, htext]
  · cases htext : summarizeStderr out.stderr with
    | some text =>
      have hrun := run_inject_error disk h (runStage_failed hinject hcode htext)
      rw [removeFiles_leave (by simp), removeFiles_update (by simp)] at hrun
      refine iff_of_true (errorPath_of_refused hrun (.inject hinject hcode htext)
        (hleft.removeFiles _)) ?_
      simp [Succeeds, hinject, hcode, summarizable_iff, htext]
    | none =>
      have hrun := run_inject_error disk h (runStage_panicked hinject hcode htext)
      refine iff_of_false (not_errorPath_of_panicked hrun) ?_
      simp [hcode, summarizable_iff, htext]

/-- **Error path.**  An export that fails answers the error of the stage that has failed and leaves
nothing behind, exactly when what that stage printed can be summarised and no part of a file of
rows is left by a failed write. -/
theorem export_error_path (hleft : NothingLeft w job disk) :
    ErrorPath w job disk ↔ CleanFailure w job := by
  by_cases h : ∃ body, RowsWritten w job body
  · obtain ⟨body, hbody⟩ := h
    exact errorPath_written hleft hbody
  · exact errorPath_unwritten hleft (not_exists.mp h)

end ErrorPaths

/-! ## Lines in other alphabets -/

/-- A line of more than 140 characters of two bytes each cannot be summarised. -/
lemma not_summarizable_of_wide {line : List Char} (hwide : ∀ c ∈ line, c.utf8Size = 2)
    (hblank : ∀ c ∈ line, isWhitespace c = false) (hlong : 140 < line.length) :
    ¬ Summarizable (line.flatMap String.utf8EncodeChar) := by
  have hsum : ∀ l : List Char, (∀ c ∈ l, c.utf8Size = 2) →
      (l.map Char.utf8Size).sum = 2 * l.length := by
    intro l hl
    rw [List.map_congr_left hl, List.map_const', List.sum_replicate, smul_eq_mul, mul_comm]
  have hnewline : '\n' ∉ line := by
    intro hmem
    have := hblank _ hmem
    revert this
    decide
  have hlast :
      lastLine (fromUtf8Lossy (line.flatMap String.utf8EncodeChar)) = String.ofList line := by
    have hdecode := fromUtf8Lossy_encode (String.ofList line)
    rw [String.toList_ofList] at hdecode
    have hne : line ≠ [] := List.ne_nil_of_length_pos (by omega)
    have htrim : trim (String.ofList line) = String.ofList line :=
      trimText_of_forall (by simpa using hblank)
    have hfull : String.ofList line ≠ "" := by
      intro h
      exact hne (by simpa using congrArg String.toList h)
    rw [hdecode, lastLine, linesOf_of_notMem hne hnewline]
    simp [htrim, hfull]
  rw [Summarizable, hlast, byteLength, String.toList_ofList, hsum line hwide]
  rintro (hshort | ⟨start, hstart, hbytes⟩)
  · omega
  · rw [String.toList_ofList] at hstart
    rw [hsum start fun c hc => hwide c (hstart.subset hc)] at hbytes
    omega

/-- An engine that fills the template, and then fails on the deliverable with one long line. -/
def russianWorld : ExportWorld where
  createDirAll := fun _ => none
  writeRows := none
  toVec := fun _ => .ok ("[]".toList.flatMap String.utf8EncodeChar)
  fromSlice := fun _ => none
  engine := fun command =>
    if "inject" ∈ command.args then .ok ⟨some 0, [], [], some [0x50, 0x4B]⟩
    else .ok ⟨some 1, [], (List.replicate 141 'я').flatMap String.utf8EncodeChar, some [0x50, 0x4B]⟩
  isFile := fun _ => true
  python := "python3"
  engineRoot := "/opt/ozon-excel-core"
  exportsDir := "/var/exports"
  stem := "7f3a"
  deliverableId := "91bc"

/-- An export of one product. -/
def russianJob : ExportJob where
  python := "python3"
  root := "/opt/ozon-excel-core"
  template := "/home/template.xlsx"
  configPath := "/opt/ozon-excel-core/fields.example.yaml"
  exports := "/var/exports"
  outPath := "/var/exports/ozon-deliverable-91bc.xlsx"
  rows := []

/-- The same engine, and a line in ASCII. -/
def englishWorld : ExportWorld :=
  { russianWorld with
    engine := fun command =>
      if "inject" ∈ command.args then .ok ⟨some 0, [], [], some [0x50, 0x4B]⟩
      else .ok ⟨some 1, [], "ValueError".toList.flatMap String.utf8EncodeChar, some [0x50, 0x4B]⟩ }

lemma rowsWritten_russian : RowsWritten russianWorld russianJob
    ("[]".toList.flatMap String.utf8EncodeChar) := ⟨rfl, rfl, rfl⟩

/-- A long line in Russian takes the export down before its files are gone. -/
theorem export_error_path_panics :
    ¬ ∀ (w : ExportWorld) (job : ExportJob) (disk : Disk),
      NothingLeft w job disk → ErrorPath w job disk := by
  intro h
  have hpath := h russianWorld russianJob (fun _ => none) ⟨rfl, rfl, rfl⟩
  have hclean := (errorPath_written ⟨rfl, rfl, rfl⟩ rowsWritten_russian).mp hpath
  have hfits := hclean.process _ _ rowsWritten_russian ⟨_, rfl, rfl⟩ rfl (by decide)
  refine @not_summarizable_of_wide (List.replicate 141 'я') ?_ ?_ (by simp) hfits
  · intro c hc
    rw [List.eq_of_mem_replicate hc]
    decide
  · intro c hc
    rw [List.eq_of_mem_replicate hc]
    decide

theorem export_error_path_ascii :
    NothingLeft englishWorld russianJob (fun _ => none) ∧
      (ErrorPath englishWorld russianJob (fun _ => none) ↔ CleanFailure englishWorld russianJob) :=
  ⟨⟨rfl, rfl, rfl⟩, export_error_path ⟨rfl, rfl, rfl⟩⟩

end OzonSuite
