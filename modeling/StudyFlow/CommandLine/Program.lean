import StudyFlow.CommandLine.Arguments
import StudyFlow.CommandLine.Table
import StudyFlow.LocalAdapter
import StudyFlow.Runner
import StudyFlow.Study.Check

/-!
The program behind the command line: it runs a study or shows the status of a workspace. What it
prints and its exit status are values, and so is the site that it leaves.
-/

namespace StudyFlow.CommandLine

/-- The name that the program gives itself. -/
def appName : String := "StepRunner"

def version : String := "0.1.0"

/-- How the program shows what it does. -/
structure Display where
  /-- Whether states are set off by colours. -/
  color : Bool := false
  /-- Whether the journal is shown. -/
  journal : Bool := true

/-- What a run of the program comes to. -/
structure Outcome where
  exit : Nat
  stdout : String
  stderr : String
  site : Site

/-- Texts that are lines of their own. -/
def lines (texts : List String) : String := texts.foldl (fun acc t => acc ++ t ++ "\n") ""

def banner : String :=
  lines ["", appName ++ " v" ++ version, "Workflow Step Lifecycle Manager", ""]

def usage : String :=
  lines [
    "Usage: steprunner <COMMAND> [OPTIONS]",
    "",
    "Commands:",
    "  run <STUDY_FILE>    Expand and run every step of a study",
    "  status <WORKSPACE>  Show the status of every instance",
    "",
    "Options:",
    "  --dry-run           Create workspaces and scripts only",
    "  --parallel N        Maximum concurrent instances (default: CPU count)",
    "  --verbose           Enable debug logging",
    "  --help              Show this help message",
    "  --version           Show version information",
    "",
    "Examples:",
    "  steprunner run study.yaml --parallel 8",
    "  steprunner status ./studies/demo"]

/-- The runner of a study. As many instances run at once as there are processors, unless a number is
asked for. -/
def studyRunner {σ : Type} (env : Environment) (adapter : Adapter σ) (study : Study)
    (maxParallel : Option Nat) : Runner σ :=
  let runner : Runner σ := {
    bridge := ⟨study.adapter, adapter⟩
    queues := study.queues
    root := study.root
    maxParallel := max env.processors 1
    worker := env.localWorker }
  match maxParallel with
  | some n => runner.setMaxParallel n
  | none => runner

/-- What the journal says before the steps of a study are run. -/
def announce (study : Study) (maxParallel : Nat) (s : Site) : Site :=
  let s := if study.adapter.dryRun then
    s.info "Mode: DRY RUN (scripts are written, nothing executes)" else s
  let s := s.info ("Workspace: " ++ study.root.text)
  s.info ("Running up to " ++ maxParallel.repr ++ " instance(s) at once")

/-- What the result of the steps of a study means: success, or the reason for a failure. -/
def verdict (study : Study) (result : Except ExecutionError Summary) (s : Site) :
    Except String Unit × Site :=
  match result with
  | .error e => (.error e.message, s)
  | .ok summary =>
    let failed := summary.failed
    let s := s.info ("Study '" ++ study.name ++ "' done: " ++ summary.reports.length.repr ++
      " instance(s), " ++ summary.succeeded.length.repr ++ " succeeded, " ++ failed.length.repr ++
      " failed")
    if failed.isEmpty then (.ok (), s)
    else
      let s := failed.foldl (fun s r => s.warn ("  " ++ r.name ++ " -> " ++ r.status.result)) s
      (.error (failed.length.repr ++ " instance(s) did not succeed"), s)

def runWith {σ : Type} (env : Environment) (adapter : Adapter σ) (study : Study)
    (maxParallel : Option Nat) (state : σ) (s : Site) : Except String Unit × Site :=
  let runner := studyRunner env adapter study maxParallel
  let (result, _, s) :=
    runner.runAll study.steps study.parameters state (announce study runner.maxParallel s)
  verdict study result s

/-- Runs the steps of a study that is loaded. The result is the reason for a failure, if there is
one. -/
def runLoaded (env : Environment) (launch : Launcher) (study : Study) (maxParallel : Option Nat)
    (s : Site) : Except String Unit × Site :=
  runWith env (localAdapter Unit launch) study maxParallel () s

def runStudy (env : Environment) (launch : Launcher) (i : Invocation) (file : Path) (s : Site) :
    Except String Unit × Site :=
  match Study.load env.defaultShell file s with
  | (.error e, s) =>
    (.error ("Could not load study from '" ++ file.text ++ "': " ++ e.message),
      s.error ("Failed to load study: " ++ e.message))
  | (.ok study, s) =>
    let study := if i.dryRun then { study with adapter := { study.adapter with dryRun := true } }
      else study
    runLoaded env launch study i.maxParallel s

/-- The table of the status records below a directory, empty if there are none. -/
def showStatus (color : Bool) (workspace : Path) (s : Site) : Except String String × Site :=
  if !s.files.isDirAt workspace then
    (.error ("Workspace does not exist: " ++ workspace.text), s)
  else match s.files.collectStatuses workspace with
    | .error e => (.error e.message, s)
    | .ok (records, skipped) =>
      let s := skipped.foldl (fun s x =>
        s.warn ("Skipping " ++ x.1.text ++ ": " ++ x.2.message)) s
      if records.isEmpty then
        (.ok "", s.warn ("No status files found under " ++ workspace.text))
      else (.ok (statusTable color records), s)

/-- The messages that the journal got since it had the given length, as lines. -/
def journalSince (start : Nat) (s : Site) : String := lines ((s.journal.drop start).map Notice.line)

/-- What the program comes to, given what it printed and whether it failed. -/
def conclude (display : Display) (start : Nat) (stdout : String) (result : Except String Unit)
    (s : Site) : Outcome :=
  let journal := if display.journal then journalSince start s else ""
  match result with
  | .ok () => ⟨0, stdout, journal, s⟩
  | .error text => ⟨1, stdout, journal ++ "\nError: " ++ text ++ "\n", s⟩

/-- Runs the program with the arguments after its name. -/
def execute (env : Environment) (display : Display) (launch : Launcher)
    (args : List String) (s : Site) : Outcome :=
  let start := s.journal.length
  match parse args with
  | .error e =>
    ⟨1, usage, "Error: " ++ e.message ++ "\n\n" ++ "\nError: " ++ e.message ++ "\n", s⟩
  | .ok .help => ⟨0, usage, "", s⟩
  | .ok .version => ⟨0, lines [appName ++ " " ++ version], "", s⟩
  | .ok (.invoke i) =>
    match i.command with
    | .run file =>
      let (result, s) := runStudy env launch i file s
      conclude display start banner result s
    | .status workspace =>
      match showStatus display.color workspace s with
      | (.error text, s) => conclude display start "" (.error text) s
      | (.ok table, s) => conclude display start table (.ok ()) s

end StudyFlow.CommandLine
