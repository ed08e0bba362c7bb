import StudyFlow.Parameter
import StudyFlow.Path
import StudyFlow.Status.Duration
import StudyFlow.Status.Record
import StudyFlow.Template

/-!
Instances: concrete executions of steps, as values. How an instance is made, which command it
submits next, whether it may restart, how it is copied for a sample, and what its status line shows.
The transitions that also write the status file are in `StudyFlow.Lifecycle`.
-/

namespace StudyFlow

/-- One execution of a step. -/
structure Instance where
  name : String
  templateName : String
  cmd : String
  restartCmd : Option String
  run : RunSettings
  workspace : Path
  /-- The directory that the workspace is shown relative to. -/
  studyRoot : Option Path := none
  /-- Which of the parameter values the instance has, if it has any. -/
  parameterIndex : Option Nat := none
  /-- Whether the next submission is a restart. -/
  restart : Bool := false
  restarts : UInt32 := 0
  restartLimit : UInt32
  state : State := .initialized
  result : Option String := none
  createdAt : Millis := 0
  startedAt : Option Millis := none
  endedAt : Option Millis := none
  runtime : Option RuntimeContext := none
  deriving Inhabited

namespace Instance

/-- The one instance of a step without parameters. -/
def ofTemplate (t : Template) (workspace : Path) (now : Millis) : Instance where
  name := t.name
  templateName := t.name
  cmd := t.run.cmd
  restartCmd := t.run.restart
  run := t.run
  workspace := workspace
  restartLimit := t.run.maxRetries
  createdAt := now

def withStudyRoot (i : Instance) (root : Path) : Instance := { i with studyRoot := some root }

def withRuntime (i : Instance) (queue worker : String) : Instance :=
  { i with runtime := some ⟨queue, worker⟩ }

def withRestart (i : Instance) (restart : Bool) : Instance := { i with restart := restart }

def isParameterized (i : Instance) : Bool := i.parameterIndex.isSome

/-- The command of the next submission. -/
def activeCommand (i : Instance) : String :=
  match i.restartCmd, i.restart with
  | some cmd, true => cmd
  | _, _ => i.cmd

/-- Whether one more restart stays within the limit; a limit of zero allows any number. -/
def canRestart (i : Instance) : Bool := i.restartLimit == 0 || i.restarts < i.restartLimit

/-- Whether a command of the instance refers to one of the labels or to a sample. -/
def needsSamples (i : Instance) (labels : List String) : Bool :=
  referencesAny i.cmd (labels ++ sampleKeywords) ||
    (i.restartCmd.map fun cmd => referencesAny cmd (labels ++ sampleKeywords)).getD false

/-- A command with each pair replaced in turn, where ASCII letters match in either case. -/
def replaceAll (pairs : List (String × String)) (cmd : String) : String :=
  pairs.foldl (fun cmd p => Text.replaceFolded cmd p.1 p.2) cmd

/-- A fresh copy with replacements in both commands, in a workspace of its own if one is given. -/
def cloneWith (i : Instance) (pairs : List (String × String)) (workspace : Option Path)
    (now : Millis) : Instance :=
  { i with
    cmd := replaceAll pairs i.cmd
    restartCmd := i.restartCmd.map (replaceAll pairs)
    workspace := workspace.getD i.workspace
    restart := false
    restarts := 0
    state := .initialized
    result := none
    createdAt := now
    startedAt := none
    endedAt := none
    runtime := none }

/-- The workspace as the status line shows it: relative to the study root if it is below it, with
underscores in place of blanks. -/
def condensedWorkspace (i : Instance) : String :=
  let relative := (i.studyRoot.bind fun root => i.workspace.below? root).filter fun p =>
    !p.text.isEmpty
  Text.squashBlanks (relative.getD i.workspace).text

/-- What the status file of the instance shows at the given time. -/
def status (i : Instance) (now : Millis) : StatusRecord :=
  let until_ := i.endedAt.getD now
  { name := i.name
    state := i.state
    result := i.result.getD noResult
    elapsedTime := formatDuration (until_ - i.createdAt)
    runTime := (i.startedAt.map fun start => formatDuration (until_ - start)).getD noRunTime
    restarts := i.restarts
    workspace := i.condensedWorkspace
    runtime := i.runtime }

end Instance

end StudyFlow
