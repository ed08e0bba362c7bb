import StudyFlow.Expansion
import StudyFlow.Lifecycle
import StudyFlow.Queue
import StudyFlow.Settings

/-!
Submitting an instance: its workspace and its script are made, and an adapter is handed the script.
In a dry run nothing is handed over.
-/

namespace StudyFlow

/-- Why an adapter cannot take or follow a submission. -/
inductive AdapterError where
  | spawn (shell cause : String)
  | capture (step cause : String)
  | rejected (reason : String)
  deriving DecidableEq, Inhabited, Repr

namespace AdapterError

def message : AdapterError → String
  | spawn shell cause => "failed to launch '" ++ shell ++ "': " ++ cause
  | capture step cause => "failed to capture output of '" ++ step ++ "': " ++ cause
  | rejected reason => "submission rejected: " ++ reason

end AdapterError

/-- Why an instance cannot be prepared or run. -/
inductive ExecutionError where
  | status (cause : StatusError)
  | adapter (cause : AdapterError)
  | queue (cause : QueueError)
  | expansion (cause : ExpansionError)
  | script (path : Path) (cause : Fault)
  | workerLost (step : String)
  deriving DecidableEq, Inhabited, Repr

namespace ExecutionError

def message : ExecutionError → String
  | status cause => cause.message
  | adapter cause => cause.message
  | queue cause => cause.message
  | expansion cause => cause.message
  | script path cause => "failed to write script " ++ path.text ++ ": " ++ cause.message
  | workerLost step => "worker for step '" ++ step ++ "' stopped before reporting a result"

end ExecutionError

/-- A script in the workspace of an instance. -/
structure Script where
  step : String
  command : String
  workspace : Path
  path : Path
  deriving DecidableEq, Inhabited

/-- What a submission led to: the code of the work and the name of the job. -/
structure Submission where
  code : ReturnCode
  job : String
  deriving DecidableEq, Inhabited

/-- How an adapter answers: with a submission, with an error, or not at all. -/
inductive Reply where
  | submitted (submission : Submission)
  | refused (cause : AdapterError)
  | crashed
  deriving DecidableEq, Inhabited

/-- An adapter: whatever runs scripts. It has a state of its own and works on the site. -/
structure Adapter (σ : Type) where
  submit : Script → EffectiveSettings → σ → Site → Reply × σ × Site

/-- An adapter with the settings of a study. -/
structure Bridge (σ : Type) where
  settings : AdapterSettings
  adapter : Adapter σ

def Instance.script (i : Instance) : Script where
  step := i.name
  command := i.activeCommand
  workspace := i.workspace
  path := i.workspace.child (i.templateName ++ ".sh")

/-- The text of a script: the shell that it is for, and the command. -/
def Script.text (s : Script) (shell : String) : String := "#!" ++ shell ++ "\n" ++ s.command ++ "\n"

def Script.write (s : Script) (shell : String) (t : FileTree) : Except Fault Unit × FileTree :=
  match t.writeText s.path (s.text shell) with
  | .error f => (.error f, t)
  | .ok t => match t.makeExecutable s.path with
    | .error f => (.error f, t)
    | .ok t => (.ok (), t)

/-- How a submission ends: with a code, with an error, or with the adapter gone. -/
inductive SubmitResult where
  | submitted (submission : Submission)
  | failed (cause : ExecutionError)
  | crashed
  deriving DecidableEq, Inhabited

/-- What the journal says when an instance is prepared and nothing is handed over. -/
def Instance.dryRunNotice (i : Instance) : String :=
  "Dry run: prepared '" ++ i.name ++ "' in '" ++ i.workspace.text ++ "'"

/-- What the journal says when the script of an instance is handed over. -/
def Instance.executionNotice (i : Instance) : String :=
  "Executing step '" ++ i.name ++ "' in '" ++ i.workspace.text ++ "'..."

namespace Bridge

variable {σ : Type}

/-- Makes the workspace and the script of an instance. -/
def prepare (b : Bridge σ) (i : Instance) (s : Site) : Except ExecutionError Script × Site :=
  match i.persist s with
  | (.error e, s) => (.error (.status e), s)
  | (.ok (), s) =>
    match i.script.write (b.settings.effectiveFor i.run).shell s.files with
    | (.error f, t) => (.error (.script i.script.path f), { s with files := t })
    | (.ok (), t) => (.ok i.script, { s with files := t })

/-- Submits an instance. Its workspace and its script are always made. -/
def submit (b : Bridge σ) (i : Instance) (state : σ) (s : Site) : SubmitResult × σ × Site :=
  let settings := b.settings.effectiveFor i.run
  match b.prepare i s with
  | (.error e, s) => (.failed e, state, s)
  | (.ok script, s) =>
    if settings.dryRun then (.submitted ⟨.dryOk, "dry-run"⟩, state, s.info i.dryRunNotice)
    else
      match b.adapter.submit script settings state (s.info i.executionNotice) with
      | (.submitted submission, state, s) => (.submitted submission, state, s)
      | (.refused e, state, s) => (.failed (.adapter e), state, s)
      | (.crashed, state, s) => (.crashed, state, s)

end Bridge

end StudyFlow
