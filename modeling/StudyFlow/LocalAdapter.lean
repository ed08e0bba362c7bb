import StudyFlow.Adapter

/-!
The adapter that runs scripts on this machine. How a process runs is given by a launcher; the
adapter keeps what the process printed beside the script and leaves a marker after a clean exit.
-/

namespace StudyFlow

/-- The marker in the workspace of a script that exited cleanly. -/
def finishedMarker : String := "FINISHED"

/-- A process that has come to its end. -/
structure Finished where
  /-- What the system calls the process. -/
  process : String
  /-- The exit status, none if a signal ended the process. -/
  status : Option Int
  output : ByteArray
  errors : ByteArray
  files : FileTree

/-- Runs a program with arguments in a directory, unless it cannot be started. -/
abbrev Launcher := String → List String → Path → FileTree → Except Fault Finished

namespace LocalAdapter

/-- What the journal says about a script that failed. -/
def failureNotice (step : String) (status : Option Int) (code : ReturnCode) : String :=
  let shown := match status with
    | some n => "Some(" ++ toString n ++ ")"
    | none => "None"
  "Step '" ++ step ++ "' exited with " ++ shown ++ " (" ++ code.name ++ ")"

/-- Keeps what a process left: its output, its errors, and the marker after a clean exit. -/
def capture (workspace : Path) (stem : String) (f : Finished) : Except Fault Unit × FileTree :=
  match f.files.write (workspace.child (stem ++ ".out")) f.output with
  | .error e => (.error e, f.files)
  | .ok t => match t.write (workspace.child (stem ++ ".err")) f.errors with
    | .error e => (.error e, t)
    | .ok t =>
      if f.status == some 0 then
        match t.write (workspace.child finishedMarker) ByteArray.empty with
        | .error e => (.error e, t)
        | .ok t => (.ok (), t)
      else (.ok (), t)

/-- Runs a script with the shell of its settings, in its workspace. -/
def submit (launch : Launcher) (script : Script) (settings : EffectiveSettings) (s : Site) :
    Reply × Site :=
  let argument := script.path.fileName?.getD script.path.text
  match launch settings.shell [argument] script.workspace s.files with
  | .error f => (.refused (.spawn settings.shell f.message), s)
  | .ok finished =>
    let stem := script.path.fileStem?.getD "step"
    match capture script.workspace stem finished with
    | (.error f, t) => (.refused (.capture script.step f.message), { s with files := t })
    | (.ok (), t) =>
      let s := { s with files := t }
      let code := ReturnCode.ofExit finished.status
      let s := if finished.status == some 0 then s
        else s.error (failureNotice script.step finished.status code)
      (.submitted ⟨code, "local-" ++ finished.process⟩, s)

end LocalAdapter

/-- The adapter that runs scripts on this machine by the given launcher. It keeps no state. -/
def localAdapter (σ : Type) (launch : Launcher) : Adapter σ where
  submit script settings state s :=
    let (reply, s) := LocalAdapter.submit launch script settings s
    (reply, state, s)

end StudyFlow
