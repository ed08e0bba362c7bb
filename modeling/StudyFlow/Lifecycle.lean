import StudyFlow.Instance
import StudyFlow.Status.File

/-!
The lifecycle of an instance: `INITIALIZED`, `RUNNING`, and a terminal state. Each transition
changes the instance in memory and then writes its status file; a write that fails leaves the change
in memory.
-/

namespace StudyFlow

/-- What a transition leaves: its result, the instance and the site. -/
structure Transition (α : Type) where
  result : Except StatusError α
  item : Instance
  site : Site

namespace Instance

/-- Makes the workspace and writes the status file. -/
def persist (i : Instance) (s : Site) : Except StatusError Unit × Site :=
  match s.files.createDirs i.workspace with
  | (.error f, t) => (.error (.write i.workspace f), { s with files := t })
  | (.ok (), t) =>
    let (written, t) := t.writeStatus i.workspace (i.status s.clock)
    (written.map fun _ => (), { s with files := t })

/-- The transition that writes the status of an instance as it is. -/
def save (i : Instance) (s : Site) : Transition Unit :=
  let (result, s) := i.persist s
  ⟨result, i, s⟩

/-- Starts the instance. The first start time is kept. -/
def markRunning (i : Instance) (s : Site) : Transition Unit :=
  save { i with
    state := .running
    endedAt := none
    startedAt := some (i.startedAt.getD s.clock) } s

/-- Ends the instance with the state and the label of a code. -/
def finish (i : Instance) (code : Option ReturnCode) (hitLimit : Bool) (s : Site) :
    Transition Unit :=
  let (state, label) := outcome code hitLimit
  let s := s.info ("Step '" ++ i.name ++ "' ended: " ++ state.name ++ " (" ++ label ++ ")")
  save { i with state := state, result := some label, endedAt := some s.clock } s

def markEnd (i : Instance) (code : ReturnCode) (hitLimit : Bool) (s : Site) : Transition Unit :=
  i.finish (some code) hitLimit s

def markEndNumber (i : Instance) (number : Int) (hitLimit : Bool) (s : Site) : Transition Unit :=
  let known := ReturnCode.ofNumber? number
  let s := if known.isSome then s
    else s.warn ("Step '" ++ i.name ++ "' returned unrecognized code " ++ toString number)
  i.finish known hitLimit s

/-- Counts a restart if the limit allows one, and tells whether it was counted. -/
def markRestart (i : Instance) (s : Site) : Transition Bool :=
  let counted := i.canRestart
  let i := if counted then { i with restarts := i.restarts + 1 } else i
  let t := i.save s
  ⟨t.result.map fun _ => counted, t.item, t.site⟩

end Instance

end StudyFlow
