import StudyFlow.Datum
import StudyFlow.Path
import StudyFlow.Template

/-!
Settings of a study that its steps share, and the settings of one submission.
-/

namespace StudyFlow

/-- What a program finds in its surroundings. -/
structure Environment where
  /-- The variable that names the user's shell. -/
  shell : Option String := none
  /-- The name of this machine. -/
  host : String := "localhost"
  /-- Instances that run at once unless a number is given. -/
  processors : Nat := 1

/-- The shell of scripts that no setting gives one: the user's, if it is an absolute path. -/
def Environment.defaultShell (e : Environment) : String :=
  match e.shell with
  | some s => if (Path.mk s).isAbsolute then s else "/bin/bash"
  | none => "/bin/bash"

/-- The worker that runs instances on this machine. -/
def Environment.localWorker (e : Environment) : String := "local@" ++ e.host

/-- Settings of the adapter that runs the scripts of a study. -/
structure AdapterSettings where
  adapterType : String := "local"
  shell : String
  batchType : Option String := none
  dryRun : Bool := false
  /-- Settings that only the adapter itself knows. -/
  extra : Extras := []
  deriving Inhabited

/-- The settings of one submission. -/
structure EffectiveSettings where
  adapterType : String
  shell : String
  batchType : String
  dryRun : Bool
  extra : Extras
  deriving Inhabited

/-- The settings of a submission of a step: what the step sets comes first. -/
def AdapterSettings.effectiveFor (a : AdapterSettings) (run : RunSettings) : EffectiveSettings where
  adapterType := a.adapterType
  shell := run.shell.getD a.shell
  batchType := run.batchType.getD (a.batchType.getD a.adapterType)
  dryRun := a.dryRun || run.dryRun
  extra := a.extra

/-- Settings of the monitor that keeps an allocation alive. -/
structure MonitorSettings where
  /-- Seconds between two samples. -/
  sleepSecs : UInt64 := 60
  /-- How often an idle queue is looked at for workers. -/
  maxAttempts : UInt32 := 10
  /-- Names of the workers that are waited for. -/
  workers : List String := []
  deriving DecidableEq, Inhabited

end StudyFlow
