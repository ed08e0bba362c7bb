import StudyFlow.Text.Blank

/-!
Step templates: what a study says about one step before parameters are filled in.
-/

namespace StudyFlow

structure BatchSettings where
  batchType : Option String := none
  deriving DecidableEq, Inhabited

structure RunSettings where
  /-- The command; it may hold placeholders. -/
  cmd : String
  /-- The command of a submission after a restart was asked for. -/
  restart : Option String := none
  /-- The queue that the step asks for. -/
  taskQueue : Option String := none
  shell : Option String := none
  batch : Option BatchSettings := none
  /-- How many restarts the step may use up; zero stands for no limit. -/
  maxRetries : UInt32 := 30
  /-- Seconds to wait before a further submission. -/
  retryDelay : UInt64 := 1
  /-- Whether only workspace and script are prepared. -/
  dryRun : Bool := false
  deriving DecidableEq, Inhabited

def RunSettings.batchType (r : RunSettings) : Option String := r.batch.bind BatchSettings.batchType

/-- A step of a study. -/
structure Template where
  name : String
  run : RunSettings
  deriving DecidableEq, Inhabited

namespace Template

/-- A step with a command and default settings; blanks around name and command do not count. -/
def new (name cmd : String) : Template := ⟨Text.trim name, { cmd := Text.trim cmd }⟩

def withRestart (t : Template) (restart : String) : Template :=
  { t with run := { t.run with restart := some restart } }

def withTaskQueue (t : Template) (queue : String) : Template :=
  { t with run := { t.run with taskQueue := some queue } }

def withShell (t : Template) (shell : String) : Template :=
  { t with run := { t.run with shell := some shell } }

def withBatchType (t : Template) (batchType : String) : Template :=
  { t with run := { t.run with batch := some { batchType := some batchType } } }

def withMaxRetries (t : Template) (n : UInt32) : Template :=
  { t with run := { t.run with maxRetries := n } }

def withRetryDelay (t : Template) (seconds : UInt64) : Template :=
  { t with run := { t.run with retryDelay := seconds } }

def withDryRun (t : Template) (dryRun : Bool) : Template :=
  { t with run := { t.run with dryRun := dryRun } }

end Template

end StudyFlow
