import StudyFlow.Parameter
import StudyFlow.Queue
import StudyFlow.Settings

/-!
A study: its settings, its parameters and its steps.
-/

namespace StudyFlow

/-- A study as it is written down. -/
structure Study where
  name : String
  /-- Where the workspaces of the instances are; by default in a directory named after the study. -/
  workspace : Option Path := none
  queues : QueueSettings := {}
  adapter : AdapterSettings
  monitor : MonitorSettings := {}
  parameters : ParameterSet := []
  steps : List Template := []
  deriving Inhabited

namespace Study

/-- The directory of all workspaces. -/
def root (s : Study) : Path := s.workspace.getD ⟨s.name⟩

def queueNames (s : Study) : Except QueueError (List String) := s.queues.queuesFor s.steps

/-- The first step with a name. -/
def step? (s : Study) (name : String) : Option Template := s.steps.find? fun t => t.name == name

end Study

end StudyFlow
