import StudyFlow.Template
import StudyFlow.Text.Substring

/-!
Queues: which task queue a step is routed to.

* `QueueSettings.resolve` combines the tag of a study with the queue that a step asks for.
* `QueueSettings.queuesFor` is the sorted list of queues of some steps, each named once.
-/

namespace StudyFlow

/-- The queue of a step that asks for none, where queues are not tagged. -/
def defaultQueue : String := "merlin"

structure QueueSettings where
  /-- What stands in front of each queue name. -/
  queueTag : String := "[merlin]_"
  /-- Whether a queue that a step asks for is used as it is. -/
  omitQueueTag : Bool := false
  deriving DecidableEq, Inhabited

/-- Why no queue is found for a step. -/
inductive QueueError where
  | invalidOverride (step queue : String)
  deriving DecidableEq, Inhabited, Repr

namespace QueueError

def message : QueueError → String
  | invalidOverride step queue =>
    "step '" ++ step ++ "': queue override '" ++ queue ++ "' must not contain whitespace"

end QueueError

/-- The queue that is really asked for: blanks around it do not count, and an empty text and `none`
in any case ask for nothing. -/
def requestedQueue? (taskQueue : Option String) : Option String :=
  (taskQueue.map Text.trim).filter fun q => !q.isEmpty && !Text.equalFolded q "none"

namespace QueueSettings

/-- The queue of a step with the given name that asks for the given queue. -/
def resolve (q : QueueSettings) (step : String) (taskQueue : Option String) :
    Except QueueError String :=
  match requestedQueue? taskQueue with
  | some queue =>
    if Text.hasBlank queue then .error (.invalidOverride step queue)
    else if q.omitQueueTag then .ok queue
    else .ok (q.queueTag ++ queue)
  | none => if q.omitQueueTag then .ok defaultQueue else .ok q.queueTag

def resolveStep (q : QueueSettings) (t : Template) : Except QueueError String :=
  q.resolve t.name t.run.taskQueue

/-- Adds a name to a sorted list of distinct names. -/
def insertName (name : String) : List String → List String
  | [] => [name]
  | x :: xs =>
    if name < x then name :: x :: xs else if name == x then x :: xs else x :: insertName name xs

/-- The queues of some steps, sorted and each named once, or the error of the first step without
one. -/
def queuesFor (q : QueueSettings) (steps : List Template) : Except QueueError (List String) :=
  (steps.mapM q.resolveStep).map fun names => names.foldl (fun acc n => insertName n acc) []

end QueueSettings

end StudyFlow
