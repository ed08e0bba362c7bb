/-!
Return codes, lifecycle states, and the state and label that a code leads to.
-/

namespace StudyFlow

/-- What a submission reports about the work it stands for. -/
inductive ReturnCode where
  | ok
  | dryOk
  | retry
  | restart
  | softFail
  | hardFail
  | stopWorkers
  deriving DecidableEq, Inhabited, Repr

namespace ReturnCode

/-- The number of the code, which is also the exit status that stands for it. -/
def number : ReturnCode → Int
  | ok => 0
  | restart => 100
  | softFail => 101
  | hardFail => 102
  | dryOk => 103
  | retry => 104
  | stopWorkers => 105

def ofNumber? (n : Int) : Option ReturnCode :=
  [ok, restart, softFail, hardFail, dryOk, retry, stopWorkers].find? fun c => c.number == n

def name : ReturnCode → String
  | ok => "OK"
  | dryOk => "DRY_OK"
  | retry => "RETRY"
  | restart => "RESTART"
  | softFail => "SOFT_FAIL"
  | hardFail => "HARD_FAIL"
  | stopWorkers => "STOP_WORKERS"

def isSuccess (c : ReturnCode) : Bool := c == ok || c == dryOk

def wantsAttempt (c : ReturnCode) : Bool := c == retry || c == restart

/-- The code of a process by its exit status. A status outside the vocabulary and the death by a
signal, which has no status, are soft failures. -/
def ofExit (status : Option Int) : ReturnCode := (status.bind ofNumber?).getD softFail

end ReturnCode

/-- Where an instance stands in its lifecycle. -/
inductive State where
  | initialized
  | running
  | finished
  | failed
  | cancelled
  | dryRun
  | unknown
  deriving DecidableEq, Inhabited, Repr

namespace State

def name : State → String
  | initialized => "INITIALIZED"
  | running => "RUNNING"
  | finished => "FINISHED"
  | failed => "FAILED"
  | cancelled => "CANCELLED"
  | dryRun => "DRYRUN"
  | unknown => "UNKNOWN"

def all : List State := [initialized, running, finished, failed, cancelled, dryRun, unknown]

def ofName? (s : String) : Option State := all.find? fun t => t.name == s

/-- Whether the lifecycle is over, unless a restart begins it anew. -/
def isTerminal (s : State) : Bool := s != initialized && s != running

end State

/-- What a soft failure is called once the restart limit is reached. -/
def maxRetriesSuffix : String := "_MAX_RETRIES_REACHED"

/-- The state and the result label that a code leads to; none stands for a number outside the
vocabulary. The flag tells whether the restart limit was reached. -/
def outcome : Option ReturnCode → Bool → State × String
  | some .ok, _ => (.finished, "SUCCESS")
  | some .dryOk, _ => (.dryRun, "DRY_SUCCESS")
  | some .retry, _ => (.finished, "RETRY_REQUESTED")
  | some .restart, _ => (.finished, "RESTART_REQUESTED")
  | some .softFail, hit => (.failed, if hit then "SOFT_FAIL" ++ maxRetriesSuffix else "SOFT_FAIL")
  | some .hardFail, _ => (.failed, "HARD_FAIL")
  | some .stopWorkers, _ => (.cancelled, "STOP_WORKERS")
  | none, _ => (.unknown, "UNRECOGNIZED_RETURN_CODE")

end StudyFlow
