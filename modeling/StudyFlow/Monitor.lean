import StudyFlow.Settings
import StudyFlow.Text.Substring

/-!
Keeping an allocation alive: queues are sampled until no work is left that any worker will take.

Queues with tasks and no consumers count as work only if an expected worker shows up within a
bounded number of polls. The answers of the task server are read one after the other;
`Monitor.check` takes one sample and `Monitor.runWithin` takes samples until one says that the
allocation may be released. As that may never happen, it looks no further than a given number of
samples.
-/

namespace StudyFlow

/-- Why the task server gives no answer. -/
inductive MonitorError where
  | unreachable (reason : String)
  | query (queue reason : String)
  deriving DecidableEq, Inhabited, Repr

namespace MonitorError

def message : MonitorError → String
  | unreachable reason => "task server unreachable: " ++ reason
  | query queue reason => "query for queue '" ++ queue ++ "' failed: " ++ reason

end MonitorError

/-- How many tasks a queue holds and how many consumers it has. -/
structure QueueStats where
  name : String
  pending : Nat
  consumers : Nat
  deriving DecidableEq, Inhabited, Repr

/-- The answer to a question about queues. -/
abbrev StatsAnswer := Except MonitorError (List QueueStats)

/-- The answer to the question which workers are alive. -/
abbrev WorkersAnswer := Except MonitorError (List String)

/-- What a task server will answer to the questions that come one after the other, and how many of
them were asked so far. -/
structure Server where
  stats : Nat → StatsAnswer
  workers : Nat → WorkersAnswer
  samples : Nat := 0
  polls : Nat := 0

namespace Server

/-- The server that has the given answers. After the last one it is gone, and knows of no worker. -/
def ofAnswers (stats : List StatsAnswer) (workers : List WorkersAnswer) : Server where
  stats k := stats[k]?.getD (.error (.unreachable "no more samples"))
  workers k := workers[k]?.getD (.ok [])

def askStats (s : Server) : StatsAnswer × Server :=
  (s.stats s.samples, { s with samples := s.samples + 1 })

/-- Asks which workers are alive. -/
def askWorkers (s : Server) : WorkersAnswer × Server :=
  (s.workers s.polls, { s with polls := s.polls + 1 })

end Server

/-- A monitor of some queues. -/
structure Monitor where
  queues : List String
  /-- Names that the identity of an expected worker contains. -/
  expected : List String
  maxAttempts : Nat := 10

namespace Monitor

def ofSettings (queues : List String) (m : MonitorSettings) : Monitor :=
  ⟨queues, m.workers, m.maxAttempts.toNat⟩

/-- Whether an expected worker is among those alive. -/
def isPresent (m : Monitor) (alive : List String) : Bool :=
  m.expected.any fun name => alive.any fun identity => Text.contains identity name

attribute [local instance (high)] Zero.ofOfNat0

def totalPending (stats : List QueueStats) : Nat := (stats.map QueueStats.pending).sum

def totalConsumers (stats : List QueueStats) : Nat := (stats.map QueueStats.consumers).sum

/-- Polls at most the given number of times for an expected worker, and tells whether one showed
up. -/
def awaitWorker (m : Monitor) : Nat → Server → Except MonitorError Bool × Server
  | 0, s => (.ok false, s)
  | n + 1, s => match s.askWorkers with
    | (.error e, s) => (.error e, s)
    | (.ok alive, s) => if m.isPresent alive then (.ok true, s) else m.awaitWorker n s

/-- Takes one sample: the number of tasks that are worth waiting for. -/
def check (m : Monitor) (s : Server) : Except MonitorError Nat × Server :=
  match s.askStats with
  | (.error e, s) => (.error e, s)
  | (.ok stats, s) =>
    let pending := totalPending stats
    if pending == 0 || 0 < totalConsumers stats then (.ok pending, s)
    else match m.awaitWorker m.maxAttempts s with
      | (.error e, s) => (.error e, s)
      | (.ok present, s) => (.ok (if present then pending else 0), s)

/-- Takes samples until one finds nothing to wait for. None stands for a run that goes on after so
many samples. -/
def runWithin (m : Monitor) : Nat → Server → Option (Except MonitorError Unit × Server)
  | 0, _ => none
  | n + 1, s => match m.check s with
    | (.error e, s) => some (.error e, s)
    | (.ok pending, s) => if pending == 0 then some (.ok (), s) else m.runWithin n s

end Monitor

end StudyFlow
