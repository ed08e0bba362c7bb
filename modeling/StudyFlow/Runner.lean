import StudyFlow.Drive

/-!
Running templates: the instances of a template are prepared, each is driven to its end by a worker,
and the reports of the workers are gathered. Templates run one after the other until one asks for
workers to stop.

Workers are independent of one another, so the one schedule that `Runner.runInstances` follows, each
worker finishing before the next one begins, stands for all that respect the bound on parallel
workers.
-/

namespace StudyFlow

/-- The final outcome of one instance. -/
structure Report where
  name : String
  code : ReturnCode
  status : StatusRecord
  deriving DecidableEq, Inhabited

/-- The outcomes of the instances of a run, in the order in which they came in. -/
structure Summary where
  reports : List Report := []
  deriving DecidableEq, Inhabited

namespace Summary

def succeeded (s : Summary) : List Report := s.reports.filter fun r => r.code.isSuccess

def failed (s : Summary) : List Report := s.reports.filter fun r => !r.code.isSuccess

/-- Whether an instance asked for workers to stop. -/
def stopRequested (s : Summary) : Bool := s.reports.any fun r => r.code == .stopWorkers

def append (s t : Summary) : Summary := ⟨s.reports ++ t.reports⟩

end Summary

/-- What a worker sends when its instance has come to an end. -/
structure Message where
  name : String
  result : Except ExecutionError Report

/-- A runner: an adapter, the queues of a study, and where and how its instances run. -/
structure Runner (σ : Type) where
  bridge : Bridge σ
  queues : QueueSettings
  root : Path
  maxParallel : Nat := 1
  worker : String

namespace Runner

variable {σ : Type}

/-- Sets how many instances run at once; there is always room for one. -/
def setMaxParallel (r : Runner σ) (n : Nat) : Runner σ := { r with maxParallel := max n 1 }

/-- The instances of a template with their queue and worker. The queue is looked for first. -/
def prepared (r : Runner σ) (t : Template) (ps : ParameterSet) (now : Millis) :
    Except ExecutionError (String × List Instance) := do
  let queue ← (r.queues.resolveStep t).mapError .queue
  let instances ← (t.instances ps r.root now).mapError .expansion
  pure (queue, instances.map fun i => i.withRuntime queue r.worker)

/-- Prepares the instances of a template. -/
def prepare (r : Runner σ) (t : Template) (ps : ParameterSet) (s : Site) :
    Except ExecutionError (List Instance) × Site :=
  match r.prepared t ps s.clock with
  | .error e =>
    (.error e, s)
  | .ok (queue, instances) =>
    let s := match t.expansionNotice? ps r.root with
      | some text => s.info text
      | none => s
    (.ok instances, s.info ("Step '" ++ t.name ++ "': " ++ instances.length.repr ++
      " instance(s) on queue '" ++ queue ++ "'"))

/-- The message of a worker whose drive has ended. The loss of the adapter is recorded first. -/
def settle (i : Instance) (ending : Ending) (s : Site) : Message × Site :=
  match ending with
  | .code code => (⟨i.name, .ok ⟨i.name, code, i.status s.clock⟩⟩, s)
  | .failed e => (⟨i.name, .error e⟩, s)
  | .crashed =>
    let (_, s) := Drive.recordFailure i (s.error ("Worker for '" ++ i.name ++ "' panicked"))
    (⟨i.name, .error (.workerLost i.name)⟩, s)

/-- What a worker does: it drives one instance to its end and reports. -/
def work (r : Runner σ) (i : Instance) (state : σ) (s : Site) : Message × σ × Site :=
  let (ending, i, state, s) := Drive.run r.bridge i state s
  let (message, s) := settle i ending s
  (message, state, s)

/-- What was received from workers so far. -/
structure Inbox where
  summary : Summary := {}
  /-- The error that came in first. -/
  firstError : Option ExecutionError := none

def Inbox.receive (b : Inbox) (m : Message) : Inbox :=
  match m.result with
  | .ok report => { b with summary := ⟨b.summary.reports ++ [report]⟩ }
  | .error e => { b with firstError := some (b.firstError.getD e) }

/-- The result of a run once all messages are in. -/
def Inbox.result (b : Inbox) : Except ExecutionError Summary :=
  match b.firstError with
  | some e => .error e
  | none => .ok b.summary

/-- What the journal says about a message. -/
def receiptNotice (m : Message) (s : Site) : Site :=
  match m.result with
  | .ok _ => s
  | .error e => s.error ("Step '" ++ m.name ++ "' could not be run: " ++ e.message)

/-- Runs the instances and receives their messages. -/
def gather (r : Runner σ) : List Instance → Inbox → σ → Site → Inbox × σ × Site
  | [], inbox, state, s => (inbox, state, s)
  | i :: rest, inbox, state, s =>
    let (message, state, s) := r.work i state s
    r.gather rest (inbox.receive message) state (receiptNotice message s)

/-- Runs instances to their ends. All are run; an error is the result only then. -/
def runInstances (r : Runner σ) (instances : List Instance) (state : σ) (s : Site) :
    Except ExecutionError Summary × σ × Site :=
  let (inbox, state, s) := r.gather instances {} state s
  (inbox.result, state, s)

def runTemplate (r : Runner σ) (t : Template) (ps : ParameterSet) (state : σ) (s : Site) :
    Except ExecutionError Summary × σ × Site :=
  match r.prepare t ps s with
  | (.error e, s) => (.error e, state, s)
  | (.ok instances, s) => r.runInstances instances state s

/-- Runs templates one after the other, after what `done` sums up. An error, or a request to stop,
ends the sequence. -/
def runFrom (r : Runner σ) (ps : ParameterSet) :
    List Template → Summary → σ → Site → Except ExecutionError Summary × σ × Site
  | [], done, state, s => (.ok done, state, s)
  | t :: ts, done, state, s =>
    match r.runTemplate t ps state s with
    | (.error e, state, s) => (.error e, state, s)
    | (.ok summary, state, s) =>
      let done := done.append summary
      if summary.stopRequested then
        (.ok done, state, s.warn ("Step '" ++ t.name ++ "' requested a worker stop"))
      else r.runFrom ps ts done state s

def runAll (r : Runner σ) (ts : List Template) (ps : ParameterSet) (state : σ) (s : Site) :
    Except ExecutionError Summary × σ × Site :=
  r.runFrom ps ts {} state s

end Runner

end StudyFlow
