import StudyFlow.Study.Basic
import StudyFlow.Yaml.Decode

/-!
The sections of a study text: which keys each has, what they hold and what holds without them.

Parameters keep the order in which they are written. `ParameterSet.define` adds one and refuses a
name that is there already.
-/

namespace StudyFlow

open Yaml

def Datum.valueText : Datum → Except DecodeError String
  | .text s => .ok s
  | .int k => .ok (toString k)
  | .float x => match x.toText? with
    | some s => .ok s
    | none => .error .valuesNotScalar
  | .bool b => .ok (if b then "true" else "false")
  | _ => .error .valuesNotScalar

/-- The values of a parameter: those of a list, none for null, else the one value. -/
def Datum.valueTexts : Datum → Except DecodeError (List String)
  | .null => .ok []
  | .list items => items.mapM Datum.valueText
  | d => (fun s => [s]) <$> d.valueText

/-- The label form of a parameter that has none of its own. -/
def defaultLabel (name : String) : String := name ++ ".%%"

def ParameterSet.define (ps : ParameterSet) (name : String) (label : Option String)
    (values : List String) : Except DecodeError ParameterSet :=
  if (ParameterSet.get? ps name).isSome then .error (.parameterTwice name)
  else .ok (ps ++ [⟨name, label.getD (defaultLabel name), values⟩])

namespace Sections

structure ParameterFields where
  label : Option (Option String) := none
  values : Option (List String) := none

def parameterField (s : Scope) (p : ParameterFields) (key : String) (n : Node) :
    Decoded ParameterFields :=
  match key with
  | "label" => do pure { p with label := ← once p.label (decodeOptional decodeText s n) }
  | "values" => do
    pure { p with values := ← once p.values (do (← decodeDatum .anyScalar s n).valueTexts) }
  | _ => pure p

/-- The label and the values of one parameter. -/
def decodeParameter (s : Scope) (n : Node) : Decoded (Option String × List String) := do
  let p ← decodeSection {} parameterField s n
  let values ← required p.values
  pure (p.label.getD none, values)

def decodeParameters (s : Scope) (n : Node) : Decoded ParameterSet := do
  match ← s.target n with
  | .map tag entries =>
    if isLocalTag tag then throw .parametersNotMapping
    let s ← s.enter
    entries.foldlM (fun ps (e : Node × Node) => do
      let name ← decodeText s e.1
      let (label, values) ← decodeParameter s e.2
      ParameterSet.define ps name label values) []
  | .seq _ _ => throw .parametersNotMapping
  | .scalar tag style text =>
    if isLocalTag tag then throw .parametersNotMapping
    else if tag.isNone then
      if style == .plain && Plain.ofText text == .null then pure [] else throw .parametersNotMapping
    else match ← scalarDatum tag style text with
      | .null => pure []
      | _ => throw .parametersNotMapping
  | _ => throw .form

/-- Reads a text as the parameters of a study. Where nothing is written at all there is no
mapping. -/
def readParameters (text : String) : Except DecodeError ParameterSet :=
  decodeDocument text fun s root => match root with
    | some n => decodeParameters s n
    | none => throw .parametersNotMapping

def decodeBatch (s : Scope) (n : Node) : Decoded BatchSettings := do
  let type ← decodeSection (none : Option (Option String)) (fun s slot key n =>
    match key with
    | "type" => once slot (decodeOptional decodeText s n)
    | _ => pure slot) s n
  pure { batchType := type.getD none }

structure RunFields where
  cmd : Option String := none
  restart : Option (Option String) := none
  taskQueue : Option (Option String) := none
  shell : Option (Option String) := none
  batch : Option (Option BatchSettings) := none
  maxRetries : Option Nat := none
  retryDelay : Option Nat := none
  dryRun : Option Bool := none

def runField (s : Scope) (r : RunFields) (key : String) (n : Node) : Decoded RunFields :=
  match key with
  | "cmd" => do pure { r with cmd := ← once r.cmd (decodeText s n) }
  | "restart" => do pure { r with restart := ← once r.restart (decodeOptional decodeText s n) }
  | "task_queue" => do
    pure { r with taskQueue := ← once r.taskQueue (decodeOptional decodeText s n) }
  | "shell" => do pure { r with shell := ← once r.shell (decodeOptional decodeText s n) }
  | "batch" => do pure { r with batch := ← once r.batch (decodeOptional decodeBatch s n) }
  | "max_retries" => do
    pure { r with maxRetries := ← once r.maxRetries (decodeCounter UInt32.size s n) }
  | "retry_delay" => do
    pure { r with retryDelay := ← once r.retryDelay (decodeCounter UInt64.size s n) }
  | "dry_run" => do pure { r with dryRun := ← once r.dryRun (decodeBool s n) }
  | _ => pure r

def decodeRun (s : Scope) (n : Node) : Decoded RunSettings := do
  let r ← decodeSection {} runField s n
  let cmd ← required r.cmd
  let standard : RunSettings := { cmd := cmd }
  pure {
    cmd := cmd
    restart := r.restart.getD none
    taskQueue := r.taskQueue.getD none
    shell := r.shell.getD none
    batch := r.batch.getD none
    maxRetries := (r.maxRetries.map UInt32.ofNat).getD standard.maxRetries
    retryDelay := (r.retryDelay.map UInt64.ofNat).getD standard.retryDelay
    dryRun := r.dryRun.getD false }

/-- A step. -/
def decodeTemplate (s : Scope) (n : Node) : Decoded Template := do
  let (name, run) ← decodeSection ((none, none) : Option String × Option RunSettings)
    (fun s t key n =>
      match key with
      | "name" => do pure (← once t.1 (decodeText s n), t.2)
      | "run" => do pure (t.1, ← once t.2 (decodeRun s n))
      | _ => pure t) s n
  pure ⟨← required name, ← required run⟩

def decodeQueues (s : Scope) (n : Node) : Decoded QueueSettings := do
  let (tag, omitTag) ← decodeSection ((none, none) : Option String × Option Bool)
    (fun s q key n =>
      match key with
      | "queue_tag" => do pure (← once q.1 (decodeText s n), q.2)
      | "omit_queue_tag" => do pure (q.1, ← once q.2 (decodeBool s n))
      | _ => pure q) s n
  let standard : QueueSettings := {}
  pure ⟨tag.getD standard.queueTag, omitTag.getD standard.omitQueueTag⟩

structure AdapterFields where
  adapterType : Option String := none
  shell : Option String := none
  batchType : Option (Option String) := none
  dryRun : Option Bool := none
  extra : Extras := []

def adapterField (s : Scope) (a : AdapterFields) (key : String) (n : Node) :
    Decoded AdapterFields :=
  match key with
  | "type" => do pure { a with adapterType := ← once a.adapterType (decodeText s n) }
  | "shell" => do pure { a with shell := ← once a.shell (decodeText s n) }
  | "batch_type" => do
    pure { a with batchType := ← once a.batchType (decodeOptional decodeText s n) }
  | "dry_run" => do pure { a with dryRun := ← once a.dryRun (decodeBool s n) }
  | _ => do
    let value ← decodeDatum .textOnly s n
    pure { a with extra := Datum.insertField key value a.extra }

/-- The adapter settings; the given shell stands in for one that is not set. -/
def decodeAdapter (shell : String) (s : Scope) (n : Node) : Decoded AdapterSettings := do
  let a ← decodeSection {} adapterField s n
  pure {
    adapterType := a.adapterType.getD "local"
    shell := a.shell.getD shell
    batchType := a.batchType.getD none
    dryRun := a.dryRun.getD false
    extra := a.extra }

def decodeMonitor (s : Scope) (n : Node) : Decoded MonitorSettings := do
  let (sleep, attempts, workers) ← decodeSection
    ((none, none, none) : Option Nat × Option Nat × Option (List String))
    (fun s m key n =>
      match key with
      | "sleep_secs" => do pure (← once m.1 (decodeCounter UInt64.size s n), m.2.1, m.2.2)
      | "max_attempts" => do pure (m.1, ← once m.2.1 (decodeCounter UInt32.size s n), m.2.2)
      | "workers" => do pure (m.1, m.2.1, ← once m.2.2 (decodeList decodeText s n))
      | _ => pure m) s n
  let standard : MonitorSettings := {}
  pure {
    sleepSecs := (sleep.map UInt64.ofNat).getD standard.sleepSecs
    maxAttempts := (attempts.map UInt32.ofNat).getD standard.maxAttempts
    workers := workers.getD [] }

structure StudyFields where
  name : Option String := none
  workspace : Option (Option String) := none
  queues : Option QueueSettings := none
  adapter : Option AdapterSettings := none
  monitor : Option MonitorSettings := none
  parameters : Option ParameterSet := none
  steps : Option (List Template) := none

def studyField (shell : String) (s : Scope) (f : StudyFields) (key : String) (n : Node) :
    Decoded StudyFields :=
  match key with
  | "name" => do pure { f with name := ← once f.name (decodeText s n) }
  | "workspace" => do
    pure { f with workspace := ← once f.workspace (decodeOptional decodeText s n) }
  | "queues" => do pure { f with queues := ← once f.queues (decodeQueues s n) }
  | "adapter" => do pure { f with adapter := ← once f.adapter (decodeAdapter shell s n) }
  | "monitor" => do pure { f with monitor := ← once f.monitor (decodeMonitor s n) }
  | "parameters" => do pure { f with parameters := ← once f.parameters (decodeParameters s n) }
  | "steps" => do pure { f with steps := ← once f.steps (decodeList decodeTemplate s n) }
  | _ => pure f

/-- A study; the given shell runs its scripts unless it sets one. -/
def decodeStudy (shell : String) (s : Scope) (n : Node) : Decoded Study := do
  let f ← decodeSection {} (studyField shell) s n
  let name ← required f.name
  pure {
    name := name
    workspace := (f.workspace.getD none).map Path.mk
    queues := f.queues.getD {}
    adapter := f.adapter.getD { shell := shell }
    monitor := f.monitor.getD {}
    parameters := f.parameters.getD []
    steps := f.steps.getD [] }

end Sections

end StudyFlow
