import StudyFlow.Status.Code
import StudyFlow.Text.Blank
import StudyFlow.Text.Numeral

/-!
The status record: a view of one instance at a point in time, and its form as a line of fields
between single spaces. The line quotes nothing, so `StatusRecord.parse` gives a record back exactly
if each of its texts is a word: not empty and free of blanks.
-/

namespace StudyFlow

/-- The queue and the worker that handle an instance. -/
structure RuntimeContext where
  queue : String
  worker : String
  deriving DecidableEq, Inhabited, Repr

/-- A view of an instance as its status file shows it. -/
structure StatusRecord where
  name : String
  state : State
  result : String
  elapsedTime : String
  runTime : String
  restarts : UInt32
  workspace : String
  runtime : Option RuntimeContext
  deriving DecidableEq, Inhabited, Repr

/-- Why a line is no status record. -/
inductive RecordError where
  | malformed (line : String)
  | unknownState (token : String)
  deriving DecidableEq, Inhabited, Repr

namespace RecordError

def message : RecordError → String
  | malformed line => "malformed status line '" ++ line ++ "'"
  | unknownState token => "unknown step state '" ++ token ++ "'"

end RecordError

/-- The result shown until a lifecycle is over. -/
def noResult : String := "-------"

/-- The run time shown until an instance has started. -/
def noRunTime : String := "--:--:--"

namespace State

def parse (token : String) : Except RecordError State :=
  match ofName? token with
  | some s => .ok s
  | none => .error (.unknownState token)

end State

namespace StatusRecord

/-- The fields of the line, in order. -/
def fields (r : StatusRecord) : List String :=
  [r.name, r.state.name, r.result, r.elapsedTime, r.runTime, r.restarts.toNat.repr, r.workspace] ++
    match r.runtime with
    | some c => [c.queue, c.worker]
    | none => []

/-- The status line: the fields between single spaces. -/
def line (r : StatusRecord) : String := " ".intercalate r.fields

/-- Reads seven fields into a record without a runtime context. -/
def ofFields (text : String) (name state result elapsed run restarts workspace : String)
    (runtime : Option RuntimeContext) : Except RecordError StatusRecord :=
  match Text.counter? UInt32.size restarts with
  | none => .error (.malformed text)
  | some n => do
    let state ← State.parse state
    pure ⟨name, state, result, elapsed, run, UInt32.ofNat n, workspace, runtime⟩

/-- Reads a status line. A wrong number of fields or a bad counter makes it malformed; only then the
state is looked at. -/
def parse (text : String) : Except RecordError StatusRecord :=
  match Text.words text with
  | [a, b, c, d, e, f, g] => ofFields text a b c d e f g none
  | [a, b, c, d, e, f, g, q, w] => ofFields text a b c d e f g (some ⟨q, w⟩)
  | _ => .error (.malformed text)

end StatusRecord

end StudyFlow
