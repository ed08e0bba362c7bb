import StudyFlow.Text.Blank
import StudyFlow.Text.Substring

/-!
Parameters: named lists of values that a template is multiplied by.

`ParameterSet.validate` finds the first parameter, in the order of the set, that cannot be used with
those before it, and gives the number of values that all parameters share.
-/

namespace StudyFlow

/-- Why templates cannot be expanded with a set of parameters. -/
inductive ExpansionError where
  | unequalLengths (param : String) (expected found : Nat)
  | emptyValues (param : String)
  | emptyName
  | duplicateParameter (param : String)
  | duplicateInstance (step name : String)
  | whitespaceInName (step name : String)
  deriving DecidableEq, Inhabited, Repr

namespace ExpansionError

def message : ExpansionError → String
  | unequalLengths param expected found =>
    "parameter '" ++ param ++ "' has " ++ found.repr ++ " values, expected " ++ expected.repr
  | emptyValues param => "parameter '" ++ param ++ "' has no values"
  | emptyName => "parameter name must not be empty"
  | duplicateParameter param => "parameter '" ++ param ++ "' is defined more than once"
  | duplicateInstance step name =>
    "step '" ++ step ++ "': expansion produces '" ++ name ++ "' more than once"
  | whitespaceInName step name =>
    "step '" ++ step ++ "': instance name '" ++ name ++ "' must not contain whitespace"

end ExpansionError

/-- The placeholder of a name in a command. -/
def placeholder (name : String) : String := "$(" ++ name ++ ")"

/-- Whether a command holds the placeholder of one of the names. -/
def referencesAny (text : String) (names : List String) : Bool :=
  names.any fun n => Text.contains text (placeholder n)

/-- Names that stand for samples; a command that refers to one is expanded in any case. -/
def sampleKeywords : List String :=
  ["MERLIN_SAMPLE_ID", "MERLIN_SAMPLE_PATH", "merlin_sample_id", "merlin_sample_path"]

/-- A parameter: a name, the form of its labels and its values in order. -/
structure Parameter where
  name : String
  /-- The label of a value; two percent signs stand for the value. -/
  label : String
  values : List String
  deriving DecidableEq, Inhabited

namespace Parameter

def placeholder (p : Parameter) : String := StudyFlow.placeholder p.name

def labelOf (p : Parameter) (value : String) : String := Text.replace p.label "%%" value

/-- The label of the value at an index, if there is one. -/
def labelAt? (p : Parameter) (index : Nat) : Option String := p.values[index]?.map p.labelOf

end Parameter

/-- Parameters in order of definition. -/
abbrev ParameterSet := List Parameter

namespace ParameterSet

/-- The first parameter with a name. -/
def get? (ps : ParameterSet) (name : String) : Option Parameter := ps.find? fun p => p.name == name

/-- Checks parameters one after the other. `seen` are the names before, `expected` is the number of
values of the first parameter. -/
def validateFrom : List String → Option Nat → ParameterSet → Except ExpansionError Nat
  | _, expected, [] => .ok (expected.getD 0)
  | seen, expected, p :: ps =>
    if Text.isBlankText p.name then .error .emptyName
    else if seen.contains p.name then .error (.duplicateParameter p.name)
    else if p.values.isEmpty then .error (.emptyValues p.name)
    else
      let found := p.values.length
      match expected with
      | none => validateFrom (p.name :: seen) (some found) ps
      | some n =>
        if found == n then validateFrom (p.name :: seen) (some n) ps
        else .error (.unequalLengths p.name n found)

/-- The common number of values, or the first fault of the set. -/
def validate (ps : ParameterSet) : Except ExpansionError Nat := validateFrom [] none ps

end ParameterSet

end StudyFlow
