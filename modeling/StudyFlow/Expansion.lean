import StudyFlow.Instance

/-!
Expansion: one template multiplied by the values of a set of parameters.

The instance at an index has each placeholder replaced by the value there. Its name is the name of
the step, an underscore and the labels; its workspace is `root/step/labels`. Nothing is expanded
unless all is.
-/

namespace StudyFlow

/-- Whether a command of the template refers to a parameter or to a sample. -/
def Template.needsExpansion (t : Template) (ps : ParameterSet) : Bool :=
  let names := ps.map Parameter.name ++ sampleKeywords
  referencesAny t.run.cmd names || (t.run.restart.map fun cmd => referencesAny cmd names).getD false

namespace Expansion

def valueAt (p : Parameter) (index : Nat) : String := p.values[index]?.getD ""

/-- A command with the placeholder of each parameter replaced in turn by its value at an index. -/
def fill (ps : ParameterSet) (index : Nat) (cmd : String) : String :=
  ps.foldl (fun cmd p => Text.replace cmd p.placeholder (valueAt p index)) cmd

/-- The labels of the values at an index that are not empty, joined with dots. -/
def labels (ps : ParameterSet) (index : Nat) : String :=
  ".".intercalate ((ps.map fun p => p.labelOf (valueAt p index)).filter fun l => !l.isEmpty)

def nameAt (t : Template) (ps : ParameterSet) (index : Nat) : String :=
  t.name ++ "_" ++ labels ps index

def workspaceAt (t : Template) (ps : ParameterSet) (root : Path) (index : Nat) : Path :=
  (root.child t.name).child (labels ps index)

def instanceAt (t : Template) (ps : ParameterSet) (root : Path) (now : Millis) (index : Nat) :
    Instance :=
  { Instance.ofTemplate t (workspaceAt t ps root index) now with
    name := nameAt t ps index
    cmd := fill ps index t.run.cmd
    restartCmd := t.run.restart.map (fill ps index)
    parameterIndex := some index
    studyRoot := some root }

/-- A name is one word of the status line. -/
def checkName (step name : String) : Except ExpansionError Unit :=
  if Text.hasBlank name then .error (.whitespaceInName step name) else .ok ()

/-- The instances at the given indices, whose names differ from those seen before and from each
other. -/
def instancesAt (t : Template) (ps : ParameterSet) (root : Path) (now : Millis) :
    List String → List Nat → Except ExpansionError (List Instance)
  | _, [] => .ok []
  | seen, index :: rest => do
    let name := nameAt t ps index
    checkName t.name name
    if seen.contains name then .error (.duplicateInstance t.name name)
    else
      let others ← instancesAt t ps root now (name :: seen) rest
      pure (instanceAt t ps root now index :: others)

end Expansion

open Expansion

/-- Expands a template. None stands for a template that refers to no parameter and no sample. -/
def Template.expand (t : Template) (ps : ParameterSet) (root : Path) (now : Millis) :
    Except ExpansionError (Option (List Instance)) :=
  if ps.isEmpty || !t.needsExpansion ps then .ok none
  else do
    let count ← ps.validate
    some <$> instancesAt t ps root now [] (List.range count)

/-- The instances of a template: those of its expansion, or the one of the template as it is. -/
def Template.instances (t : Template) (ps : ParameterSet) (root : Path) (now : Millis) :
    Except ExpansionError (List Instance) := do
  match ← t.expand ps root now with
  | some instances => pure instances
  | none =>
    checkName t.name t.name
    pure [(Instance.ofTemplate t (root.child t.name) now).withStudyRoot root]

/-- What the journal says about an expansion that was done. -/
def Template.expansionNotice? (t : Template) (ps : ParameterSet) (root : Path) : Option String :=
  match t.expand ps root 0 with
  | .ok (some instances) =>
    some ("Expanded step '" ++ t.name ++ "' into " ++ instances.length.repr ++ " instances")
  | _ => none

end StudyFlow
