import StudyFlow.Datum
import StudyFlow.Yaml.Node
import StudyFlow.Yaml.Resolve

/-!
Reading typed values from nodes.

A text is the source of any scalar. Numbers and truth values have to be plain. A section is a
mapping whose keys are texts: a known key may stand once, and others are passed over. At most 128
collections may be nested, which also ends the reading of an alias inside its own anchor.
-/

namespace StudyFlow.Yaml

/-- Why a node is not what a setting needs. -/
inductive DecodeError where
  /-- The text is no YAML, or a value has the wrong form. -/
  | form
  | valuesNotScalar
  | parametersNotMapping
  | parameterTwice (name : String)
  deriving DecidableEq, Inhabited, Repr

/-- The text of an error that says more than that the form is wrong. -/
def DecodeError.detail? : DecodeError → Option String
  | form => none
  | valuesNotScalar => some "parameter values must be scalars"
  | parametersNotMapping => some "expected a mapping of parameter name to \x7blabel, values\x7d"
  | parameterTwice name => some ("parameter '" ++ name ++ "' is defined twice")

/-- Reading nodes: it counts the references that were followed, and ends at the first error. -/
abbrev Decoded := StateT Nat (Except DecodeError)

/-- How deep collections may be nested. -/
def maxDepth : Nat := 128

/-- How many references may be followed for each unit of size that the document has. -/
def referencesPerUnit : Nat := 100

/-- What nodes are read against: the anchored nodes, how many more collections may be entered, and
how many references may be followed altogether. -/
structure Scope where
  anchors : List (Nat × Node)
  depth : Nat := maxDepth
  references : Nat

namespace Scope

/-- The node that a reference stands for, or the node itself. -/
def target (s : Scope) : Node → Decoded Node
  | .alias k => do
    let followed := (← get) + 1
    set followed
    if s.references < followed then throw .form
    pure ((s.anchors.lookup k).getD .broken)
  | n => pure n

def enter (s : Scope) : Decoded Scope :=
  match s.depth with
  | 0 => throw .form
  | d + 1 => pure { s with depth := d }

end Scope

def standardTag (name : String) : String := "tag:yaml.org,2002:" ++ name

/-- A tag of the document's own; values without a type cannot have one. -/
def isLocalTag (tag : Option String) : Bool :=
  match tag with
  | some t => t.toList.head? == some '!'
  | none => false

/-- The text of a scalar as it was written. -/
def decodeText (s : Scope) (n : Node) : Decoded String := do
  match ← s.target n with
  | .scalar _ _ text => pure text
  | _ => throw .form

/-- Whether a node, no reference, says that an optional setting is not set. -/
def isUnset : Node → Decoded Bool
  | .scalar tag .plain text =>
    match tag with
    | none => pure (text.isEmpty || isNullWord text)
    | some t =>
      if t == standardTag "null" then
        if isNullWord text then pure true else throw .form
      else pure false
  | .broken => throw .form
  | _ => pure false

/-- A setting that may be left unset. -/
def decodeOptional {α : Type} (read : Scope → Node → Decoded α) (s : Scope) (n : Node) :
    Decoded (Option α) := do
  let m ← s.target n
  if ← isUnset m then pure none else some <$> read s m

/-- The text of a scalar that may spell out a value of the given type. -/
def typedText? (type : String) : Node → Option String
  | .scalar _ .plain text => some text
  | .scalar (some tag) .literal text => if tag == standardTag type then some text else none
  | _ => none

/-- A truth value. -/
def decodeBool (s : Scope) (n : Node) : Decoded Bool := do
  match (typedText? "bool" (← s.target n)).bind boolWord? with
  | some b => pure b
  | none => throw .form

def decodeCounter (bound : Nat) (s : Scope) (n : Node) : Decoded Nat := do
  match (typedText? "int" (← s.target n)).bind fun t => counterWord? t.toList with
  | some k => if k < bound then pure k else throw .form
  | none => throw .form

/-- Whether nothing at all is written. -/
def isAbsent : Node → Bool
  | .scalar _ .plain text => text.isEmpty
  | _ => false

def decodeList {α : Type} (read : Scope → Node → Decoded α) (s : Scope) (n : Node) :
    Decoded (List α) := do
  match ← s.target n with
  | .seq _ items => do
    let s ← s.enter
    items.mapM (read s)
  | m => if isAbsent m then pure [] else throw .form

/-- Reads a section: its entries one after the other, each with its key. -/
def decodeSection {α : Type} (start : α) (field : Scope → α → String → Node → Decoded α) (s : Scope)
    (n : Node) : Decoded α := do
  match ← s.target n with
  | .map _ entries => do
    let s ← s.enter
    entries.foldlM (fun acc e => do
      let key ← decodeText s e.1
      field s acc key e.2) start
  | m => if isAbsent m then pure start else throw .form

/-- Reads a field that may stand once. -/
def once {α : Type} (slot : Option α) (value : Decoded α) : Decoded (Option α) :=
  match slot with
  | some _ => throw .form
  | none => some <$> value

/-- A field that has to be there. -/
def required {α : Type} : Option α → Decoded α
  | some a => pure a
  | none => throw .form

/-- The value of a plain scalar without a type. -/
def plainDatum (text : String) : Except DecodeError Datum :=
  match Plain.ofText text with
  | .null => .ok .null
  | .bool b => .ok (.bool b)
  | .int k => .ok (.int k)
  | .wide => .error .form
  | .float (.finite negative m e) => .ok (.float (.finite negative m e))
  | .float _ => .ok .null
  | .text => .ok (.text text)

/-- The value of a scalar without a type; a standard tag says what it has to be. -/
def scalarDatum (tag : Option String) (style : Style) (text : String) : Except DecodeError Datum :=
  match tag with
  | none => if style == .plain then plainDatum text else .ok (.text text)
  | some t =>
    if isLocalTag tag then .error .form
    else if t == standardTag "bool" then
      match boolWord? text with
      | some b => .ok (.bool b)
      | none => .error .form
    else if t == standardTag "int" then
      match intWord? text.toList with
      | some (.int k) => .ok (.int k)
      | _ => .error .form
    else if t == standardTag "float" then
      match floatWord? text.toList with
      | some (.finite negative m e) => .ok (.float (.finite negative m e))
      | some _ => .ok .null
      | none => .error .form
    else if t == standardTag "null" then if isNullWord text then .ok .null else .error .form
    else .ok (.text text)

/-- Which keys a record of untyped data may have. -/
inductive KeyRule where
  /-- Any scalar, by its text. -/
  | anyScalar
  /-- Only scalars that are texts themselves. -/
  | textOnly
  deriving DecidableEq

def decodeKey (rule : KeyRule) (s : Scope) (n : Node) : Decoded String := do
  match ← s.target n with
  | .scalar tag style text =>
    match rule with
    | .anyScalar => pure text
    | .textOnly =>
      match ← scalarDatum tag style text with
      | .text t => pure t
      | _ => throw .form
  | _ => throw .form

/-- A value without a type. The number bounds the depth and does not fall below that of the
scope. -/
def decodeDatumUpTo (rule : KeyRule) : Nat → Scope → Node → Decoded Datum
  | 0, _, _ => throw .form
  | fuel + 1, s, n => do
    match ← s.target n with
    | .scalar tag style text => scalarDatum tag style text
    | .seq tag items => do
      if isLocalTag tag then throw .form
      let s ← s.enter
      let values ← items.mapM (decodeDatumUpTo rule fuel s)
      pure (.list values)
    | .map tag entries => do
      if isLocalTag tag then throw .form
      let s ← s.enter
      let fields ← entries.foldlM (fun acc (e : Node × Node) => do
        let key ← decodeKey rule s e.1
        let value ← decodeDatumUpTo rule fuel s e.2
        pure (Datum.insertField key value acc)) []
      pure (.record fields)
    | _ => throw .form

/-- A value without a type. -/
def decodeDatum (rule : KeyRule) (s : Scope) (n : Node) : Decoded Datum :=
  decodeDatumUpTo rule (s.depth + 1) s n

/-- Reads a text as one document. The reader gets the node of the document, none if nothing is
there. A fault of the text counts only once the reader is content with what stands in front of
it. -/
def decodeDocument {α : Type} (text : String) (read : Scope → Option Node → Decoded α) :
    Except DecodeError α := do
  let d := Document.read text
  let size := (d.root.map Node.size).getD 1
  let scope : Scope := { anchors := d.anchors, references := size * referencesPerUnit }
  let (value, _) ← (read scope d.root).run 0
  if d.complete then pure value else .error .form

/-- Reads a text as one section; an empty text is an empty section. -/
def decodeText? {α : Type} (text : String) (read : Scope → Node → Decoded α) :
    Except DecodeError α :=
  decodeDocument text fun s root => read s (root.getD .absent)

end StudyFlow.Yaml
