/-!
Paths as texts. A path keeps its text as it was written; repeated slashes, inner `.` components and
a trailing slash matter to its text and not to its components.

* `Path.components` is the normalised reading of a path.
* `Path.join` places one path below another; an absolute path replaces what stands before it.
* `Path.below?` is the rest of a path after the components of another.
-/

namespace StudyFlow

/-- A path, kept as the text it was written with. -/
structure Path where
  text : String
  deriving DecidableEq, Inhabited, Repr

/-- One step of a path, once repeated slashes and inner `.` are ignored. -/
inductive Component where
  /-- The leading slash of an absolute path. -/
  | root
  /-- A leading `.`. -/
  | here
  /-- The parent directory, `..`. -/
  | up
  /-- A named entry. -/
  | name (text : String)
  deriving DecidableEq, Inhabited, Repr

/-- Cuts a text at each slash; the pieces, empty ones included, are one more than the slashes. -/
def splitSlash : List Char → List (List Char)
  | [] => [[]]
  | c :: cs =>
    if c == '/' then [] :: splitSlash cs
    else match splitSlash cs with
      | [] => [[c]]
      | w :: ws => (c :: w) :: ws

/-- Joins pieces with a slash between neighbours. -/
def joinSlash : List (List Char) → List Char
  | [] => []
  | [w] => w
  | w :: ws => w ++ '/' :: joinSlash ws

/-- A piece between slashes that names no step: the empty piece and `.`. -/
def isIdlePiece (w : List Char) : Bool := w == [] || w == ['.']

def Component.ofPiece (w : List Char) : Component :=
  if w == ['.', '.'] then .up else .name (String.ofList w)

namespace Path

def empty : Path := ⟨""⟩

/-- Whether the path starts at the root directory. -/
def isAbsolute (p : Path) : Bool :=
  match p.text.toList with
  | '/' :: _ => true
  | _ => false

/-- A path cut into the text of its leading component (`/`, `.` or nothing) and the pieces after
it. -/
def pieces (p : Path) : List Char × List (List Char) :=
  match p.text.toList with
  | '/' :: rest => (['/'], splitSlash rest)
  | ['.'] => (['.'], [[]])
  | '.' :: '/' :: rest => (['.'], [] :: splitSlash rest)
  | cs => ([], splitSlash cs)

/-- The leading component, if the path starts with `/` or with `.`. -/
def lead : List Char → List Component
  | ['/'] => [.root]
  | ['.'] => [.here]
  | _ => []

def components (p : Path) : List Component :=
  lead p.pieces.1 ++ (p.pieces.2.filter fun w => !isIdlePiece w).map Component.ofPiece

/-- Pieces without the idle ones at the end. -/
def trimEnd (ws : List (List Char)) : List (List Char) :=
  (ws.reverse.dropWhile isIdlePiece).reverse

/-- Pieces after the first `n` that name a step. -/
def dropSteps : Nat → List (List Char) → List (List Char)
  | _, [] => []
  | 0, ws => ws
  | n + 1, w :: ws => if isIdlePiece w then dropSteps (n + 1) ws else dropSteps n ws

/-- Pieces without the last one that names a step and what follows it. -/
def dropLastStep (ws : List (List Char)) : List (List Char) :=
  trimEnd (trimEnd ws).dropLast

/-- Places `q` below `p`. An absolute `q` stands alone; else one slash separates the two texts. -/
def join (p q : Path) : Path :=
  if q.isAbsolute then q
  else if p.text.isEmpty || p.text.toList.getLast? == some '/' then ⟨p.text ++ q.text⟩
  else ⟨p.text ++ "/" ++ q.text⟩

/-- The entry called `name` below `p`. -/
def child (p : Path) (name : String) : Path := p.join ⟨name⟩

/--
The rest of `p` after the components of `q`, if those start `p`: the text as it was written, without
slashes and `.` pieces at its two ends.
-/
def below? (p q : Path) : Option Path :=
  let steps := q.components.length
  if p.components.take steps == q.components then
    let (first, ws) := p.pieces
    if steps == 0 then some ⟨String.ofList (first ++ joinSlash (trimEnd ws))⟩
    else
      let rest := dropSteps (steps - (lead first).length) ws
      some ⟨String.ofList (joinSlash (trimEnd (rest.dropWhile isIdlePiece)))⟩
  else none

/-- The path without its last component; the root directory and the empty path have no parent. -/
def parent? (p : Path) : Option Path :=
  let (first, ws) := p.pieces
  let kept := trimEnd ws
  if !kept.isEmpty then some ⟨String.ofList (first ++ joinSlash (dropLastStep ws))⟩
  else if first == ['.'] then some empty
  else none

/-- The last component, if it is a name. -/
def fileName? (p : Path) : Option String :=
  match p.components.getLast? with
  | some (.name n) => some n
  | _ => none

/-- A file name up to its last dot; a dot in front does not count. -/
def stemOf (name : String) : String :=
  let tail := name.toList.reverse.dropWhile (· != '.')
  match tail with
  | [] => name
  | [_] => name
  | _ :: before => String.ofList before.reverse

/-- The last component up to its last dot, if it is a name. -/
def fileStem? (p : Path) : Option String := p.fileName?.map stemOf

end Path

end StudyFlow
