import StudyFlow.Path

/-!
A tree of files and directories, and the operations on it that a program has: making directories,
writing, reading, renaming and removing entries, and listing a directory.

An entry has a location, the list of names that leads to it from the working directory. A location
that starts with `/` or with `..` stands outside of the working directory; those directories are
there from the start and empty. Paths are followed component by component, so each fault says what
stood in the way first.
-/

namespace StudyFlow

/-- Why an operation on files fails. -/
inductive Fault where
  | notFound
  | alreadyExists
  | notDirectory
  | isDirectory
  | nameTooLong
  | notEmpty
  | notText
  | badName
  /-- A program was to get a text that holds the character zero. -/
  | badArgument
  deriving DecidableEq, Inhabited, Repr

def Fault.message : Fault → String
  | notFound => "No such file or directory (os error 2)"
  | alreadyExists => "File exists (os error 17)"
  | notDirectory => "Not a directory (os error 20)"
  | isDirectory => "Is a directory (os error 21)"
  | nameTooLong => "File name too long (os error 36)"
  | notEmpty => "Directory not empty (os error 39)"
  | notText => "stream did not contain valid UTF-8"
  | badName => "file name contained an unexpected NUL byte"
  | badArgument => "nul byte found in provided data"

/-- A place in the tree: names from the working directory on. -/
abbrev Location := List String

attribute [local instance (high)] ByteArray.instDecidableEq

/-- What is at a location. -/
inductive Entry where
  | directory
  | file (content : ByteArray) (executable : Bool)
  deriving DecidableEq, Inhabited

/-- Files and directories by location. -/
structure FileTree where
  entries : List (Location × Entry) := []
  deriving Inhabited

namespace FileTree

/-- Locations of directories that are always there: the working directory, those above it and the
root. -/
def isBase (l : Location) : Bool := l == ["/"] || l.all (· == "..")

def get? (t : FileTree) (l : Location) : Option Entry :=
  if isBase l then some .directory else t.entries.lookup l

def isDir (t : FileTree) (l : Location) : Bool := t.get? l == some .directory

/-- The tree with an entry at a location, whatever was there. -/
def put (t : FileTree) (l : Location) (e : Entry) : FileTree :=
  ⟨(l, e) :: t.entries.filter fun x => x.1 != l⟩

/-- The tree without the entry at a location and all that is below it. -/
def erase (t : FileTree) (l : Location) : FileTree :=
  ⟨t.entries.filter fun x => !(x.1.take l.length == l)⟩

/-- The longest name that an entry may have, in bytes. -/
def maxNameSize : Nat := 255

/-- The longest path that the system takes, in bytes. -/
def maxPathSize : Nat := 4095

/-- One step up. -/
def above (l : Location) : Location :=
  if l == ["/"] then l else if isBase l then ".." :: l else l.dropLast

/-- Follows names from a directory. Each place on the way has to be a directory. -/
def follow (t : FileTree) : Location → List String → Except Fault Location
  | l, [] => .ok l
  | l, n :: ns =>
    if !t.isDir l then .error .notDirectory
    else if n == "." then t.follow l ns
    else if n == ".." then t.follow (above l) ns
    else if maxNameSize < n.utf8ByteSize then .error .nameTooLong
    else if (t.get? (l ++ [n])).isNone then .error .notFound
    else t.follow (l ++ [n]) ns

end FileTree

/-- A path as the system reads it: where it starts, its names, and whether a slash ends it. -/
structure Route where
  start : Location
  names : List String
  slashed : Bool

/-- The reading of a path by the system. -/
def Path.route (p : Path) : Except Fault Route :=
  if p.text.isEmpty then .error .notFound
  else if p.text.toList.contains '\x00' then .error .badName
  else if FileTree.maxPathSize < p.text.utf8ByteSize then .error .nameTooLong
  else
    let names := ((splitSlash p.text.toList).filter fun w => w != []).map String.ofList
    .ok ⟨if p.isAbsolute then ["/"] else [], names, p.text.toList.getLast? == some '/'⟩

namespace FileTree

/-- The location of an entry that exists. -/
def find (t : FileTree) (p : Path) : Except Fault Location := do
  let r ← p.route
  let l ← t.follow r.start r.names
  if r.slashed && !t.isDir l then .error .notDirectory else .ok l

/-- Whether the path leads to a directory. -/
def isDirAt (t : FileTree) (p : Path) : Bool :=
  match t.find p with
  | .ok l => t.isDir l
  | .error _ => false

/-- What is at a path, if anything. -/
def entryAt? (t : FileTree) (p : Path) : Option Entry :=
  match t.find p with
  | .ok l => t.get? l
  | .error _ => none

/-- Where an entry of the path's name is or may come to be. None stands for a path whose last
component is no name. -/
def place (t : FileTree) (p : Path) : Except Fault (Option Location × Bool) := do
  let r ← p.route
  match r.names.getLast? with
  | none => pure (none, r.slashed)
  | some n =>
    let l ← t.follow r.start r.names.dropLast
    if !t.isDir l then .error .notDirectory
    else if n == "." || n == ".." then pure (none, r.slashed)
    else if maxNameSize < n.utf8ByteSize then .error .nameTooLong
    else pure (some (l ++ [n]), r.slashed)

/-- Makes one directory. -/
def createDir (t : FileTree) (p : Path) : Except Fault FileTree := do
  match ← t.place p with
  | (none, _) => .error .alreadyExists
  | (some l, _) => if (t.get? l).isSome then .error .alreadyExists else .ok (t.put l .directory)

/-- Makes a directory and those above it that are missing. Directories made before a fault stay. The
number bounds how far the path is followed upwards. -/
def createDirsUpTo : Nat → FileTree → Path → Except Fault Unit × FileTree
  | 0, t, _ => (.error .notFound, t)
  | fuel + 1, t, p =>
    if p.text.isEmpty then (.ok (), t)
    else match t.createDir p with
      | .ok t => (.ok (), t)
      | .error .notFound => match p.parent? with
        | none => (.error .notFound, t)
        | some q => match createDirsUpTo fuel t q with
          | (.error f, t) => (.error f, t)
          | (.ok (), t) => match t.createDir p with
            | .ok t => (.ok (), t)
            | .error f => if t.isDirAt p then (.ok (), t) else (.error f, t)
      | .error f => if t.isDirAt p then (.ok (), t) else (.error f, t)

/-- Makes a directory and those above it that are missing. -/
def createDirs (t : FileTree) (p : Path) : Except Fault Unit × FileTree :=
  createDirsUpTo (p.text.length + 2) t p

/-- Writes a file, replacing what it held; it stays executable if it was. -/
def write (t : FileTree) (p : Path) (content : ByteArray) : Except Fault FileTree := do
  match ← t.place p with
  | (none, _) => .error .isDirectory
  | (some l, slashed) =>
    if slashed then .error .isDirectory
    else match t.get? l with
      | some .directory => .error .isDirectory
      | some (.file _ executable) => .ok (t.put l (.file content executable))
      | none => .ok (t.put l (.file content false))

def writeText (t : FileTree) (p : Path) (text : String) : Except Fault FileTree :=
  t.write p text.toUTF8

def read (t : FileTree) (p : Path) : Except Fault ByteArray := do
  match t.get? (← t.find p) with
  | some (.file content _) => .ok content
  | some .directory => .error .isDirectory
  | none => .error .notFound

def readText (t : FileTree) (p : Path) : Except Fault String := do
  match String.fromUTF8? (← t.read p) with
  | some s => .ok s
  | none => .error .notText

def makeExecutable (t : FileTree) (p : Path) : Except Fault FileTree := do
  let l ← t.find p
  match t.get? l with
  | some (.file content _) => .ok (t.put l (.file content true))
  | _ => .ok t

/-- Moves a file to a place, replacing a file there. -/
def rename (t : FileTree) (source target : Path) : Except Fault FileTree := do
  let l ← t.find source
  match t.get? l with
  | some (.file content executable) =>
    match ← t.place target with
    | (none, _) => .error .isDirectory
    | (some m, slashed) =>
      if t.isDir m then .error .isDirectory
      else if slashed then .error .notDirectory
      else .ok ((t.erase l).put m (.file content executable))
  | some .directory => .error .isDirectory
  | none => .error .notFound

/-- Names are ordered by code points. -/
def insertSorted (x : String × Entry) : List (String × Entry) → List (String × Entry)
  | [] => [x]
  | y :: ys => if x.1 < y.1 then x :: y :: ys else y :: insertSorted x ys

/-- The entries directly in a directory, sorted by name. -/
def children (t : FileTree) (l : Location) : List (String × Entry) :=
  t.entries.foldl (fun acc x => match x.1.getLast? with
    | some n => if x.1.dropLast == l && !isBase x.1 then insertSorted (n, x.2) acc else acc
    | none => acc) []

/-- The entries of the directory at a path, sorted by name. -/
def list (t : FileTree) (p : Path) : Except Fault (List (String × Entry)) := do
  let l ← t.find p
  if t.isDir l then .ok (t.children l) else .error .notDirectory

/-- Removes a file, or a directory with all that is in it. -/
def removeAll (t : FileTree) (p : Path) : Except Fault FileTree := do
  let l ← t.find p
  .ok (t.erase l)

def isInside (l : Location) : Bool := l.head? != some "/" && l.head? != some ".." && l != []

/-- The entries inside the working directory with their paths. -/
def inside (t : FileTree) : List (String × Entry) :=
  (t.entries.filter fun x => isInside x.1).map fun x => ("/".intercalate x.1, x.2)

end FileTree

end StudyFlow
