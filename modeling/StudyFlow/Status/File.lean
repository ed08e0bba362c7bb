import StudyFlow.Site
import StudyFlow.Status.Record

/-!
Status files: one line in the file `STATUS` of a workspace.

A record is written to a file beside it first and moved into place, so that a reader meets the whole
line or the one before. `collectStatuses` gathers the records of all workspaces below a directory.
-/

namespace StudyFlow

def statusFileName : String := "STATUS"

/-- The name of the file that a record is written to first. -/
def statusDraftName : String := ".STATUS.tmp"

/-- Why a status file is not written or not read. -/
inductive StatusError where
  | write (path : Path) (cause : Fault)
  | read (path : Path) (cause : Fault)
  | record (cause : RecordError)
  deriving DecidableEq, Inhabited, Repr

namespace StatusError

def message : StatusError → String
  | write path cause => "failed to write status file " ++ path.text ++ ": " ++ cause.message
  | read path cause => "failed to read status file " ++ path.text ++ ": " ++ cause.message
  | record cause => cause.message

end StatusError

def statusPath (workspace : Path) : Path := workspace.child statusFileName

namespace FileTree

/-- Writes the draft of a record and moves it into place. The draft stays if it cannot be moved. -/
def replaceStatus (t : FileTree) (workspace : Path) (r : StatusRecord) :
    Except Fault Unit × FileTree :=
  let draft := workspace.child statusDraftName
  match t.writeText draft (r.line ++ "\n") with
  | .error f => (.error f, t)
  | .ok t => match t.rename draft (statusPath workspace) with
    | .error f => (.error f, t)
    | .ok t => (.ok (), t)

/-- Writes a record as the status of a workspace and gives the path of the file. -/
def writeStatus (t : FileTree) (workspace : Path) (r : StatusRecord) :
    Except StatusError Path × FileTree :=
  match t.replaceStatus workspace r with
  | (.ok (), t) => (.ok (statusPath workspace), t)
  | (.error f, t) => (.error (.write (statusPath workspace) f), t)

def readStatus (t : FileTree) (workspace : Path) : Except StatusError StatusRecord :=
  match t.readText (statusPath workspace) with
  | .error f => .error (.read (statusPath workspace) f)
  | .ok text => match StatusRecord.parse (Text.trim text) with
    | .ok r => .ok r
    | .error e => .error (.record e)

/-- What a walk through directories has found. -/
structure Found where
  records : List StatusRecord := []
  /-- Directories that are still to be looked at. -/
  pending : List Path := []
  /-- Status files that hold no record, with the reason. -/
  skipped : List (Path × StatusError) := []

/-- Takes one entry of a directory into account, by its path. -/
def Found.visit (t : FileTree) (dir : Path) (f : Found) (e : String × Entry) : Found :=
  let path := dir.child e.1
  if t.isDirAt path then { f with pending := path :: f.pending }
  else if path.fileName? == some statusFileName then
    match path.parent? with
    | none => f
    | some workspace => match t.readStatus workspace with
      | .ok r => { f with records := f.records ++ [r] }
      | .error err => { f with skipped := f.skipped ++ [(path, err)] }
  else f

/-- Looks at the pending directories, the last found first. The number bounds how many. -/
def walk (t : FileTree) : Nat → Found → Except StatusError Found
  | 0, f => .ok f
  | fuel + 1, f => match f.pending with
    | [] => .ok f
    | dir :: rest => match t.list dir with
      | .error cause => .error (.read dir cause)
      | .ok entries => t.walk fuel (entries.foldl (Found.visit t dir) { f with pending := rest })

/-- Puts a record behind those whose name is not greater. -/
def insertRecord (r : StatusRecord) : List StatusRecord → List StatusRecord
  | [] => [r]
  | x :: xs => if r.name < x.name then r :: x :: xs else x :: insertRecord r xs

/-- All status records below a directory, sorted by name, and the status files that hold none. There
are no more directories to look at than the tree has entries, and the first one. -/
def collectStatuses (t : FileTree) (root : Path) :
    Except StatusError (List StatusRecord × List (Path × StatusError)) :=
  (t.walk (t.entries.length + 1) { pending := [root] }).map fun f =>
    (f.records.foldl (fun acc r => insertRecord r acc) [], f.skipped)

end FileTree

end StudyFlow
