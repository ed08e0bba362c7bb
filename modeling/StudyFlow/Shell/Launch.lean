import StudyFlow.LocalAdapter
import StudyFlow.Shell.Interpreter

/-!
Launching programs on a machine that has the shells and the usual utilities: what files there are
besides those of the working directory, and what a program does to them.
-/

namespace StudyFlow.Shell

def systemDirectories : List Location :=
  [["bin"], ["dev"], ["etc"], ["home"], ["opt"], ["proc"], ["root"], ["sbin"], ["sys"], ["tmp"],
   ["usr"], ["usr", "bin"], ["usr", "local"], ["usr", "local", "bin"], ["usr", "sbin"], ["var"],
   ["var", "tmp"], ["work"]].map ("/" :: ·)

/-- The files of programs, and a few others. -/
def systemFiles : List (Location × Entry) :=
  let names := ["sh", "dash", "bash"] ++ Utility.table.map Prod.fst
  let program (n : String) : Entry := .file (bytesOfOctets (Action.programMark ++ n)) true
  (names.flatMap fun n => [(["/", "usr", "bin", n], program n), (["/", "bin", n], program n)]) ++
  [(["/", "etc", "passwd"], .file "root:x:0:0:root:/root:/bin/bash\n".toUTF8 false),
   (["/", "etc", "hostname"], .file "localhost\n".toUTF8 false)]

def withSystem (files : FileTree) : FileTree :=
  let directories := (systemDirectories.map fun l => (l, Entry.directory)).filter fun x =>
    (files.get? x.1).isNone
  let others := systemFiles.filter fun x => (files.get? x.1).isNone
  ⟨files.entries ++ others ++ directories⟩

/-- The files without those of the system. -/
def withoutSystem (before after : FileTree) : FileTree :=
  let own (x : Location × Entry) : Bool :=
    x.1.head? != some "/" || (before.get? x.1).isSome ||
    !(systemDirectories.contains x.1 || systemFiles.any fun f => f.1 == x.1)
  ⟨after.entries.filter own⟩

/-- How deep the interpreter goes into itself. -/
def depthBound : Nat := 3000

/-- The path of a program that is given by its path, seen from a directory, or by its name. -/
def programPath? (files : FileTree) (dir : Path) (program : String) : Except Fault String :=
  if program.toList.contains '/' then
    match files.find (dir.join ⟨program⟩) with
    | .error f => .error f
    | .ok l => if files.isDir l then .error .isDirectory else .ok program
  else
    let places := ["/usr/bin/" ++ program, "/bin/" ++ program]
    match places.find? fun p => (files.entryAt? ⟨p⟩).isSome with
    | some p => .ok p
    | none =>
      if FileTree.maxNameSize < program.utf8ByteSize then .error .nameTooLong else .error .notFound

def scriptDirectory (l : Location) : String :=
  if l.head? == some "/" then "/" ++ "/".intercalate (l.drop 1)
  else Action.normalPath (Action.baseDir ++ "/" ++ "/".intercalate l)

/-- The state in which a program is started: its output and its errors are kept, and it has no
input. -/
def initialMachine (files : FileTree) (dir : String) : Machine :=
  let exported (n v : String) : Variable := { name := n, value := .scalar v, exported := true }
  { world := {
      files := files
      streams := #[.null, .memory ByteArray.empty 0, .memory ByteArray.empty 0] }
    process := {
      dir := dir
      vars := [exported "PATH" "/usr/local/sbin:/usr/local/bin:/usr/sbin:/usr/bin:/sbin:/bin",
        exported "SHELL" "/bin/sh", exported "HOME" "/root"]
      channels := [(0, ⟨0, true, false⟩), (1, ⟨1, false, true⟩), (2, ⟨2, false, true⟩)] } }

/-- What was written to a stream in memory. -/
def writtenTo (m : Machine) (n : Nat) : ByteArray :=
  match m.world.streams[n]? with
  | some (.memory content _) => content
  | _ => ByteArray.empty

/-- Runs a program to its end, with what it has put in the background. -/
def runProgram (path program : String) (args : List String) : Action (Except Fault Outcome) := do
  let e := engine depthBound
  let r ← e.launch path (program :: args)
  Action.runJobs e none fun _ => true
  return r

/-- Runs a program in a directory. Every process gets the same name from the system. -/
def launch (process : String) : Launcher := fun program args dir files =>
  if program.toList.contains '\x00' || args.any (fun a => a.toList.contains '\x00') then
    .error .badArgument
  else match files.find dir with
  | .error f => .error f
  | .ok l =>
    if !files.isDir l then .error .notDirectory
    else
      let all := withSystem files
      match programPath? all dir program with
      | .error f => .error f
      | .ok path =>
        let name := octetsOfText program
        let m := initialMachine all (scriptDirectory l)
        let (r, m) := (runProgram (octetsOfText path) name (args.map octetsOfText)).run.run m
        let finished (status : Option Int) : Finished :=
          { process := process
            status := status
            output := writtenTo m 1
            errors := writtenTo m 2
            files := withoutSystem files m.world.files }
        match r with
        | .ok (.ok (.exited n)) => .ok (finished (some (n % 256 : Nat)))
        | .ok (.ok (.signalled _)) => .ok (finished none)
        | .ok (.error f) => .error f
        | .error (.exit n) => .ok (finished (some (n % 256 : Nat)))
        | .error _ => .ok (finished none)

end StudyFlow.Shell
