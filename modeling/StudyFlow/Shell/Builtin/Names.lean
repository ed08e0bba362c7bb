import StudyFlow.Shell.Expand

/-!
What a name of a command stands for: a keyword, an alias, a function, a builtin of the shell, or a
program.
-/

namespace StudyFlow.Shell

/-- The builtins of the small shell that are not special. -/
def plainBuiltins : List String :=
  ["[", "alias", "bg", "cd", "chdir", "command", "echo", "false", "fg", "getopts", "hash", "jobs",
   "kill", "local", "printf", "pwd", "read", "test", "true", "type", "ulimit", "umask", "unalias",
   "wait"]

/-- Further builtins of the larger shell. -/
def furtherBuiltins : List String :=
  ["[", "alias", "bg", "builtin", "caller", "cd", "command", "compgen", "complete", "declare",
   "dirs", "disown", "echo", "enable", "false", "fc", "fg", "getopts", "hash", "help", "history",
   "jobs", "kill", "let", "local", "logout", "mapfile", "popd", "printf", "pushd", "pwd", "read",
   "readarray", "shopt", "source", "suspend", "test", "true", "type", "typeset", "ulimit", "umask",
   "unalias", "wait"]

/-- Whether a name is that of a builtin whose errors end the small shell. -/
def isSpecialBuiltin (dialect : Dialect) (name : String) : Bool :=
  Reader.specialNames.contains name || (dialect == .bash && name == "source")

def isBuiltin (dialect : Dialect) (name : String) : Bool :=
  isSpecialBuiltin dialect name ||
  (match dialect with
    | .dash => plainBuiltins
    | .bash => furtherBuiltins).contains name

/-- The builtins whose arguments may be assignments. -/
def takesAssignments (dialect : Dialect) (name : String) : Bool :=
  name == "export" || name == "readonly" || name == "local" ||
  (dialect == .bash && (name == "declare" || name == "typeset"))

namespace Action

def isProgramFile (path : String) : Action Bool := do
  match ← entry? path with
  | some (.file _ executable) => return executable
  | _ => return false

/-- The directories in which programs are looked for. -/
def searchPath : Action (List String) := do
  return splitAtEach ':'
    ((← valueOf? "PATH").getD "/usr/local/sbin:/usr/local/bin:/usr/sbin:/usr/bin:/sbin:/bin")

/-- A path below a directory of the search path. -/
def below (dir name : String) : String := if dir.isEmpty then name else dir ++ "/" ++ name

/-- Where a program is found: its path, or why it cannot be run. -/
inductive Found where
  | program (path : String)
  | missing
  /-- A file is there, but it cannot be run. -/
  | refused (path : String)
  | directory (path : String)
  | tooLong

def findProgram (name : String) : Action Found := do
  if name.toList.contains '/' then
    match ← entryAt name with
    | .ok (_, .directory) => return .directory name
    | .ok (_, .file _ executable) => return if executable then .program name else .refused name
    | .error .nameTooLong => return .tooLong
    | .error _ => return .missing
  else if name.isEmpty then return if ← isBash then .missing else .refused ""
  else
    let mut refused : Option String := none
    let mut tooLong := false
    for dir in ← searchPath do
      let path := below dir name
      match ← entryAt path with
      | .ok (_, .file _ true) => return .program (if dir.isEmpty then "./" ++ name else path)
      | .ok (_, .file _ false) => refused := refused.orElse fun _ => some path
      | .error .nameTooLong => tooLong := true
      | _ => pure ()
    match refused with
    | some p => return .refused p
    | none => return if tooLong then .tooLong else .missing

/-- What a name of a command stands for. -/
inductive Meaning where
  | keyword
  | renamed (value : String)
  | function (f : Function)
  | special
  | builtin
  | program (path : String)
  | nothing

/-- What a name of a command stands for. -/
def meaningOf (name : String) : Action Meaning := do
  let p ← process
  let keywords := Reader.keywordsOf p.dialect ++
    (if p.dialect == .bash then ["]]", "coproc"] else [])
  if keywords.contains name then return .keyword
  match p.aliases.lookup name with
  | some v => return .renamed v
  | none =>
    let special := isSpecialBuiltin p.dialect name
    let defined := p.functions.lookup name
    match defined, special && p.dialect == .dash with
    | some f, false => return .function f
    | _, _ =>
      if special then return .special
      else if isBuiltin p.dialect name then return .builtin
      else match ← findProgram name with
        | .program path => return .program path
        | _ => return .nothing

end Action

end StudyFlow.Shell
