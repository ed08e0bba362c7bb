import StudyFlow.Shell.Awk.Run

/-!
The program that runs programs for records: its options and its operands.
-/

namespace StudyFlow.Shell

namespace Utility

open StudyFlow.Shell.Action

/-- How the program is to be called. -/
def awkUsage : String :=
"Usage: mawk [Options] [Program] [file ...]

Program:
    The -f option value is the name of a file containing program text.
    If no -f option is given, a \"--\" ends option processing; the following
    parameters are the program text.

Options:
    -f program-file  Program  text is read from file instead of from the
                     command-line.  Multiple -f options are accepted.
    -F value         sets the field separator, FS, to value.
    -v var=value     assigns value to program variable var.
    --               unambiguous end of options.

    Implementation-specific options are prefixed with \"-W\".  They can be
    abbreviated:

    -W version       show version information and exit.
    -W compat        pre-POSIX 2001.
    -W dump          show assembler-like listing of program and exit.
    -W help          show this message and exit.
    -W interactive   set unbuffered output, line-buffered input.
    -W exec file     use file as program as well as last option.
    -W posix         stricter POSIX checking.
    -W random=number set initial random seed.
    -W sprintf=number adjust size of sprintf buffer.
    -W usage         show this message and exit.
"

/-- Which program this is. -/
def awkVersion : String :=
"mawk 1.3.4 20240123

random-funcs:       arc4random_stir/arc4random
regex-funcs:        internal

compiled limits:
sprintf buffer      8192
maximum-integer     9223372036854775808
"

/-- The options that are given. -/
structure AwkCall where
  files : List String := []
  assignments : List (String × String) := []
  operands : List String := []

def readAwkCall (name : String) : Nat → AwkCall → List String → Action AwkCall
  | 0, call, _ => return call
  | fuel + 1, call, args => do
    let valueOf (letter : String) (a : String) (more : List String) : Action
      (String × List String) := do
      if a.length > 2 then return (dropFront 2 a, more)
      else match more with
        | v :: more => return (v, more)
        | [] => die 2 (name ++ ": option -" ++ letter ++ " lacks argument")
    match args with
    | [] => return call
    | "--" :: more => return { call with operands := more }
    | a :: more =>
      if !a.startsWith "-" || a == "-" then return { call with operands := a :: more }
      else if a == "--version" then
        put name 2 awkVersion
        exit 0
      else if a == "--help" || a == "--usage" then
        put name 2 awkUsage
        exit 0
      else if a.startsWith "--" then die 2 (name ++ ": not an option: " ++ a)
      else if a.startsWith "-f" then
        let (v, more) ← valueOf "f" a more
        readAwkCall name fuel { call with files := call.files ++ [v] } more
      else if a.startsWith "-F" then
        let (v, more) ← valueOf "F" a more
        readAwkCall name fuel
          { call with assignments := call.assignments ++ [("FS", Awk.Token.unescaped v)] } more
      else if a.startsWith "-v" then
        let (v, more) ← valueOf "v" a more
        match Awk.Run.assignmentOf? v with
        | some x => readAwkCall name fuel { call with assignments := call.assignments ++ [x] } more
        | none => die 2 (name ++ ": improper assignment: -v " ++ v)
      else if a.startsWith "-W" then
        let (v, more) ← valueOf "W" a more
        let lower := v.map Char.toLower
        if lower.startsWith "v" then
          put name 2 awkVersion
          exit 0
        else if lower.startsWith "h" || lower.startsWith "u" then
          put name 2 awkUsage
          exit 0
        else
          let known := ["compat", "dump", "interactive", "exec", "posix", "random",
            "sprintf"].any fun k =>
            k.startsWith (String.ofList (lower.toList.takeWhile (· != '=')))
          if !known then complain (name ++ ": vacuous option: -W \"" ++ v ++ "\"")
          readAwkCall name fuel call more
      else die 2 (name ++ ": not an option: " ++ a)

def awkSource (name : String) (files : List String) : Action String := do
  let mut text := ""
  for f in files do
    match ← contentOf f with
    | .ok t => text := text ++ t ++ (if endsOpen t then "\n" else "")
    | .error cause =>
      if cause == "Is a directory" then die 2 (name ++ ": read error (" ++ cause ++ ")")
      else die 2 (name ++ ": cannot open \"" ++ f ++ "\" (" ++ cause ++ ")")
  return text

def awkUtility : Utility := fun e name args => do
  let call ← readAwkCall name (args.length + 1) {} args
  let (source, operands) ← match call.files, call.operands with
    | [], [] => do
      printError awkUsage
      exit 0
    | [], p :: rest => pure (p, rest)
    | files, rest => pure (← awkSource name files, rest)
  match Awk.Program.parse source with
  | .error faults =>
    let place := match call.files.getLast? with
      | some f => f ++ ": "
      | none => ""
    for (line, text) in faults do
      match line with
      | some n => complain (name ++ ": " ++ place ++ "line " ++ n.repr ++ ": " ++ text)
      | none => complain (name ++ ": " ++ text)
    return 2
  | .ok program =>
    let c : Awk.Context := { engine := e, name := name, program := program }
    let members (items : List (Awk.Key × Awk.Cell)) : Awk.Members Awk.Cell :=
      items.foldl (fun m i => m.put i.1 i.2) {}
    let words := name :: operands
    let arguments := members (((List.range words.length).zip words).map fun w =>
      (.number (w.1 : Int), .input w.2))
    let environment := members ((← environment).map fun v => (.text v.1, .input v.2))
    let shared : List (String × Awk.Cell) :=
      [("FS", .text " "), ("OFS", .text " "), ("RS", .text "\n"), ("ORS", .text "\n"),
       ("SUBSEP", .text "\x1c"), ("CONVFMT", .text Awk.Cell.plainFormat),
       ("OFMT", .text Awk.Cell.plainFormat), ("FILENAME", .text ""), ("RSTART", .number 0),
       ("RLENGTH", .number (-1)), ("ARGC", .ofNat words.length)]
    let memory : Awk.Memory := {
      shared := shared.foldl (fun h v => h.insert v.1 v.2) ∅
      arrays := (Std.HashMap.emptyWithCapacity 8 |>.insert "ARGV" arguments).insert "ENVIRON"
        environment }
    let run : Awk.Run Nat := do
      for (n, v) in call.assignments do
        Awk.Run.setShared c n (.input v)
      Awk.Run.start c
    let (r, _) ← run.run memory
    match r with
    | .ok n => return n
    | .error _ => return 2

end Utility

end StudyFlow.Shell
