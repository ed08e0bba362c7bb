import StudyFlow.Path
import StudyFlow.Text.Numeral

/-!
The arguments of the command line. Options may stand anywhere; the positional arguments are a
command and one path. Asking for help or for the version ends the reading at once.
-/

namespace StudyFlow.CommandLine

/-- What is to be done. -/
inductive Command where
  | run (study : Path)
  | status (workspace : Path)
  deriving DecidableEq, Inhabited

structure Invocation where
  command : Command
  dryRun : Bool := false
  maxParallel : Option Nat := none
  verbose : Bool := false
  deriving DecidableEq, Inhabited

/-- Why arguments are not understood. -/
inductive UsageError where
  | missingNumber
  | invalidNumber (text : String)
  | zeroNumber
  | unknownOption (option : String)
  | missingPath (command : String)
  | noCommand
  | unknownCommand (command : String)
  | unexpectedArgument (argument : String)
  | invalidArguments
  deriving DecidableEq, Inhabited

namespace UsageError

def message : UsageError → String
  | missingNumber => "--parallel requires a number argument"
  | invalidNumber text => "Invalid parallel value: " ++ text
  | zeroNumber => "--parallel must be at least 1"
  | unknownOption option => "Unknown option: " ++ option
  | missingPath command => "'" ++ command ++ "' requires a path argument"
  | noCommand => "No command given"
  | unknownCommand command => "Unknown command: " ++ command
  | unexpectedArgument argument => "Unexpected argument: " ++ argument
  | invalidArguments => "Invalid arguments"

end UsageError

/-- What the arguments ask for. -/
inductive Request where
  | help
  | version
  | invoke (invocation : Invocation)
  deriving DecidableEq, Inhabited

/-- Options and positional arguments that were read so far. -/
structure Options where
  positional : List String := []
  dryRun : Bool := false
  maxParallel : Option Nat := none
  verbose : Bool := false

/-- What the options of some arguments come to: a question that is answered at once, or all of
them. -/
inductive Scanned where
  | help
  | version
  | options (options : Options)

/-- Reads arguments one after the other. -/
def scan : Options → List String → Except UsageError Scanned
  | o, [] => .ok (.options o)
  | o, arg :: rest =>
    if arg == "--help" || arg == "-h" then .ok .help
    else if arg == "--version" || arg == "-V" then .ok .version
    else if arg == "--dry-run" then scan { o with dryRun := true } rest
    else if arg == "--verbose" || arg == "-v" then scan { o with verbose := true } rest
    else if arg == "--parallel" then
      match rest with
      | [] => .error .missingNumber
      | value :: rest => match Text.counter? UInt64.size value with
        | none => .error (.invalidNumber value)
        | some 0 => .error .zeroNumber
        | some n => scan { o with maxParallel := some n } rest
    else if arg.toList.head? == some '-' then .error (.unknownOption arg)
    else scan { o with positional := o.positional ++ [arg] } rest

/-- The command that positional arguments name. -/
def commandOf : List String → Except UsageError Command
  | ["run", path] => .ok (.run ⟨path⟩)
  | ["status", path] => .ok (.status ⟨path⟩)
  | ["run"] => .error (.missingPath "run")
  | ["status"] => .error (.missingPath "status")
  | [] => .error .noCommand
  | first :: rest =>
    if first != "run" && first != "status" then .error (.unknownCommand first)
    else match rest with
      | _ :: extra :: _ => .error (.unexpectedArgument extra)
      | _ => .error .invalidArguments

/-- Reads the arguments after the name of the program. -/
def parse (args : List String) : Except UsageError Request := do
  match ← scan {} args with
  | .help => pure .help
  | .version => pure .version
  | .options o =>
    let command ← commandOf o.positional
    pure (.invoke ⟨command, o.dryRun, o.maxParallel, o.verbose⟩)

end StudyFlow.CommandLine
