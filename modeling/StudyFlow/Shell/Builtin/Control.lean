import StudyFlow.Shell.Builtin.Declare
import StudyFlow.Shell.Builtin.Input
import StudyFlow.Shell.Builtin.Process
import StudyFlow.Shell.Condition
import StudyFlow.Shell.Date
import StudyFlow.Shell.Printf

/-!
Builtins that change what runs next: they end loops, functions and the shell, run texts and files,
and call other commands. Here too is the table of all builtins.
-/

namespace StudyFlow.Shell

namespace Action

/-- The status that an argument gives to the end of a function or of the shell, in the larger
shell. -/
def exitNumber? (text : String) : Option Nat :=
  let trimmed := String.ofList
    ((text.toList.dropWhile isBlankOctet).reverse.dropWhile isBlankOctet).reverse
  match signed? trimmed with
  | some n => if minWord ≤ n && n ≤ maxWord then some (n % 256).toNat else none
  | none => none

def exitBuiltin (args : List String) : Action Nat := do
  let args := if args.head? == some "--" then args.drop 1 else args
  let current ← status
  match args with
  | [] => throw (.exit current)
  | a :: rest =>
    if ← isBash then
      match exitNumber? a with
      | none =>
        warn ("exit: " ++ a ++ ": numeric argument required")
        throw (.exit 2)
      | some n =>
        if !rest.isEmpty then
          warn "exit: too many arguments"
          return 1
        throw (.exit n)
    else throw (.exit (← plainCount a))

/-- Ends the function or the file that runs. -/
def returnBuiltin (args : List String) : Action Nat := do
  let args := if args.head? == some "--" then args.drop 1 else args
  let current ← status
  let p ← process
  if ← isBash then
    if p.calls.isEmpty && p.sourced == 0 then
      warn "return: can only \x60return' from a function or sourced script"
      return 2
    match args with
    | [] => throw (.finish current)
    | a :: rest =>
      match exitNumber? a with
      | none =>
        warn ("return: " ++ a ++ ": numeric argument required")
        throw (.finish 2)
      | some n =>
        if !rest.isEmpty then
          warn "return: too many arguments"
          throw (.finish 1)
        throw (.finish n)
  else match args with
    | [] => throw (.finish current)
    | a :: _ => throw (.finish (← plainCount a))

/-- Leaves loops or goes on with their next rounds. -/
def loopBuiltin (name : String) (args : List String) : Action Nat := do
  let loops := (← process).loops
  let jump (n : Nat) : Jump :=
    if name == "break" then .leaveLoop (min n loops) else .nextRound (min n loops)
  if ← isBash then
    if loops == 0 then
      warn (name ++ ": only meaningful in a \x60for', \x60while', or \x60until' loop")
      return 0
    match args with
    | [] => throw (jump 1)
    | a :: rest =>
      match signed? a with
      | none =>
        warn (name ++ ": " ++ a ++ ": numeric argument required")
        throw (.exit 128)
      | some n =>
        if !rest.isEmpty then
          warn (name ++ ": too many arguments")
          throw (.discard 1)
        if n ≤ 0 then
          warn (name ++ ": " ++ a ++ ": loop count out of range")
          setStatus 1
          throw (.leaveLoop loops)
        throw (jump n.toNat)
  else
    let n ← match args with
      | [] => pure 1
      | a :: _ => plainCount a
    if n == 0 then fail ("Illegal number: " ++ args.head?.getD "")
    if loops == 0 then return 0
    throw (jump n)

/-- Runs a text as a part of the script. -/
def evalBuiltin (e : Engine) (args : List String) : Action Nat := do
  let args := if args.head? == some "--" then args.drop 1 else args
  if args.isEmpty then return 0
  let bash ← isBash
  let p ← process
  setProcess fun p => { p with label := "eval" }
  finally_ (do
    setStatus 0
    e.script (" ".intercalate args) (if bash then p.line else 1))
    (setProcess fun q => { q with label := p.label, line := p.line })
  status

/-- The file that is meant by a name of a file to run as a part of the script. -/
def sourcePath? (name : String) : Action (Option String) := do
  if name.toList.contains '/' then return some name
  for dir in ← searchPath do
    match ← entry? (below dir name) with
    | some (.file _ _) => return some (below dir name)
    | _ => pure ()
  if ← isBash then
    if ← fileExists name then return some name
  return none

/-- Runs a file as a part of the script. -/
def sourceBuiltin (e : Engine) (command : String) (args : List String) : Action Nat := do
  let args := if args.head? == some "--" then args.drop 1 else args
  let bash ← isBash
  match args with
  | [] =>
    if bash then
      warn (command ++ ": filename argument required")
      return ← usage (command ++ ": usage: " ++ command ++ " filename [arguments]")
    else return 0
  | name :: rest =>
    match ← sourcePath? name with
    | none =>
      if bash then
        warn (name ++ ": No such file or directory")
        return 1
      else fail (name ++ ": not found")
    | some path =>
      match ← readFile path with
      | .error f =>
        if bash then
          let front := if f == .isDirectory then command ++ ": " else ""
          warn (front ++ name ++ ": " ++
            (if f == .isDirectory then "is a directory" else faultText f))
          return 1
        else if f == .isDirectory then return 0
        else fail ("cannot open " ++ path ++ ": " ++
          (if f == .notFound || f == .notDirectory then "No such file" else faultText f))
      | .ok text =>
        let p ← process
        let keepsArguments := !bash || rest.isEmpty
        setProcess fun p => { p with
          source := path, within := if bash then p.within else some path, sourced := p.sourced + 1,
          label := "", arguments := if keepsArguments then p.arguments else rest }
        let restore : Action Unit := setProcess fun q => { q with
          source := p.source, within := p.within, sourced := p.sourced, line :=
            p.line, label := p.label,
          arguments := if keepsArguments then q.arguments else p.arguments }
        finally_ (do
          setStatus 0
          try e.script text 1
          catch j => match j with
            | .finish n => setStatus (n % 256)
            | j => throw j)
          restore
        status

/-- What a shell says when it cannot run a program, and the status for it. -/
def programFault (name : String) : Found → Action (String × Nat)
  | .missing => do
    if ← isBash then
      if name.toList.contains '/' then return (name ++ ": No such file or directory", 127)
      let shown := if name.any isControl then escapedQuote name else name
      return (shown ++ ": command not found", 127)
    else return (name ++ ": not found", 127)
  | .refused p => do
    return (if ← isBash then (p ++ ": Permission denied", 126)
      else (name ++ ": Permission denied", if name.isEmpty then 127 else 126))
  | .directory _ => do
    if ← isBash then return (name ++ ": Is a directory", 126)
    else return (name ++ ": Permission denied", 126)
  | .tooLong => do
    return (name ++ ": File name too long", if ← isBash then 126 else 127)
  | .program _ => return ("", 0)

/-- Says that a signal has ended a process that was waited for. -/
def noteEnd (text : String) : Outcome → Action Unit
  | .exited _ => pure ()
  | .signalled s => do
    if s != 2 && s != 13 then
      if ← isBash then
        let id := (← world).lastId
        complain ((← process).source ++ ": line " ++ (← process).line.repr ++ ": " ++
          padFront 5 id.repr ++ " " ++ padBack 23 (signalNotice s) ++ " " ++ text)
      else complain (signalNotice s)

/-- What the shell says when the file of a program cannot be run. -/
def launchFault (path : String) (f : Fault) : Action (String × Nat) := do
  if ← isBash then
    match f with
    | .badName => return (path ++ ": cannot execute binary file: Exec format error", 126)
    | _ => return (path ++ ": cannot execute: required file not found", 127)
  else return (path ++ ": not found", 127)

def callProgram (e : Engine) (words : List String) : Action Unit := do
  let name := words.head?.getD ""
  match ← findProgram name with
  | .program path =>
    match ← e.launch path words with
    | .ok outcome =>
      setStatus outcome.status
      noteEnd (" ".intercalate words) outcome
    | .error f =>
      let (text, n) ← launchFault name f
      warn text
      setStatus n
  | other =>
    let (text, n) ← programFault name other
    warn text
    setStatus n

/-- Puts a program in the place of the shell. -/
def execBuiltin (e : Engine) (args : List String) : Action Nat := do
  let bash ← isBash
  let mut rest := args
  let mut shownName : Option String := none
  let mut clean := false
  if bash then
    let some (options, operands) ← readOptions "exec" "cla:" args
      | return ← usage "exec: usage: exec [-cl] [-a name] [command [argument ...]] [redirection ...]"
    shownName := options.lookup 'a'
    clean := options.any fun o => o.1 == 'c'
    rest := operands
  else if args.head? == some "--" then rest := args.drop 1
  match rest with
  | [] => return 0
  | name :: more =>
    let place := if bash then "exec: " else ""
    match ← findProgram name with
    | .program path =>
      if clean then setProcess fun p =>
        { p with vars := p.vars.map fun v => { v with exported := false } }
      match ← e.launch path (shownName.getD name :: more) with
      | .ok outcome =>
        setProcess fun p => { p with traps := [] }
        throw (match outcome with
          | .exited n => .exit n
          | .signalled s => .killed s)
      | .error f =>
        let (text, n) ← launchFault name f
        warn (place ++ text)
        throw (.exit n)
    | other =>
      let (text, n) ← programFault name other
      let text := if bash then
          match other with
          | .missing => if name.toList.contains '/' then text else name ++ ": not found"
          | .directory _ => name ++ ": cannot execute: Is a directory"
          | .refused _ => name ++ ": cannot execute: Permission denied"
          | _ => text
        else text
      warn (place ++ text)
      throw (.exit n)

/-- Calls a command that is no function, or says what commands are. -/
def commandBuiltin (e : Engine) (args : List String) : Action Nat := do
  let bash ← isBash
  let some (options, operands) ← readOptions "command" "pvV" args
    | return ← usage "command: usage: command [-pVv] command [arg ...]"
  let has (c : Char) : Bool := options.any fun o => o.1 == c
  if has 'v' || has 'V' then
    let brief := (options.getLast?.map Prod.fst) != some 'V'
    let mut status := if bash then 1 else 0
    for name in (if bash then operands else operands.take 1) do
      let s ← describe name brief
      if s != 0 && bash && !brief then warn ("command: " ++ name ++ ": not found")
      if bash then
        if s == 0 then status := 0
      else status := s
    return status
  else
    match operands with
    | [] => return 0
    | words =>
      e.call words
      status

/-- Calls a builtin of the larger shell. -/
def builtinBuiltin (e : Engine) (args : List String) : Action Nat := do
  let args := if args.head? == some "--" then args.drop 1 else args
  match args with
  | [] => return 0
  | name :: _ =>
    if isBuiltin (← process).dialect name then
      e.call args
      status
    else
      warn ("builtin: " ++ name ++ ": not a shell builtin")
      return 1

/-- Evaluates expressions; the status says whether the last one is zero. -/
def letBuiltin (e : Engine) (args : List String) : Action Nat := do
  if args.isEmpty then
    warn "let: expression expected"
    return 1
  let mut last : Int := 0
  for a in args do
    last ← evaluate e "let: " a
  return if last == 0 then 1 else 0

/-- Prints arguments. -/
def echoBuiltin (args : List String) : Action Nat := do
  print (echoText (if ← isBash then .bash else .dash) args)
  return 0

def printfBuiltin (e : Engine) (args : List String) : Action Nat := do
  let bash ← isBash
  let some (options, operands) ← readOptions "printf" (if bash then "v:" else "") args
    | return ← usage "printf: usage: printf [-v var] format [arguments]"
  match operands with
  | [] =>
    if bash then usage "printf: usage: printf [-v var] format [arguments]"
    else fail "usage: printf format [arg ...]"
  | format :: rest =>
    let say (text : String) : Action Unit := warn (if bash then "printf: " ++ text else text)
    let time (f arg : String) : Action String := do
      let now := (← world).clock / 1000
      let n :=
        if arg.isEmpty || arg == "-1" || arg == "-2" then now else ((signed? arg).getD 0).toNat
      return Date.format f (Date.ofSeconds n) n 0
    let r ← printFormatted (if bash then .bash else .dash) say time format rest
    match options.lookup 'v' with
    | some v =>
      assignText e v false r.out
      return r.status
    | none =>
      print r.out
      return r.status

/-- Lists the programs that were found before. -/
def hashBuiltin (args : List String) : Action Nat := do
  let bash ← isBash
  let mut status := 0
  for a in args.filter fun a => !a.startsWith "-" do
    match ← meaningOf a with
    | .nothing =>
      if bash then warn ("hash: " ++ a ++ ": not found") else warn (a ++ ": not found")
      status := 1
    | _ => pure ()
  return status

/-- Lists the commands in the background. -/
def jobsBuiltin : Action Nat := do
  return 0

/-- Says from where the running function was called. -/
def callerBuiltin (args : List String) : Action Nat := do
  let p ← process
  match p.calls, args with
  | [], _ => return 1
  | (_, line) :: _, [] =>
    printLine (line.repr ++ " " ++ p.source)
    return 0
  | calls, n :: _ =>
    let k := decimalOf n
    match calls[k]? with
    | some (_, line) =>
      let name := ((calls[k + 1]?).map Prod.fst).getD "main"
      printLine (line.repr ++ " " ++ name ++ " " ++ p.source)
      return 0
    | none => return 1

def runBuiltin (e : Engine) (name : String) (args : List DeclareArg) : Action Nat := do
  let bash ← isBash
  let texts := textsOf args
  match name with
  | ":" | "true" => return 0
  | "false" => return 1
  | "echo" => echoBuiltin texts
  | "printf" => printfBuiltin e texts
  | "test" | "[" => testCommand name texts
  | "exit" | "logout" => exitBuiltin texts
  | "return" => returnBuiltin texts
  | "break" | "continue" => loopBuiltin name texts
  | "eval" => evalBuiltin e texts
  | "." | "source" => sourceBuiltin e name texts
  | "exec" => execBuiltin e texts
  | "command" => commandBuiltin e texts
  | "builtin" => builtinBuiltin e texts
  | "let" => letBuiltin e texts
  | "cd" | "chdir" => cdBuiltin texts
  | "pwd" => pwdBuiltin texts
  | "pushd" => pushdBuiltin texts
  | "popd" => popdBuiltin texts
  | "dirs" =>
    showDirectories
    return 0
  | "umask" => umaskBuiltin texts
  | "kill" => killBuiltin texts
  | "wait" => waitBuiltin e texts
  | "trap" => trapBuiltin texts
  | "type" => typeBuiltin texts
  | "ulimit" => ulimitBuiltin texts
  | "read" => readBuiltin texts
  | "mapfile" | "readarray" => mapfileBuiltin texts
  | "getopts" => getoptsBuiltin texts
  | "export" | "readonly" =>
    if bash && (texts.any fun t => t.startsWith "-" && t != "-p" && t != "-n" && t != "--") ||
      args.length != texts.length then
      declareBuiltin e name args
    else attributeBuiltin name (name == "export") texts
  | "declare" | "typeset" => declareBuiltin e name args
  | "local" => if bash then declareBuiltin e name args else localPlain texts
  | "unset" => unsetBuiltin e texts
  | "set" => setBuiltin texts
  | "shift" => shiftBuiltin texts
  | "shopt" => shoptBuiltin texts
  | "alias" => aliasBuiltin texts
  | "unalias" => unaliasBuiltin texts
  | "hash" => hashBuiltin texts
  | "jobs" => jobsBuiltin
  | "caller" => callerBuiltin texts
  | "times" =>
    let zero := if bash then "0m0.000s 0m0.000s" else "0m0.000000s 0m0.000000s"
    printLine zero
    printLine zero
    return 0
  | "fg" | "bg" =>
    if bash then
      warn (name ++ ": no job control")
      return 1
    else fail ("No current job")
  | _ => return 0

end Action

end StudyFlow.Shell
