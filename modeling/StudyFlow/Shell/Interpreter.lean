import StudyFlow.Shell.Command
import StudyFlow.Shell.Utility.Table

/-!
The interpreter as a whole: it reads scripts line by line and runs each before it reads the next, it
is the program of the shells, and it runs the other programs. A number bounds how deep it goes into
itself.
-/

namespace StudyFlow.Shell

namespace Action

/-- Says what is wrong with a script. -/
def complainAbout (f : SyntaxFault) : Action Unit := do
  let p ← process
  match p.dialect with
  | .dash =>
    setProcess fun p => { p with line := f.line }
    let text := match f.flaw with
      | .unexpected t expected => t.described ++ " unexpected" ++ (match expected with
        | some x => " (expecting " ++ x ++ ")"
        | none => "")
      | .unclosed mark => "Unterminated " ++ mark
      | .message text => text
      | .tooDeep => "nested too deep"
    warn ("Syntax error: " ++ text)
  | .bash =>
    let label := if p.label.isEmpty then "" else p.label ++ ": "
    let say (text : String) : Action Unit :=
      complain (p.source ++ ": " ++ label ++ "line " ++ f.line.repr ++ ": " ++ text)
    match f.flaw with
    | .unexpected .done _ => say "syntax error: unexpected end of file"
    | .unexpected t expected =>
      let isCondition := expected == some "condition"
      if isCondition then
        say "conditional binary operator expected"
        say ("syntax error near \x60" ++ t.shown ++ "'")
      else say ("syntax error near unexpected token \x60" ++ t.shown ++ "'")
      say ("\x60" ++ f.lineText ++ "'")
    | .unclosed mark => say ("unexpected EOF while looking for matching \x60" ++ mark ++ "'")
    | .message text => say ("syntax error: " ++ text)
    | .tooDeep => say "nested too deep"

def takeLine (s : Source) : Action (Except SyntaxFault (Option (List Command) × Source)) := do
  let p ← process
  let renames := p.dialect == .dash || p.features.contains "expand_aliases"
  let s : Source := { s with
    aliases := if renames then p.aliases else []
    alternatives := p.features.contains "extglob"
    documents := [], nextDocument := p.nextDocument, remarks := [] }
  return Reader.nextLine.run s

def runLine (e : Engine) (commands : List Command) (documents : List (Nat × Word))
    (nextDocument : Nat) : Action Unit := do
  setProcess fun p => { p with documents := documents ++ p.documents, nextDocument := nextDocument }
  if !(← hasOption 'n') then
    try runAll e commands
    catch j => match j with
      | .discard n =>
        -- What is left of the line is dropped, and a subshell ends.
        if (← process).subshell > 0 then throw (.exit n)
        setStatus n
      | j => throw j

/-- Runs the lines of a script. When all is read, there may be more. -/
def runLines (e : Engine) (text : String) (line : Nat) (more : Nat → Action (List Char)) :
    Action Unit := do
  let dialect := (← process).dialect
  let chars := text.toList.filter fun c => c != '\x00'
  let mut s : Source := { rest := chars, line := line, dialect := dialect, lineStart := chars }
  let mut taken := text.length
  let mut ran := false
  for _ in [0:roundBound] do
    if s.rest.isEmpty then
      let added ← more taken
      if added.isEmpty then break
      taken := taken + added.length
      s := { s with rest := added, lineStart := added }
    match ← takeLine s with
    | .error f =>
      if ← hasOption 'v' then printError (String.ofList s.rest)
      match f.flaw with
      | .tooDeep => throw (.killed 11)
      | _ => pure ()
      complainAbout f
      if dialect == .dash then throw (.failed 2)
      setStatus 2
      return
    | .ok (none, _) =>
      s := { s with rest := [] }
    | .ok (some commands, after) =>
      if ← hasOption 'v' then
        printError (String.ofList (s.rest.take (s.rest.length - after.rest.length)))
      for (n, text) in after.remarks do
        complain ((← process).source ++ ": line " ++ n.repr ++ ": " ++ text)
      if !commands.isEmpty then ran := true
      runLine e commands after.documents after.nextDocument
      s := after
  if !ran then setStatus 0

def runText (e : Engine) (text : String) (line : Nat) : Action Unit := do
  let p ← process
  setProcess fun p => { p with depth := p.depth + 1 }
  finally_ (do
    let s ← status
    runLines e text line fun _ => return []
    if text.all isBlankOctet then setStatus s)
    (setProcess fun q => { q with depth := p.depth })

/-- Runs the file of a script. What the script adds to its own file is run as well. -/
def runFile (e : Engine) (path text : String) : Action Unit := do
  setProcess fun p => { p with depth := p.depth + 1 }
  let dir := (← process).dir
  runLines e text 1 fun taken => do
    let here := (← process).dir
    setProcess fun p => { p with dir := dir }
    let now ← readFile path
    setProcess fun p => { p with dir := here }
    match now with
    | .ok now => return now.toList.drop taken
    | .error _ => return []

/-- Runs the commands on the input, which the commands themselves may read from. -/
def runInput (e : Engine) : Action Unit := do
  setProcess fun p => { p with depth := p.depth + 1 }
  if ← isBash then
    -- What a line does not take stays for its commands.
    let mut line := 1
    for _ in [0:roundBound] do
      let text ← readAll 0
      if text.isEmpty then break
      let chars := text.toList
      match ← takeLine { rest := chars, line := line, dialect := .bash, lineStart := chars } with
      | .error f =>
        complainAbout f
        setStatus 2
        return
      | .ok (none, _) => break
      | .ok (some commands, after) =>
        line := after.line
        match ← channel? 0 with
        | some d =>
          let back := after.rest.length
          match ← streamAt d.stream with
          | .memory content offset => setStream d.stream (.memory content (offset - back))
          | .file place offset a => setStream d.stream (.file place (offset - back) a)
          | _ => pure ()
        | none => pure ()
        runLine e commands after.documents after.nextDocument
  else
    let text ← readAll 0
    runLines e text 1 fun _ => return []

structure Start where
  text : Option String := none
  wantsText : Bool := false
  input : Bool := false

def refuseStart {α : Type} (name text : String) (status : Nat) : Action α := do
  complain (name ++ ": " ++ text)
  throw (.exit status)

def readStart (dialect : Dialect) (name : String) (args : List String) :
    Action (Start × List String) := do
  let bash := dialect == .bash
  let letters := (longOptions dialect).map Prod.snd
  let place := if bash then "" else "0: "
  let mut start : Start := {}
  let mut rest := args
  for _ in [0:args.length] do
    match rest with
    | [] => break
    | "--" :: more =>
      rest := more
      break
    | "-" :: more =>
      rest := more
      break
    | a :: more =>
      if bash && a.startsWith "--" then
        if ["--norc", "--noprofile", "--posix", "--login", "--noediting", "--restricted",
          "--verbose"].contains a then
          if a == "--verbose" then setOption 'v' true
          rest := more
        else if a == "--rcfile" || a == "--init-file" then rest := more.drop 1
        else if a == "--version" then
          printLine "GNU bash, version 5.2.21(1)-release (x86_64-pc-linux-gnu)"
          throw (.exit 0)
        else refuseStart name (a ++ ": invalid option") 2
      else if (a.startsWith "-" || a.startsWith "+") && a.length > 1 then
        let on := a.startsWith "-"
        rest := more
        for c in a.toList.drop 1 do
          if c == 'c' && on then start := { start with wantsText := true }
          else if c == 's' && on then start := { start with input := true }
          else if c == 'l' || c == 'i' || (bash && c == 'r') then pure ()
          else if c == 'o' then
            match rest with
            | [] => listOptions (!on)
            | o :: more =>
              rest := more
              match (longOptions dialect).lookup o with
              | some c => setOption c on
              | none =>
                if bash && unletteredOptions.contains o then setFeature o on
                else if bash then refuseStart name (o ++ ": invalid option name") 2
                else refuseStart name (place ++ "Illegal option " ++
                  (if on then "-" else "+") ++ "o " ++ o) 2
          else if bash && c == 'O' then
            match rest with
            | [] => pure ()
            | o :: more =>
              rest := more
              setFeature o on
          else if letters.contains c then setOption c on
          else if bash then
            complain (name ++ ": " ++ takeFront 1 a ++ String.singleton c ++ ": invalid option")
            throw (.exit 2)
          else refuseStart name (place ++ "Illegal option " ++ takeFront 1 a ++
            String.singleton c) 2
      else break
  if start.wantsText then
    match rest with
    | [] =>
      if bash then refuseStart name "-c: option requires an argument" 2
      else refuseStart name (place ++ "-c requires an argument") 2
    | t :: more => return ({ start with text := some t }, more)
  return (start, rest)

def shellProgram (e : Engine) (dialect : Dialect) (name : String) (args : List String) :
    Action Unit := do
  let bash := dialect == .bash
  let dir := (← process).dir
  setProcess fun p => { p with
    dialect := dialect, name := name, source := name, line :=
      if bash then 1 else 0, subshell := 0, depth := 0,
    options := (if bash then "hB" else "").toList,
    features := if bash then (featureNames.filter Prod.snd).map Prod.fst else [] }
  let vars := (← process).vars
  if (vars.find? fun v => v.name == "PWD").isNone then
    putVariable { name := "PWD", value := .scalar dir, exported := bash }
  else changeVariable "PWD" fun v => { v with value := .scalar dir }
  putVariable { name := "IFS", value := .scalar " \t\n" }
  putVariable { name := "OPTIND", value := .scalar "1" }
  putVariable { name := "PS4", value := .scalar "+ " }
  if !bash then
    putVariable { name := "PS1", value := .scalar "# " }
    putVariable { name := "PS2", value := .scalar "> " }
    if (vars.find? fun v => v.name == "PATH").isNone then
      putVariable {
        name := "PATH"
        value := .scalar "/usr/local/sbin:/usr/local/bin:/usr/sbin:/usr/bin:/sbin:/bin" }
  else
    for (n, v) in [("BASH", "/bin/bash"), ("BASH_VERSION", "5.2.21(1)-release"),
      ("HOSTTYPE", "x86_64"), ("MACHTYPE", "x86_64-pc-linux-gnu"), ("OSTYPE", "linux-gnu"),
      ("HOSTNAME", "localhost"), ("UID", "0"), ("EUID", "0")] do
      putVariable { name := n, value := .scalar v, readonly := n == "UID" || n == "EUID" }
    let parts := [(0, "5"), (1, "2"), (2, "21"), (3, "1"), (4, "release"),
      (5, "x86_64-pc-linux-gnu")]
    putVariable { name := "BASH_VERSINFO", value := .indexed parts, readonly := true }
    let level := (vars.find? fun v => v.name == "SHLVL").bind fun v => Value.text? v.value
    putVariable {
      name := "SHLVL", value := .scalar (decimalOf (level.getD "0") + 1).repr, exported := true }
    if (vars.find? fun v => v.name == "PATH").isNone then
      putVariable {
        name := "PATH"
        value := .scalar "/usr/local/sbin:/usr/local/bin:/usr/sbin:/usr/bin:/sbin:/bin:." }
  let (start, rest) ← readStart dialect name args
  match start.text with
  | some text =>
    let own := rest.head?.getD name
    setProcess fun p => { p with name := own, source := own, arguments := rest.drop 1,
                                 label := if bash then "-c" else "" }
    e.script text 1
  | none =>
    if start.input || rest.isEmpty then
      setProcess fun p => { p with arguments := rest, line := 1 }
      runInput e
    else
      let path := rest.head?.getD ""
      let place ← do
        if bash && !path.toList.contains '/' && !(← fileExists path) then
          match ← findProgram path with
          | .program q => pure q
          | _ => pure path
        else pure path
      match ← readFile place with
      | .error f =>
        if bash then
          if f == .isDirectory then refuseStart name (path ++ ": Is a directory") 126
          refuseStart name (path ++ ": " ++ faultText f) 127
        else if f == .isDirectory then pure ()
        else
          let cause := if f == .notFound || f == .notDirectory then "No such file" else faultText f
          refuseStart name ("0: cannot open " ++ path ++ ": " ++ cause) 2
      | .ok text =>
        if bash && text.startsWith "\x7fELF" then
          refuseStart place (place ++ ": cannot execute binary file") 126
        setProcess fun p => {
          p with name := path, source := path, arguments := rest.drop 1, line := 1 }
        runFile e place text

/-- The mark at the front of a program file; the name of the program follows. -/
def programMark : String := "\x7fELF"

/-- Runs a program in a process of its own, which gets the exported variables. -/
def inProgram (e : Engine) (name : String) (body : Action Unit) : Action Outcome := do
  inSubshell e do
    setProcess fun p =>
      let exported := p.vars.filterMap fun v =>
        match v.exported, Value.text? v.value with
        | true, some s => some { name := v.name, value := .scalar s, exported := true }
        | _, _ => none
      { id := p.id, shellId := p.id, name := name, source := name, dir := p.dir, vars := exported,
        channels := p.channels, traps := p.traps, seed := p.seed + p.id }
    body

/-- Runs the program at a path. Scripts are run by the shell that they name, or by the shell that
runs now. -/
def launchProgram (e : Engine) (path : String) (words : List String) :
    Action (Except Fault Outcome) := do
  let name := words.head?.getD path
  match ← readFile path with
  | .error f => return .error f
  | .ok text =>
    if text.startsWith programMark then
      let program := dropFront programMark.length text
      let outcome ← inProgram e name do
        match program with
        | "sh" | "dash" => shellProgram e .dash name (words.drop 1)
        | "bash" => shellProgram e .bash name (words.drop 1)
        | p =>
          match Utility.table.lookup p with
          | some u =>
            setProcess fun p => { p with name := name }
            setStatus ((← u e name (words.drop 1)) % 256)
          | none => setStatus 0
      return .ok outcome
    else if text.startsWith "#!" then
      let line := text.toList.drop 2 |>.takeWhile (· != '\n')
      let blank (c : Char) : Bool := c == ' ' || c == '\t'
      let line := ((line.dropWhile blank).reverse.dropWhile blank).reverse
      let interpreter := line.takeWhile fun c => !blank c
      let argument := (line.drop interpreter.length).dropWhile blank
      let interpreter := String.ofList interpreter
      if interpreter.isEmpty then
        let outcome ← inProgram e name
          (shellProgram e (← process).dialect path (path :: words.drop 1))
        return .ok outcome
      match ← entry? interpreter with
      | some (.file _ true) =>
        let argument := if argument.isEmpty then [] else [String.ofList argument]
        e.launch interpreter (interpreter :: argument ++ path :: words.drop 1)
      | some _ => return .error .isDirectory
      | none => return .error .notFound
    else
      let dialect := (← process).dialect
      if dialect == .bash && (text.toList.takeWhile (· != '\n')).contains '\x00' then
        return .error .badName
      let outcome ← inProgram e name (shellProgram e dialect path (path :: words.drop 1))
      return .ok outcome

end Action

/-- An interpreter that goes so deep into itself at most. A process that would go deeper is
killed. -/
def engine : Nat → Engine
  | 0 =>
    { run := fun _ => throw (.killed 11)
      items := fun _ _ => throw (.killed 11)
      script := fun _ _ => throw (.killed 11)
      value := fun _ => throw (.killed 11)
      call := fun _ => throw (.killed 11)
      launch := fun _ _ => throw (.killed 11) }
  | n + 1 =>
    let e := engine n
    { run := Action.runCommand e
      items := Action.expandItems e
      script := Action.runText e
      value := Action.evaluate e ""
      call := Action.callPlain e
      launch := Action.launchProgram e }

end StudyFlow.Shell
