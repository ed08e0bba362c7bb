import StudyFlow.Shell.Builtin.Variables

/-!
Builtins about the process: its directory, its children, signals, and what names of commands stand
for.
-/

namespace StudyFlow.Shell

namespace Action

/-- An absolute path without empty components, without `.`, and with `..` resolved. -/
def normalPath (path : String) : String :=
  let step (acc : List String) (c : String) : List String :=
    if c.isEmpty || c == "." then acc
    else if c == ".." then acc.drop 1
    else c :: acc
  "/" ++ "/".intercalate ((splitAtEach '/' path).foldl step []).reverse

/-- The place a path leads to as seen from the working directory. -/
def absolutePath (path : String) : Action String := do
  let dir := (← process).dir
  return normalPath (if path.startsWith "/" then path else dir ++ "/" ++ path)

/-- Goes to a directory. Gives what stands in the way. -/
def enterDirectory (path : String) : Action (Option Fault) := do
  let target ← absolutePath path
  match ← entryAt path with
  | .ok (_, .directory) =>
    let old := (← process).dir
    setProcess fun p => { p with dir := target }
    let bash ← isBash
    let put (name value : String) : Action Unit := do
      let v := (← binding? name).getD { name := name }
      if v.readonly then pure ()
      else putVariable { v with value := .scalar value, exported := v.exported || !bash }
    put "OLDPWD" old
    put "PWD" target
    return none
  | .ok _ => return some .notDirectory
  | .error f => return some f

/-- Changes the working directory. -/
def cdBuiltin (args : List String) : Action Nat := do
  let bash ← isBash
  let some (_, operands) ← readOptions "cd" (if bash then "LPe@" else "LP") args
    | return ← usage "cd: usage: cd [-L|[-P [-e]] [-@]] [dir]"
  if bash && operands.length > 1 then
    warn "cd: too many arguments"
    return 1
  let home ← valueOf? "HOME"
  let old ← valueOf? "OLDPWD"
  let (dest, shown) ← match operands with
    | [] =>
      match home with
      | some h => pure (h, false)
      | none =>
        if bash then
          warn "cd: HOME not set"
          return 1
        else pure ("", false)
    | "-" :: _ =>
      match old with
      | some o => pure (o, true)
      | none =>
        if bash then
          warn "cd: OLDPWD not set"
          return 1
        else pure ("", false)
    | d :: _ => pure (d, false)
  let isPlain := !(dest.startsWith "/" || dest == "." || dest == ".." || dest.startsWith "./" ||
    dest.startsWith "../")
  let candidates ← match ← valueOf? "CDPATH" with
    | some path =>
      pure (if isPlain then (splitAtEach ':' path).filter fun d => !d.isEmpty && d != "." else [])
    | none => pure []
  for d in candidates do
    if ← isDirectory (below d dest) then
      let _ ← enterDirectory (below d dest)
      printLine (← process).dir
      return 0
  let dest := if dest.isEmpty then "." else dest
  match ← enterDirectory dest with
  | none =>
    if shown then printLine (← process).dir
    return 0
  | some f =>
    if bash then
      warn ("cd: " ++ dest ++ ": " ++ faultText f)
      return 1
    else fail ("can't cd to " ++ dest)

/-- Prints the working directory. -/
def pwdBuiltin (args : List String) : Action Nat := do
  let some _ ← readOptions "pwd" "LP" args
    | return ← usage "pwd: usage: pwd [-LP]"
  printLine (← process).dir
  return 0

/-- The stack of directories as it is shown. -/
def showDirectories : Action Unit := do
  let p ← process
  let home ← valueOf "HOME"
  let short (d : String) : String :=
    if !home.isEmpty && (d == home || d.startsWith (home ++ "/")) then
      "~" ++ dropFront home.length d
    else d
  printLine (" ".intercalate ((p.dir :: p.directories).map short))

/-- Goes to a directory and remembers where one was. -/
def pushdBuiltin (args : List String) : Action Nat := do
  let old := (← process).dir
  match args.filter (· != "-n") with
  | [] =>
    match (← process).directories with
    | [] =>
      warn "pushd: no other directory"
      return 1
    | d :: rest =>
      match ← enterDirectory d with
      | none =>
        setProcess fun p => { p with directories := old :: rest }
        showDirectories
        return 0
      | some f =>
        warn ("pushd: " ++ d ++ ": " ++ faultText f)
        return 1
  | d :: _ =>
    match ← enterDirectory d with
    | none =>
      setProcess fun p => { p with directories := old :: p.directories }
      showDirectories
      return 0
    | some f =>
      warn ("pushd: " ++ d ++ ": " ++ faultText f)
      return 1

/-- Goes back to the directory that was remembered last. -/
def popdBuiltin (_args : List String) : Action Nat := do
  match (← process).directories with
  | [] =>
    warn "popd: directory stack empty"
    return 1
  | d :: rest =>
    match ← enterDirectory d with
    | none =>
      setProcess fun p => { p with directories := rest }
      showDirectories
      return 0
    | some f =>
      warn ("popd: " ++ d ++ ": " ++ faultText f)
      return 1

/-- The three digits of permissions as letters. -/
def maskLetters (mask : Nat) : String :=
  let part (n : Nat) : String :=
    (if n / 4 % 2 == 0 then "r" else "") ++ (if n / 2 % 2 == 0 then "w" else "") ++
      (if n % 2 == 0 then "x" else "")
  "u=" ++ part (mask / 64 % 8) ++ ",g=" ++ part (mask / 8 % 8) ++ ",o=" ++ part (mask % 8)

def permissionBits (letters : List Char) : Nat :=
  (if letters.contains 'r' then 4 else 0) + (if letters.contains 'w' then 2 else 0) +
  (if letters.contains 'x' || letters.contains 'X' then 1 else 0)

/-- The permissions that a clause of a symbolic mode makes of some. -/
def applyClause (mode : Nat) (clause : List Char) : Option Nat :=
  let who := clause.takeWhile fun c => c == 'u' || c == 'g' || c == 'o' || c == 'a'
  let every := who.isEmpty || who.contains 'a'
  let scale := (if every || who.contains 'u' then 64 else 0) +
    (if every || who.contains 'g' then 8 else 0) +
    (if every || who.contains 'o' then 1 else 0)
  match clause.drop who.length with
  | op :: letters =>
    if !(letters.all fun c => "rwxXst".toList.contains c) then none
    else
      let bits := permissionBits letters * scale
      match op with
      | '+' => some (mode ||| bits)
      | '-' => some (mode &&& (511 ^^^ bits))
      | '=' => some ((mode &&& (511 ^^^ (7 * scale))) ||| bits)
      | _ => none
  | [] => none

/-- The permissions that a mode, octal or symbolic, makes of some. -/
def applyMode (mode : Nat) (text : String) : Option Nat :=
  if !text.isEmpty && text.all fun c => '0' ≤ c && c ≤ '7' then
    some ((text.foldl (fun n c => n * 8 + (c.toNat - 48)) 0) % 512)
  else (splitAtEach ',' text).foldl (fun acc clause => acc.bind fun m =>
    applyClause m clause.toList) (some mode)

/-- Shows or sets which permissions new files lack. -/
def umaskBuiltin (args : List String) : Action Nat := do
  let bash ← isBash
  let some (options, operands) ← readOptions "umask" (if bash then "pS" else "S") args
    | return ← usage "umask: usage: umask [-p] [-S] [mode]"
  let mask := (← world).mask
  match operands with
  | [] =>
    let octal := String.ofList (Nat.toDigits 8 mask)
    let shown := if options.any fun o => o.1 == 'S' then maskLetters mask
      else repeated (4 - octal.length) '0' ++ octal
    printLine ((if options.any fun o => o.1 == 'p' then
      (if options.any fun o => o.1 == 'S' then "umask -S " else "umask ") else "") ++ shown)
    return 0
  | m :: _ =>
    let isOctal := m.all fun c => '0' ≤ c && c ≤ '7'
    let new :=
      if isOctal then applyMode 0 m else (applyMode (511 ^^^ mask) m).map fun x => 511 ^^^ x
    match new with
    | some n =>
      setWorld fun w => { w with mask := n }
      return 0
    | none =>
      if bash then
        warn ("umask: " ++ m ++ ": invalid symbolic mode operator")
        return 1
      else fail ("Illegal mode: " ++ m)

/-- Sends a signal to a process. Whether there is such a process. -/
def sendSignal (signal target : Nat) : Action Bool := do
  let w ← world
  if w.alive.contains target then
    if signal != 0 then setWorld fun w => { w with signals := w.signals ++ [(target, signal)] }
    return true
  else if w.pending.any fun j => j.id == target then
    if signal != 0 then
      setWorld fun w => { w with pending := w.pending.filter fun j => j.id != target,
                                 ended := (target, 128 + signal) :: w.ended }
    return true
  else return false

/-- The list of signals as the larger shell shows it. -/
def signalTable : String := Id.run do
  let all := signalNames.map fun s => (s.2, "SIG" ++ s.1)
  let mut out : String := ""
  let mut column := 0
  for (n, name) in all do
    let cell := padFront 2 n.repr ++ ") " ++ name
    column := column + 1
    if column == 5 then
      out := out ++ cell ++ "\n"
      column := 0
    else out := out ++ cell ++ "\t"
  return out

def killBuiltin (args : List String) : Action Nat := do
  let bash ← isBash
  let usageText := "kill: usage: kill [-s sigspec | -n signum | -sigspec] pid | jobspec ... or kill -l [sigspec]"
  let wrongSignal (s : String) : Action Nat := do
    if bash then
      warn ("kill: " ++ s ++ ": invalid signal specification")
      return 1
    else fail ("invalid signal number or name: " ++ s)
  let plainUsage : Action Nat := do
    fail "Usage: kill [-s sigspec | -signum | -sigspec] [pid | job]... or\nkill -l [exitstatus]"
  match args with
  | [] => if bash then usage usageText else plainUsage
  | "-l" :: rest | "-L" :: rest =>
    match rest with
    | [] =>
      if bash then print signalTable
      else
        printLine "0"
        for (name, _) in signalNames do
          printLine name
      return 0
    | rest =>
      let mut status := 0
      for s in rest do
        if isDigits s then
          let n := decimalOf s
          let n := if n > 128 then n - 128 else n
          if (signalNames.any fun x => x.2 == n) then printLine (signalName n)
          else if n == 0 then printLine (if bash then "EXIT" else "0")
          else status ← wrongSignal s
        else match signalNumber? s with
          | some n => printLine n.repr
          | none => status ← wrongSignal s
      return status
  | first :: rest =>
    let (spec?, targets) : Option String × List String :=
      if first == "-s" || first == "-n" then (rest.head?, rest.drop 1)
      else if first == "--" then (none, rest)
      else if first.startsWith "-" && first.length > 1 then (some (dropFront 1 first), rest)
      else (none, args)
    let targets := if targets.head? == some "--" then targets.drop 1 else targets
    let spec := spec?.getD "TERM"
    match signalNumber? spec with
    | none => wrongSignal spec
    | some signal =>
      if targets.isEmpty then
        if bash then return ← usage usageText else return ← plainUsage
      let mut status := 0
      for t in targets do
        let id? ← if t.startsWith "%" then do
            let jobs := (← process).jobs
            let n := decimalOf (dropFront 1 t)
            pure (if n == 0 then jobs.head? else jobs.reverse[n - 1]?)
          else pure (if isDigits t then some (decimalOf t) else none)
        match id? with
        | some id =>
          if !(← sendSignal signal id) then
            status := 1
            if bash then
              warn ("kill: (" ++ t ++ ") - No such process")
            else warn "No such process\n"
        | none =>
          if bash then
            status := 1
            if t.startsWith "%" then warn ("kill: " ++ t ++ ": no such job")
            else warn ("kill: " ++ t ++ ": arguments must be process or job IDs")
          else if t.startsWith "%" then fail ("No such job: " ++ t)
          else fail ("Illegal number: " ++ t)
      return status

/-- Waits for commands in the background. -/
def waitBuiltin (e : Engine) (args : List String) : Action Nat := do
  let bash ← isBash
  let args := args.filter fun a => a != "-n" && a != "-f"
  let mine := (← process).jobs
  runJobs e none fun j => mine.contains j.id
  if args.isEmpty then
    setProcess fun p => { p with jobs := [] }
    return 0
  let mut status := 0
  for a in args do
    let id? ← if a.startsWith "%" then do
        let n := decimalOf (dropFront 1 a)
        let jobs := (← process).jobs
        pure (if n == 0 then jobs.head? else jobs.reverse[n - 1]?)
      else if isDigits a then pure (some (decimalOf a))
      else pure none
    match id? with
    | some id =>
      match (← process).jobs.contains id, (← world).ended.lookup id with
      | true, some s => status := s
      | _, _ =>
        status := 127
        if bash then warn ("wait: pid " ++ a ++ " is not a child of this shell")
    | none =>
      if bash then
        if a.startsWith "%" then warn ("wait: " ++ a ++ ": no such job")
        else warn ("wait: `" ++ a ++ "': not a pid or valid job spec")
        status := if a.startsWith "%" then 127 else 1
      else if a.startsWith "%" then fail ("No such job: " ++ a)
      else fail ("Illegal number: " ++ a)
  return status

/-- The name under which an action for a signal is kept. -/
def trapName? (bash : Bool) (s : String) : Option String :=
  match signalNumber? s with
  | some n => if n == 0 then some "EXIT" else if n ≤ 31 then some (signalName n) else none
  | none => if bash && ["ERR", "DEBUG", "RETURN"].contains s.toUpper then some s.toUpper else none

def trapBuiltin (args : List String) : Action Nat := do
  let bash ← isBash
  let show_ (names : List String) : Action Unit := do
    let traps := (← process).traps
    let order := "EXIT" :: (signalNames.map Prod.fst) ++ ["DEBUG", "ERR", "RETURN"]
    for n in order do
      if names.isEmpty || names.contains n then
        match traps.lookup n with
        | some text =>
          let shown := if bash && (signalNames.lookup n).isSome then "SIG" ++ n else n
          printLine ("trap -- " ++ (if bash then singleQuote text else plainQuote text) ++
            " " ++ shown)
        | none => pure ()
  let args := if args.head? == some "--" then args.drop 1 else args
  match args with
  | [] =>
    show_ []
    return 0
  | "-p" :: names =>
    if bash then
      show_ (names.filterMap (trapName? bash))
      return 0
    else fail "Illegal option -p"
  | "-l" :: _ =>
    if bash then
      print signalTable
      return 0
    else fail "Illegal option -l"
  | first :: rest =>
    let single := rest.isEmpty
    let resets := single || first == "-" || (isDigits first && (signalNumber? first).isSome)
    if single && first == "-" then return 0
    if bash && single && (trapName? bash first).isNone then
      return ← usage "trap: usage: trap [-lp] [[arg] signal_spec ...]"
    let names := if first == "-" then rest else if resets then args else rest
    let mut status := 0
    for s in names do
      match trapName? bash s with
      | some n =>
        setProcess fun p =>
          let others := p.traps.filter fun t => t.1 != n
          { p with traps := if resets then others else others ++ [(n, first)] }
      | none =>
        if bash then warn ("trap: " ++ s ++ ": invalid signal specification")
        else complain ("trap: " ++ s ++ ": bad trap")
        status := 1
    return status

/-- Says what names of commands stand for. -/
def describe (name : String) (brief : Bool) : Action Nat := do
  let bash ← isBash
  match ← meaningOf name with
  | .keyword =>
    printLine (if brief then name else name ++ " is a shell keyword")
    return 0
  | .renamed v =>
    let isShown := !bash || (← hasFeature "expand_aliases") || true
    if brief then printLine ("alias " ++ name ++ "=" ++
      (if bash then singleQuote v else plainQuote v))
    else if isShown then
      printLine (if bash then name ++ " is aliased to `" ++ v ++ "'" else name ++
        " is an alias for " ++ v)
    return 0
  | .function _ =>
    printLine (if brief then name else if bash then name ++ " is a function" else name ++
      " is a shell function")
    return 0
  | .special =>
    printLine (if brief then name else name ++
      (if bash then " is a shell builtin" else " is a special shell builtin"))
    return 0
  | .builtin =>
    printLine (if brief then name else name ++ " is a shell builtin")
    return 0
  | .program path =>
    printLine (if brief then path else name ++ " is " ++ path)
    return 0
  | .nothing =>
    if !brief then
      if !bash then printLine (name ++ ": not found")
    return if bash then 1 else 127

/-- Says what names stand for. -/
def typeBuiltin (args : List String) : Action Nat := do
  let bash ← isBash
  let some (options, names) ← readOptions "type" (if bash then "afptP" else "") args
    | return ← usage "type: usage: type [-afptP] name [name ...]"
  let has (c : Char) : Bool := options.any fun o => o.1 == c
  let mut status := 0
  for name in names do
    if has 't' then
      match ← meaningOf name with
      | .keyword => printLine "keyword"
      | .renamed _ => printLine "alias"
      | .function _ => printLine "function"
      | .special | .builtin => printLine "builtin"
      | .program _ => printLine "file"
      | .nothing => status := 1
    else if has 'P' || has 'p' then
      match ← meaningOf name, ← findProgram name with
      | .program p, _ => printLine p
      | .nothing, _ => status := 1
      | _, .program p => if has 'P' then printLine p
      | _, _ => if has 'P' then status := 1
    else
      let s ← describe name false
      if s != 0 then
        if bash then warn ("type: " ++ name ++ ": not found")
        status := s
  return status

/-- Shows or sets limits; none are kept. -/
def ulimitBuiltin (args : List String) : Action Nat := do
  let operands := args.filter fun a => !a.startsWith "-"
  if operands.isEmpty then printLine "unlimited"
  return 0

end Action

end StudyFlow.Shell
