import StudyFlow.Shell.Builtin.Control

/-!
Running commands: simple ones, pipelines, loops and branches, functions, subshells, commands in the
background, and what happens when one fails or a signal arrives.
-/

namespace StudyFlow.Shell

/-- How many milliseconds the commands named `sleep` inside a command wait together, as far as this
is written; none if there is no such command. -/
structure Naps where
  found : Bool := false
  total : Nat := 0

/-- The milliseconds that a time of a `sleep` denotes. -/
def napOf (text : String) : Option Nat :=
  let cs := text.toList
  let number := cs.takeWhile fun c => c.isDigit || c == '.'
  let whole := number.takeWhile (· != '.')
  let part := (number.drop (whole.length + 1)).takeWhile Char.isDigit
  if number.isEmpty || number == ['.'] then none
  else
    let unit : Option Nat := match cs.drop number.length with
      | [] | ['s'] => some 1
      | ['m'] => some 60
      | ['h'] => some 3600
      | ['d'] => some 86400
      | _ => none
    unit.map fun u =>
      let thousandths := decimalOf (String.ofList ((part ++ ['0', '0', '0']).take 3))
      (decimalOf (String.ofList whole) * 1000 + thousandths) * u

/-- Adds the waiting of a word list of a simple command. -/
def Naps.ofWords (n : Naps) (words : List Word) : Naps :=
  let names := words.map fun w => (fixedText? w).getD ""
  if names.contains "sleep" then
    { found := true
      total := n.total + ((names.dropWhile (· != "sleep")).drop 1).foldl
        (fun t w => t + (napOf w).getD 0) 0 }
  else n

mutual

def napsOf (n : Naps) : Command → Naps
  | .simple _ _ words _ => n.ofWords words
  | .pipeline _ _ stages => napsOfAll n stages
  | .both a b | .either a b => napsOf (napsOf n a) b
  | .background c => napsOf n c
  | .sequence cs => napsOfAll n cs
  | .branch c b o => napsOfAll (napsOfAll (napsOfAll n c) b) o
  | .loop _ c b => napsOfAll (napsOfAll n c) b
  | .each _ _ _ b => napsOfAll n b
  | .count _ _ _ _ b => napsOfAll n b
  | .menu _ _ _ b => napsOfAll n b
  | .select _ _ arms => napsOfArms n arms
  | .subshell _ b => napsOfAll n b
  | .group b => napsOfAll n b
  | .redirected _ c _ => napsOf n c
  | .define _ _ _ => n
  | .arithmetic _ _ => n
  | .test _ _ => n

def napsOfAll (n : Naps) : List Command → Naps
  | [] => n
  | c :: cs => napsOfAll (napsOf n c) cs

def napsOfArms (n : Naps) : List Arm → Naps
  | [] => n
  | .mk _ b _ :: rest => napsOfArms (napsOfAll n b) rest

end

namespace Action

/-- No loop of a script goes on longer than this. -/
def roundBound : Nat := 1000000000

/-- Runs an action whose failure ends nothing. -/
def withTested (body : Action Unit) : Action Unit := do
  let old := (← process).tested
  setProcess fun p => { p with tested := true }
  finally_ body (setProcess fun p => { p with tested := old })

def runAll (e : Engine) (commands : List Command) : Action Unit := do
  for c in commands do
    e.run c

/-- Runs the action that is set for a signal or an event. -/
def runTrap (e : Engine) (text : String) : Action Unit := do
  let p ← process
  setProcess fun p => { p with handling := true }
  finally_ (do
    e.script text 1
    setStatus p.status)
    (setProcess fun q => { q with handling := p.handling, line := p.line })

/-- The signals that end no process unless an action is set for them. -/
def harmlessSignals : List Nat := [17, 18, 23, 28]

/-- Lets the signals arrive that were sent to this process. -/
def takeSignals (e : Engine) : Action Unit := do
  if (← world).signals.isEmpty then return
  for _ in [0:100] do
    let id := (← process).id
    match (← world).signals.find? fun s => s.1 == id with
    | none => break
    | some (_, signal) =>
      let removed (w : World) : World :=
        { w with signals := (w.signals.filter fun s => s.1 != id) ++
          ((w.signals.filter fun s => s.1 == id).drop 1) }
      setWorld removed
      match (← process).traps.lookup (signalName signal) with
      | some text =>
        if signal == 9 then throw (.killed 9)
        if !text.isEmpty then runTrap e text
      | none => if !harmlessSignals.contains signal then throw (.killed signal)

/-- Does what a failed command leads to, unless its success was asked for. -/
def checkFailure (e : Engine) : Action Unit := do
  let p ← process
  if p.status == 0 || p.tested then return
  match p.traps.lookup "ERR" with
  | some text =>
    if !text.isEmpty && (p.calls.isEmpty || p.options.contains 'E') then
      setProcess fun q => { q with traps := q.traps.filter fun t => t.1 != "ERR" }
      runTrap e text
      setProcess fun q => { q with traps := p.traps }
  | none => pure ()
  if p.options.contains 'e' then throw (.exit p.status)

/-- What stands in front of a command that is traced. -/
def traceMark (e : Engine) : Action String := do
  let p ← process
  let mark ← match ← valueOf? "PS4" with
    | some text =>
      if text.any (fun c => c == '$' || c == '\x60') then
        let source : Source := { rest := text.toList, dialect := p.dialect }
        match source.readParts .document with
        | .ok w => textOf e w
        | .error _ => pure text
      else pure text
    | none => pure "+ "
  setProcess fun q => { q with status := p.status, substituted := p.substituted }
  if p.dialect == .bash then
    return repeated (p.depth - 1) (mark.toList.head?.getD '+') ++ mark
  else return mark

/-- A word of a command as a trace of the larger shell shows it. -/
def tracedWord (s : String) : String :=
  if s.isEmpty then "''"
  else if s.any isControl then escapedQuote s
  else
    let special (c : Char) : Bool := " \t\n'\"\\|&;()<>!\x7b\x7d*[]?^$\x60".toList.contains c
    let front := s.toList.head?.getD 'a'
    if s.any special || front == '~' || front == '#' then singleQuote s else s

/-- Shows a command that is about to run. -/
def trace (e : Engine) (channel : Option Descriptor) (words : List String) : Action Unit := do
  let mark ← traceMark e
  let bash ← isBash
  let text := mark ++ " ".intercalate (if bash then words.map tracedWord else words) ++ "\n"
  match channel with
  | some d => if d.writable then let _ ← writeStream d.stream (bytesOfOctets text)
  | none => pure ()

/-- Shows a line about what is about to run. -/
def traceLine (e : Engine) (text : String) : Action Unit := do
  if ← hasOption 'x' then
    let mark ← traceMark e
    printError (mark ++ text ++ "\n")

def callFunction (e : Engine) (name : String) (f : Function) (args : List String) :
    Action Unit := do
  let p ← process
  let bash := p.dialect == .bash
  setProcess fun p => { p with
    calls := (name, p.line) :: p.calls, arguments := args, loops := 0,
    source := f.source }
  let restore : Action Unit := setProcess fun q => { q with
    calls := p.calls, arguments := p.arguments, loops := p.loops, source := p.source,
    optionIndex := if bash then q.optionIndex else p.optionIndex,
    optionOffset := if bash then q.optionOffset else p.optionOffset,
    line := if bash then p.line else q.line }
  finally_ (do
    try e.run f.body
    catch j => match j with
      | .finish n => setStatus (n % 256)
      | .leaveLoop _ | .nextRound _ => pure ()
      | j => throw j
    match (← process).traps.lookup "RETURN" with
    | some text => if bash && !text.isEmpty then runTrap e text
    | none => pure ())
    restore

def callBuiltin (e : Engine) (special : Bool) (name : String) (args : List DeclareArg) :
    Action Unit := do
  let p ← process
  let bash := p.dialect == .bash
  setProcess fun p => { p with within := if bash then p.within else some name, unwritten := none }
  let n ← finally_ (do
    try runBuiltin e name args
    catch j => match j with
      | .failed n => if special && !bash then throw j else pure n
      | j => throw j)
    (do
      setProcess fun q => { q with within := p.within })
  setStatus (n % 256)
  match (← process).unwritten with
  | some cause =>
    setProcess fun q => { q with unwritten := none }
    if bash then
      warn (name ++ ": write error: " ++ cause)
      setStatus 1
    else
      setProcess fun q => { q with within := some name }
      warn (name ++ ": I/O error")
      setProcess fun q => { q with within := p.within }
      setStatus (n % 256 ||| 1)
  | none => pure ()

/-- Calls a command that is no function. -/
def callPlain (e : Engine) (words : List String) : Action Unit := do
  match words with
  | [] => pure ()
  | name :: args =>
    if isBuiltin (← process).dialect name then callBuiltin e false name (args.map .text)
    else callProgram e words

def assignedName : Assignment → String
  | .mk name _ _ _ => name

def assignAll (e : Engine) (assignments : List Assignment) : Action Unit := do
  for a in assignments do
    let shown ← runAssignment e a
    if ← isBash then
      if ← hasOption 'x' then
        let (name, value) := splitAssignment shown
        traceLine e (match value with
          | some v => name ++ "=" ++ (if v.isEmpty then "" else tracedWord v)
          | none => shown)

/-- Carries out assignments that hold in one command only, and which programs get. Gives what they
look like. -/
def assignLocally (e : Engine) (assignments : List Assignment) : Action (List String) := do
  let mut shown := #[]
  for a in assignments do
    let name := assignedName a
    saveVariable name
    shown := shown.push (← runAssignment e a)
    changeVariable name fun v => { v with exported := true }
  return shown.toList

/-- What the first word of a command stands for when it is run. -/
inductive Callee where
  | nothing
  | function (f : Function)
  | special
  | builtin
  | program

/-- What the first word of a command stands for when it is run. -/
def calleeOf (name : String) : Action Callee := do
  let p ← process
  let special := isSpecialBuiltin p.dialect name
  match p.functions.lookup name, special && p.dialect == .dash with
  | some f, false => return .function f
  | _, _ =>
    if special then return .special
    else if isBuiltin p.dialect name then return .builtin
    else return .program

/-- Expands the words of a command. The words after one that declares variables may be
assignments. -/
def commandWords (e : Engine) (words : List Word) : Action (List String × List DeclareArg) := do
  let dialect := (← process).dialect
  let mut front : List String := []
  let mut rest := words
  for w in words do
    if !front.isEmpty then break
    rest := rest.drop 1
    front ← expandWord e w
  match front with
  | [] => return ([], [])
  | name :: more =>
    let declares := takesAssignments dialect name
    let declared ← match declares, (← process).functions.lookup name with
      | true, none => declareArguments e rest
      | _, _ =>
        match name == "command" && dialect == .dash, rest with
        | true, w :: ws => do
          let next ← expandWord e w
          let others ← if takesAssignments dialect (next.head?.getD "") then declareArguments e ws
            else pure ((← expandWords e ws).map .text)
          pure (next.map .text ++ others)
        | _, _ => pure ((← expandWords e rest).map .text)
    let args := more.map .text ++ declared
    return (name :: textsOf args, args)

/-- Carries out the redirections of a command. What happens if one fails depends on the kind of
command. -/
def redirectCommand (e : Engine) (fatal : Bool) (redirects : List Redirect) (body : Action Unit) :
    Action Unit := do
  if redirects.isEmpty then body
  else
    let before := (← process).channels
    let changed := (changedChannels redirects).eraseDups
    let conduits := (← process).conduits
    let restore : Action Unit := do
      for n in changed do
        setChannel n (before.lookup n)
    let done ← try applyRedirects e redirects
      catch j =>
        restore
        throw j
    if done then
      finally_ (do
        body
        feedConduits e conduits) restore
    else
      restore
      let n := if ← isBash then 1 else 2
      setStatus n
      if fatal then throw (.failed n)

/-- Closes the channels that were opened for the words of a command. -/
def closeConduits (e : Engine) (before : List (Nat × Descriptor)) (waiting : List (Nat × String)) :
    Action Unit := do
  let conduits := (← process).conduits
  if conduits.length != waiting.length then feedConduits e waiting
  let added := (← process).channels.filter fun c => c.1 ≥ 50 && (before.lookup c.1).isNone
  for (n, _) in added do
    setChannel n none

def runSimple (e : Engine) (line : Nat) (assignments : List Assignment) (words : List Word)
    (redirects : List Redirect) : Action Unit := do
  setProcess fun p => { p with line := line, substituted := none }
  let bash ← isBash
  let channels := (← process).channels
  let conduits := (← process).conduits
  match (← process).traps.lookup "DEBUG" with
  | some text => if bash && !text.isEmpty && !(← process).handling then
      runTrap e text
      setProcess fun p => { p with line := line }
  | none => pure ()
  let (fields, args) ← commandWords e words
  let errors ← channel? 2
  match fields with
  | [] =>
    let finish : Action Unit := do
      setStatus ((← process).substituted.getD 0)
    if bash then
      assignAll e assignments
      finish
      if !redirects.isEmpty then
        let n ← status
        withRedirects e redirects (setStatus n)
    else
      redirectCommand e false redirects do
        let mut shown := #[]
        for a in assignments do
          shown := shown.push (← runAssignment e a)
        if (← hasOption 'x') && !assignments.isEmpty then trace e errors shown.toList
        finish
      if redirects.isEmpty && assignments.isEmpty then finish
  | name :: _ =>
    let callee ← calleeOf name
    let tracing ← hasOption 'x'
    let isExec := name == "exec" || (name == "command" && fields[1]? == some "exec")
    let special := match callee with
      | .special => true
      | _ => false
    let run (shown : List String) : Action Unit := do
      if tracing && !bash then trace e errors (shown ++ fields)
      match callee with
      | .function f => callFunction e name f (fields.drop 1)
      | .special => callBuiltin e true name args
      | .builtin => callBuiltin e false name args
      | _ => callProgram e fields
    let traceFull (shown : List String) : Action Unit := do
      if tracing then
        for s in shown do
          let (n, value) := splitAssignment s
          match value with
          | some v => traceLine e (n ++ "=" ++ (if v.isEmpty then "" else tracedWord v))
          | none => traceLine e s
        trace e errors fields
    if isExec then
      -- Its redirections stay.
      if bash then
        withScope do
          let shown ← assignLocally e assignments
          traceFull shown
          if ← applyRedirects e redirects then run []
          else
            setStatus 1
            throw (.exit 1)
      else
        let done ← applyRedirects e redirects
        if !done then
          setStatus 2
          if special then throw (.failed 2)
        else
          let mut shown := #[]
          for a in assignments do
            shown := shown.push (← runAssignment e a)
            if fields.length > 1 then
              changeVariable (assignedName a) fun v => { v with exported := true }
          run shown.toList
    else if bash then
      if assignments.isEmpty then
        if tracing then traceFull []
        match callee with
        | .function _ => redirectCommand e false redirects (withScope (run []))
        | _ => redirectCommand e false redirects (run [])
      else
        withScope do
          let shown ← assignLocally e assignments
          traceFull shown
          redirectCommand e false redirects (run [])
    else if special then
      redirectCommand e true redirects do
        let mut shown := #[]
        for a in assignments do
          shown := shown.push (← runAssignment e a)
        run shown.toList
    else
      redirectCommand e false redirects do
        match callee, assignments with
        | .function _, _ | _, _ :: _ =>
          withScope do
            let shown ← assignLocally e assignments
            run shown
        | _, [] => run []
  if bash then
    closeConduits e channels conduits
    setProcess fun p => { p with lastArgument := (fields.getLast?).getD p.lastArgument }

/-- How much a pipe takes at first. -/
def pipeSize : Nat := 131072

/-- Runs the stages of a pipeline, each in a process of its own, and gives how they ended. A stage
that has written more than its pipe takes is over, unless the next stage reads it all: then it runs
with a larger pipe from the start. -/
def runStages (e : Engine) : List Command → Option Nat → Action (List Outcome)
  | [], _ => return []
  | [c], input => do
    let outcome ← inSubshell e do
      match input with
      | some n => setChannel 0 (some ⟨n, true, false⟩)
      | none => pure ()
      e.run c
    return [outcome]
  | c :: rest, input => do
    let before ← get
    let attempt (limit : Nat) : Action (List Outcome × Bool) := do
      let n ← newStream (.memory ByteArray.empty 0)
      setWorld fun w => { w with limits := (n, limit) :: w.limits }
      let outcome ← inSubshell e do
        match input with
        | some i => setChannel 0 (some ⟨i, true, false⟩)
        | none => pure ()
        setChannel 1 (some ⟨n, false, true⟩)
        e.run c
      runJobs e none fun j => (j.process.channels.lookup 1).map Descriptor.stream == some n
      let size ← match ← streamAt n with
        | .memory content _ => pure content.size
        | _ => pure 0
      let cut := limit < size
      setWorld fun w => { w with limits := w.limits.filter fun l => l.1 != n }
      let others ← runStages e rest (some n)
      let left ← remaining n
      setStream n .null
      return ((if cut then .signalled 13 else outcome) :: others, cut && left.isEmpty)
    let mut result : List Outcome := []
    for limit in [pipeSize, 16 * pipeSize, 512 * pipeSize] do
      set before
      let (outcomes, again) ← attempt limit
      result := outcomes
      if !again then break
    return result

def runPipeline (e : Engine) (stages : List Command) : Action Unit := do
  let outcomes ← runStages e stages none
  let statuses := outcomes.map Outcome.status
  let last := statuses.getLast?.getD 0
  let failed := (statuses.reverse.find? (· != 0)).getD 0
  let result := if ← hasFeature "pipefail" then failed else last
  setProcess fun p => { p with statuses := statuses, status := result }
  match outcomes.getLast? with
  | some o => noteEnd "" o
  | none => pure ()

def runBackground (e : Engine) (body : Command) : Action Unit := do
  let id ← freshId
  let p ← process
  let empty ← newStream .null
  let naps := napsOf {} body
  let now := (← world).clock
  let child : Process := { p with
    id := id, subshell := p.subshell + 1, jobs := [], status := 0, tested := false,
    traps := p.traps.filter fun t => t.2.isEmpty,
    channels := (0, ⟨empty, true, false⟩) :: p.channels.filter fun c => c.1 != 0 }
  setProcess fun p => {
    p with lastJob := some id, jobs := id :: p.jobs, status := 0, statuses := [0] }
  let job : Job := ⟨id, now + naps.total, now, child, body⟩
  if naps.found then setWorld fun w => { w with pending := w.pending ++ [job] }
  else runJob e job

/-- Runs a body again and again as long as a test holds. The jumps that concern the loop end in
it. -/
def runRounds (test : Action Bool) (body : Action Unit) : Action Unit := do
  let mut last := 0
  setProcess fun p => { p with loops := p.loops + 1 }
  let leave : Action Unit := setProcess fun p => { p with loops := p.loops - 1 }
  for _ in [0:roundBound] do
    let goes : Bool ← try
        if ← test then
          setStatus 0
          body
          pure true
        else
          setStatus last
          pure false
      catch j => match j with
        | .nextRound n =>
          if n ≤ 1 then do
            setStatus 0
            pure true
          else
            leave
            throw (.nextRound (n - 1))
        | .leaveLoop n =>
          if n ≤ 1 then pure false
          else
            leave
            throw (.leaveLoop (n - 1))
        | j =>
          leave
          throw j
    if goes then last ← status else break
  leave

def runEach (e : Engine) (name : String) (items : List Word) (body : List Command) :
    Action Unit := do
  let values ← expandWords e items
  let bash ← isBash
  if bash && !isName name then
    warn ("\x60" ++ name ++ "': not a valid identifier")
    setStatus 1
    return
  setStatus 0
  setProcess fun p => { p with loops := p.loops + 1 }
  let leave : Action Unit := setProcess fun p => { p with loops := p.loops - 1 }
  let shown := " ".intercalate (items.map writtenForm)
  finally_ (do
    for v in values do
      if bash then traceLine e ("for " ++ name ++ " in " ++ shown)
      let goes : Bool ← try
          assign name v
          runAll e body
          pure true
        catch j => match j with
          | .nextRound n =>
            if n ≤ 1 then do
              setStatus 0
              pure true
            else throw (.nextRound (n - 1))
          | .leaveLoop n => if n ≤ 1 then pure false else throw (.leaveLoop (n - 1))
          | j => throw j
      if !goes then break)
    leave

/-- Asks for one of some words, again and again, and runs a body for it. -/
def runMenu (e : Engine) (name : String) (items : List Word) (body : List Command) :
    Action Unit := do
  let values ← expandWords e items
  if values.isEmpty then return
  let width := values.length.repr.length
  let showMenu : Action Unit := do
    for (v, k) in values.zip (List.range values.length) do
      complain (padFront width (k + 1).repr ++ ") " ++ v)
  showMenu
  let test : Action Bool := do
    printError ((← valueOf? "PS3").getD "#? ")
    let n ← readBuiltin ["REPLY"]
    if n != 0 then
      complain ""
      setStatus 1
      return false
    let reply ← valueOf "REPLY"
    let chosen := if isDigits reply then values[decimalOf reply - 1]? else none
    assign name (chosen.getD "")
    return true
  runRounds test (runAll e body)

def anyMatches (e : Engine) (rules : PatternRules) (folded : Bool) (text : String) :
    List Word → Action Bool
  | [] => return false
  | w :: ws => do
    let regex := regexOfPattern rules (patternOf (← e.items false w))
    if matchesWhole regex folded text then return true
    anyMatches e rules folded text ws

/-- Runs the branch of a case that fits; one that is fallen into runs in any case. -/
def runArms (e : Engine) (rules : PatternRules) (folded : Bool) (text : String) (fallen : Bool) :
    List Arm → Action Unit
  | [] => pure ()
  | .mk patterns body ending :: rest => do
    let fits ← if fallen then pure true else anyMatches e rules folded text patterns
    if fits then
      setStatus 0
      runAll e body
      match ending with
      | .leave => pure ()
      | .resume => runArms e rules folded text false rest
      | .fall => runArms e rules folded text true rest
    else runArms e rules folded text false rest

/-- The value of an expression that is a command or a part of one. -/
def valueOfClause (e : Engine) (w : Word) : Action Int := do
  let text ← textOf e w
  traceLine e ("((" ++ text ++ "))")
  evaluate e "((: " text

def runCommand (e : Engine) : Command → Action Unit
  | .simple line assignments words redirects => do
    runSimple e line assignments words redirects
    setProcess fun p => { p with statuses := [p.status] }
    takeSignals e
    checkFailure e
  | .pipeline negated timed stages => do
    let run : Action Unit := match stages with
      | [c] => e.run c
      | stages => runPipeline e stages
    if negated then
      withTested run
      setProcess fun p => { p with status := if p.status == 0 then 1 else 0 }
      takeSignals e
    else
      run
      takeSignals e
      match stages with
      | [_] => pure ()
      | _ => checkFailure e
    if timed then printError "\nreal\t0m0.000s\nuser\t0m0.000s\nsys\t0m0.000s\n"
  | .both a b => do
    withTested (e.run a)
    if (← status) == 0 then e.run b
  | .either a b => do
    withTested (e.run a)
    if (← status) != 0 then e.run b
  | .background body => runBackground e body
  | .sequence commands => runAll e commands
  | .branch condition body other => do
    withTested (runAll e condition)
    if (← status) == 0 then runAll e body
    else
      setStatus 0
      runAll e other
  | .loop negated condition body => do
    let test : Action Bool := do
      withTested (runAll e condition)
      return ((← status) == 0) != negated
    runRounds test (runAll e body)
  | .each line name items body => do
    setProcess fun p => { p with line := line, substituted := none }
    runEach e name items body
  | .count line start test step body => do
    setProcess fun p => { p with line := line }
    try
      if !start.isEmpty then
        let _ ← valueOfClause e start
      let goes : Action Bool := do
        if test.isEmpty then return true
        setProcess fun p => { p with line := line }
        return (← valueOfClause e test) != 0
      runRounds goes do
        try runAll e body
        catch j => match j with
          | .nextRound n => if 1 < n then throw j
          | j => throw j
        let n ← status
        if !step.isEmpty then
          let _ ← valueOfClause e step
        setStatus n
    catch j => match j with
      | .discard _ => setStatus 1
      | j => throw j
  | .menu line name items body => do
    setProcess fun p => { p with line := line }
    runMenu e name items body
  | .select line subject arms => do
    setProcess fun p => { p with line := line, substituted := none }
    let text ← textOf e subject
    if ← isBash then traceLine e ("case " ++ writtenForm subject ++ " in")
    setStatus 0
    runArms e (← patternRules) (← hasFeature "nocasematch") text false arms
  | .subshell line body => do
    setProcess fun p => { p with line := line }
    let outcome ← inSubshell e (runAll e body)
    setStatus outcome.status
    setProcess fun p => { p with statuses := [p.status] }
    noteEnd "" outcome
    takeSignals e
    checkFailure e
  | .group body => runAll e body
  | .redirected line body redirects => do
    if line != 0 then setProcess fun p => { p with line := line }
    withRedirects e redirects (e.run body)
  | .define line name body => do
    let source := (← process).source
    setProcess fun p => { p with functions := (name,
      ⟨line, body, source⟩) :: p.functions.filter fun f => f.1 != name,
                                 status := 0 }
  | .arithmetic line expression => do
    setProcess fun p => { p with line := line }
    let n ← try
        let value ← valueOfClause e expression
        pure (if value == 0 then 1 else 0)
      catch j => match j with
        | .discard _ => pure 1
        | j => throw j
    setProcess fun p => { p with status := n, statuses := [n] }
    checkFailure e
  | .test line c => do
    setProcess fun p => { p with line := line }
    let n ← try
        let answer ← condition e c
        pure (if answer then 0 else 1)
      catch j => match j with
        | .discard n => pure n
        | .failed n => pure n
        | j => throw j
    setProcess fun p => { p with status := n, statuses := [n] }
    checkFailure e

end Action

end StudyFlow.Shell
