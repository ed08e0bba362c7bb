import StudyFlow.Shell.Arithmetic
import StudyFlow.Shell.Pattern
import StudyFlow.Shell.Variables

/-!
What the parts of an interpreter need from the whole: running commands, expanding words, reading
scripts. Here are the actions that are built from these alone: subshells and the values of
expressions.
-/

namespace StudyFlow.Shell

/-- A piece of what a word expands to. -/
inductive Item where
  /-- A character; whether it is quoted, and whether it may separate words. -/
  | char (c : Char) (quoted : Bool) (splits : Bool)
  /-- A boundary between two words. -/
  | gap
  /-- Something quoted stood here, so that a word is here even if it is empty. -/
  | mark
  deriving Inhabited, DecidableEq

/-- How a process came to its end. -/
inductive Outcome where
  | exited (status : Nat)
  | signalled (signal : Nat)
  deriving Inhabited, DecidableEq

def Outcome.status : Outcome → Nat
  | .exited n => n % 256
  | .signalled n => 128 + n

/-- The whole interpreter as its parts see it. -/
structure Engine where
  /-- Runs a command. -/
  run : Command → Action Unit
  /-- Expands a word; the flag says whether the result will be split into words. -/
  items : Bool → Word → Action (List Item)
  /-- Reads and runs a script, with the line at which it starts. -/
  script : String → Nat → Action Unit
  /-- The value of an expression. -/
  value : String → Action Int
  /-- Calls a command by its words; functions do not count. -/
  call : List String → Action Unit
  /-- Runs the program at a path in a process of its own. The words are its name and its
  arguments. -/
  launch : String → List String → Action (Except Fault Outcome)

namespace Action

def outcomeOf (status : Nat) : Jump → Outcome
  | .exit n | .failed n | .discard n | .finish n => .exited n
  | .killed s => .signalled s
  | .leaveLoop _ | .nextRound _ => .exited status

/-- Runs the action that is set for the end of the process. -/
def runExitTrap (e : Engine) (outcome : Outcome) : Action Outcome := do
  match outcome with
  | .signalled _ => return outcome
  | .exited n =>
    match (← process).traps.lookup "EXIT" with
    | none => return outcome
    | some text =>
      if text.isEmpty then return outcome
      setProcess fun p => { p with traps := p.traps.filter fun t => t.1 != "EXIT", status := n,
                                   within := none, handling := true }
      try
        e.script text 1
        return .exited n
      catch j => return match j with
        | .exit m => .exited m
        | .killed s => .signalled s
        | .failed m => .exited m
        | _ => .exited n

def toEnd (e : Engine) (body : Action Unit) : Action Outcome := do
  let outcome ← try
      body
      pure (Outcome.exited (← status))
    catch j => pure (outcomeOf (← status) j)
  runExitTrap e outcome

def freshId : Action Nat := do
  let n := (← world).lastId + 1
  setWorld fun w => { w with lastId := n }
  return n

/-- Runs an action in a process of its own that starts as a copy of this one. -/
def inSubshell (e : Engine) (body : Action Unit) : Action Outcome := do
  let id ← freshId
  isolated do
    setWorld fun w => { w with alive := id :: w.alive }
    setProcess fun p => { p with
      id := id, subshell := p.subshell + 1, jobs := [],
      traps := p.traps.filter fun t => t.2.isEmpty }
    let outcome ← toEnd e body
    setWorld fun w => { w with alive := w.alive.filter (· != id) }
    let sent := (← world).signals.find? fun s => s.1 == id
    return match sent with
      | some (_, s) => .signalled s
      | none => outcome

/-- Runs a command that was put in the background. -/
def runJob (e : Engine) (j : Job) : Action Unit := do
  let now := (← world).clock
  setWorld fun w => { w with pending := w.pending.filter fun x => x.id != j.id, clock := j.started,
                             alive := j.id :: w.alive }
  let outcome ← isolated do
    setProcess fun _ => j.process
    toEnd e (e.run j.body)
  setWorld fun w => { w with ended := (j.id, outcome.status) :: w.ended, clock := max now w.clock,
                             alive := w.alive.filter (· != j.id) }

/-- Runs the commands in the background that have to run by a time, and that a condition holds
of. -/
def runJobs (e : Engine) (due : Option Nat) (which : Job → Bool) : Action Unit := do
  for _ in [0:1000] do
    let ready := (← world).pending.filter fun j => which j && (due.all fun t => j.due ≤ t)
    match ready.mergeSort fun a b => a.due ≤ b.due with
    | j :: _ => runJob e j
    | [] => break

/-- Runs an action in a subshell and gives what it prints. -/
def outputOf (e : Engine) (body : Action Unit) : Action (Outcome × String) := do
  captured do
    let here := (← channel? 1).map Descriptor.stream
    let outcome ← inSubshell e body
    runJobs e none fun j => (j.process.channels.lookup 1).map Descriptor.stream == here
    return outcome

/-- The name of a member of an array in an expression or a command: a number or a key. -/
inductive MemberKey where
  | number (n : Nat)
  | key (text : String)

/-- Whether a variable is an array with keys. -/
def isKeyed (name : String) : Action Bool := do
  match ← binding? name with
  | some v => return match v.value with
    | .keyed _ => true
    | _ => false
  | none => return false

/-- The number of a member that an index stands for; negative ones count from the end. -/
def memberNumber (name : String) (n : Int) : Action (Option Nat) := do
  if 0 ≤ n then return some n.toNat
  let items := asIndexed (← wholeValue name)
  let size : Int := (items.getLast?.map fun i => (i.1 : Int) + 1).getD 0
  return if 0 ≤ size + n then some (size + n).toNat else none

def memberValue? (e : Engine) (name index : String) : Action (Option String) := do
  match ← wholeValue name with
  | .keyed items => return items.lookup index
  | v =>
    let n ← e.value index
    match ← memberNumber name n with
    | some i => return (asIndexed v).lookup i
    | none =>
      warn (name ++ ": bad array subscript")
      return none

def assignMember (e : Engine) (name index text : String) : Action Unit := do
  if ← isKeyed name then assignKeyed name index text
  else
    let n ← e.value index
    match ← memberNumber name n with
    | some i => assignIndexed name i text
    | none =>
      warn (name ++ "[" ++ index ++ "]: bad array subscript")
      throw (.discard 1)

/-- Complains that a variable has to be set. -/
def refuseUnset {α : Type} (name : String) : Action α := do
  if ← isBash then
    let shown := if isDigits name then "$" ++ name else name
    warn (shown ++ ": unbound variable")
    throw (.exit 1)
  else fail (name ++ ": parameter not set")

/-- The number that a variable holds, by the rules of the small shell. -/
def plainNumber (text : String) : Action Int := do
  let cs := text.toList
  if cs.all isBlankOctet then return 0
  match readInteger cs with
  | some (n, rest) =>
    if rest.all isBlankOctet && minWord ≤ n && n ≤ maxWord then return n
    else fail ("Illegal number: " ++ text)
  | none => fail ("Illegal number: " ++ text)

/-- The variables as an expression sees them. -/
def sumStore (e : Engine) (shown : String → SumFault → Action Int) (text : String) : Sum.Store where
  get name index := do
    if ← isBash then
      let name ← resolveName name
      let found ← match index with
        | some i => memberValue? e name i
        | none => parameter? name
      match found with
      | some t =>
        if t.all isBlankOctet then return 0
        else e.value t
      | none => if ← hasOption 'u' then refuseUnset name else return 0
    else
      match ← parameter? name with
      | some t => plainNumber t
      | none => return 0
  put name index n := do
    match index with
    | some i => assignMember e (← resolveName name) i (toString n)
    | none => assign name (toString n)
  fault f := shown text f

/-- Complains about an expression; the text in front says which command it belongs to. -/
def sumFault (front : String) (text : String) (f : SumFault) : Action Int := do
  if ← isBash then
    let text := String.ofList (text.toList.dropWhile isBlankOctet)
    warn (front ++ text ++ ": " ++ Sum.fullMessage f.flaw ++ " (error token is \"" ++
      f.token ++ "\")")
    throw (.discard 1)
  else fail ("arithmetic expression: " ++ Sum.plainMessage f.flaw ++ ": \"" ++ text ++ "\"")

/-- The value of an expression; the text in front says which command it belongs to. -/
def evaluate (e : Engine) (front text : String) : Action Int := do
  match Sum.parse (← process).dialect text with
  | .ok s => Sum.eval (sumStore e (sumFault front) text) s
  | .error f => sumFault front text f

end Action

end StudyFlow.Shell
