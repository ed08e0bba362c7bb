import StudyFlow.Shell.Awk.Cell
import StudyFlow.Shell.Awk.Members
import StudyFlow.Shell.Awk.Program
import StudyFlow.Shell.Utility.Basic

/-!
What a program for records knows while it runs: its variables, the record and its fields, the files
it reads and writes. What is printed is kept until it has to be seen.
-/

namespace StudyFlow.Shell.Awk

open Utility

/-- What a parameter holds. -/
inductive Slot where
  | free
  | cell (c : Cell)
  | array (key : String)
  deriving Inhabited

/-- A text that records are taken from. -/
structure Source where
  text : Array Char
  pos : Nat := 0
  deriving Inhabited

inductive RecordEnd where
  | char (c : Char)
  | paragraph
  | pattern (r : Regex)

def placeOf (text : Array Char) (c : Char) (i : Nat) : Option Nat := Id.run do
  for k in [i:text.size] do
    if text[k]? == some c then return some k
  return none

def Source.next? (e : RecordEnd) (s : Source) : Option (String × Source) :=
  let size := s.text.size
  match e with
  | .char c =>
    if size ≤ s.pos then none
    else match placeOf s.text c s.pos with
      | some k => some (sliceOf s.text s.pos k, { s with pos := k + 1 })
      | none => some (sliceOf s.text s.pos size, { s with pos := size })
  | .paragraph => Id.run do
    let skip (i : Nat) : Nat := Id.run do
      for k in [i:size] do
        if s.text[k]? != some '\n' then return k
      return size
    let start := skip s.pos
    if size ≤ start then return none
    for k in [start:size] do
      if s.text[k]? == some '\n' then
        if k + 1 == size then return some (sliceOf s.text start k, { s with pos := size })
        if s.text[k + 1]? == some '\n' then
          return some (sliceOf s.text start k, { s with pos := skip k })
    return some (sliceOf s.text start size, { s with pos := size })
  | .pattern r => Id.run do
    if size ≤ s.pos then return none
    let subject : Regex.Subject := { text := s.text }
    let mut i := s.pos
    for _ in [0:size + 1] do
      match r.search? subject i with
      | some (k, st) =>
        if st.pos == k then i := k + 1
        else return some (sliceOf s.text s.pos k, { s with pos := st.pos })
      | none => break
    return some (sliceOf s.text s.pos size, { s with pos := size })

/-- A file or a command that is written to. -/
structure Output where
  name : String
  sink : Sink
  descriptor : Option Descriptor
  /-- What has not been handed on yet. -/
  waiting : String := ""
  deriving Inhabited

structure Memory where
  shared : Std.HashMap String Cell := ∅
  arrays : Std.HashMap String (Members Cell) := ∅
  frame : Array Slot := #[]
  /-- How many values the parameters of the running functions take. -/
  used : Nat := 0
  serial : Nat := 0
  record : Cell := .none
  fields : Array Cell := #[]
  /-- Whether the fields are those of the record. -/
  cut : Bool := true
  records : Float := 0
  fileRecords : Float := 0
  numbers : String := Cell.plainFormat
  printedNumbers : String := Cell.plainFormat
  standard : String := ""
  outputs : List Output := []
  sources : List (String × Source) := []
  /-- How the commands that are read from have ended. -/
  ended : List (String × Nat) := []
  /-- The file that records are taken from. -/
  main : Option Source := none
  mainIsInput : Bool := false
  nextArgument : Nat := 1
  anyFile : Bool := false
  exhausted : Bool := false
  /-- The ranges of records that have begun. -/
  open_ : List Nat := []
  seed : Float := 0
  /-- Where the row of random numbers stands. -/
  chance : Nat := 0
  patterns : Std.HashMap String Regex := ∅
  status : Nat := 0

/-- How a program stops doing what it does. -/
inductive Stop where
  | leave
  | again
  | next
  | nextFile
  | exit
  | give (c : Cell)
  /-- Everything is over. -/
  | quit

/-- A step of a running program. -/
abbrev Run := ExceptT Stop (StateT Memory Action)

/-- What does not change while a program runs. -/
structure Context where
  engine : Engine
  name : String
  program : Program

namespace Run

def act {α : Type} (a : Action α) : Run α := ExceptT.lift (StateT.lift a)

/-- The program has gone too deep into itself. -/
def tooDeep {α : Type} : Run α := act (throw (.killed 11))

/-- Complains and ends everything. -/
def fatal {α : Type} (c : Context) (text : String) : Run α := do
  act (Action.complain (c.name ++ ": " ++ text))
  modify fun m => { m with status := 2 }
  throw .quit

def textOf (v : Cell) : Run String := do
  match v with
  | .number x => return numberText (← get).numbers x
  | .text s | .input s => return s
  | .none => return ""

/-- A variable of the whole program. -/
def sharedText (name : String) : Run String := do textOf (((← get).shared[name]?).getD .none)

/-- Complains about what went wrong while records were read, and ends everything. -/
def runFault {α : Type} (c : Context) (text : String) : Run α := do
  let file ← sharedText "FILENAME"
  let m ← get
  fatal c ("run time error: " ++ text ++ "\n\tFILENAME=\"" ++ file ++ "\" FNR=" ++
    numberText Cell.plainFormat m.fileRecords ++ " NR=" ++ numberText Cell.plainFormat m.records)

/-- The expression that a text stands for. -/
def patternOf (c : Context) (s : String) : Run Regex := do
  match (← get).patterns[s]? with
  | some r => return r
  | none =>
    match readPattern s with
    | .ok r =>
      modify fun m => { m with patterns := m.patterns.insert s r }
      return r
    | .error f => runFault c ("regular expression compile failed (" ++ f.message ++ ")\n" ++ s)

def separatorOf (c : Context) (s : String) : Run Separator := do
  if s.length ≤ 1 then
    match Separator.ofText s with
    | .ok sep => return sep
    | .error _ => return .blanks
  else return .pattern (← patternOf c s)

def ensureCut (c : Context) : Run Unit := do
  let m ← get
  if !m.cut then
    let text ← textOf m.record
    let sep ← separatorOf c (← sharedText "FS")
    let fields := ((sep.split text).map Cell.input).toArray
    modify fun m => { m with fields := fields, cut := true }

def setRecord (v : Cell) : Run Unit := modify fun m =>
    { m with record := v, cut := false, fields := #[] }

/-- Puts the record together from its fields. -/
def rebuild : Run Unit := do
  let between ← sharedText "OFS"
  let fields := (← get).fields
  let mut out := ""
  let mut first := true
  for f in fields do
    let t ← textOf f
    out := if first then t else out ++ between ++ t
    first := false
  let text := out
  modify fun m => { m with record := .input text }

def getField (c : Context) (i : Int) : Run Cell := do
  if i == 0 then return (← get).record
  else if i < 0 then runFault c ("negative field index $" ++ toString i)
  else
    ensureCut c
    return ((← get).fields[i.toNat - 1]?).getD (.input "")

/-- Makes the record have so many fields. -/
def resize (n : Nat) : Run Unit :=
  modify fun m => { m with
    fields := if n ≤ m.fields.size then m.fields.extract 0 n
      else m.fields ++ Array.replicate (n - m.fields.size) (.input "") }

def setField (c : Context) (i : Int) (v : Cell) : Run Unit := do
  if i == 0 then setRecord v
  else if i < 0 then runFault c ("negative field index $" ++ toString i)
  else
    ensureCut c
    let n := i.toNat
    if (← get).fields.size < n then resize n
    modify fun m => { m with fields := m.fields.setIfInBounds (n - 1) v }
    rebuild

def getShared (c : Context) (name : String) : Run Cell := do
  match name with
  | "NF" =>
    ensureCut c
    return .ofNat (← get).fields.size
  | "NR" => return .number (← get).records
  | "FNR" => return .number (← get).fileRecords
  | name => return ((← get).shared[name]?).getD .none

def setShared (c : Context) (name : String) (v : Cell) : Run Unit := do
  match name with
  | "NF" =>
    let n := asInteger v.toNumber
    if n < 0 then runFault c "negative value assigned to NF"
    ensureCut c
    resize n.toNat
    rebuild
  | "NR" => modify fun m => { m with records := v.toNumber }
  | "FNR" => modify fun m => { m with fileRecords := v.toNumber }
  | "FS" =>
    ensureCut c
    modify fun m => { m with shared := m.shared.insert name v }
  | "CONVFMT" =>
    let t ← textOf v
    modify fun m => { m with shared := m.shared.insert name v, numbers := t }
  | "OFMT" =>
    let t ← textOf v
    modify fun m => { m with shared := m.shared.insert name v, printedNumbers := t }
  | name => modify fun m => { m with shared := m.shared.insert name v }

/-- The name under which the members of an array are kept. -/
def arrayKey (v : Variable) : Run String := do
  match v with
  | .shared n => return n
  | .own i =>
    match (← get).frame[i]? with
    | some (.array k) => return k
    | _ =>
      let n := (← get).serial
      let key := "\x00" ++ n.repr
      modify fun m => { m with serial := n + 1, frame := m.frame.setIfInBounds i (.array key) }
      return key

def membersOf (key : String) : Run (Members Cell) := return ((← get).arrays[key]?).getD {}

def setMembers (key : String) (a : Members Cell) : Run Unit :=
  modify fun m => { m with arrays := m.arrays.insert key a }

def changeMembers (key : String) (f : Members Cell → Members Cell) : Run Unit :=
  modify fun m => { m with arrays := m.arrays.alter key fun a => some (f (a.getD {})) }

def getVariable (c : Context) (v : Variable) : Run Cell := do
  match v with
  | .shared n => getShared c n
  | .own i =>
    match (← get).frame[i]? with
    | some (.cell x) => return x
    | _ => return .none

def setVariable (c : Context) (v : Variable) (x : Cell) : Run Unit :=
  match v with
  | .shared n => setShared c n x
  | .own i => modify fun m => { m with frame := m.frame.setIfInBounds i (.cell x) }

/-- Hands on what has been printed. -/
def flushStandard : Run Unit := do
  let text := (← get).standard
  if !text.isEmpty then
    modify fun m => { m with standard := "" }
    match ← act (Action.writeTo 1 text) with
    | some f => act (Action.setProcess fun p => { p with unwritten := some f.message })
    | none => pure ()

/-- How much is kept before it is handed on. -/
def keptSize : Nat := 4096

def emit (text : String) : Run Unit := do
  modify fun m => { m with standard := m.standard ++ text }
  if keptSize ≤ (← get).standard.utf8ByteSize then flushStandard

/-- Hands on what waits for a file. -/
def flushOutput (c : Context) (o : Output) : Run Unit := do
  match o.descriptor with
  | some d =>
    if !o.waiting.isEmpty then
      match ← act (Action.writeStream d.stream (bytesOfOctets o.waiting)) with
      | some f =>
        act (Action.complain (c.name ++ ": close failed on file \"" ++ o.name ++ "\" (" ++
          f.message ++ ")"))
        modify fun m => { m with status := 2 }
      | none => pure ()
  | none => pure ()

/-- Hands on everything that waits for files. -/
def flushFiles (c : Context) : Run Unit := do
  flushStandard
  let outputs := (← get).outputs
  modify fun m => { m with outputs := outputs.map fun o =>
    if o.descriptor.isSome then { o with waiting := "" } else o }
  for o in outputs do
    flushOutput c o

def command (c : Context) (shell text : String) (input : Option String) : Run Outcome := act do
  let saved ← Action.channel? 0
  match input with
  | some t => Action.setChannel 0 (some (← Action.sourceOf t))
  | none => pure ()
  let r ← Action.finally_ (c.engine.launch "/bin/sh" [shell, "-c", text])
    (Action.setChannel 0 saved)
  match r with
  | .ok o => return o
  | .error _ => return .exited 127

/-- The number that stands for the end of a command. -/
def outcomeNumber : Outcome → Nat
  | .exited n => n % 256
  | .signalled s => 256 + s

/-- Ends the writing to a file or a command, and gives its status. -/
def closeOutput (c : Context) (o : Output) : Run Nat := do
  match o.sink with
  | .command => return outcomeNumber (← command c "/bin/sh" o.name (some o.waiting))
  | _ =>
    flushOutput c o
    return 0

/-- Ends the writing to all files and commands. -/
def closeAll (c : Context) : Run Unit := do
  let outputs := (← get).outputs
  modify fun m => { m with outputs := [] }
  for o in outputs do
    if o.sink != .command then flushOutput c o
  for o in outputs do
    if o.sink == .command then
      let _ ← command c "/bin/sh" o.name (some o.waiting)
  flushStandard
  match (← act Action.process).unwritten with
  | some message =>
    act (Action.setProcess fun p => { p with unwritten := none })
    fatal c ("close failed on file \"/dev/stdout\" (" ++ message ++ ")")
  | none => pure ()

def openOutput (c : Context) (sink : Sink) (name : String) : Run Output := do
  match (← get).outputs.find? fun o => o.name == name &&
    ((o.sink == .command) == (sink == .command)) with
  | some o => return o
  | none =>
    match sink with
    | .command =>
      flushFiles c
      return { name := name, sink := sink, descriptor := none }
    | sink =>
      match ← act (Action.openFile name (if sink == .append then .append else .write)) with
      | .ok d => return { name := name, sink := sink, descriptor := some d }
      | .error f => fatal c ("cannot open \"" ++ name ++ "\" for output (" ++ faultText f ++ ")")

/-- Prints a text to a file or a command. -/
def emitTo (c : Context) (sink : Sink) (name text : String) : Run Unit := do
  if sink != .command && name == "/dev/stdout" then emit text
  else if sink != .command && name == "/dev/stderr" then act (Action.printError text)
  else
    let o ← openOutput c sink name
    let o := { o with waiting := o.waiting ++ text }
    let large := o.descriptor.isSome && keptSize ≤ o.waiting.utf8ByteSize
    if large then flushOutput c o
    let o := if large then { o with waiting := "" } else o
    modify fun m => { m with outputs := o :: m.outputs.filter fun p =>
      !(p.name == name && ((p.sink == .command) == (sink == .command))) }

def recordEnd (c : Context) : Run RecordEnd := do
  let rs ← sharedText "RS"
  match rs.toList with
  | [] => return .paragraph
  | [x] => return .char x
  | _ => return .pattern (← patternOf c rs)

/-- The content of a file as records are taken from it. None if it cannot be opened. -/
def openSource (c : Context) (name : String) : Run (Option Source) := do
  if name == "-" then
    match ← act (Action.readFault? 0) with
    | some cause => fatal c ("read error (" ++ cause ++ ")")
    | none => return some { text := (← act (Action.readAll 0)).toList.toArray }
  else match ← act (Action.readFile name) with
    | .ok text => return some { text := text.toList.toArray }
    | .error .isDirectory => fatal c "read error (Is a directory)"
    | .error _ => return none

/-- Whether an operand assigns to a variable. -/
def assignmentOf? (s : String) : Option (String × String) :=
  let cs := s.toList
  let name := cs.takeWhile isNameChar
  match cs.drop name.length with
  | '=' :: value =>
    if isName (String.ofList name) then
      some (String.ofList name, Token.unescaped (String.ofList value))
    else none
  | _ => none

/-- Opens the next file among the operands. -/
def openNext (c : Context) : Run Bool := do
  let count := asInteger (← getShared c "ARGC").toNumber
  for _ in [0:count.toNat + 1] do
    let i := (← get).nextArgument
    if count ≤ i then break
    modify fun m => { m with nextArgument := i + 1 }
    let a ← textOf (((← membersOf "ARGV").find? (.number i)).getD .none)
    if !a.isEmpty then
      match assignmentOf? a with
      | some (n, v) => setShared c n (.input v)
      | none =>
        setShared c "FILENAME" (.text a)
        match ← openSource c a with
        | some s =>
          modify fun m =>
            { m with main := some s, mainIsInput := a == "-", fileRecords := 0, anyFile := true }
          return true
        | none =>
          match ← act (Action.readFile a) with
          | .error f => fatal c ("cannot open \"" ++ a ++ "\" (" ++ faultText f ++ ")")
          | .ok _ => return false
  if (← get).anyFile then return false
  else
    modify fun m => { m with anyFile := true }
    setShared c "FILENAME" (.text "-")
    match ← openSource c "-" with
    | some s =>
      modify fun m => { m with main := some s, mainIsInput := true, fileRecords := 0 }
      return true
    | none => return false

def nextRecord (c : Context) : Run (Option String) := do
  let files := (asInteger (← getShared c "ARGC").toNumber).toNat + 2
  for _ in [0:files] do
    if (← get).exhausted then return none
    match (← get).main with
    | none =>
      if !(← openNext c) then
        modify fun m => { m with exhausted := true }
        return none
    | some s =>
      match s.next? (← recordEnd c) with
      | some (r, s) =>
        modify fun m =>
          { m with
            main := some s, records := m.records + 1, fileRecords := m.fileRecords + 1 }
        return some r
      | none => modify fun m => { m with main := none, mainIsInput := false }
  return none

/-- The next record of a file or of what a command prints; how it went is said as a number. -/
def nextOf (c : Context) (isCommand : Bool) (name : String) : Run (Int × String) := do
  let key := (if isCommand then "|" else "<") ++ name
  let source ← match (← get).sources.lookup key with
    | some s => pure (some s)
    | none =>
      if isCommand then
        flushFiles c
        let run := c.engine.launch "/bin/sh" ["/bin/sh", "-c", name]
        let (r, text) ← act (Action.captured run)
        let status := match r with
          | .ok o => outcomeNumber o
          | .error _ => 127
        modify fun m => { m with ended := (name, status) :: m.ended.filter fun p => p.1 != name }
        pure (some { text := text.toList.toArray })
      else openSource c name
  match source with
  | none => return (-1, "")
  | some s =>
    let keep (s : Source) : Run Unit :=
      modify fun m => { m with sources := (key, s) :: m.sources.filter fun p => p.1 != key }
    match s.next? (← recordEnd c) with
    | some (r, s) =>
      keep s
      return (1, r)
    | none =>
      keep s
      return (0, "")

end Run

end StudyFlow.Shell.Awk
