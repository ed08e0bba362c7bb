import StudyFlow.FileTree
import StudyFlow.Shell.Script

/-!
The state of scripts that run. The world holds what processes share: files, open streams, the time.
Each process has its own variables, channels and working directory; a subshell works on a copy of
them.
-/

namespace StudyFlow.Shell

inductive Value where
  | unset
  | scalar (text : String)
  /-- Members by ascending index. -/
  | indexed (items : List (Nat × String))
  | keyed (items : List (String × String))
  deriving Inhabited

structure Variable where
  name : String
  value : Value := .unset
  /-- Whether programs that are run get it. -/
  exported : Bool := false
  readonly : Bool := false
  /-- Whether what is assigned is an expression. -/
  integer : Bool := false
  lower : Bool := false
  upper : Bool := false
  /-- Whether the value names the variable that is meant. -/
  reference : Bool := false
  deriving Inhabited

structure Function where
  line : Nat
  body : Command
  source : String
  deriving Inhabited

/-- Where a channel of a process leads. Channels that were copied share their stream. -/
inductive Stream where
  /-- Swallows all and holds nothing. -/
  | null
  | file (place : Location) (offset : Nat) (appends : Bool)
  /-- Bytes in memory: a pipe, a document, or a file that was removed. -/
  | memory (content : ByteArray) (offset : Nat)
  | directory
  /-- Refuses all that is written. -/
  | full
  /-- An endless run of one byte. -/
  | endless (byte : UInt8)
  deriving Inhabited

/-- A channel of a process. -/
structure Descriptor where
  stream : Nat
  readable : Bool
  writable : Bool
  deriving Inhabited

/-- What a shell remembers about running. -/
structure Process where
  dialect : Dialect := .dash
  /-- The number of the process and that of the shell it belongs to. -/
  id : Nat := 1
  shellId : Nat := 1
  /-- The name under which the script was started. -/
  name : String := "sh"
  /-- The file whose commands run. -/
  source : String := "sh"
  line : Nat := 1
  /-- The builtin that complaints are said to come from. -/
  within : Option String := none
  /-- The working directory, an absolute path. -/
  dir : String := "/"
  arguments : List String := []
  vars : List Variable := []
  /-- What variables were before functions made them local, innermost function first. -/
  scopes : List (List (String × Option Variable)) := []
  functions : List (String × Function) := []
  aliases : List (String × String) := []
  /-- The options that are set, by their letters. -/
  options : List Char := []
  /-- The options of the larger shell that are set, by their names. -/
  features : List String := []
  status : Nat := 0
  /-- The statuses of the last pipeline. -/
  statuses : List Nat := [0]
  /-- The last command that was put in the background. -/
  lastJob : Option Nat := none
  jobs : List Nat := []
  traps : List (String × String) := []
  channels : List (Nat × Descriptor) := []
  documents : List (Nat × Word) := []
  nextDocument : Nat := 0
  loops : Nat := 0
  /-- The functions that run, innermost first, with the line of each call. -/
  calls : List (String × Nat) := []
  /-- How many files are being sourced. -/
  sourced : Nat := 0
  /-- Whether the success of what runs is asked for, so that its failure ends nothing. -/
  tested : Bool := false
  /-- The position inside an argument while options are read. -/
  optionOffset : Nat := 0
  optionIndex : Nat := 1
  lastArgument : String := ""
  /-- The status of the last command substitution of the running command, if it had one. -/
  substituted : Option Nat := none
  subshell : Nat := 0
  directories : List String := []
  seed : Nat := 1
  handling : Bool := false
  /-- Streams whose content goes to a script once the running command has ended. -/
  conduits : List (Nat × String) := []
  /-- Why something that was printed could not be written. -/
  unwritten : Option String := none
  /-- What the running text is called where it is no whole script. -/
  label : String := ""
  /-- How many texts are being run inside each other. -/
  depth : Nat := 0
  deriving Inhabited

/-- A command that runs beside the script once time has passed. -/
structure Job where
  id : Nat
  /-- When it is to run. -/
  due : Nat
  started : Nat
  process : Process
  body : Command
  deriving Inhabited

/-- What processes share. -/
structure World where
  files : FileTree
  streams : Array Stream := #[]
  /-- Milliseconds that have passed. -/
  clock : Nat := 0
  lastId : Nat := 4000
  /-- Commands in the background that still have to run. -/
  pending : List Job := []
  /-- How commands in the background ended. -/
  ended : List (Nat × Nat) := []
  /-- Signals that were sent to processes and have not arrived. -/
  signals : List (Nat × Nat) := []
  /-- Processes that run, innermost first. -/
  alive : List Nat := []
  mask : Nat := 18
  /-- How much is taken by streams that are pipes before nobody is taken to read them. -/
  limits : List (Nat × Nat) := []
  deriving Inhabited

/-- All that changes while scripts run. -/
structure Machine where
  world : World
  process : Process
  deriving Inhabited

/-- How a command ends other than by going on with the next one. -/
inductive Jump where
  /-- The shell ends. -/
  | exit (status : Nat)
  /-- An error ends the shell, unless the command is one that keeps errors to itself. -/
  | failed (status : Nat)
  /-- What is left of the line is dropped. -/
  | discard (status : Nat)
  | killed (signal : Nat)
  | leaveLoop (levels : Nat)
  | nextRound (levels : Nat)
  /-- The function or the sourced file ends. -/
  | finish (status : Nat)
  deriving Inhabited

/-- An action of a process. -/
abbrev Action := ExceptT Jump (StateM Machine)

/-- The text of a fault as programs word it. -/
def faultText : Fault → String
  | .notFound => "No such file or directory"
  | .alreadyExists => "File exists"
  | .notDirectory => "Not a directory"
  | .isDirectory => "Is a directory"
  | .nameTooLong => "File name too long"
  | .notEmpty => "Directory not empty"
  | .notText => "Invalid or incomplete multibyte or wide character"
  | .badName | .badArgument => "Invalid argument"

namespace Action

def process : Action Process := return (← get).process

def world : Action World := return (← get).world

def setProcess (f : Process → Process) : Action Unit :=
  modify fun m => { m with process := f m.process }

def setWorld (f : World → World) : Action Unit := modify fun m => { m with world := f m.world }

/-- Runs an action on a copy of the process; only what is shared stays changed. -/
def isolated {α : Type} (body : Action α) : Action α := do
  let saved ← process
  try
    let r ← body
    setProcess fun _ => saved
    return r
  catch j =>
    setProcess fun _ => saved
    throw j

/-- What is done at the end in any case. -/
def finally_ {α : Type} (body : Action α) (after : Action Unit) : Action α := do
  try
    let r ← body
    after
    return r
  catch j =>
    after
    throw j

def isBash : Action Bool := return (← process).dialect == .bash

def setStatus (n : Nat) : Action Unit := setProcess fun p => { p with status := n }

def status : Action Nat := return (← process).status

def hasOption (c : Char) : Action Bool := return (← process).options.contains c

def hasFeature (name : String) : Action Bool := return (← process).features.contains name

def newStream (s : Stream) : Action Nat := do
  let n := (← world).streams.size
  setWorld fun w => { w with streams := w.streams.push s }
  return n

def streamAt (n : Nat) : Action Stream := return ((← world).streams[n]?).getD .null

def setStream (n : Nat) (s : Stream) : Action Unit :=
  setWorld fun w => { w with streams := w.streams.setIfInBounds n s }

def channel? (n : Nat) : Action (Option Descriptor) := return (← process).channels.lookup n

def setChannel (n : Nat) (d : Option Descriptor) : Action Unit :=
  setProcess fun p =>
    let rest := p.channels.filter fun c => c.1 != n
    { p with channels := match d with
      | some d => (n, d) :: rest
      | none => rest }

def overwrite (content : ByteArray) (offset : Nat) (bytes : ByteArray) : ByteArray :=
  if offset == content.size then content ++ bytes
  else
    let front := content.extract 0 offset
    let gap := ByteArray.mk (Array.replicate (offset - front.size) 0)
    front ++ gap ++ bytes ++ content.extract (offset + bytes.size) content.size

/-- Why nothing could be written. -/
inductive WriteFault where
  | closed
  | noSpace
  deriving DecidableEq

def WriteFault.message : WriteFault → String
  | .closed => "Bad file descriptor"
  | .noSpace => "No space left on device"

def writeStream (n : Nat) (bytes : ByteArray) : Action (Option WriteFault) := do
  match ← streamAt n with
  | .memory _ _ =>
    let grow (m : Machine) : Nat × Machine :=
      match m.world.streams[n]? with
      | some (Stream.memory content offset) =>
        -- The content is taken out of the array so that it grows in place.
        let m := { m with world := {
          m.world with streams := m.world.streams.setIfInBounds n .null } }
        let content := content ++ bytes
        let size := content.size
        (size, { m with world := { m.world with
          streams := m.world.streams.setIfInBounds n (.memory content offset) } })
      | _ => (0, m)
    let size ← modifyGet grow
    match (← world).limits.lookup n with
    | some limit => if limit < size then throw (.killed 13)
    | none => pure ()
    return none
  | .file place offset appends =>
    let files := (← world).files
    match files.get? place with
    | some (.file content executable) =>
      let offset := if appends then content.size else offset
      let content := overwrite content offset bytes
      setWorld fun w => { w with files := w.files.put place (.file content executable) }
      setStream n (.file place (offset + bytes.size) appends)
    | _ => pure ()
    return none
  | .full => return if bytes.isEmpty then none else some .noSpace
  | _ => return none

def writeTo (channel : Nat) (text : String) : Action (Option WriteFault) := do
  match ← channel? channel with
  | some d =>
    if !d.writable then return some .closed
    else if text.isEmpty then return none
    else writeStream d.stream (bytesOfOctets text)
  | none => return some .closed

def print (text : String) : Action Unit := do
  match ← writeTo 1 text with
  | some f => setProcess fun p => { p with unwritten := some f.message }
  | none => pure ()

def printLine (text : String) : Action Unit := print (text ++ "\n")

def printError (text : String) : Action Unit := do
  let _ ← writeTo 2 text

/-- Prints a line of errors. -/
def complain (text : String) : Action Unit := printError (text ++ "\n")

/-- Where a complaint of the shell says it comes from. -/
def origin : Action String := do
  let p ← process
  match p.dialect with
  | .dash =>
    let own := match p.within with
      | some c => c ++ ": "
      | none => ""
    return p.name ++ ": " ++ p.line.repr ++ ": " ++ own
  | .bash => return p.source ++ ": line " ++ p.line.repr ++ ": "

def warn (text : String) : Action Unit := do
  complain ((← origin) ++ text)

def fail {α : Type} (text : String) : Action α := do
  warn text
  throw (.failed 2)

/-- What is left to read from a stream. -/
def remaining (n : Nat) : Action ByteArray := do
  match ← streamAt n with
  | .memory content offset => return content.extract offset content.size
  | .file place offset _ =>
    match (← world).files.get? place with
    | some (.file content _) => return content.extract offset content.size
    | _ => return ByteArray.empty
  | .endless b => return ByteArray.mk (Array.replicate 65536 b)
  | _ => return ByteArray.empty

/-- Moves on in a stream. -/
def advance (n : Nat) (count : Nat) : Action Unit := do
  match ← streamAt n with
  | .memory content offset => setStream n (.memory content (offset + count))
  | .file place offset a => setStream n (.file place (offset + count) a)
  | _ => pure ()

/-- Why a channel cannot be read, if it cannot. -/
def readFault? (channel : Nat) : Action (Option String) := do
  match ← channel? channel with
  | none => return some "Bad file descriptor"
  | some d =>
    if !d.readable then return some "Bad file descriptor"
    match ← streamAt d.stream with
    | .directory => return some "Is a directory"
    | _ => return none

def readAll (channel : Nat) : Action String := do
  match ← channel? channel with
  | some d =>
    if !d.readable then return ""
    let bytes ← remaining d.stream
    advance d.stream bytes.size
    return octetsOfBytes bytes
  | none => return ""

def isSeekable (channel : Nat) : Action Bool := do
  match ← channel? channel with
  | some d =>
    match ← streamAt d.stream with
    | .file _ _ _ => return true
    | _ => return false
  | none => return false

/-- Gives back octets that were read but not used, where one can go back. -/
def unread (channel : Nat) (count : Nat) : Action Unit := do
  match ← channel? channel with
  | some d =>
    match ← streamAt d.stream with
    | .file place offset a => setStream d.stream (.file place (offset - count) a)
    | _ => pure ()
  | none => pure ()

def readOctet (channel : Nat) : Action (Option Char) := do
  match ← channel? channel with
  | some d =>
    if !d.readable then return none
    let octet : Option UInt8 ← match ← streamAt d.stream with
      | .memory content offset => pure content[offset]?
      | .file place offset _ =>
        match (← world).files.get? place with
        | some (.file content _) => pure content[offset]?
        | _ => pure none
      | .endless b => pure (some b)
      | _ => pure none
    match octet with
    | some b =>
      advance d.stream 1
      return some (Char.ofNat b.toNat)
    | none => return none
  | none => return none

/-- The directory that scripts find themselves below. -/
def baseDir : String := "/work"

/-- A path as the file tree knows it. -/
def locate (path : String) : Action Path := do
  if path.isEmpty then return ⟨""⟩
  let dir := (← process).dir
  let full := if path.startsWith "/" then path
    else if dir == "/" then "/" ++ path
    else dir ++ "/" ++ path
  let text := textOfOctets full
  if text == baseDir then return ⟨"."⟩
  else if text.startsWith (baseDir ++ "/") then
    let rest := String.ofList ((text.toList.drop (baseDir.length + 1)).dropWhile (· == '/'))
    return ⟨if rest.isEmpty then "." else rest⟩
  else return ⟨text⟩

def entryAt (path : String) : Action (Except Fault (Location × Entry)) := do
  let files := (← world).files
  match files.find (← locate path) with
  | .ok l => return match files.get? l with
    | some e => .ok (l, e)
    | none => .error .notFound
  | .error f => return .error f

def entry? (path : String) : Action (Option Entry) := do
  match ← entryAt path with
  | .ok (_, e) => return some e
  | .error _ => return none

def isDirectory (path : String) : Action Bool := return (← entry? path) == some .directory

def fileExists (path : String) : Action Bool := return (← entry? path).isSome

def changeFiles (f : FileTree → Except Fault FileTree) : Action (Option Fault) := do
  match f (← world).files with
  | .ok files =>
    setWorld fun w => { w with files := files }
    return none
  | .error e => return some e

/-- Streams of a file that goes away keep its content. -/
def detach (place : Location) : Action Unit := do
  let files := (← world).files
  setWorld fun w => { w with streams := w.streams.map fun s => match s with
    | .file l offset _ =>
      if l.take place.length == place then
        match files.get? l with
        | some (.file content _) => .memory content offset
        | _ => s
      else s
    | s => s }

def device? (path : String) : Option Stream :=
  match path with
  | "/dev/null" => some .null
  | "/dev/zero" => some (.endless 0)
  | "/dev/full" => some .full
  | "/dev/tty" => none
  | _ => none

def channelOfPath? (path : String) : Option Nat :=
  match path with
  | "/dev/stdin" => some 0
  | "/dev/stdout" => some 1
  | "/dev/stderr" => some 2
  | _ =>
    if path.startsWith "/dev/fd/" && isDigits (dropFront 8 path) then
      some (decimalOf (dropFront 8 path))
    else if path.startsWith "/proc/self/fd/" && isDigits (dropFront 14 path) then
      some (decimalOf (dropFront 14 path))
    else none

def openFile (path : String) (mode : OpenMode) : Action (Except Fault Descriptor) := do
  let readable := mode == .read || mode == .readWrite
  let writable := mode != .read
  match channelOfPath? path, device? path with
  | some n, _ =>
    match ← channel? n with
    | some d =>
      match ← streamAt d.stream with
      | .file place _ a =>
        let offset := 0
        return .ok ⟨← newStream (.file place offset a), readable, writable⟩
      | _ => return .ok d
    | none => return .error .notFound
  | none, some s => return .ok ⟨← newStream s, readable, writable⟩
  | none, none =>
    let p ← locate path
    let files := (← world).files
    match mode with
    | .read =>
      match files.find p with
      | .ok l =>
        if files.isDir l then return .ok ⟨← newStream .directory, true, false⟩
        else return .ok ⟨← newStream (.file l 0 false), true, false⟩
      | .error f => return .error f
    | mode =>
      let keep := mode == .append || mode == .readWrite
      let content := if keep then match files.read p with
          | .ok c => c
          | .error _ => ByteArray.empty
        else ByteArray.empty
      match files.write p content with
      | .ok files =>
        setWorld fun w => { w with files := files }
        match files.find p with
        | .ok l => return .ok ⟨← newStream (.file l 0 (mode == .append)), readable, writable⟩
        | .error f => return .error f
      | .error f => return .error f

def readFile (path : String) : Action (Except Fault String) := do
  match ← openFile path .read with
  | .ok d =>
    match ← streamAt d.stream with
    | .directory => return .error .isDirectory
    | _ =>
      let bytes ← remaining d.stream
      advance d.stream bytes.size
      return .ok (octetsOfBytes bytes)
  | .error f => return .error f

def writeFile (path : String) (mode : OpenMode) (text : String) : Action (Option Fault) := do
  match ← openFile path mode with
  | .ok d =>
    let _ ← writeStream d.stream (bytesOfOctets text)
    return none
  | .error f => return some f

/-- Runs an action and gives what it prints. -/
def captured {α : Type} (body : Action α) : Action (α × String) := do
  let n ← newStream (.memory ByteArray.empty 0)
  let before ← channel? 1
  setChannel 1 (some ⟨n, false, true⟩)
  let r ← finally_ body (setChannel 1 before)
  let bytes ← remaining n
  setStream n .null
  return (r, octetsOfBytes bytes)

def sourceOf (text : String) : Action Descriptor := do
  return ⟨← newStream (.memory (bytesOfOctets text) 0), true, false⟩

/-- The parameters of the process: a name from `vars`. -/
def binding? (name : String) : Action (Option Variable) :=
  return (← process).vars.find? fun v => v.name == name

def putVariable (v : Variable) : Action Unit :=
  setProcess fun p =>
    if p.vars.any fun x => x.name == v.name then
      { p with vars := p.vars.map fun x => if x.name == v.name then v else x }
    else { p with vars := v :: p.vars }

def dropVariable (name : String) : Action Unit :=
  setProcess fun p => { p with vars := p.vars.filter fun v => v.name != name }

def Value.text? : Value → Option String
  | .unset => none
  | .scalar s => some s
  | .indexed items => items.lookup 0
  | .keyed items => items.lookup "0"

def valueOf? (name : String) : Action (Option String) := do
  return (← binding? name).bind fun v => Value.text? v.value

/-- The value of a variable, or nothing. -/
def valueOf (name : String) : Action String := return (← valueOf? name).getD ""

/-- Keeps what a variable is now, so that it is so again after the function. -/
def saveVariable (name : String) : Action Unit := do
  let old ← binding? name
  setProcess fun p => { p with scopes := match p.scopes with
    | s :: rest => (if s.any fun x => x.1 == name then s else (name, old) :: s) :: rest
    | [] => [] }

/-- Runs an action between whose start and end variables may be local. -/
def withScope {α : Type} (body : Action α) : Action α := do
  setProcess fun p => { p with scopes := [] :: p.scopes }
  finally_ body do
    let p ← process
    let saved := p.scopes.head?.getD []
    setProcess fun p => { p with scopes := p.scopes.tail }
    for (name, old) in saved do
      match old with
      | some v => putVariable v
      | none => dropVariable name

/-- The signals by name and number. -/
def signalNames : List (String × Nat) :=
  [("HUP", 1), ("INT", 2), ("QUIT", 3), ("ILL", 4), ("TRAP", 5), ("ABRT", 6), ("BUS", 7),
   ("FPE", 8), ("KILL", 9), ("USR1", 10), ("SEGV", 11), ("USR2", 12), ("PIPE", 13), ("ALRM", 14),
   ("TERM", 15), ("STKFLT", 16), ("CHLD", 17), ("CONT", 18), ("STOP", 19), ("TSTP", 20),
   ("TTIN", 21), ("TTOU", 22), ("URG", 23), ("XCPU", 24), ("XFSZ", 25), ("VTALRM", 26),
   ("PROF", 27), ("WINCH", 28), ("POLL", 29), ("PWR", 30), ("SYS", 31)]

/-- The number of a signal that is given by name or number. -/
def signalNumber? (text : String) : Option Nat :=
  if isDigits text then
    let n := decimalOf text
    if n ≤ 64 then some n else none
  else
    let name := text.toUpper
    let name := if name.startsWith "SIG" then dropFront 3 name else name
    match name with
    | "EXIT" => some 0
    | "IO" => some 29
    | _ => signalNames.lookup name

def signalName (n : Nat) : String :=
  if n == 0 then "EXIT" else ((signalNames.find? fun s => s.2 == n).map Prod.fst).getD n.repr

/-- What is said about a process that a signal has ended. -/
def signalNotice (n : Nat) : String :=
  match n with
  | 1 => "Hangup"
  | 2 => ""
  | 3 => "Quit"
  | 4 => "Illegal instruction"
  | 5 => "Trace/breakpoint trap"
  | 6 => "Aborted"
  | 7 => "Bus error"
  | 8 => "Floating point exception"
  | 9 => "Killed"
  | 10 => "User defined signal 1"
  | 11 => "Segmentation fault"
  | 12 => "User defined signal 2"
  | 13 => ""
  | 14 => "Alarm clock"
  | 15 => "Terminated"
  | 24 => "CPU time limit exceeded"
  | 25 => "File size limit exceeded"
  | 26 => "Virtual timer expired"
  | 27 => "Profiling timer expired"
  | 29 => "I/O possible"
  | 30 => "Power failure"
  | 31 => "Bad system call"
  | n => "Signal " ++ n.repr

end Action

end StudyFlow.Shell
