import StudyFlow.Shell.Engine

/-!
What programs share: reading options, quoting names in complaints, and reading the files among the
arguments.
-/

namespace StudyFlow.Shell

/-- A program, given the name under which it was called and its arguments. -/
abbrev Utility := Engine → String → List String → Action Nat

namespace Utility

open StudyFlow.Shell.Action

/-- Whether a character makes a name hard to read in a complaint, at its place in the name. -/
def isOdd (first single : Bool) (c : Char) : Bool :=
  " !\"$&'()*;<=>?[\\^\x60|".toList.contains c || (first && (c == '#' || c == '~')) ||
  (single && (c == '\x7b' || c == '\x7d'))

/-- The escape of a control character in a quoted name. -/
def controlMark (c : Char) : String :=
  match c.toNat with
  | 7 => "\\a"
  | 8 => "\\b"
  | 9 => "\\t"
  | 10 => "\\n"
  | 11 => "\\v"
  | 12 => "\\f"
  | 13 => "\\r"
  | n =>
    let ds := String.ofList (Nat.toDigits 8 n)
    "\\" ++ repeated (3 - ds.length) '0' ++ ds

def quoted (s : String) : String :=
  let plain := s.all fun c => !isControl c
  let harmless (c : Char) : Bool := !("\"$\\\x60!".toList.contains c)
  if plain && s.toList.contains '\'' && s.all harmless then "\"" ++ s ++ "\""
  else
    let (body, escaping) := s.foldl (fun (acc : String × Bool) c =>
      if isControl c then
        ((if acc.2 then acc.1 else acc.1 ++ "'$'") ++ controlMark c, true)
      else
        let front := if acc.2 then acc.1 ++ "''" else acc.1
        (if c == '\'' then front ++ "'\\''" else front.push c, false)) ("", false)
    let text := "'" ++ body ++ "'"
    if escaping then text else text

/-- A name, in quotes if it is hard to read without. -/
def shown (s : String) : String :=
  let n := s.length
  let odd := (s.toList.zip (List.range n)).any fun c => isControl c.1 ||
    isOdd (c.2 == 0) (n == 1) c.1
  if s.isEmpty || odd then quoted s else s

/-- Ends a program. -/
def exit {α : Type} (status : Nat) : Action α := throw (.exit status)

/-- Complains and ends a program. -/
def die {α : Type} (status : Nat) (text : String) : Action α := do
  complain text
  exit status

/-- Complains about how a program is called and ends it. -/
def misuse {α : Type} (name : String) (status : Nat) (text : String) : Action α := do
  complain (name ++ ": " ++ text)
  complain ("Try '" ++ name ++ " --help' for more information.")
  exit status

/-- Options of a program: letters, each followed by a colon if it takes an argument, and long names
for them. -/
structure Options where
  letters : String
  names : List (String × Char) := []
  /-- The status of a wrong call. -/
  wrong : Nat := 1
  /-- Whether options may follow operands. -/
  anywhere : Bool := true
  /-- Letters whose argument, if they have one, is part of the same word. -/
  optional : String := ""
  /-- Whether the hint about help starts with the name of the program. -/
  signed : Bool := false
  deriving Inhabited

def Options.takesArgument (o : Options) (c : Char) : Bool :=
  match o.letters.toList.dropWhile (· != c) with
  | _ :: ':' :: _ => true
  | _ => false

/-- What was given: options with their arguments, and operands. -/
structure Given where
  options : Array (Char × String) := #[]
  operands : Array String := #[]
  deriving Inhabited

/-- Whether an option is given. -/
def Given.has (g : Given) (c : Char) : Bool := g.options.any fun o => o.1 == c

def Given.last? (g : Given) (c : Char) : Option String :=
  (g.options.toList.reverse.find? fun o => o.1 == c).map Prod.snd

/-- The options that were given, of some letters, the last one. -/
def Given.lastOf? (g : Given) (cs : String) : Option Char :=
  (g.options.toList.reverse.find? fun o => cs.toList.contains o.1).map Prod.fst

/-- The option that a long name means, if it is clear, or a complaint. -/
def Options.named (o : Options) (name : String) : Except String Char :=
  match o.names.lookup name with
  | some c => .ok c
  | none =>
    match o.names.filter fun n => n.1.startsWith name with
    | [] => .error ("unrecognized option '--" ++ name ++ "'")
    | found@((_, c) :: _) =>
      if found.all fun f => f.2 == c then .ok c
      else .error ("option '--" ++ name ++ "' is ambiguous; possibilities:" ++
        String.join (found.map fun f => " '--" ++ f.1 ++ "'"))

def readArguments (name : String) (o : Options) (args : List String) : Action Given := do
  let refuse {α : Type} (text : String) : Action α := do
    complain (name ++ ": " ++ text)
    complain ((if o.signed then name ++ ": " else "") ++ "Try '" ++ name ++
      " --help' for more information.")
    exit o.wrong
  let mut given : Given := {}
  let mut rest := args
  for _ in [0:args.length] do
    match rest with
    | [] => break
    | "--" :: more =>
      given := { given with operands := given.operands ++ more.toArray }
      rest := []
    | a :: more =>
      rest := more
      if a.startsWith "--" then
        let text := dropFront 2 a
        let (long, value) : String × Option String :=
          match indexOf? ['='] text.toList with
          | some i => (takeFront i text, some (dropFront (i + 1) text))
          | none => (text, none)
        match o.named long with
        | .error message => refuse (message.replace ("'--" ++ long ++ "'") ("'" ++ a ++ "'"))
        | .ok c =>
          let full := ((o.names.find? fun n => n.1.startsWith long &&
            n.2 == c).map Prod.fst).getD long
          if o.takesArgument c then
            match value, more with
            | some v, _ => given := { given with options := given.options.push (c, v) }
            | none, v :: later =>
              given := { given with options := given.options.push (c, v) }
              rest := later
            | none, [] => refuse ("option '--" ++ full ++ "' requires an argument")
          else match value with
            | some v =>
              if o.optional.toList.contains c then given :=
                { given with options := given.options.push (c, v) }
              else refuse ("option '--" ++ full ++ "' doesn't allow an argument")
            | none => given := { given with options := given.options.push (c, "") }
      else if a.startsWith "-" && a.length > 1 then
        let mut letters := a.toList.drop 1
        for _ in [0:a.length] do
          match letters with
          | [] => break
          | c :: cs =>
            letters := cs
            if c == ':' || !(o.letters.toList.contains c) then
              refuse ("invalid option -- '" ++ String.singleton c ++ "'")
            else if o.takesArgument c then
              letters := []
              if !cs.isEmpty then
                given := { given with options := given.options.push (c, String.ofList cs) }
              else match rest with
                | v :: later =>
                  given := { given with options := given.options.push (c, v) }
                  rest := later
                | [] => refuse ("option requires an argument -- '" ++ String.singleton c ++ "'")
            else if o.optional.toList.contains c then
              letters := []
              given := { given with options := given.options.push (c, String.ofList cs) }
            else given := { given with options := given.options.push (c, "") }
      else
        given := { given with operands := given.operands.push a }
        if !o.anywhere then
          given := { given with operands := given.operands ++ rest.toArray }
          rest := []
  return given

def fileFault (name file : String) (cause : String) : Action Unit :=
  complain (name ++ ": " ++ shown file ++ ": " ++ cause)

/-- The content of a file, or of the input for a hyphen, or what stands in the way. -/
def contentOf (file : String) : Action (Except String String) := do
  if file == "-" then
    match ← readFault? 0 with
    | some cause => return .error cause
    | none => return .ok (← readAll 0)
  else match ← readFile file with
    | .ok text => return .ok text
    | .error f => return .error (faultText f)

/-- The contents of the files among the operands, or of the input if there are none. Each one that
cannot be read is complained about. It gives the status as well. -/
def inputs (name : String) (files : List String) : Action (List (String × String) × Nat) := do
  let files := if files.isEmpty then ["-"] else files
  let mut out := #[]
  let mut status := 0
  for f in files do
    match ← contentOf f with
    | .ok text => out := out.push (f, text)
    | .error cause =>
      fileFault name f cause
      status := 1
  return (out.toList, status)

/-- Prints octets for a program that ends if they cannot be written. -/
def put (name : String) (status : Nat) (text : String) : Action Unit := do
  match ← writeTo 1 text with
  | some f =>
    complain (name ++ ": write error: " ++ f.message)
    exit status
  | none => pure ()

/-- Gives back what a program has taken from its input without using it: all of it where one can go
back, and what lies beyond the blocks that were read elsewhere. -/
def giveBack (exact : Bool) (total used : Nat) : Action Unit := do
  if used < total then
    if ← isSeekable 0 then
      if exact then unread 0 (total - used)
    else match ← channel? 0 with
      | some d =>
        match ← streamAt d.stream with
        | .memory content offset =>
          let ahead := min total ((used / 8192 + 1) * 8192)
          setStream d.stream (.memory content (offset - (total - ahead)))
        | _ => pure ()
      | none => pure ()

end Utility

end StudyFlow.Shell
