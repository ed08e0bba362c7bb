import StudyFlow.Shell.Machine

/-!
Variables and parameters of a process: reading them, assigning to them, and their attributes.
-/

namespace StudyFlow.Shell

namespace Action

/-- The number by which the members of an array with keys are ordered. -/
def keyBucket (key : String) : Nat :=
  (key.foldl (fun (h : Nat) c => ((h * 16777619) % UInt32.size) ^^^ c.toNat) 2166136261) % 1024

/-- The members of an array with keys in the order in which they are listed. -/
def orderedMembers (items : List (String × String)) : List (String × String) :=
  items.reverse.mergeSort fun a b => keyBucket a.1 ≤ keyBucket b.1

def membersOf : Value → List (String × String)
  | .unset => []
  | .scalar s => [("0", s)]
  | .indexed items => items.map fun i => (i.1.repr, i.2)
  | .keyed items => orderedMembers items

/-- The variable that is meant by a name, once references are followed. -/
def resolveName (name : String) : Action String := do
  let mut n := name
  for _ in [0:10] do
    match ← binding? n with
    | some v =>
      if v.reference then
        match Value.text? v.value with
        | some t => if t.isEmpty then break else n := t
        | none => break
      else break
    | none => break
  return n

/-- The next number of a simple sequence of numbers. -/
def nextRandom (seed : Nat) : Nat :=
  let s := if seed == 0 then 123459876 else seed
  let h := s / 127773
  let l := s % 127773
  let t : Int := 16807 * (l : Int) - 2836 * (h : Int)
  (if t < 0 then t + 2147483647 else t).toNat

/-- A number below `2^15`, which changes each time. -/
def randomNumber : Action Nat := do
  let s := nextRandom (← process).seed
  setProcess fun p => { p with seed := s }
  return ((s >>> 16) ^^^ (s % 65536)) % 32768

/-- The order in which the letters of options are shown. -/
def optionOrder : Dialect → List Char
  | .dash => "efIimnsxvVECabu".toList
  | .bash => "abefhikmnprtuvxBCEHPT".toList

def optionLetters : Action String := do
  let p ← process
  return String.ofList ((optionOrder p.dialect).filter p.options.contains)

/-- The value of a variable that the larger shell computes when it is asked for. -/
def computed? (name : String) : Action (Option Value) := do
  let p ← process
  if p.dialect == .dash then
    return match name with
    | "PPID" => some (.scalar (p.id - 1).repr)
    | _ => none
  else match name with
    | "LINENO" => return some (.scalar p.line.repr)
    | "RANDOM" => return some (.scalar (← randomNumber).repr)
    | "SECONDS" => return some (.scalar ((← world).clock / 1000).repr)
    | "BASHPID" => return some (.scalar p.id.repr)
    | "PPID" => return some (.scalar (p.shellId - 1).repr)
    | "BASH_SUBSHELL" => return some (.scalar p.subshell.repr)
    | "FUNCNAME" =>
      if p.calls.isEmpty then return none
      let names := (p.calls.map Prod.fst) ++ ["main"]
      return some (.indexed ((List.range names.length).zip names))
    | "BASH_LINENO" =>
      if p.calls.isEmpty then return some (.indexed [(0, "0")])
      let lines := (p.calls.map fun c => c.2.repr) ++ ["0"]
      return some (.indexed ((List.range lines.length).zip lines))
    | "BASH_SOURCE" =>
      let names := (p.calls.map fun _ => p.source) ++ [p.source]
      return some (.indexed ((List.range names.length).zip names))
    | "PIPESTATUS" =>
      return some (.indexed ((List.range p.statuses.length).zip (p.statuses.map Nat.repr)))
    | "DIRSTACK" =>
      let dirs := p.dir :: p.directories
      return some (.indexed ((List.range dirs.length).zip dirs))
    | "SHELLOPTS" => return none
    | _ => return none

/-- The value of a variable, computed ones included. -/
def wholeValue (name : String) : Action Value := do
  match ← computed? name with
  | some v =>
    -- A computed variable that was given up is an ordinary one.
    return v
  | none => return ((← binding? name).map Variable.value).getD .unset

/-- The value of a parameter: a variable, an argument, or a special one. None if it is not set. -/
def parameter? (name : String) : Action (Option String) := do
  let p ← process
  match name with
  | "?" => return some p.status.repr
  | "#" => return some p.arguments.length.repr
  | "$" => return some p.shellId.repr
  | "!" => return p.lastJob.map Nat.repr
  | "-" => return some (← optionLetters)
  | "0" => return some p.name
  | "_" => if p.dialect == .bash then return some p.lastArgument else valueOf? "_"
  | _ =>
    if isDigits name then
      let n := decimalOf name
      return if n == 0 then some p.name else p.arguments[n - 1]?
    else
      return Value.text? (← wholeValue (← resolveName name))

/-- The characters that separate words in what expansions give. -/
def separators : Action String := return (← valueOf? "IFS").getD " \t\n"

/-- Complains about a variable that may not change. -/
def refuseChange {α : Type} (name : String) : Action α := do
  if ← isBash then
    warn (name ++ ": readonly variable")
    throw (.discard 1)
  else fail (name ++ ": is read only")

/-- The text with the case that a variable gives to what is assigned. -/
def cased (v : Variable) (text : String) : String :=
  if v.lower then text.map Char.toLower else if v.upper then text.map Char.toUpper else text

def assignValue (name : String) (value : Value) : Action Unit := do
  let old := (← binding? name).getD { name := name }
  if old.readonly then refuseChange name
  let exported := old.exported || (← hasOption 'a')
  putVariable { old with value := value, exported := exported }

/-- Assigns a text to a variable. The members of an array stay but for the first one. -/
def assign (name text : String) : Action Unit := do
  let name ← resolveName name
  let old := (← binding? name).getD { name := name }
  if old.readonly then refuseChange name
  let text := cased old text
  let value := match old.value with
    | .indexed items => .indexed ((0, text) :: items.filter fun i => i.1 != 0)
    | .keyed items => .keyed ((items.filter fun i => i.1 != "0") ++ [("0", text)])
    | _ => .scalar text
  let exported := old.exported || (← hasOption 'a')
  putVariable { old with value := value, exported := exported }
  match name, ← isBash with
  | "OPTIND", _ => setProcess fun p => { p with optionIndex := decimalOf text, optionOffset := 0 }
  | "RANDOM", true => setProcess fun p => { p with seed := decimalOf text }
  | _, _ => pure ()

/-- Puts a member into an array, in the place of its index. -/
def insertMember (i : Nat) (text : String) : List (Nat × String) → List (Nat × String)
  | [] => [(i, text)]
  | (j, t) :: rest =>
    if i < j then (i, text) :: (j, t) :: rest
    else if i == j then (i, text) :: rest
    else (j, t) :: insertMember i text rest

/-- The members of a value as an array with numbers. -/
def asIndexed : Value → List (Nat × String)
  | .indexed items => items
  | .scalar s => [(0, s)]
  | _ => []

/-- Assigns to a member of an array with numbers. -/
def assignIndexed (name : String) (i : Nat) (text : String) : Action Unit := do
  let old := (← binding? name).getD { name := name }
  if old.readonly then refuseChange name
  putVariable { old with value := .indexed (insertMember i (cased old text) (asIndexed old.value)) }

def assignKeyed (name key text : String) : Action Unit := do
  let old := (← binding? name).getD { name := name }
  if old.readonly then refuseChange name
  let items := match old.value with
    | .keyed items => items
    | _ => []
  let text := cased old text
  let items :=
    if items.any fun i => i.1 == key then items.map fun i => if i.1 == key then (key, text) else i
    else items ++ [(key, text)]
  putVariable { old with value := .keyed items }

/-- Changes the attributes of a variable, which is made if there is none. -/
def changeVariable (name : String) (f : Variable → Variable) : Action Unit := do
  putVariable (f ((← binding? name).getD { name := name }))

/-- Takes the value of a variable and its attributes away. -/
def unassign (name : String) : Action Bool := do
  match ← binding? name with
  | some v =>
    if v.readonly then return false
    dropVariable name
    return true
  | none => return true

/-- The variables that programs get. -/
def environment : Action (List (String × String)) := do
  return ((← process).vars.filter fun v => v.exported).filterMap fun v =>
    match v.value with
    | .scalar s => some (v.name, s)
    | _ => none

def needsQuotes (s : String) : Bool :=
  s.isEmpty || s.any fun c => !(c.isAlphanum || "_-./:,+@%".toList.contains c)

/-- A text in single quotes; a quote inside is escaped outside of them. -/
def singleQuote (s : String) : String :=
  "'" ++ s.foldl (fun acc c => if c == '\'' then acc ++ "'\\''" else acc.push c) "" ++ "'"

/-- A text in single quotes as the small shell writes it: quotes inside stand in double quotes. -/
def plainQuote (s : String) : String := Id.run do
  -- Runs of quotes and runs of other characters alternate.
  let mut out : String := ""
  let mut rest := s.toList
  if rest.isEmpty then return "''"
  for _ in [0:s.length + 1] do
    if rest.isEmpty then break
    let part := rest.takeWhile (· != '\'')
    rest := rest.drop part.length
    if !part.isEmpty || out.isEmpty then out := out ++ "'" ++ String.ofList part ++ "'"
    let quotes := rest.takeWhile (· == '\'')
    rest := rest.drop quotes.length
    if !quotes.isEmpty then out := out ++ "\"" ++ String.ofList quotes ++ "\""
  return out

/-- Whether a character is written by an escape where control characters may show. -/
def isControl (c : Char) : Bool := c.toNat < 32 || c.toNat == 127 || c.toNat > 127

def controlEscape (c : Char) : String :=
  match c.toNat with
  | 7 => "\\a"
  | 8 => "\\b"
  | 9 => "\\t"
  | 10 => "\\n"
  | 11 => "\\v"
  | 12 => "\\f"
  | 13 => "\\r"
  | 27 => "\\E"
  | n =>
    let ds := String.ofList (Nat.toDigits 8 n)
    "\\" ++ repeated (3 - ds.length) '0' ++ ds

/-- A text with control characters as escapes in a quotation that starts with a dollar sign. -/
def escapedQuote (s : String) : String :=
  "$'" ++ s.foldl (fun acc c =>
    if c == '\'' then acc ++ "\\'"
    else if c == '\\' then acc ++ "\\\\"
    else if isControl c then acc ++ controlEscape c
    else acc.push c) "" ++ "'"

/-- A text as a word that reads back as it, by backslashes where that does. -/
def backslashQuote (s : String) : String :=
  if s.isEmpty then "''"
  else if s.any isControl then escapedQuote s
  else
    let special (c : Char) : Bool := " \t\n|&;()<>\\'\"\x60$*?[]!^\x7b\x7d,".toList.contains c
    (s.foldl (fun (acc : String × Bool) c =>
      let escaped := special c || (acc.2 && (c == '#' || c == '~'))
      ((if escaped then (acc.1.push '\\').push c else acc.1.push c), false)) ("", true)).1

/-- A text in quotes that the larger shell reads back. -/
def readableQuote (s : String) : String := if s.any isControl then escapedQuote s else singleQuote s

/-- A text in double quotes, or with escapes if it has control characters, as declarations show
it. -/
def declaredQuote (s : String) : String :=
  if s.any isControl then escapedQuote s
  else "\"" ++ s.foldl (fun acc c =>
    if c == '"' || c == '\\' || c == '$' || c == '\x60' then (acc.push '\\').push c else
      acc.push c) "" ++ "\""

end Action

end StudyFlow.Shell
