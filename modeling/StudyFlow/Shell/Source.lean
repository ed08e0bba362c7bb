import StudyFlow.Shell.Octets
import StudyFlow.Shell.Syntax

/-!
Reading scripts: what is left of a script, how characters and tokens are taken from it, and what is
said about a script that is no script.
-/

namespace StudyFlow.Shell

/-- A token of a script. -/
inductive Token where
  | done
  | newline
  | operator (text : String)
  /-- The start of a redirection. -/
  | redirect (channel : Option Channel) (operator : String)
  | keyword (text : String)
  /-- A word and how it is written. -/
  | word (word : Word) (text : String)
  /-- An assignment to an array or to one of its members. -/
  | assignment (assignment : Assignment) (text : String)
  deriving Inhabited

/-- Why a text is no script. -/
inductive Flaw where
  /-- A token stands where none of its kind may; perhaps it is known what was expected. -/
  | unexpected (token : Token) (expected : Option String)
  /-- A quotation or bracket is not closed before the end. -/
  | unclosed (mark : String)
  /-- A quotation of a backquoted script is not closed. -/
  | message (text : String)
  | tooDeep
  deriving Inhabited

/-- A flaw of a script and where it was met. -/
structure SyntaxFault where
  line : Nat
  flaw : Flaw
  /-- The line in which reading stopped. -/
  lineText : String
  deriving Inhabited

/-- A document in the script that was announced, and whose lines come after the current one. -/
structure Announced where
  id : Nat
  delimiter : String
  /-- Whether leading tabs are dropped. -/
  stripped : Bool
  /-- Whether the text is taken as it is. -/
  verbatim : Bool
  line : Nat
  deriving Inhabited

/-- What is left to read of a script, and what was gathered on the way. -/
structure Source where
  rest : List Char
  line : Nat := 1
  dialect : Dialect := .dash
  /-- Names that stand for other text at the start of a command. -/
  aliases : List (String × String) := []
  /-- Names that are being replaced. -/
  active : List String := []
  /-- Whether patterns may have alternatives in parentheses. -/
  alternatives : Bool := false
  pushed : Option Token := none
  waiting : List Announced := []
  documents : List (Nat × Word) := []
  nextDocument : Nat := 0
  /-- What was left at the start of the current line. -/
  lineStart : List Char := []
  /-- Whether the last character that was read ended a line. -/
  lineEnded : Bool := false
  /-- Remarks on the script that do not stop it. -/
  remarks : List (Nat × String) := []
  deriving Inhabited

/-- A step of reading. -/
abbrev Reader := StateT Source (Except SyntaxFault)

namespace Reader

/-- The character that ends the text of a replaced name. It is no octet. -/
def replacedMark : Char := Char.ofNat 0x100

/-- The line that errors are said to be in. -/
def Source.shownLine (s : Source) : Nat :=
  match s.dialect with
  | .dash => s.line
  | .bash => if s.lineEnded && !s.rest.isEmpty then s.line - 1 else s.line

def stop {α : Type} (flaw : Flaw) : Reader α := do
  let s ← get
  let text := s.lineStart.takeWhile (· != '\n') |>.filter fun c => c.toNat < 0x100
  throw ⟨Source.shownLine s, flaw, String.ofList text⟩

def stopAt {α : Type} (line : Nat) (flaw : Flaw) : Reader α := do
  let s ← get
  let text := s.lineStart.takeWhile (· != '\n') |>.filter fun c => c.toNat < 0x100
  throw ⟨line, flaw, String.ofList text⟩

/-- Whether the larger dialect is read. -/
def isBash : Reader Bool := return (← get).dialect == .bash

/-- Ends the replacement of names whose text has been read. -/
def settle : Reader Unit :=
  modify fun s =>
    let marks := s.rest.takeWhile (· == replacedMark)
    if marks.isEmpty then s
    else { s with rest := s.rest.drop marks.length, active := s.active.drop marks.length }

/-- The next character, which stays. -/
def peek : Reader (Option Char) := do
  settle
  return (← get).rest.head?

def peekSecond : Reader (Option Char) := do
  settle
  return (← get).rest.tail.find? (· != replacedMark)

def next : Reader (Option Char) := do
  settle
  let s ← get
  match s.rest with
  | [] => return none
  | c :: cs =>
    if c == '\n' then
      set { s with rest := cs, line := s.line + 1, lineStart := cs, lineEnded := true }
    else set { s with rest := cs, lineEnded := false }
    return some c

/-- Drops a character. -/
def skip : Reader Unit := do
  let _ ← next

/-- Drops line ends that are escaped. -/
def join : Reader Unit := do
  for _ in [0:(← get).rest.length] do
    match (← peek), (← peekSecond) with
    | some '\\', some '\n' =>
      skip
      skip
    | _, _ => break

/-- The next character once escaped line ends are dropped; it stays. -/
def peekJoined : Reader (Option Char) := do
  join
  peek

/-- Takes a character if it comes next. -/
def accept (c : Char) : Reader Bool := do
  if (← peek) == some c then
    skip
    return true
  else return false

/-- Takes a character if it comes next once escaped line ends are dropped. -/
def acceptJoined (c : Char) : Reader Bool := do
  join
  accept c

def takeWhile (p : Char → Bool) : Reader String := do
  let mut taken := #[]
  for _ in [0:(← get).rest.length + 1] do
    match ← peekJoined with
    | some c =>
      if p c then
        skip
        taken := taken.push c
      else break
    | none => break
  return String.ofList taken.toList

/-- The number of characters left bounds every loop that takes one each time. -/
def bound : Reader Nat := return (← get).rest.length + 2

/-- The text that was read since a point, of which it is known what was left. -/
def since (before : List Char) : Reader String := do
  let after := (← get).rest.length
  return String.ofList ((before.take (before.length - after)).filter fun c => c != replacedMark)

def push (t : Token) : Reader Unit := modify fun s => { s with pushed := some t }

/-- The line a command that starts here is said to be in. -/
def here : Reader Nat := do
  let s ← get
  return if s.dialect == .bash && s.lineEnded then s.line - 1 else s.line

end Reader

/-- How a token is named in complaints of the small shell. -/
def Token.described : Token → String
  | .done => "end of file"
  | .newline => "newline"
  | .operator t => "\"" ++ t ++ "\""
  | .redirect _ _ => "redirection"
  | .keyword t => "\"" ++ t ++ "\""
  | .word _ _ | .assignment _ _ => "word"

/-- How a token is named in complaints of the larger shell. -/
def Token.shown : Token → String
  | .done => "end of file"
  | .newline => "newline"
  | .operator t => t
  | .redirect _ t => t
  | .keyword t => t
  | .word _ t => t
  | .assignment _ t => t

end StudyFlow.Shell
