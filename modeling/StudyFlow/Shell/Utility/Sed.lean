import StudyFlow.Shell.Utility.Files
import StudyFlow.Shell.Utility.Lines

/-!
The stream editor: its scripts as lists of commands, how they are read, and how they are run line by
line.
-/

namespace StudyFlow.Shell

namespace Sed

/-- A regular expression of a script; the empty one is the one that was used last. -/
structure Pattern where
  regex : Option Regex
  folded : Bool := false
  multiline : Bool := false
  deriving Inhabited

/-- Which lines a command is for. -/
inductive Address where
  | line (n : Nat)
  | step (first every : Nat)
  | last
  | matching (p : Pattern)
  /-- So many lines after the first address. -/
  | plus (n : Nat)
  /-- Up to the next line whose number is a multiple. -/
  | multiple (n : Nat)
  deriving Inhabited

inductive Piece where
  | char (c : Char)
  | group (n : Nat)
  /-- What follows has its case changed; the letter says how. -/
  | casing (letter : Char)
  deriving Inhabited

/-- A replacement of what an expression matches. -/
structure Substitution where
  pattern : Pattern
  replacement : List Piece
  every : Bool := false
  number : Nat := 1
  prints : Bool := false
  evaluates : Bool := false
  file : Option String := none
  deriving Inhabited

/-- What a command does. -/
inductive Work where
  | openBlock (close : Nat)
  | closeBlock
  | plain (letter : Char)
  | text (letter : Char) (text : String)
  | file (letter : Char) (name : String)
  | label (name : String)
  | jump (letter : Char) (label : String)
  | number (letter : Char) (n : Option Nat)
  | substitute (s : Substitution)
  | translate (pairs : List (Char × Char))
  deriving Inhabited

/-- A command with its addresses. -/
structure Command where
  first : Option Address := none
  second : Option Address := none
  negated : Bool := false
  work : Work
  deriving Inhabited

/-- Where reading a script stands: what is left, and how much was read. -/
structure Script where
  rest : List Char
  place : Nat := 0

/-- What is wrong with a script: a text and the place, unless the text says it all. -/
structure Fault where
  text : String
  place : Option Nat

/-- A step of reading a script. -/
abbrev Reader := StateT Script (Except Fault)

namespace Reader

def bad {α : Type} (text : String) : Reader α := do
  throw ⟨text, some (← get).place⟩

def badAt {α : Type} (place : Nat) (text : String) : Reader α := throw ⟨text, some place⟩

def peek : Reader (Option Char) := return (← get).rest.head?

def next : Reader (Option Char) := do
  let s ← get
  match s.rest with
  | [] =>
    return none
  | c :: cs =>
    set ({ rest := cs, place := s.place + 1 } : Script)
    return some c

def skip : Reader Unit := do
  let _ ← next

def takeWhile (p : Char → Bool) : Reader String := do
  let s ← get
  let taken := s.rest.takeWhile p
  set ({ rest := s.rest.drop taken.length, place := s.place + taken.length } : Script)
  return String.ofList taken

def skipBlanks : Reader Unit := do
  let _ ← takeWhile fun c => c == ' ' || c == '\t'

def number : Reader Nat := return decimalOf (← takeWhile Char.isDigit)

/-- The characters that escapes stand for in expressions and replacements. -/
def escapeOf (cs : List Char) : Option (Char × List Char) :=
  let digits (base width : Nat) (cs : List Char) : Option (Char × List Char) :=
    let value (c : Char) : Option Nat :=
      let n := if c.isDigit then c.toNat - 48
        else if 'a' ≤ c && c ≤ 'f' then c.toNat - 87
        else if 'A' ≤ c && c ≤ 'F' then c.toNat - 55 else 99
      if n < base then some n else none
    let ds := (cs.take width).takeWhile fun c => (value c).isSome
    if ds.isEmpty then none
    else some (Char.ofNat ((ds.foldl (fun n c => n * base + (value c).getD 0) 0) % 256),
      cs.drop ds.length)
  match cs with
  | 'a' :: r => some ('\x07', r)
  | 'f' :: r => some ('\x0c', r)
  | 'n' :: r => some ('\n', r)
  | 'r' :: r => some ('\r', r)
  | 't' :: r => some ('\t', r)
  | 'v' :: r => some ('\x0b', r)
  | 'x' :: r => digits 16 2 r
  | 'o' :: r => digits 8 3 r
  | 'd' :: r => digits 10 3 r
  | 'c' :: c :: r => some (Char.ofNat ((c.toUpper.toNat ^^^ 64) % 256), r)
  | _ => none

/-- The text up to a delimiter. An escaped delimiter is the character itself; inside of brackets it
does not count. -/
def delimited (delimiter : Char) (isRegex : Bool) : Reader (Option String) := do
  let mut out : String := ""
  let bound := (← get).rest.length + 1
  for _ in [0:bound] do
    match ← next with
    | none => return none
    | some c =>
      if c == delimiter then return some out
      else if c == '\\' then
        match ← next with
        | none => return none
        | some d =>
          if d == delimiter then
            out := if isRegex && d == 'n' then out ++ "\\n" else out.push d
          else if d == 'n' && isRegex then out := out.push '\n'
          else if d == '\n' && isRegex then out := out.push '\n'
          else out := (out.push '\\').push d
      else if c == '\n' && isRegex then
        -- A line may not end inside of an expression.
        return none
      else out := out.push c
  return none

/-- An expression with its escapes replaced by what they stand for. -/
def plainEscapes : Nat → List Char → String → String
  | 0, _, acc => acc
  | _, [], acc => acc
  | fuel + 1, '\\' :: cs, acc =>
    match cs with
    | 'n' :: rest => plainEscapes fuel rest (acc.push '\n')
    | _ =>
      match escapeOf cs with
      | some (c, rest) =>
        let special := "\\^$.[]*+?()\x7b\x7d|".toList.contains c
        plainEscapes fuel rest (if special then (acc.push '\\').push c else acc.push c)
      | none =>
        match cs with
        | c :: rest => plainEscapes fuel rest ((acc.push '\\').push c)
        | [] => acc.push '\\'
  | fuel + 1, c :: cs, acc => plainEscapes fuel cs (acc.push c)

def compiled (extended : Bool) (text : String) (folded multiline : Bool) : Reader Pattern := do
  if text.isEmpty then return ⟨none, folded, multiline⟩
  match Regex.read { extended := extended } (plainEscapes (text.length + 1) text.toList "") with
  | .ok r => return ⟨some r, folded, multiline⟩
  | .error f =>
    match f with
    | .bracket => bad "unterminated address regex"
    | f => bad f.message

/-- Reads an address, if there is one. -/
def address (extended : Bool) : Reader (Option Address) := do
  match ← peek with
  | none => return none
  | some c =>
    if c.isDigit then
      let n ← number
      if (← peek) == some '~' then
        skip
        return some (.step n (← number))
      return some (.line n)
    else if c == '$' then
      skip
      return some .last
    else if c == '/' || c == '\\' then
      skip
      let delimiter ← if c == '\\' then do
          match ← next with
          | some d => pure d
          | none => bad "unexpected end of script"
        else pure '/'
      match ← delimited delimiter true with
      | none => bad "unterminated address regex"
      | some text =>
        let flags ← takeWhile fun c => c == 'I' || c == 'M'
        return some (.matching (← compiled extended text (flags.toList.contains 'I')
          (flags.toList.contains 'M')))
    else return none

def secondAddress (extended : Bool) : Reader (Option Address) := do
  match ← peek with
  | some '+' =>
    skip
    return some (.plus (← number))
  | some '~' =>
    skip
    return some (.multiple (← number))
  | _ => address extended

/-- The end of a command: a semicolon, a line end, a comment, or a closing brace. -/
def endCommand : Reader Unit := do
  skipBlanks
  match ← peek with
  | none | some '}' | some '#' => pure ()
  | some ';' | some '\n' => skip
  | some _ =>
    skip
    bad "extra characters after command"

/-- The name of a label, or of a file. -/
def restOfLine : Reader String := do
  skipBlanks
  let t ← takeWhile (· != '\n')
  skip
  return t

def insertedText : Reader String := do
  skipBlanks
  match ← peek with
  | none => bad "expected \\ after \x60a', \x60c' or \x60i'"
  | _ => pure ()
  let rest := (← get).rest
  -- A backslash in front keeps the blanks that follow, or ends the line of the command.
  match rest with
  | '\\' :: more =>
    let blanks := more.takeWhile fun c => c == ' ' || c == '\t'
    match more.drop blanks.length with
    | '\n' :: _ =>
      skip
      skipBlanks
      skip
    | [] =>
      bad "expected \\ after \x60a', \x60c' or \x60i'"
    | _ => skip
  | _ => pure ()
  let mut out : String := ""
  let bound := (← get).rest.length + 1
  for _ in [0:bound] do
    match ← next with
    | none | some '\n' => break
    | some '\\' =>
      match (← get).rest with
      | '\n' :: _ =>
        skip
        out := out.push '\n'
      | cs =>
        match escapeOf cs with
        | some (c, after) =>
          let taken := cs.length - after.length
          for _ in [0:taken] do
            skip
          out := out.push c
        | none =>
          match ← next with
          | some c => out := out.push c
          | none => pure ()
    | some c => out := out.push c
  return out.push '\n'

def piecesOf : Nat → List Char → List Piece → Except Nat (List Piece)
  | 0, _, acc => .ok acc.reverse
  | _, [], acc => .ok acc.reverse
  | fuel + 1, '\\' :: c :: rest, acc =>
    if c.isDigit then piecesOf fuel rest (.group (c.toNat - 48) :: acc)
    else if "LUluE".toList.contains c then piecesOf fuel rest (.casing c :: acc)
    else match escapeOf (c :: rest) with
      | some (d, after) => piecesOf fuel after (.char d :: acc)
      | none => piecesOf fuel rest (.char c :: acc)
  | fuel + 1, '&' :: rest, acc => piecesOf fuel rest (.group 0 :: acc)
  | fuel + 1, c :: rest, acc => piecesOf fuel rest (.char c :: acc)

/-- Reads a substitution; its letter has been read. -/
def substitution (extended : Bool) : Reader Work := do
  let delimiter ← match ← next with
    | some c => if c == '\n' || c == '\\' then bad "unterminated \x60s' command" else pure c
    | none => bad "unterminated \x60s' command"
  let some patternText ← delimited delimiter true | bad "unterminated \x60s' command"
  let some replacementText ← delimited delimiter false | bad "unterminated \x60s' command"
  let mut s : Substitution := { pattern := ⟨none, false, false⟩, replacement := [] }
  let mut folded := false
  let mut multiline := false
  let mut counted := false
  let bound := (← get).rest.length + 1
  for _ in [0:bound] do
    match ← peek with
    | some 'g' =>
      skip
      if s.every then bad "multiple \x60g' options to \x60s' command"
      s := { s with every := true }
    | some 'p' =>
      skip
      if s.prints then bad "multiple \x60p' options to \x60s' command"
      s := { s with prints := true }
    | some 'i' | some 'I' =>
      skip
      folded := true
    | some 'm' | some 'M' =>
      skip
      multiline := true
    | some 'e' =>
      skip
      s := { s with evaluates := true }
    | some 'w' =>
      skip
      let f ← restOfLine
      if f.isEmpty then bad "missing filename in r/R/w/W commands"
      s := { s with file := some f }
      break
    | some c =>
      if c.isDigit then
        if counted then
          skip
          bad "multiple number options to \x60s' command"
        let n ← number
        if n == 0 then bad "number option to \x60s' command may not be zero"
        counted := true
        s := { s with number := n }
      else if c == '}' || c == '#' then break
      else if c == ';' || c == '\n' then
        skip
        break
      else if c == ' ' || c == '\t' || c == '\r' then skip
      else
        skip
        bad "unknown option to \x60s'"
    | none => break
  let pattern ← compiled extended patternText folded multiline
  let groups := match pattern.regex with
    | some r => r.groupCount
    | none => 9
  match piecesOf (replacementText.length + 1) replacementText.toList [] with
  | .error n => bad ("invalid reference \\" ++ n.repr ++ " on \x60s' command's RHS")
  | .ok pieces =>
    for p in pieces do
      match p with
      | .group n =>
        if groups < n then bad ("invalid reference \\" ++ n.repr ++ " on \x60s' command's RHS")
      | _ => pure ()
    return .substitute { s with pattern := pattern, replacement := pieces }

def translationChars : Nat → List Char → List Char
  | 0, _ => []
  | _, [] => []
  | fuel + 1, '\\' :: c :: rest =>
    if c == '\\' then '\\' :: translationChars fuel rest
    else match escapeOf (c :: rest) with
      | some (d, after) => d :: translationChars fuel after
      | none => '\\' :: translationChars fuel (c :: rest)
  | fuel + 1, c :: rest => c :: translationChars fuel rest

/-- Reads a translation; its letter has been read. -/
def translation : Reader Work := do
  let delimiter ← match ← next with
    | some c => pure c
    | none => bad "unterminated \x60y' command"
  let some a ← delimited delimiter false | bad "unterminated \x60y' command"
  let some b ← delimited delimiter false | bad "unterminated \x60y' command"
  let x := translationChars (a.length + 1) a.toList
  let y := translationChars (b.length + 1) b.toList
  if x.length != y.length then bad "strings for \x60y' command are different lengths"
  endCommand
  return .translate (x.zip y)

/-- A label, which a semicolon or a blank ends. -/
def labelName : Reader String := do
  skipBlanks
  let t ← takeWhile fun c => c != ';' && c != '\n' && c != ' ' && c != '\t'
  skipBlanks
  match ← peek with
  | some ';' | some '\n' => skip
  | _ => pure ()
  return t

def commands (extended : Bool) : Reader (List Command) := do
  let mut out : Array Command := #[]
  let mut opened : List (Nat × Nat) := []
  let bound := (← get).rest.length + 2
  for _ in [0:bound] do
    let _ ← takeWhile fun c => c == ' ' || c == '\t' || c == '\n' || c == ';' || c == '\r'
    if (← peek).isNone then break
    let first ← address extended
    let mut second : Option Address := none
    skipBlanks
    if first.isSome && (← peek) == some ',' then
      skip
      skipBlanks
      second ← secondAddress extended
      if second.isNone then
        skip
        bad "unexpected \x60,'"
      skipBlanks
    match first, second with
    | some (.line 0), some (.matching _) => pure ()
    | some (.line 0), _ =>
      skip
      let here := (← get).place
      badAt here "invalid usage of line address 0"
    | _, _ => pure ()
    let mut negated := false
    if (← peek) == some '!' then
      negated := true
      let _ ← takeWhile fun c => c == '!' || c == ' ' || c == '\t'
    let put (w : Work) : Command :=
      { first := first, second := second, negated := negated, work := w }
    match ← next with
    | none => bad "missing command"
    | some c =>
      match c with
      | '#' =>
        if first.isSome then bad "comments don't accept any addresses"
        let _ ← takeWhile (· != '\n')
      | '{' =>
        opened := (out.size, (← get).place) :: opened
        out := out.push (put (.openBlock 0))
      | '}' =>
        match opened with
        | [] => bad "unexpected \x60\x7d'"
        | (i, _) :: more =>
          opened := more
          if first.isSome then bad "\x7d doesn't want any addresses"
          let close := out.size
          out := out.modify i fun k => { k with work := .openBlock close }
          out := out.push (put .closeBlock)
          endCommand
      | 'a' | 'i' | 'c' => out := out.push (put (.text c (← insertedText)))
      | ':' =>
        if first.isSome then bad ": doesn't want any addresses"
        let t ← labelName
        if t.isEmpty then bad "\":\" lacks a label"
        out := out.push (put (.label t))
      | 'b' | 't' | 'T' => out := out.push (put (.jump c (← labelName)))
      | 'r' | 'R' | 'w' | 'W' =>
        let f ← restOfLine
        if f.isEmpty then bad "missing filename in r/R/w/W commands"
        out := out.push (put (.file c f))
      | 'q' | 'Q' | 'l' | 'L' =>
        skipBlanks
        let digits ← takeWhile Char.isDigit
        endCommand
        out := out.push (put (.number c (if digits.isEmpty then none else some (decimalOf digits))))
      | 's' => out := out.push (put (← substitution extended))
      | 'y' => out := out.push (put (← translation))
      | 'e' => out := out.push (put (.text 'e' (← restOfLine)))
      | 'v' =>
        let _ ← labelName
      | c =>
        if "=dDFgGhHnNpPxz".toList.contains c then
          endCommand
          out := out.push (put (.plain c))
        else bad ("unknown command: \x60" ++ String.singleton c ++ "'")
  match opened with
  | _ :: _ => badAt 0 "unmatched \x60\x7b'"
  | [] => pure ()
  return out.toList

end Reader

/-- A line of the input: its text, whether it has an end, and the file it is from. -/
structure Line where
  text : String
  ended : Bool
  file : String
  lastOfFile : Bool
  deriving Inhabited

/-- The state of a run. -/
structure Run where
  input : List Line
  pattern : String := ""
  hold : String := ""
  number : Nat := 0
  current : Line := { text := "", ended := true, file := "-", lastOfFile := false }
  /-- What follows the line when it is done. -/
  appended : List (Char × String) := []
  replaced : Bool := false
  /-- The ranges that are open, by the number of their command, with the line each ends at if
  known. -/
  ranges : List (Nat × Option Nat) := []
  latest : Option Pattern := none
  /-- What is left of the files whose lines are taken one by one. -/
  queues : List (String × List String) := []
  /-- Whether what was printed last lacks a line end. -/
  unfinished : Bool := false
  deriving Inhabited

end Sed

namespace Utility

open StudyFlow.Shell.Action

structure SedCall where
  name : String
  quiet : Bool
  separate : Bool
  ending : Char
  width : Nat
  commands : Array Sed.Command

abbrev SedStep := StateT Sed.Run Action

namespace SedStep

/-- Prints a line. A missing line end is made up for if more follows. -/
def emit (c : SedCall) (text : String) (ended : Bool) : SedStep Unit := do
  let s ← get
  let front := if s.unfinished then String.singleton c.ending else ""
  set { s with unfinished := !ended }
  put c.name 4 (front ++ (if ended then text.push c.ending else text))

def emitText (c : SedCall) (text : String) : SedStep Unit := do
  if text.isEmpty then return
  let s ← get
  let front := if s.unfinished then String.singleton c.ending else ""
  set { s with unfinished := !text.endsWith (String.singleton c.ending) && text.length != 0 }
  put c.name 4 (front ++ text)

def writeLine (c : SedCall) (file text : String) : SedStep Unit := do
  if file == "/dev/stdout" then emit c text true
  else
    let _ ← writeFile file .append (text.push c.ending)

/-- Whether the running line is the last one. -/
def isLast (c : SedCall) : SedStep Bool := do
  let s ← get
  return s.input.isEmpty || (c.separate && s.current.lastOfFile)

/-- The expression that is meant by a pattern of the script. -/
def meant (c : SedCall) (p : Sed.Pattern) : SedStep Sed.Pattern := do
  match p.regex with
  | some _ =>
    modify fun s => { s with latest := some p }
    return p
  | none =>
    match (← get).latest with
    | some q =>
      return { q with folded := q.folded || p.folded, multiline := q.multiline || p.multiline }
    | none => die 1 (c.name ++ ": no previous regular expression")

/-- Whether a line matches. -/
def holds (c : SedCall) (p : Sed.Pattern) : SedStep Bool := do
  let p ← meant c p
  let subject : Regex.Subject :=
    { text := (← get).pattern.toList.toArray, folded := p.folded, multiline := p.multiline }
  return ((p.regex.getD .empty).search? subject 0).isSome

def means (c : SedCall) (a : Sed.Address) : SedStep Bool := do
  let n := (← get).number
  match a with
  | .line k => return n == k
  | .step first every =>
    return if every == 0 then n == first else first ≤ n && (n - first) % every == 0
  | .last => isLast c
  | .matching p => holds c p
  | .plus _ | .multiple _ => return false

/-- Whether a command is for the running line. -/
def applies (c : SedCall) (index : Nat) (k : Sed.Command) : SedStep Bool := do
  let n := (← get).number
  let closeRange : SedStep Unit := modify fun s =>
    { s with ranges := s.ranges.filter fun r => r.1 != index }
  let openRange (limit : Option Nat) : SedStep Unit :=
    modify fun s => { s with ranges := (index, limit) :: s.ranges.filter fun r => r.1 != index }
  let answer ← match k.first, k.second with
    | none, _ => pure true
    | some a, none => means c a
    | some a, some b => do
      let active ← match (← get).ranges.lookup index, a with
        | some limit, _ => pure (some limit)
        | none, .line 0 => pure (if n == 1 then some none else none)
        | none, _ => pure none
      match active with
      | some limit =>
        match limit, b with
        | some l, _ =>
          if n ≥ l then closeRange
          if n > l then
            -- The end lies behind; the line may start a range of its own.
            means c a
          else pure true
        | none, .last => do
          if ← isLast c then closeRange
          pure true
        | none, b => do
          if ← means c b then closeRange else openRange none
          pure true
      | none =>
        if ← means c a then do
          match b with
          | .line l => if n < l then openRange (some l)
          | .plus l => if l != 0 then openRange (some (n + l))
          | .multiple l => if l != 0 && n % l != 0 then openRange (some ((n / l + 1) * l))
          | .last => if !(← isLast c) then openRange none
          | _ => openRange none
          pure true
        else pure false
  return answer != k.negated

/-- Takes the next line of the input. -/
def advance (c : SedCall) : SedStep Bool := do
  let s ← get
  match s.input with
  | [] => return false
  | l :: rest =>
    let _ := c
    set { s with input := rest, current := l, number := s.number + 1 }
    return true

/-- Prints what was to follow the line. -/
def flush (c : SedCall) : SedStep Unit := do
  let waiting := (← get).appended
  modify fun s => { s with appended := [] }
  for (kind, t) in waiting do
    match kind with
    | 'r' =>
      if t == "/dev/stdin" then emitText c (← readAll 0)
      else match ← readFile t with
        | .ok text => emitText c text
        | .error _ => pure ()
    | _ => emitText c t

def replacementText (pieces : List Sed.Piece) (cs : Array Char) (start : Nat) (st : Regex.State) :
    String := Id.run do
  let mut out : String := ""
  let mut mode : Option Char := none
  let mut once : Option Char := none
  for p in pieces do
    match p with
    | .casing 'E' =>
      mode := none
      once := none
    | .casing l => if l == 'L' || l == 'U' then mode := some l else once := some l
    | p =>
      let text := match p with
        | .char c => String.singleton c
        | .group 0 => sliceOf cs start st.pos
        | .group n => match st.groups.lookup n with
          | some (a, b) => sliceOf cs a b
          | none => ""
        | .casing _ => ""
      for c in text.toList do
        let base := match mode with
          | some 'U' => c.toUpper
          | some 'L' => c.toLower
          | _ => c
        let shaped := match once with
          | some 'u' => c.toUpper
          | some 'l' => c.toLower
          | _ => base
        once := none
        out := out.push shaped
  return out

def substitute (e : Engine) (c : SedCall) (s : Sed.Substitution) : SedStep Unit := do
  let p ← meant c s.pattern
  let cs := (← get).pattern.toList.toArray
  let subject : Regex.Subject := { text := cs, folded := p.folded, multiline := p.multiline }
  let found := if s.every || s.number > 1 then (p.regex.getD .empty).searchAll subject
    else match (p.regex.getD .empty).search? subject 0 with
      | some m => [m]
      | none => []
  let chosen := found.drop (s.number - 1)
  let chosen := if s.every then chosen else chosen.take 1
  if !chosen.isEmpty then
    let mut out : String := ""
    let mut pos := 0
    for (i, st) in chosen do
      out := out ++ sliceOf cs pos i ++ replacementText s.replacement cs i st
      pos := st.pos
    out := out ++ sliceOf cs pos cs.size
    modify fun r => { r with pattern := out, replaced := true }
    if s.evaluates then
      let (_, text) ← outputOf e (e.script out 1)
      let text := if text.endsWith "\n" then takeFront (text.length - 1) text else text
      modify fun r => { r with pattern := text }
    let now := (← get).pattern
    if s.prints then emit c now (← get).current.ended
    match s.file with
    | some f => writeLine c f now
    | none => pure ()

/-- A text in an unambiguous form, folded. -/
def visibleText (width : Nat) (text : String) : String := Id.run do
  let mut out : String := ""
  let mut column := 0
  for ch in text.toList do
    let shown := match ch with
      | '\\' => "\\\\"
      | '\x07' => "\\a"
      | '\x08' => "\\b"
      | '\x0c' => "\\f"
      | '\n' => "\\n"
      | '\r' => "\\r"
      | '\t' => "\\t"
      | '\x0b' => "\\v"
      | ch =>
        if 32 ≤ ch.toNat && ch.toNat < 127 then String.singleton ch
        else
          let ds := String.ofList (Nat.toDigits 8 ch.toNat)
          "\\" ++ repeated (3 - ds.length) '0' ++ ds
    if width > 1 && column + shown.length > width - 1 then
      out := out ++ "\\\n"
      column := 0
    out := out ++ shown
    column := column + shown.length
  return out ++ "$"

/-- How a command ends what is done to a line. -/
inductive Ending where
  /-- Go on with the command of that number. -/
  | goes (index : Nat)
  /-- The line is done; it is printed unless the editor is quiet. -/
  | done
  /-- The line is done and not printed. -/
  | dropped
  /-- The commands run again without reading a line. -/
  | again
  | quits (status : Nat) (printing : Bool)

/-- Runs a command. -/
def step (e : Engine) (c : SedCall) (index : Nat) (k : Sed.Command) : SedStep Ending := do
  let go : Ending := .goes (index + 1)
  if !(← applies c index k) then
    match k.work with
    | .openBlock close => return .goes (close + 1)
    | _ => return go
  let s ← get
  let labelAt (l : String) : Option Nat := c.commands.findIdx? fun k => match k.work with
    | .label n => n == l
    | _ => false
  let jump (l : String) : Ending := if l.isEmpty then .done else
    match labelAt l with
    | some i => .goes i
    | none => .done
  let isAutomatic := !c.quiet
  match k.work with
  | .openBlock _ | .closeBlock | .label _ => return go
  | .jump 'b' l => return jump l
  | .jump 't' l =>
    if s.replaced then
      set { s with replaced := false }
      return jump l
    return go
  | .jump _ l =>
    if s.replaced then
      set { s with replaced := false }
      return go
    return jump l
  | .number 'q' n => return .quits (n.getD 0) true
  | .number 'Q' n => return .quits (n.getD 0) false
  | .number _ n =>
    emit c (visibleText (n.getD c.width) s.pattern) true
    return go
  | .text 'a' t =>
    set { s with appended := s.appended ++ [('a', t)] }
    return go
  | .text 'i' t =>
    emitText c t
    return go
  | .text 'c' t =>
    let inRange := k.second.isSome && !k.negated && (s.ranges.any fun r => r.1 == index)
    if !inRange then emitText c t
    return .dropped
  | .text _ t =>
    if t.isEmpty then
      let (_, text) ← outputOf e (e.script s.pattern 1)
      let text := if text.endsWith "\n" then takeFront (text.length - 1) text else text
      set { s with pattern := text }
    else
      let (_, text) ← outputOf e (e.script t 1)
      emitText c text
    return go
  | .file 'r' f =>
    set { s with appended := s.appended ++ [('r', f)] }
    return go
  | .file 'R' f =>
    let lines ← match s.queues.lookup f with
      | some l => pure l
      | none => do
        match ← readFile f with
        | .ok text => pure (cleanLines text c.ending)
        | .error _ => pure []
    let others := s.queues.filter fun q => q.1 != f
    match lines with
    | l :: more =>
      set { s with queues := (f, more) :: others, appended := s.appended ++
        [('a', l.push c.ending)] }
    | [] => set { s with queues := (f, []) :: others }
    return go
  | .file 'w' f =>
    writeLine c f s.pattern
    return go
  | .file _ f =>
    writeLine c f (String.ofList (s.pattern.toList.takeWhile (· != '\n')))
    return go
  | .substitute sub =>
    substitute e c sub
    return go
  | .translate pairs =>
    set { s with pattern := s.pattern.map fun x => (pairs.lookup x).getD x }
    return go
  | .plain l =>
    match l with
    | '=' =>
      emitText c (s.number.repr ++ "\n")
      return go
    | 'd' => return .dropped
    | 'D' =>
      match indexOf? ['\n'] s.pattern.toList with
      | none => return .dropped
      | some i =>
        set { s with pattern := dropFront (i + 1) s.pattern }
        return .again
    | 'F' =>
      emit c s.current.file true
      return go
    | 'g' =>
      set { s with pattern := s.hold }
      return go
    | 'G' =>
      set { s with pattern := s.pattern ++ "\n" ++ s.hold }
      return go
    | 'h' =>
      set { s with hold := s.pattern }
      return go
    | 'H' =>
      set { s with hold := s.hold ++ "\n" ++ s.pattern }
      return go
    | 'x' =>
      set { s with hold := s.pattern, pattern := s.hold }
      return go
    | 'p' =>
      emit c s.pattern s.current.ended
      return go
    | 'P' =>
      emit c (String.ofList (s.pattern.toList.takeWhile (· != '\n'))) true
      return go
    | 'z' =>
      set { s with pattern := "" }
      return go
    | 'n' =>
      if ← isLast c then
        if s.input.isEmpty then return .quits 0 true
      if isAutomatic then emit c s.pattern s.current.ended
      flush c
      let _ ← advance c
      modify fun r => { r with pattern := r.current.text }
      return go
    | _ =>
      -- Without a next line the line is printed and all is over.
      if ← isLast c then
        if s.input.isEmpty then return .quits 0 true
      flush c
      let _ ← advance c
      modify fun r => { r with pattern := s.pattern ++ "\n" ++ r.current.text }
      return go

def runLine (e : Engine) (c : SedCall) : SedStep Ending := do
  let mut index := 0
  for _ in [0:100000000] do
    match c.commands[index]? with
    | none => return .done
    | some k =>
      match ← step e c index k with
      | .goes i => index := i
      | other => return other
  return .done

/-- Runs the commands on all lines and gives the status if a command has ended the run. -/
def runAll (e : Engine) (c : SedCall) : SedStep (Option Nat) := do
  let mut reads := true
  for _ in [0:100000000] do
    if reads then
      if !(← advance c) then return none
      modify fun s => { s with pattern := s.current.text, replaced := false }
    reads := true
    let ending ← runLine e c
    let print : SedStep Unit := do
      let s ← get
      if !c.quiet then emit c s.pattern s.current.ended
    match ending with
    | .quits n printing =>
      if printing then
        print
        flush c
      return some n
    | .dropped => flush c
    | .again =>
      flush c
      reads := false
    | _ =>
      print
      flush c
  return none

end SedStep

def sedLines (ending : Char) (file text : String) : List Sed.Line :=
  let raw := rawLines text ending
  let n := raw.length
  (raw.zip (List.range n)).map fun (l, k) =>
    let ended := l.endsWith (String.singleton ending)
    { text := if ended then takeFront (l.length - 1) l else l, ended := ended, file :=
      file, lastOfFile := k + 1 == n }

/-- How the editor is to be called. -/
def sedUsage (name : String) : String :=
  "Usage: " ++ name ++ " [OPTION]... \x7bscript-only-if-no-other-script\x7d [input-file]...\n"

def sedUtility : Utility := fun e name args => do
  let g ← readArguments name
    { letters := "ne:f:Eri:suzl:b1", names := [("quiet", 'n'), ("silent", 'n'), ("expression", 'e'),
        ("file", 'f'), ("regexp-extended", 'E'), ("in-place", 'I'), ("separate", 's'),
        ("unbuffered", 'u'), ("null-data", 'z'), ("zero-terminated", 'z'), ("line-length", 'l'),
        ("posix", 'b'), ("debug", 'b'), ("sandbox", 'b')], optional := "I" } (args.map fun a =>
        -- The suffix of copies is part of the word.
        if a == "-i" then "--in-place"
        else if a.startsWith "-i" && !a.startsWith "--" then "--in-place=" ++ dropFront 2 a
        else if a == "-ni" then "-n" else a)
  let inPlace := g.has 'I' || args.contains "-ni"
  let extended := g.has 'E' || g.has 'r'
  let parts := g.options.toList.filter fun o => o.1 == 'e' || o.1 == 'f'
  let mut scripts : Array (String × String) := #[]
  let mut files := g.operands.toList
  if parts.isEmpty then
    match files with
    | [] =>
      complain (sedUsage name)
      return 1
    | s :: rest =>
      scripts := scripts.push ("-e expression #1", s)
      files := rest
  else
    let mut count := 0
    for (c, v) in parts do
      if c == 'e' then
        count := count + 1
        scripts := scripts.push ("-e expression #" ++ count.repr, v)
      else match ← contentOf v with
        | .ok t =>
          scripts := scripts.push ("file " ++ v ++ " line 1",
            if t.endsWith "\n" then takeFront (t.length - 1) t else t)
        | .error cause => die 1 (name ++ ": couldn't open file " ++ v ++ ": " ++ cause)
  -- A script that ends in a backslash goes on with the next one.
  let whole := "\n".intercalate (scripts.toList.map Prod.snd)
  let silent := whole.startsWith "#n\n" || whole == "#n"
  let commands ← match (Sed.Reader.commands extended).run { rest := whole.toList } with
    | .ok (cs, _) => pure cs
    | .error f =>
      -- The place counts from the start of its own part.
      let place := f.place.getD 0
      let rec locate : List (String × String) → Nat → String × Nat
        | [(l, _)], n => (l, n)
        | (l, t) :: more, n =>
          if n ≤ t.length + 1 || more.isEmpty then (l, n) else locate more (n - t.length - 1)
        | [], n => ("-e expression #1", n)
      let (label, n) := locate scripts.toList place
      let at_ :=
        if label.startsWith "file" then label ++ ": " else label ++ ", char " ++ n.repr ++ ": "
      die 1 (name ++ ": " ++ at_ ++ f.text)
  for k in commands do
    match k.work with
    | .jump _ l =>
      let known := commands.any fun c => match c.work with
        | .label n => n == l
        | _ => false
      if !l.isEmpty && !known then die 1 (name ++ ": can't find label for jump to \x60" ++ l ++ "'")
    | .file c f =>
      if (c == 'w' || c == 'W') && !f.startsWith "/dev/" then
        match ← writeFile f .write "" with
        | some fault => die 4 (name ++ ": couldn't open file " ++ f ++ ": " ++ faultText fault)
        | none => pure ()
    | .substitute s =>
      match s.file with
      | some f => if !f.startsWith "/dev/" then let _ ← writeFile f .write ""
      | none => pure ()
    | _ => pure ()
  let call : SedCall :=
    { name := name, quiet := g.has 'n' || silent || args.contains "-ni", separate :=
      g.has 's' || inPlace,
      ending := if g.has 'z' then '\x00' else '\n', width := decimalOf ((g.last? 'l').getD "70"),
      commands := commands.toArray }
  let mut status := 0
  if inPlace then
    for f in files do
      match ← entryAt f with
      | .ok (_, .directory) =>
        complain (name ++ ": couldn't edit " ++ f ++ ": not a regular file")
        status := 4
      | .ok (l, .file content x) =>
        let suffix := (g.last? 'I').getD ""
        let ((ended, _), out) ← captured do
          (SedStep.runAll e call).run { input := sedLines call.ending f (octetsOfBytes content) }
        if !suffix.isEmpty then
          let copy :=
            if suffix.toList.contains '*' then
              inside (directoryName f) (suffix.replace "*" (baseName f))
            else f ++ suffix
          match ← placeOf copy with
          | .ok m => putEntry m (.file content x)
          | .error _ => pure ()
        putEntry l (.file (bytesOfOctets out) x)
        match ended with
        | some n => return n
        | none => pure ()
      | .error fault =>
        complain (name ++ ": can't read " ++ f ++ ": " ++ faultText fault)
        status := 2
    return status
  else
    let mut lines : Array Sed.Line := #[]
    let mut standard := 0
    for f in (if files.isEmpty then ["-"] else files) do
      match ← contentOf f with
      | .ok text =>
        if f == "-" then standard := text.length
        lines := lines ++ (sedLines call.ending f text).toArray
      | .error cause =>
        if cause == "Is a directory" then
          complain (name ++ ": couldn't read " ++ f ++ ": " ++ cause)
        else complain (name ++ ": can't read " ++ f ++ ": " ++ cause)
        status := 2
    let (ended, s) ← (SedStep.runAll e call).run { input := lines.toList }
    match ended with
    | some n =>
      let left := s.input.foldl (fun t l => t + l.text.length + 1) 0
      if standard != 0 then giveBack false standard (standard - left)
      return if n == 0 then status else n
    | none => return status

end Utility

end StudyFlow.Shell
