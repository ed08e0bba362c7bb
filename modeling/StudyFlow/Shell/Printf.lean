import StudyFlow.Shell.Format
import StudyFlow.Shell.Variables

/-!
Printing under a format, and echoing. The shells and the programs of the same names differ in the
escapes they know and in how they complain.
-/

namespace StudyFlow.Shell

/-- Whose rules hold for formats and escapes. -/
inductive Flavour where
  | dash
  | bash
  /-- The programs outside of the shells. -/
  | program
  deriving DecidableEq, Inhabited

/-- Digits of a base at the front of a text, at most so many: their value, and what follows. -/
def digitsAhead (base : Nat) : Nat → Nat → List Char → Nat × List Char
  | 0, acc, cs => (acc, cs)
  | _, acc, [] => (acc, [])
  | n + 1, acc, c :: cs =>
    let d :=
      if c.isDigit then c.toNat - 48
      else if 'a' ≤ c && c ≤ 'f' then c.toNat - 87
      else if 'A' ≤ c && c ≤ 'F' then c.toNat - 55
      else 99
    if d < base then digitsAhead base n (acc * base + d) cs else (acc, c :: cs)

/-- Whether an octal digit is at the front of a text. -/
def octalAhead (cs : List Char) : Bool :=
  match cs with
  | c :: _ => '0' ≤ c && c ≤ '7'
  | [] => false

/-- A character by its code where only codes below 128 can be written. -/
def codeText (mark : Char) (n : Nat) : String :=
  if n < 128 then String.singleton (Char.ofNat n)
  else
    let ds := String.ofList ((Nat.toDigits 16 n).map Char.toUpper)
    if n < 65536 then "\\u" ++ repeated (4 - ds.length) '0' ++ ds
    else "\\" ++ String.singleton mark ++ repeated (8 - ds.length) '0' ++ ds

/-- Where an escape stands: in a format, in an argument of a format, or in what is echoed. -/
inductive EscapePlace where
  | format
  | argument
  | echo
  deriving DecidableEq

/-- The text that an escape stands for, and what follows it; none if the output ends. The backslash
has been read. -/
def readEscape (f : Flavour) (place : EscapePlace) (cs : List Char) : Option (String × List Char) :=
  let code (n : Nat) (rest : List Char) : Option (String × List Char) :=
    some (String.singleton (Char.ofNat (n % 256)), rest)
  match cs with
  | [] => some ("\\", [])
  | c :: rest =>
    if c == 'c' && (place != .format || f == .program) then none
    else if c == '0' && place != .format then
      let (n, rest) := digitsAhead 8 3 0 rest
      code n rest
    else if octalAhead cs && !(f == .bash && place == .echo) then
      let (n, rest) := digitsAhead 8 3 0 cs
      code n rest
    else match c with
      | 'a' => code 7 rest
      | 'b' => code 8 rest
      | 'e' => code 27 rest
      | 'f' => code 12 rest
      | 'n' => code 10 rest
      | 'r' => code 13 rest
      | 't' => code 9 rest
      | 'v' => code 11 rest
      | '\\' => code 92 rest
      | 'E' => if f == .bash then code 27 rest else some ("\\E", rest)
      | '"' => if f == .dash || place == .echo then some ("\\\"", rest) else code 34 rest
      | '\'' => if f == .bash && place == .format then code 39 rest else some ("\\'", rest)
      | '?' => if f == .bash && place == .format then code 63 rest else some ("\\?", rest)
      | 'x' =>
        if f == .dash then some ("\\x", rest)
        else
          let (n, after) := digitsAhead 16 2 0 rest
          if after.length == rest.length then some ("\\x", rest) else code n after
      | 'u' =>
        let (n, after) := digitsAhead 16 4 0 rest
        if f == .dash || after.length == rest.length then some ("\\u", rest)
        else some (codeText 'U' n, after)
      | 'U' =>
        let (n, after) := digitsAhead 16 8 0 rest
        if f == .dash || after.length == rest.length then some ("\\U", rest)
        else some (codeText 'U' n, after)
      | c => some (String.ofList ['\\', c], rest)

/-- A text with its escapes replaced, and whether the output ends in it. -/
def replaceEscapes (f : Flavour) (place : EscapePlace) : Nat → List Char → String → String × Bool
  | 0, _, acc => (acc, false)
  | _, [], acc => (acc, false)
  | fuel + 1, c :: cs, acc =>
    if c == '\\' then
      match readEscape f place cs with
      | some (t, rest) => replaceEscapes f place fuel rest (acc ++ t)
      | none => (acc, true)
    else replaceEscapes f place fuel cs (acc.push c)

/-- A text with its escapes replaced, and whether the output ends in it. -/
def escapesOf (f : Flavour) (place : EscapePlace) (s : String) : String × Bool :=
  replaceEscapes f place (s.length + 1) s.toList ""

structure PrintState where
  out : String := ""
  args : List String
  status : Nat := 0
  /-- Whether nothing more is printed. -/
  ended : Bool := false
  /-- Whether an argument was asked for. -/
  used : Bool := false

namespace Action

/-- How a printer complains: an ordinary complaint. -/
abbrev Complainer := String → Action Unit

/-- The integer that an argument denotes. -/
def printInteger (f : Flavour) (say : Complainer) (signed : Bool) (arg : String) :
    Action (Int × Nat) := do
  match arg.toList with
  | '\'' :: rest => return (((rest.head?.map Char.toNat).getD 0 : Nat), 0)
  | '"' :: rest => return (((rest.head?.map Char.toNat).getD 0 : Nat), 0)
  | cs =>
    let shown := if f == .program then "'" ++ arg ++ "'" else arg
    match readInteger cs with
    | none =>
      if arg.isEmpty then return (0, 0)
      say (match f with
        | .dash => shown ++ ": expected numeric value"
        | .bash => shown ++ ": invalid number"
        | .program => shown ++ ": expected a numeric value")
      return (0, 1)
    | some (n, rest) =>
      let low := if signed then minWord else 1 - (UInt64.size : Int)
      let high := if signed then maxWord else (UInt64.size : Int) - 1
      let clamped := max low (min high n)
      if !rest.isEmpty then
        let front := String.ofList (cs.dropWhile isBlankOctet)
        say (match f with
          | .dash => shown ++ ": not completely converted"
          | .bash =>
            if front.startsWith "0x" || front.startsWith "0X" then shown ++ ": invalid hex number"
            else if front.startsWith "0" then shown ++ ": invalid octal number"
            else shown ++ ": invalid number"
          | .program => shown ++ ": value not completely converted")
        return (clamped, 1)
      else if clamped != n then
        let cause := ": Numerical result out of range"
        if f == .bash then
          say ("warning: " ++ shown ++ cause)
          return (clamped, 0)
        else
          say (shown ++ cause)
          return (clamped, 1)
      else return (n, 0)

/-- The fraction that an argument denotes. -/
def printReal (f : Flavour) (say : Complainer) (arg : String) : Action (Real × Nat) := do
  let bits := if f == .dash then 53 else 64
  let shown := if f == .program then "'" ++ arg ++ "'" else arg
  match arg.toList with
  | '\'' :: rest => return (.finite false ((rest.head?.map Char.toNat).getD 0) 0, 0)
  | '"' :: rest => return (.finite false ((rest.head?.map Char.toNat).getD 0) 0, 0)
  | cs =>
    match readReal bits cs with
    | none =>
      if arg.isEmpty then return (.finite false 0 0, 0)
      say (match f with
        | .dash => shown ++ ": expected numeric value"
        | .bash => shown ++ ": invalid number"
        | .program => shown ++ ": expected a numeric value")
      return (.finite false 0 0, 1)
    | some (x, rest) =>
      if rest.isEmpty then return (x, 0)
      say (match f with
        | .dash => shown ++ ": not completely converted"
        | .bash => shown ++ ": invalid number"
        | .program => shown ++ ": value not completely converted")
      return (x, 1)

def printConversion (f : Flavour) (say : Complainer) (c : Conversion) (s : PrintState) :
    Action PrintState := do
  let take (s : PrintState) : Option String × PrintState :=
    match s.args with
    | a :: rest => (some a, { s with args := rest, used := true })
    | [] => (none, { s with used := true })
  let mut s := s
  let mut spec := c.spec
  if c.starWidth then
    let (a, s') := take s
    s := s'
    let (n, st) ← printInteger f say true (a.getD "")
    spec := { spec with width := n.natAbs, left := spec.left || n < 0 }
    s := { s with status := max s.status st }
  if c.starPrecision then
    let (a, s') := take s
    s := s'
    let (n, st) ← printInteger f say true (a.getD "")
    spec := { spec with precision := if n < 0 then none else some n.toNat }
    s := { s with status := max s.status st }
  let letter := c.letter.getD 'd'
  if letter == 's' || letter == 'c' || letter == 'b' || letter == 'q' then
    let (a, s') := take s
    s := s'
    let arg := a.getD ""
    match letter with
    | 'c' =>
      return { s with out := s.out ++ spec.fill (if arg.isEmpty then "\x00" else takeFront 1 arg) }
    | 'b' =>
      let (t, ended) := escapesOf f .argument arg
      return { s with out := s.out ++ spec.text t, ended := ended }
    | 'q' =>
      return { s with out := s.out ++ spec.text (if f == .bash then backslashQuote arg else arg) }
    | _ => return { s with out := s.out ++ spec.text arg }
  else if letter == 'd' || letter == 'i' then
    let (a, s') := take s
    s := s'
    let (n, st) ← printInteger f say true (a.getD "")
    return { s with out := s.out ++ spec.integer n, status := max s.status st }
  else if letter == 'o' || letter == 'u' || letter == 'x' || letter == 'X' then
    let (a, s') := take s
    s := s'
    let (n, st) ← printInteger f say false (a.getD "")
    let base := if letter == 'o' then 8 else if letter == 'u' then 10 else 16
    let shape := if letter == 'u' then { spec with alternate := false } else spec
    return { s with out := s.out ++ shape.unsigned base (letter == 'X') (unsignedWord n),
                    status := max s.status st }
  else
    let (a, s') := take s
    s := s'
    let (x, st) ← printReal f say (a.getD "")
    return { s with out := s.out ++ spec.real letter x, status := max s.status st }

def conversionLetters (f : Flavour) : List Char :=
  if f == .dash then "diouxXcsbeEfFgGaA".toList else "diouxXcsbqeEfFgGaA".toList

/-- Prints a format once. -/
def printOnce (f : Flavour) (say : Complainer) (time : String → String → Action String)
    (format : List Char) (s : PrintState) : Action PrintState := do
  let mut s := s
  let mut rest := format
  for _ in [0:format.length + 1] do
    if s.ended then break
    match rest with
    | [] => break
    | '\\' :: cs =>
      match readEscape f .format cs with
      | some (t, after) =>
        s := { s with out := s.out ++ t }
        rest := after
      | none => s := { s with ended := true }
    | '%' :: '%' :: cs =>
      s := { s with out := s.out.push '%' }
      rest := cs
    | '%' :: cs =>
      let (c, after) := readConversion cs
      let timed := f == .bash && c.letter == some '('
      match c.letter with
      | none =>
        say (match f with
          | .dash => "missing format character"
          | .bash => "`" ++ c.written ++ "': missing format character"
          | .program => c.written ++ ": invalid conversion specification")
        s := { s with ended := true, status := if f == .dash then 2 else 1 }
      | some letter =>
        let plain := f != .dash || !(c.written.any fun x => x == 'l' || x == 'h' || x == 'L')
        if timed then
          let inside := after.takeWhile (· != ')')
          let (arg, args) := match s.args with
            | a :: rest => (a, rest)
            | [] => ("-1", [])
          let t ← time (String.ofList inside) arg
          s := { s with out := s.out ++ c.spec.text t, args := args, used := true }
          rest := after.drop (inside.length + 2)
        else if (conversionLetters f).contains letter && plain then
          s ← printConversion f say c s
          rest := after
        else
          let shown := if plain then c.written
            else String.ofList (c.written.toList.takeWhile fun x => x != 'l' &&
              x != 'h' && x != 'L') ++
              String.ofList ((c.written.toList.find? fun x => x == 'l' || x == 'h' ||
                x == 'L').toList)
          say (match f with
            | .dash => shown ++ ": invalid directive"
            | .bash => "`" ++ String.singleton letter ++ "': invalid format character"
            | .program => c.written ++ ": invalid conversion specification")
          s := { s with ended := true, status := if f == .dash then 2 else 1 }
    | c :: cs =>
      s := { s with out := s.out.push c }
      rest := cs
  return s

/-- Prints arguments under a format, which is used again as long as arguments are left. -/
def printFormatted (f : Flavour) (say : Complainer) (time : String → String → Action String)
    (format : String) (args : List String) : Action PrintState := do
  let mut s : PrintState := { args := args }
  for _ in [0:args.length + 1] do
    s ← printOnce f say time format.toList s
    if s.ended || s.args.isEmpty || !s.used then break
  if f == .program && !s.ended && !s.args.isEmpty then
    say ("warning: ignoring excess arguments, starting with '" ++ s.args.head?.getD "" ++ "'")
  return s

end Action

/-- What is echoed, and whether a line end follows it. -/
def echoText (f : Flavour) (args : List String) : String :=
  let isFlags (s : String) : Bool :=
    match s.toList with
    | '-' :: c :: cs => (c :: cs).all fun x => x == 'n' || x == 'e' || x == 'E'
    | _ => false
  let (newline, escapes, args) :=
    if f == .dash then
      match args with
      | "-n" :: rest => (false, true, rest)
      | args => (true, true, args)
    else
      let flags := args.takeWhile isFlags
      let letters := flags.flatMap String.toList
      let escapes := (letters.filter fun c => c == 'e' || c == 'E').getLast? == some 'e'
      (!letters.contains 'n', escapes, args.drop flags.length)
  let text := " ".intercalate args
  if escapes then
    let (t, ended) := escapesOf f .echo text
    if ended || !newline then t else t ++ "\n"
  else if newline then text ++ "\n"
  else text

end StudyFlow.Shell
