import StudyFlow.Shell.Format

/-!
The words of programs for records. A program is cut into tokens before it is read; each of them
knows its line and how many parentheses and braces are open there.
-/

namespace StudyFlow.Shell.Awk

/-- A word of a program. -/
inductive Token where
  | number (x : Float) (written : String)
  | text (s : String)
  | regex (s : String)
  /-- A name, and whether a parenthesis follows it at once. -/
  | name (s : String) (calls : Bool)
  /-- A function that is there from the start. -/
  | builtin (s : String)
  | keyword (s : String)
  | mark (s : String)
  | newline
  | finished
  /-- Something that is no word and ends the reading; the line is told if the flag is set. -/
  | broken (complaint : String) (tellsLine : Bool)
  deriving Inhabited

structure Placed where
  token : Token
  line : Nat
  /-- How many parentheses are open behind it. -/
  parens : Nat := 0
  /-- How many braces are open behind it. -/
  braces : Nat := 0
  deriving Inhabited

namespace Token

/-- The word as it is shown in a complaint. -/
def shown : Token → String
  | .number _ w => w
  | .text s => s
  | .regex s => "/" ++ s ++ "/"
  | .name s _ => s
  | .builtin s => s
  | .keyword s => s
  | .mark s => s
  | .newline => "end of line"
  | .finished => "end of file"
  | .broken _ _ => ""

def keywords : List String :=
  ["BEGIN", "END", "function", "if", "else", "while", "for", "do", "break", "continue",
    "next", "nextfile",
   "exit", "return", "delete", "in", "getline", "print", "printf"]

/-- The functions that are there, with the least and the greatest number of their arguments. -/
def builtins : List (String × Nat × Nat) :=
  [("length", 0, 1), ("index", 2, 2), ("substr", 2, 3), ("sprintf", 1, 255), ("sin", 1, 1),
    ("cos", 1, 1),
   ("atan2", 2, 2), ("exp", 1, 1), ("log", 1, 1), ("int", 1, 1), ("sqrt", 1, 1), ("rand", 0, 0),
   ("srand", 0, 1), ("close", 1, 1), ("system", 1, 1), ("toupper", 1, 1), ("tolower", 1, 1),
   ("fflush", 0, 1), ("mktime", 1, 1), ("strftime", 0, 3), ("systime", 0, 0), ("split", 2, 3),
   ("match", 2, 2),
   ("sub", 2, 3), ("gsub", 2, 3)]

/-- Whether a slash behind the word divides. -/
def endsOperand : Token → Bool
  | .number _ _ | .text _ | .regex _ | .name _ _ => true
  | .keyword s => s == "getline"
  | .mark s => s == ")" || s == "]" || s == "++" || s == "--"
  | _ => false

/-- The marks of more than one character, longer ones first. -/
def longMarks : List String :=
  ["!=", "!~", "==", "<=", ">>", ">=", "&&", "||", "++", "+=", "--", "-=", "*=", "/=", "%=", "^="]

def shortMarks : List Char := "=!<>|+-*/%^?:,;~()[]\x7b\x7d$".toList

/-- Leaves out blanks, comments and line ends; gives how many lines were ended. -/
def skipLines : Nat → Nat → List Char → Nat × List Char
  | 0, n, cs => (n, cs)
  | fuel + 1, n, cs =>
    match cs with
    | '\n' :: rest => skipLines fuel (n + 1) rest
    | '\\' :: '\n' :: rest => skipLines fuel (n + 1) rest
    | '#' :: rest => skipLines fuel n (rest.dropWhile (· != '\n'))
    | c :: rest => if isBlankOctet c then skipLines fuel n rest else (n, cs)
    | [] => (n, [])

/-- Leaves out blanks and a comment within a line. -/
def skipBlanks : Nat → Nat → List Char → Nat × List Char
  | 0, n, cs => (n, cs)
  | fuel + 1, n, cs =>
    match cs with
    | '\\' :: '\n' :: rest => skipBlanks fuel (n + 1) rest
    | '\\' :: '\r' :: '\n' :: rest => skipBlanks fuel (n + 1) rest
    | '#' :: rest => skipBlanks fuel n (rest.dropWhile (· != '\n'))
    | c :: rest => if c != '\n' && isBlankOctet c then skipBlanks fuel n rest else (n, cs)
    | [] => (n, [])

/-- A number of up to three octal digits in front of a text, and the rest. -/
def octalEscape (cs : List Char) : Option (Char × List Char) :=
  let ds := (cs.take 3).takeWhile fun c => '0' ≤ c && c ≤ '7'
  if ds.isEmpty then none
  else
    let n := ds.foldl (fun n c => n * 8 + (c.toNat - 48)) 0
    some (Char.ofNat (n % 256), cs.drop ds.length)

/-- The character that a letter stands for behind a backslash. -/
def escapeLetter? : Char → Option Char
  | '"' => some '"'
  | '\\' => some '\\'
  | 'a' => some '\x07'
  | 'b' => some '\x08'
  | 'f' => some '\x0c'
  | 'n' => some '\n'
  | 'r' => some '\r'
  | 't' => some '\t'
  | 'v' => some '\x0b'
  | _ => none

/-- What stands for itself once escapes are replaced; other backslashes stay. -/
def unescape : Nat → List Char → List Char
  | 0, cs => cs
  | fuel + 1, cs =>
    match cs with
    | [] => []
    | '\\' :: '\n' :: rest => unescape fuel rest
    | '\\' :: c :: rest =>
      match escapeLetter? c with
      | some d => d :: unescape fuel rest
      | none =>
        match octalEscape (c :: rest) with
        | some (d, rest) => d :: unescape fuel rest
        | none => '\\' :: c :: unescape fuel rest
    | c :: rest => c :: unescape fuel rest

def unescaped (s : String) : String := String.ofList (unescape (s.length + 1) s.toList)

/-- The inside of a text up to its closing quote, and what follows. None if the line ends before. -/
def quotedPart : List Char → Option (List Char × List Char)
  | [] => none
  | '"' :: rest => some ([], rest)
  | '\\' :: c :: rest => (quotedPart rest).map fun r => ('\\' :: c :: r.1, r.2)
  | '\n' :: _ => none
  | c :: rest => (quotedPart rest).map fun r => (c :: r.1, r.2)

/-- The inside of an expression up to its closing slash, and what follows. A slash between brackets
does not close it. -/
def slashedPart : Nat → Bool → List Char → Option (List Char × List Char)
  | 0, _, _ => none
  | fuel + 1, boxed, cs =>
    let go (n : Nat) (boxed : Bool) : Option (List Char × List Char) :=
      (slashedPart fuel boxed (cs.drop n)).map fun r => (cs.take n ++ r.1, r.2)
    match cs with
    | [] => none
    | '\n' :: _ => none
    | '\\' :: '\n' :: rest => slashedPart fuel boxed rest
    | '\\' :: '/' :: rest => (slashedPart fuel boxed rest).map fun r => ('/' :: r.1, r.2)
    | '\\' :: _ :: _ => go 2 boxed
    | '/' :: rest => if boxed then go 1 true else some ([], rest)
    | '[' :: '^' :: ']' :: _ => if boxed then go 1 true else go 3 true
    | '[' :: ']' :: _ => if boxed then go 1 true else go 2 true
    | '[' :: ':' :: _ => if boxed then
        let name := (cs.drop 2).takeWhile Char.isAlpha
        if (cs.drop (2 + name.length)).take 2 == [':', ']'] then
          go (name.length + 4) true
        else go 1 true
      else go 1 true
    | '[' :: _ => go 1 true
    | ']' :: _ => go 1 false
    | _ :: _ => go 1 boxed

/-- A numeral in front of a text: its digits, its fraction, its exponent, and the rest. -/
def numeralPart (cs : List Char) : List Char × List Char :=
  let whole := cs.takeWhile Char.isDigit
  let rest := cs.drop whole.length
  let fraction : List Char := match rest with
    | '.' :: more => '.' :: more.takeWhile Char.isDigit
    | _ => []
  let rest := rest.drop fraction.length
  let exponent : List Char := match rest with
    | e :: more =>
      if e == 'e' || e == 'E' then
        let sign := (more.take 1).takeWhile fun c => c == '+' || c == '-'
        let ds := (more.drop sign.length).takeWhile Char.isDigit
        if ds.isEmpty then [] else e :: sign ++ ds
      else []
    | [] => []
  (whole ++ fraction ++ exponent, rest.drop exponent.length)

/-- Cuts a program into words. Complaints about too many closing marks are given as well, with their
lines. -/
def scan (program : String) : Array Placed × List (Nat × String) := Id.run do
  let source := program.toList ++ ['\n']
  let size := source.length
  let (skipped, start) := skipLines (size + 1) 0 source
  let mut rest := start
  let mut line := 1 + skipped
  let mut parens := 0
  let mut braces := 0
  let mut out : Array Placed := #[]
  let mut wrong : List (Nat × String) := []
  let mut last : Token := .newline
  for _ in [0:size + 1] do
    let (n, cs) := skipBlanks (size + 1) 0 rest
    line := line + n
    let here := line
    let mut token : Option Token := none
    let mut skips := false
    match cs with
    | [] =>
      out := out.push ⟨.finished, line, parens, braces⟩
      break
    | '\n' :: more =>
      token := some .newline
      rest := more
      line := line + 1
      skips := true
    | '"' :: more =>
      match quotedPart more with
      | some (inside, after) =>
        line := line + (inside.filter (· == '\n')).length
        token := some (.text (String.ofList (unescape (inside.length + 1) inside)))
        rest := after
      | none =>
        let begun := String.ofList ((more.takeWhile (· != '\n')).take 10)
        token := some (.broken ("runaway string constant \"" ++ begun ++ " ...") true)
    | '/' :: more =>
      if last.endsOperand then
        if more.head? == some '=' then
          token := some (.mark "/=")
          rest := more.drop 1
        else
          token := some (.mark "/")
          rest := more
      else match slashedPart (size + 1) false more with
        | some (inside, after) =>
          token := some (.regex (String.ofList inside))
          rest := after
        | none =>
          let begun := String.ofList ((more.takeWhile (· != '\n')).take 10)
          token := some (.broken ("runaway regular expression /" ++ begun ++ " ...") true)
    | c :: more =>
      if c.isDigit || (c == '.' && (more.head?.map Char.isDigit) == some true) then
        let (ds, after) := numeralPart cs
        let x := match readReal 53 ds with
          | some (r, _) => r.toFloat
          | none => 0
        token := some (.number x (String.ofList ds))
        rest := after
      else if isNameStart c then
        let word := cs.takeWhile isNameChar
        let s := String.ofList word
        rest := cs.drop word.length
        if keywords.contains s then
          token := some (.keyword s)
          if s == "do" || s == "else" then skips := true
        else if builtins.any fun b => b.1 == s then token := some (.builtin s)
        else token := some (.name s (rest.head? == some '('))
      else match longMarks.find? fun m => m.toList.isPrefixOf cs with
        | some m =>
          token := some (.mark m)
          rest := cs.drop 2
          if m == "&&" || m == "||" then skips := true
        | none =>
          if shortMarks.contains c then
            rest := more
            token := some (.mark (String.singleton c))
            if c == '(' then parens := parens + 1
            else if c == ')' then
              if parens == 0 then
                wrong := wrong ++ [(line, "extra ')'")]
                token := none
              else parens := parens - 1
            else if c == '\x7b' then
              braces := braces + 1
              skips := true
            else if c == '\x7d' then
              if braces == 0 then
                wrong := wrong ++ [(line, "extra '\x7d'")]
                token := none
                let (k, after) := skipBlanks (size + 1) 0 rest
                if after.head? == some ';' then
                  line := line + k
                  rest := after.drop 1
              else
                braces := braces - 1
                if braces == 0 then
                  let (k, after) := skipBlanks (size + 1) 0 rest
                  if after.head? == some ';' then
                    line := line + k
                    rest := after.drop 1
                skips := true
            else if c == ',' || c == ';' then skips := true
          else
            token := some (.broken ("unexpected character '" ++ String.singleton c ++ "'") false)
    if skips then
      let (k, after) := skipLines (size + 1) 0 rest
      line := line + k
      rest := after
    match token with
    | some t =>
      out := out.push ⟨t, here, parens, braces⟩
      last := t
      match t with
      | .broken _ _ => break
      | _ => pure ()
    | none => pure ()
  return (out, wrong)

end Token

end StudyFlow.Shell.Awk
