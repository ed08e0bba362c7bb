import StudyFlow.Shell.Regex
import StudyFlow.Shell.Awk.Token

/-!
The expressions of programs for records, and where they cut texts. An expression must have something
between its bars and in its parentheses.
-/

namespace StudyFlow.Shell.Awk

/-- Why a text is no expression. -/
inductive MatchFault where
  | operand
  | parenthesis
  | caret
  | bracket
  deriving Inhabited

def MatchFault.message : MatchFault → String
  | .operand => "missing operand"
  | .parenthesis => "missing ')'"
  | .caret => "syntax error ^* or ^+"
  | .bracket => "bad class -- [], [^] or ["

/-- The character that is meant behind a backslash, and what follows. -/
def escapedChar (cs : List Char) : Char × List Char :=
  match cs with
  | [] => ('\\', [])
  | c :: rest =>
    match Token.escapeLetter? c with
    | some d => (d, rest)
    | none => match Token.octalEscape cs with
      | some r => r
      | none => (c, rest)

/-- Reads a choice of characters behind its bracket. -/
def readChoice : Nat → Bool → List (Char × Char) → List Char →
    Except MatchFault (List (Char × Char) × List Char)
  | 0, _, _, _ => .error .bracket
  | fuel + 1, first, acc, cs =>
    match cs with
    | [] => .error .bracket
    | ']' :: rest =>
      if first then readChoice fuel false ((']', ']') :: acc) rest else .ok (acc, rest)
    | '[' :: ':' :: rest =>
      let name := rest.takeWhile Char.isAlpha
      match rest.drop name.length with
      | ':' :: ']' :: after =>
        match Regex.classRanges? (String.ofList name) with
        | some ranges => readChoice fuel false (acc ++ ranges) after
        | none => .error .bracket
      | _ => readChoice fuel false (('[', '[') :: acc) (':' :: rest)
    | c :: rest =>
      let (c, rest) := if c == '\\' then escapedChar rest else (c, rest)
      match rest with
      | '-' :: d :: after =>
        if d == ']' then readChoice fuel false ((c, c) :: acc) rest
        else
          let (d, after) := if d == '\\' then escapedChar after else (d, after)
          if d < c then readChoice fuel false ((c, c) :: ('-', '-') :: (d, d) :: acc) after
          else readChoice fuel false ((c, d) :: acc) after
      | _ => readChoice fuel false ((c, c) :: acc) rest

/-- How often braces repeat, and what follows, if they do. A least number of two or more counts
exactly. -/
def readTimes? (cs : List Char) : Option (Nat × Option Nat × List Char) :=
  let low := cs.takeWhile Char.isDigit
  let least := decimalOf (String.ofList low)
  let exactly (most : Option Nat) : Option Nat := if 2 ≤ least then some least else most
  match cs.drop low.length with
  | '\x7d' :: rest => if low.isEmpty then none else some (least, some least, rest)
  | ',' :: rest =>
    let high := rest.takeWhile Char.isDigit
    match rest.drop high.length with
    | '\x7d' :: rest =>
      if low.isEmpty && high.isEmpty then none
      else some (least, exactly (if high.isEmpty then none else
        some (decimalOf (String.ofList high))), rest)
    | _ => none
  | _ => none

/-- Applies the repetitions that follow. -/
def readTimes : Nat → Regex → List Char → Regex × List Char
  | 0, r, cs => (r, cs)
  | fuel + 1, r, cs =>
    match cs with
    | '*' :: rest => readTimes fuel (.repeated r 0 none) rest
    | '+' :: rest => readTimes fuel (.repeated r 1 none) rest
    | '?' :: rest => readTimes fuel (.repeated r 0 (some 1)) rest
    | '\x7b' :: rest =>
      match readTimes? rest with
      | some (least, most, rest) => readTimes fuel (.repeated r least most) rest
      | none => (r, cs)
    | cs => (r, cs)

mutual

def readEither : Nat → Nat → List Char → Except MatchFault (Regex × List Char)
  | 0, _, _ => .error .operand
  | fuel + 1, depth, cs => do
    let (r, cs) ← readRow fuel depth true .empty cs
    match cs with
    | '|' :: rest => do
      let (q, cs) ← readEither fuel depth rest
      return (.alt r q, cs)
    | cs => return (r, cs)

/-- Reads expressions that follow each other. -/
def readRow : Nat → Nat → Bool → Regex → List Char → Except MatchFault (Regex × List Char)
  | 0, _, _, _, _ => .error .operand
  | fuel + 1, depth, first, acc, cs => do
    let ended : Bool := match cs with
      | [] => true
      | '|' :: _ => true
      | ')' :: _ => depth != 0
      | _ => false
    if ended then
      if first then throw .operand
      return (acc, cs)
    let (r, rest) : Regex × List Char ← match cs with
      | '*' :: _ | '+' :: _ | '?' :: _ => throw .operand
      | '(' :: rest => do
        let (r, rest) ← match rest with
          | [] => throw .parenthesis
          | rest => readEither fuel (depth + 1) rest
        match rest with
        | ')' :: rest => pure (.group 0 r, rest)
        | _ => throw .parenthesis
      | '[' :: '^' :: rest => do
        let (ranges, rest) ← readChoice (rest.length + 1) true [] rest
        pure (.set true ranges, rest)
      | '[' :: rest => do
        let (ranges, rest) ← readChoice (rest.length + 1) true [] rest
        pure (.set false ranges, rest)
      | '.' :: rest => pure (.any, rest)
      | '^' :: rest =>
        match rest with
        | '*' :: _ | '+' :: _ => throw .caret
        | _ => pure (.lineStart, rest)
      | '$' :: rest => pure (.lineEnd, rest)
      | '\\' :: rest =>
        let (c, rest) := escapedChar rest
        pure (.one c, rest)
      | c :: rest => pure (.one c, rest)
      | [] => pure (.empty, [])
    let (r, rest) := readTimes (rest.length + 1) r rest
    readRow fuel depth false (if first then r else .seq acc r) rest

end

def readPattern (s : String) : Except MatchFault Regex :=
  if s.isEmpty then .ok .empty
  else match readEither (2 * s.length + 4) 0 s.toList with
    | .ok (r, _) => .ok r
    | .error f => .error f

/-- What separates the parts of a text. -/
inductive Separator where
  /-- Any blanks; those at the ends do not count. -/
  | blanks
  | char (c : Char)
  /-- Every character is a part of its own. -/
  | nothing
  | pattern (r : Regex)
  deriving Inhabited

def Separator.ofText (s : String) : Except MatchFault Separator :=
  match s.toList with
  | [] => .ok .nothing
  | [' '] => .ok .blanks
  | [c] => .ok (.char c)
  | _ => (readPattern s).map .pattern

/-- The separator that an expression stands for. -/
def Separator.ofPattern (source : String) (r : Regex) : Separator :=
  match source.toList with
  | [] => .nothing
  | [' '] => .char ' '
  | _ => .pattern r

/-- Words between blanks. -/
def blankWords (cs : List Char) : List String :=
  let blank (c : Char) : Bool := c == ' ' || c == '\t' || c == '\n'
  let (words, current) := cs.foldl (fun (acc : List String × List Char) c =>
    if blank c then
      if acc.2.isEmpty then acc else (String.ofList acc.2.reverse :: acc.1, [])
    else (acc.1, c :: acc.2)) ([], [])
  (if current.isEmpty then words else String.ofList current.reverse :: words).reverse

def Separator.split (sep : Separator) (s : String) : List String :=
  if s.isEmpty then []
  else match sep with
    | .blanks => blankWords s.toList
    | .char c => splitAtEach c s
    | .nothing => s.toList.map String.singleton
    | .pattern r => Id.run do
      let text := s.toList.toArray
      let subject : Regex.Subject := { text := text }
      let mut parts := #[]
      let mut start := 0
      let mut i := 0
      for _ in [0:text.size + 1] do
        match r.search? subject i with
        | some (k, st) =>
          if st.pos == k then
            i := k + 1
            if text.size < i then break
          else
            parts := parts.push (sliceOf text start k)
            start := st.pos
            i := st.pos
        | none => break
      parts := parts.push (sliceOf text start text.size)
      return parts.toList

/-- A replacement once the matched text is known. Backslashes in front of an ampersand count by
pairs; one that is left over keeps the ampersand as it is. -/
def replacement (found : List Char) : Nat → List Char → List Char
  | n, [] => List.replicate n '\\'
  | n, '\\' :: rest => replacement found (n + 1) rest
  | n, '&' :: rest =>
    List.replicate (n / 2) '\\' ++ (if n % 2 == 1 then ['&'] else found) ++ replacement found 0 rest
  | n, c :: rest => List.replicate n '\\' ++ c :: replacement found 0 rest

/-- A text with matches replaced, the first one or every one, and how many there were. -/
def replaceMatches (r : Regex) (every : Bool) (by_ s : String) : Nat × String :=
  let text := s.toList.toArray
  let subject : Regex.Subject := { text := text }
  let found := if every then r.searchAll subject
    else match r.search? subject 0 with
      | some m => [m]
      | none => []
  if found.isEmpty then (0, s)
  else
    let (out, last) := found.foldl (fun (acc : String × Nat) m =>
      let part := (text.extract m.1 m.2.pos).toList
      (acc.1 ++ sliceOf text acc.2 m.1 ++ String.ofList (replacement part 0 by_.toList), m.2.pos))
        ("", 0)
    (found.length, out ++ sliceOf text last text.size)

end StudyFlow.Shell.Awk
