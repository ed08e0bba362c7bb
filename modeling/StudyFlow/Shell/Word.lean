import StudyFlow.Shell.Source

/-!
Reading words: quotations, parameters, command substitutions and arithmetic. What a word is read
for, its ground, says which characters end it and which keep their meaning.
-/

namespace StudyFlow.Shell

/-- What a word is read for. -/
inductive Ground where
  /-- A word of a command, which blanks and operators end. -/
  | word
  /-- The word of an expansion, which a brace ends. -/
  | brace
  /-- The pattern of a replacement, which a slash or a brace ends. -/
  | pattern
  /-- Text in double quotes. -/
  | quotes
  /-- The word of an expansion in double quotes. -/
  | quotedBrace
  /-- An expression, which a closing parenthesis ends. -/
  | arithmetic
  /-- A part of an arithmetic loop, which a semicolon or a closing parenthesis ends. -/
  | clause
  /-- The index of an array. -/
  | index
  /-- The offset of a slice. -/
  | offset
  /-- The lines of a document. -/
  | document
  /-- A regular expression in a condition. -/
  | regex
  /-- A pattern in a condition. -/
  | matched
  deriving DecidableEq, Inhabited

def Ground.isQuoted : Ground → Bool
  | .quotes | .quotedBrace | .arithmetic | .clause | .index | .offset | .document => true
  | _ => false

inductive Ending where
  /-- The end of the line. -/
  | line
  /-- A token that closes what the list is in, after at least one command. -/
  | body
  /-- A token that closes what the list is in. -/
  | closing
  deriving DecidableEq, Inhabited

/-- The parts of the grammar that contain each other. -/
structure Grammar where
  commands : Ending → Reader (List Command)
  command : Reader Command
  parts : Ground → Reader Word

namespace Reader

/-- Blanks between words. -/
def isSpace (c : Char) : Bool := c == ' ' || c == '\t'

/-- Characters that end a word of a command. -/
def isMeta (c : Char) : Bool :=
  c == ' ' || c == '\t' || c == '\n' || c == '|' || c == '&' || c == ';' || c == '<' || c == '>' ||
  c == '(' || c == ')'

/-- Names of parameters that are one character which is no letter. -/
def isSpecial (c : Char) : Bool :=
  c == '@' || c == '*' || c == '#' || c == '?' || c == '-' || c == '$' || c == '!'

/-- Adds a character to the parts of a word, the last one first. -/
def addChar (quoted : Bool) (c : Char) : List Part → List Part
  | .text q s :: ps =>
    if q == quoted then .text q (s.push c) :: ps
    else .text quoted (String.singleton c) :: .text q s :: ps
  | ps => .text quoted (String.singleton c) :: ps

/-- Adds text to the parts of a word, the last one first. -/
def addText (quoted : Bool) (t : String) : List Part → List Part
  | .text q s :: ps => if q == quoted then .text q (s ++ t) :: ps else .text quoted t ::
    .text q s :: ps
  | ps => .text quoted t :: ps

def singleQuoted : Reader String := do
  let start := (← get).line
  let before := (← get).rest
  let inside := before.takeWhile (· != '\'')
  for _ in [0:inside.length] do
    skip
  if ← accept '\'' then
    return String.ofList (inside.filter fun c => c != replacedMark)
  else if ← isBash then stopAt start (.unclosed "'")
  else stop (.message "Unterminated quoted string")

/-- Digits of a base, at most so many, as a number. -/
def digitsUpTo (base n : Nat) : Reader (Option Nat) := do
  let mut value := none
  for _ in [0:n] do
    match ← peek with
    | some c =>
      let d :=
        if c.isDigit then c.toNat - 48
        else if 'a' ≤ c && c ≤ 'f' then c.toNat - 87
        else if 'A' ≤ c && c ≤ 'F' then c.toNat - 55
        else 99
      if d < base then
        skip
        value := some (value.getD 0 * base + d)
      else break
    | none => break
  return value

/-- The character that a letter after a backslash stands for. -/
def escapeOf? : Char → Option Nat
  | 'a' => some 7
  | 'b' => some 8
  | 'e' => some 27
  | 'E' => some 27
  | 'f' => some 12
  | 'n' => some 10
  | 'r' => some 13
  | 't' => some 9
  | 'v' => some 11
  | '\\' => some 92
  | '\'' => some 39
  | '"' => some 34
  | '?' => some 63
  | _ => none

/-- Reads a quotation in which backslashes stand for control characters. -/
def escapedQuoted : Reader String := do
  let start := (← get).line
  let mut out : String := ""
  let mut closed := false
  let mut cut := false
  for _ in [0:← bound] do
    match ← next with
    | none => break
    | some '\'' =>
      closed := true
      break
    | some '\\' =>
      match ← peek with
      | none => out := out.push '\\'
      | some c =>
        let piece ← match escapeOf? c with
          | some n => do
            skip
            pure (String.singleton (Char.ofNat n))
          | none => do
            if c == 'x' then
              skip
              match ← digitsUpTo 16 2 with
              | some n => pure (String.singleton (Char.ofNat n))
              | none => pure "\\x"
            else if c == 'u' || c == 'U' then
              skip
              match ← digitsUpTo 16 (if c == 'u' then 4 else 8) with
              | some n => pure (octetsOfText (String.singleton (Char.ofNat n)))
              | none => pure ("\\" ++ String.singleton c)
            else if c == 'c' then
              skip
              match ← next with
              | some d => pure (String.singleton (Char.ofNat (d.toUpper.toNat % 32)))
              | none => pure "\\c"
            else match ← digitsUpTo 8 3 with
              | some n => pure (String.singleton (Char.ofNat (n % 256)))
              | none => do
                skip
                pure ("\\" ++ String.singleton c)
        if piece == "\x00" then cut := true
        if !cut then out := out ++ piece
    | some c => if !cut then out := out.push c
  if closed then return out else stopAt start (.unclosed "'")

/-- Reads the text of a backquoted script; the first quote has been read. -/
def backquoted (quoted : Bool) : Reader String := do
  let start := (← get).line
  let mut out : String := ""
  let mut closed := false
  for _ in [0:← bound] do
    match ← next with
    | none => break
    | some '\x60' =>
      closed := true
      break
    | some '\\' =>
      match ← peek with
      | some '\n' =>
        if ← isBash then out := out.push '\\' else skip
      | some c =>
        if c == '\\' || c == '\x60' || c == '$' || (quoted && c == '"') then
          skip
          out := out.push c
        else out := out.push '\\'
      | none => out := out.push '\\'
    | some c => out := out.push c
  if closed then return out
  else if ← isBash then stopAt start (.unclosed "`")
  else stop (.message "EOF in backquote substitution")

/-- Reads commands from a text of its own. -/
def within (g : Grammar) (text : String) : Reader (List Command) := do
  let outer ← get
  set { outer with rest := text.toList, line := 1, active := [], pushed := none, waiting := [],
                   lineStart := text.toList, lineEnded := false }
  let body ← g.commands .closing
  let inner ← get
  match inner.pushed with
  | some .done | none => pure ()
  | some t => stop (.unexpected t none)
  set { outer with documents := inner.documents, nextDocument := inner.nextDocument,
                   remarks := inner.remarks }
  return body

def parenthesised (g : Grammar) : Reader (List Command) := do
  let waiting := (← get).waiting
  modify fun s => { s with waiting := [] }
  let body ← g.commands .closing
  let s ← get
  match s.pushed with
  | some (.operator ")") => set { s with pushed := none, waiting := waiting ++ s.waiting }
  | some t => stop (.unexpected t (some "\")\""))
  | none => stop (.unexpected .done (some "\")\""))
  return body

/-- Reads a command substitution; its opening parenthesis has been read. -/
def substitution (g : Grammar) (quoted : Bool) : Reader Part := do
  if ← isBash then
    let start := (← get).line
    let before := (← get).rest
    let read : Reader (Option String) := do
      let _ ← parenthesised g
      let text ← since before
      return some (String.ofList text.toList.dropLast)
    let text? ← tryCatch read fun fault =>
      match fault.flaw with
      | .unexpected .done _ => do stopAt start (.unclosed ")")
      | _ => throw fault
    return .script quoted (text?.getD "")
  else
    return .output quoted (← parenthesised g)

def closeBrace (start : Nat) : Reader Unit := do
  if ← accept '}' then pure ()
  else if ← isBash then stopAt start (.unclosed "\x7d")
  else stopAt start (.message "Missing '\x7d'")

/-- Reads the word of an expansion in braces, and what follows a slash as well. -/
def replacementParts (g : Grammar) : Reader (Word × Word) := do
  let pattern ← g.parts .pattern
  if ← accept '/' then return (pattern, ← g.parts .brace)
  else return (pattern, [])

/-- Reads the index of an array; its bracket has been read. -/
def bracketed (g : Grammar) : Reader Index := do
  let start := (← get).line
  let index ← match ← peek, ← peekSecond with
    | some '@', some ']' => do
      skip
      pure (Index.all false)
    | some '*', some ']' => do
      skip
      pure (Index.all true)
    | _, _ => Index.at <$> g.parts .index
  if ← accept ']' then return index else stopAt start (.unclosed "]")

/-- Reads the name of a parameter in braces: a name, a number or a special character. -/
def parameterName : Reader (Option String) := do
  match ← peekJoined with
  | none => return none
  | some c =>
    if isNameStart c then return some (← takeWhile isNameChar)
    else if c.isDigit then return some (← takeWhile Char.isDigit)
    else if isSpecial c then
      skip
      return some (String.singleton c)
    else return none

/-- How an unset parameter is handled, from the character that says so. -/
def fallbackOf? : Char → Option Fallback
  | '-' => some .default
  | '=' => some .assign
  | '+' => some .alternative
  | '?' => some .complain
  | _ => none

/-- Reads an expansion in braces by the rules of the small shell. -/
def bracesPlain (g : Grammar) (quoted : Bool) (start : Nat) : Reader Part := do
  let inner := if quoted then Ground.quotedBrace else .brace
  let bad : Reader Part := do
    let _ ← g.parts inner
    closeBrace start
    return .parameter quoted (.mk "" .none false) (.bad "")
  let subject (name : String) : Subject := .mk name .none false
  let operator (name : String) : Reader Part := do
    match ← peekJoined with
    | some '}' =>
      skip
      return .parameter quoted (subject name) .plain
    | some '#' =>
      skip
      let longest ← acceptJoined '#'
      let pattern ← g.parts .brace
      closeBrace start
      return .parameter quoted (subject name) (.trim true longest pattern)
    | some '%' =>
      skip
      let longest ← acceptJoined '%'
      let pattern ← g.parts .brace
      closeBrace start
      return .parameter quoted (subject name) (.trim false longest pattern)
    | some c =>
      let emptyToo ← if c == ':' then do
          skip
          pure true
        else pure false
      match (← peekJoined).bind fallbackOf? with
      | some kind =>
        skip
        let word ← g.parts inner
        closeBrace start
        return .parameter quoted (subject name) (.fallback kind emptyToo word)
      | none => bad
    | none => bad
  let length (name : String) : Reader Part := do
    if (← peekJoined) == some '}' then
      skip
      return .parameter quoted (subject name) .length
    else bad
  if ← acceptJoined '#' then
    match ← peekJoined with
    | some '}' =>
      skip
      return .parameter quoted (subject "#") .plain
    | some c =>
      if isNameChar c then
        match ← parameterName with
        | some name => length name
        | none => bad
      else if (← peekSecond) == some '}' then
        if isSpecial c then
          skip
          length (String.singleton c)
        else bad
      else operator "#"
    | none => bad
  else match ← parameterName with
    | some name => operator name
    | none => bad

/-- Reads an expansion in braces by the rules of the larger shell. -/
def bracesFull (g : Grammar) (quoted : Bool) (start : Nat) (before : List Char) : Reader Part := do
  let inner := if quoted then Ground.quotedBrace else .brace
  let bad : Reader Part := do
    let _ ← g.parts inner
    closeBrace start
    return .parameter quoted (.mk "" .none false) (.bad (← since before))
  let finish (s : Subject) (m : Modifier) : Reader Part := do
    if (← peek) == some '}' then
      skip
      return .parameter quoted s m
    else if (← peek) == none then
      closeBrace start
      bad
    else bad
  let index : Reader Index := do
    if ← accept '[' then bracketed g else return .none
  let operator (s : Subject) : Reader Part := do
    match ← peek with
    | some '}' =>
      skip
      return .parameter quoted s .plain
    | some '#' =>
      skip
      let longest ← accept '#'
      let pattern ← g.parts .brace
      finish s (.trim true longest pattern)
    | some '%' =>
      skip
      let longest ← accept '%'
      let pattern ← g.parts .brace
      finish s (.trim false longest pattern)
    | some '/' =>
      skip
      let place ← match ← peek with
        | some '/' => do
          skip
          pure Place.every
        | some '#' => do
          skip
          pure Place.front
        | some '%' => do
          skip
          pure Place.back
        | _ => pure Place.first
      let (pattern, replacement) ← replacementParts g
      finish s (.substitute place pattern replacement)
    | some '^' =>
      skip
      let every ← accept '^'
      finish s (.casing true every (← g.parts .brace))
    | some ',' =>
      skip
      let every ← accept ','
      finish s (.casing false every (← g.parts .brace))
    | some '@' =>
      skip
      match ← next with
      | some c =>
        if (← peek) == some '}' && "UuLQEPAKak".toList.contains c then finish s (.transform c)
        else bad
      | none => bad
    | some ':' =>
      skip
      match (← peek).bind fallbackOf? with
      | some kind =>
        skip
        finish s (.fallback kind true (← g.parts inner))
      | none =>
        let offset ← g.parts .offset
        if ← accept ':' then finish s (.slice offset (some (← g.parts .offset)))
        else finish s (.slice offset none)
    | some c =>
      match fallbackOf? c with
      | some kind =>
        skip
        finish s (.fallback kind false (← g.parts inner))
      | none => bad
    | none => bad
  let second ← peekSecond
  if (← peek) == some '#' && second != some '}' then
    -- Either a length or the number of arguments with an operator.
    let isLength := match second with
      | some c => isNameChar c || isSpecial c
      | none => false
    if isLength then
      skip
      match ← parameterName with
      | some name =>
        let i ← index
        finish (.mk name i false) .length
      | none => bad
    else
      skip
      operator (.mk "#" .none false)
  else if (← peek) == some '!' && second != some '}' &&
    (second.map fun c => isNameChar c || isSpecial c)
      == some true then
    skip
    match ← parameterName with
    | some name =>
      match ← peek, ← peekSecond with
      | some '*', some '}' =>
        skip
        finish (.mk name .none false) (.names true)
      | some '@', some '}' =>
        skip
        finish (.mk name .none false) (.names false)
      | _, _ =>
        let i ← index
        match i, (← peek) with
        | .all joined, some '}' => finish (.mk name (.all joined) false) .keys
        | i, _ => operator (.mk name i true)
    | none => bad
  else match ← parameterName with
    | some name =>
      let i ← if isName name then index else pure .none
      operator (.mk name i false)
    | none => bad

/-- Reads an arithmetic expression up to its two parentheses. None if they do not close it. -/
def expression (g : Grammar) : Reader (Option Word) := do
  let parts ← g.parts .arithmetic
  match ← peek with
  | some ')' =>
    skip
    if ← acceptJoined ')' then return some parts else return none
  | _ => return none

/-- Reads what a dollar sign starts. None if it stands for itself. -/
def dollar (g : Grammar) (ground : Ground) (quoted : Bool) : Reader (Option Part) := do
  let start := (← get).line
  let before := (← get).rest
  match ← peekJoined with
  | some '(' =>
    skip
    if (← peekJoined) == some '(' then
      if ← isBash then
        let saved ← get
        skip
        let tried ← tryCatch (expression g) fun _ => pure none
        match tried with
        | some parts => return some (.arithmetic quoted parts)
        | none =>
          set saved
          return some (← substitution g quoted)
      else
        skip
        let mut all : Word := []
        -- An expression goes on after a parenthesis that does not close it.
        for _ in [0:← bound] do
          let parts ← g.parts .arithmetic
          match ← peek with
          | none => stop (.message "Missing '))'")
          | some _ =>
            skip
            if ← acceptJoined ')' then
              all := all ++ parts
              break
            else all := all ++ parts ++ [.text true ")"]
        return some (.arithmetic quoted all)
    else return some (← substitution g quoted)
  | some '{' =>
    skip
    if ← isBash then return some (← bracesFull g quoted start ('$' :: before))
    else return some (← bracesPlain g quoted start)
  | some '[' =>
    if ← isBash then
      skip
      let parts ← g.parts .index
      if ← accept ']' then return some (.arithmetic quoted parts)
      else stopAt start (.unclosed "]")
    else return none
  | some c =>
    if isNameStart c then
      return some (.parameter quoted (.mk (← takeWhile isNameChar) .none false) .plain)
    else if c.isDigit || isSpecial c then
      skip
      return some (.parameter quoted (.mk (String.singleton c) .none false) .plain)
    else if (← isBash) && !ground.isQuoted && c == '\'' then
      skip
      return some (.text true (← escapedQuoted))
    else return none
  | none => return none

/-- Reads text in double quotes, the first of which has been read. -/
def doubleQuoted (g : Grammar) : Reader Word := do
  let start := (← get).line
  let parts ← g.parts .quotes
  if ← accept '"' then return if parts.isEmpty then [.text true ""] else parts
  else if ← isBash then stopAt start (.unclosed "\"")
  else stop (.message "Unterminated quoted string")

/-- Whether a character is escaped by a backslash on quoted ground. -/
def isEscapable (ground : Ground) (c : Char) : Bool :=
  c == '\\' || c == '$' || c == '\x60' ||
  (c == '"' && (ground == .quotes || ground == .quotedBrace)) ||
  (c == '}' && ground == .quotedBrace)

/-- Whether a character ends a word on a ground, outside of brackets. -/
def endsGround (ground : Ground) (c : Char) : Bool :=
  match ground with
  | .word => isMeta c
  | .brace | .quotedBrace => c == '}'
  | .pattern => c == '}' || c == '/'
  | .quotes => c == '"'
  | .arithmetic => c == ')'
  | .clause => c == ')' || c == ';'
  | .index => c == ']'
  | .offset => c == ':' || c == '}'
  | .document => false
  | .regex => isSpace c || c == '\n'
  | .matched => isMeta c

/-- Whether a character opens or closes a bracket that counts on a ground. -/
def nesting (ground : Ground) (c : Char) : Int :=
  match ground with
  | .arithmetic | .clause | .offset | .regex => if c == '(' then 1 else if c == ')' then -1 else 0
  | .index => if c == '[' then 1 else if c == ']' then -1 else 0
  | _ => 0

/-- Whether a character may stand before alternatives in parentheses. -/
def startsAlternatives (c : Char) : Bool := c == '?' || c == '*' || c == '+' || c == '@' || c == '!'

/-- Reads parts of a word up to what ends them, which stays. -/
def parts (g : Grammar) (ground : Ground) : Reader Word := do
  let bash ← isBash
  let quoted := ground.isQuoted
  let mut acc : List Part := []
  let mut depth : Int := 0
  let mut alternatives : Nat := 0
  let mut inner := false
  let mut ternary := 0
  for _ in [0:← bound] do
    match ← peekJoined with
    | none => break
    | some c =>
      if endsGround ground c && depth ≤ 0 && alternatives == 0 && !inner
          && !(ground == .offset && c == ':' && ternary > 0) then
        -- Alternatives in parentheses and names of channels belong to a word as well.
        if bash && (c == '<' || c == '>') && ground == .word && (← peekSecond) == some '(' then
          skip
          skip
          let before := (← get).rest
          let _ ← parenthesised g
          let text ← since before
          acc := .conduit (c == '>') (String.ofList text.toList.dropLast) :: acc
        else break
      else if c == '\\' then
        skip
        if quoted then
          match ← peek with
          | some d =>
            if isEscapable ground d then
              skip
              acc := addChar true d acc
            else acc := addChar true '\\' acc
          | none => acc := addChar true '\\' acc
        else
          match ← next with
          | some d => acc := addChar true d acc
          | none => acc := addChar true '\\' acc
      else if c == '$' then
        skip
        if bash && !quoted && (← peek) == some '"' then pure ()
        else
          match ← dollar g ground quoted with
          | some p =>
            acc := match p with
              | .text true "" => .text true "" :: acc
              | .text q t => addText q t acc
              | p => p :: acc
          | none => acc := addChar quoted '$' acc
      else if c == '\x60' then
        skip
        let text ← backquoted (ground == .quotes || ground == .quotedBrace)
        if bash then acc := .script quoted text :: acc
        else acc := .output quoted (← within g text) :: acc
      else if c == '\'' && !quoted then
        skip
        let text ← singleQuoted
        acc := if text.isEmpty then .text true "" :: acc else addText true text acc
      else if c == '"' && ground == .quotedBrace then
        skip
        inner := !inner
        if acc.isEmpty then acc := .text true "" :: acc
      else if c == '"' && (ground == .arithmetic || ground == .index || ground == .clause ||
        ground == .offset)
          && bash then
        skip
      else if c == '"' && !quoted then
        skip
        let ps ← doubleQuoted g
        acc := match ps, acc with
          | .text true t :: rest, .text true s :: before =>
            rest.reverse ++ (.text true (s ++ t) :: before)
          | ps, acc => ps.reverse ++ acc
      else
        depth := depth + nesting ground c
        if c == '?' then ternary := ternary + 1
        if c == ':' && ternary > 0 then ternary := ternary - 1
        skip
        acc := addChar quoted c acc
        if alternatives > 0 then
          if c == '(' then alternatives := alternatives + 1
          else if c == ')' then alternatives := alternatives - 1
        else if bash && (ground == .word || ground == .matched) && startsAlternatives c
            && (ground == .matched || (← get).alternatives) && (← peek) == some '(' then
          skip
          acc := addChar quoted '(' acc
          alternatives := 1
  return acc.reverse

/-- Reads a word from a text of its own. -/
def partsWithin (g : Grammar) (ground : Ground) (text : String) (line : Nat) : Reader Word := do
  let outer ← get
  set { outer with rest := text.toList, line := line, active := [], pushed := none, waiting := [],
                   lineStart := text.toList, lineEnded := false }
  let word ← g.parts ground
  let inner ← get
  set { outer with documents := inner.documents, nextDocument := inner.nextDocument,
                   remarks := inner.remarks }
  return word

def documentLines (d : Announced) : Reader String := do
  let dropTabs (l : List Char) : List Char := if d.stripped then l.dropWhile (· == '\t') else l
  let mut out : List Char := []
  let mut joined := false
  let mut ended := false
  for _ in [0:← bound] do
    let rest := (← get).rest.filter fun c => c != replacedMark
    if rest.isEmpty then break
    let raw := rest.takeWhile (· != '\n')
    let hasEnd := raw.length < rest.length
    let shown := if joined then raw else dropTabs raw
    modify fun s =>
      let left := rest.drop (raw.length + 1)
      { s with rest := left, lineStart := left, line := if hasEnd then s.line + 1 else s.line,
               lineEnded := hasEnd, active := [] }
    if !joined && String.ofList shown == d.delimiter then
      ended := true
      break
    let slashes := (shown.reverse.takeWhile (· == '\\')).length
    joined := !d.verbatim && slashes % 2 == 1
    out := out ++ shown ++ (if hasEnd then ['\n'] else [])
  if !ended && (← isBash) then
    modify fun s => { s with remarks := s.remarks ++ [(s.line, "warning: here-document at line " ++
      d.line.repr ++ " delimited by end-of-file (wanted `" ++ d.delimiter ++ "')")] }
  return String.ofList out

def readDocuments (g : Grammar) : Reader Unit := do
  let waiting := (← get).waiting
  modify fun s => { s with waiting := [] }
  for d in waiting do
    let line := (← get).line
    let text ← documentLines d
    let word ← if d.verbatim then pure [Part.text true text] else partsWithin g .document text line
    modify fun s => { s with documents := (d.id, word) :: s.documents }

end Reader

end StudyFlow.Shell
