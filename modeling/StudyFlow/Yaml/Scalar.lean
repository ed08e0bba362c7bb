import StudyFlow.Text.Numeral
import StudyFlow.Yaml.Cell

/-!
The text of scalars: plain, quoted and block scalars, with line folding and escapes. Each reader
takes the rest of the text and gives the characters of the scalar with what is left; none stands for
a text that no scalar of the kind starts.
-/

namespace StudyFlow.Yaml

/-- How a scalar is written. -/
inductive Style where
  | plain
  | singleQuoted
  | doubleQuoted
  | literal
  | folded
  deriving DecidableEq, Inhabited

/-- Spaces and line breaks between two words of a scalar. -/
structure Gap where
  /-- The spaces, as long as no line break is met. -/
  spaces : List Char := []
  /-- Whether a line break is in the gap. -/
  broken : Bool := false
  /-- The first line break, empty if it was escaped. -/
  first : List Char := []
  /-- The line breaks after the first one. -/
  later : List Char := []

/-- What a gap stands for: one line feed folds to a space or to the breaks after it. -/
def Gap.fold (g : Gap) : List Char :=
  if g.broken then
    if g.first == ['\n'] then (if g.later.isEmpty then [' '] else g.later) else g.first ++ g.later
  else g.spaces

/-- Reads a gap. A tab that stands left of the indentation on a further line is refused. -/
def readGap (indent : Int) : Gap → List Cell → Option (Gap × List Cell)
  | g, [] => some (g, [])
  | g, c :: cs =>
    if isSpace c.char then
      if g.broken then
        if (c.column : Int) < indent && c.char == '\t' then none else readGap indent g cs
      else readGap indent { g with spaces := g.spaces ++ [c.char] } cs
    else if isBreak c.char then
      if g.broken then readGap indent { g with later := g.later ++ [c.char] } cs
      else readGap indent { g with spaces := [], broken := true, first := [c.char] } cs
    else some (g, c :: cs)

def isFlowIndicator (c : Char) : Bool := c == ',' || c == '[' || c == ']' || c == '{' || c == '}'

/-- The characters of a plain scalar up to the next gap or indicator. -/
def plainRun (flow : Bool) : List Cell → Option (List Char × List Cell)
  | [] => some ([], [])
  | c :: cs =>
    let next := (cs.head?.map Cell.char).getD ' '
    if isSpace c.char || isBreak c.char then some ([], c :: cs)
    else if flow && c.char == ':' && !cs.isEmpty && (isFlowIndicator next || next == '?') then none
    else if (c.char == ':' && atGap cs) || (flow && isFlowIndicator c.char) then some ([], c :: cs)
    else (plainRun flow cs).map fun (run, rest) => (c.char :: run, rest)

/-- The rest of a plain scalar after a gap; the flag says whether its last gap holds a line
break. -/
def plainFrom (flow : Bool) (indent : Int) :
    Nat → Gap → List Cell → Option (List Char × Bool × List Cell)
  | 0, gap, cells => some ([], gap.broken, cells)
  | fuel + 1, gap, cells =>
    if atDocumentMark cells || startsWith '#' cells then some ([], gap.broken, cells)
    else match plainRun flow cells with
      | none => none
      | some ([], rest) => some ([], gap.broken, rest)
      | some (run, rest) =>
        if rest.isEmpty || !atGap rest then some (gap.fold ++ run, false, rest)
        else match readGap indent {} rest with
          | none => none
          | some (next, rest) =>
            if !flow && (columnOf rest : Int) < indent then
              some (gap.fold ++ run, next.broken, rest)
            else match plainFrom flow indent fuel next rest with
              | none => none
              | some (more, broken, rest) => some (gap.fold ++ run ++ more, broken, rest)

/-- Reads a plain scalar. Its further lines in block context are at least at column `indent`. -/
def readPlain (flow : Bool) (indent : Int) (cells : List Cell) :
    Option (List Char × Bool × List Cell) :=
  plainFrom flow indent (cells.length + 1) {} cells

def simpleEscape? : Char → Option Char
  | '0' => some '\x00'
  | 'a' => some '\x07'
  | 'b' => some '\x08'
  | 't' => some '\t'
  | '\t' => some '\t'
  | 'n' => some '\n'
  | 'v' => some '\x0b'
  | 'f' => some '\x0c'
  | 'r' => some '\r'
  | 'e' => some '\x1b'
  | ' ' => some ' '
  | '"' => some '"'
  | '/' => some '/'
  | '\\' => some '\\'
  | 'N' => some (Char.ofNat 0x85)
  | '_' => some (Char.ofNat 0xA0)
  | 'L' => some (Char.ofNat 0x2028)
  | 'P' => some (Char.ofNat 0x2029)
  | _ => none

/-- How many hexadecimal digits follow the letter of an escape. -/
def escapeWidth? : Char → Option Nat
  | 'x' => some 2
  | 'u' => some 4
  | 'U' => some 8
  | _ => none

/-- The character with a code point, if there is one. -/
def charOf? (n : Nat) : Option Char := if h : n.isValidChar then some (Char.ofNatAux n h) else none

def readEscape : List Cell → Option (Char × List Cell)
  | [] => none
  | c :: cs => match simpleEscape? c.char with
    | some d => some (d, cs)
    | none => match escapeWidth? c.char with
      | none => none
      | some width =>
        let ds := (cs.take width).map Cell.char
        if ds.length < width then none
        else ((Text.digits? 16 ds).bind charOf?).map fun d => (d, cs.drop width)

/-- The characters of a quoted scalar up to a gap or the closing quote. The flag says whether a
backslash in front of a line break ended the run. -/
def quotedRun (double : Bool) : Nat → List Cell → Option (List Char × Bool × List Cell)
  | 0, _ => none
  | _ + 1, [] => some ([], false, [])
  | fuel + 1, c :: cs =>
    let extend (d : Char) (rest : List Cell) : Option (List Char × Bool × List Cell) :=
      (quotedRun double fuel rest).map fun (run, broken, rest) => (d :: run, broken, rest)
    if isSpace c.char || isBreak c.char then some ([], false, c :: cs)
    else if !double && c.char == '\'' then
      if startsWith '\'' cs then extend '\'' (cs.drop 1) else some ([], false, c :: cs)
    else if double && c.char == '"' then some ([], false, c :: cs)
    else if double && c.char == '\\' then
      if !cs.isEmpty && atBreak cs then some ([], true, cs.drop 1)
      else match readEscape cs with
        | none => none
        | some (d, rest) => extend d rest
    else extend c.char cs

/-- The rest of a quoted scalar, up to its closing quote, which is dropped. -/
def quotedFrom (double : Bool) : Nat → List Cell → Option (List Char × List Cell)
  | 0, _ => none
  | fuel + 1, cells =>
    if atDocumentMark cells || cells.isEmpty then none
    else match quotedRun double (cells.length + 1) cells with
      | none => none
      | some (run, escaped, rest) =>
        if startsWith (if double then '"' else '\'') rest then some (run, rest.drop 1)
        else match readGap (-1) { broken := escaped } rest with
          | none => none
          | some (gap, rest) =>
            (quotedFrom double fuel rest).map fun (more, rest) => (run ++ gap.fold ++ more, rest)

def readQuoted (double : Bool) (cells : List Cell) : Option (List Char × List Cell) :=
  quotedFrom double (cells.length + 1) cells

/-- What happens to the line breaks at the end of a block scalar. -/
inductive Chomp where
  | strip
  | clip
  | keep
  deriving DecidableEq

/-- Indentation and line breaks in front of the next line with content. An `indent` of zero is yet
to be found; the number is the greatest column that was reached. -/
def blockBreaks (indent : Nat) : Nat → List Cell → Option (List Char × Nat × List Cell)
  | most, [] => some ([], most, [])
  | most, c :: cs =>
    let inside := indent == 0 || c.column < indent
    if c.char == ' ' && inside then blockBreaks indent most cs
    else
      let most := max most c.column
      if c.char == '\t' && inside then none
      else if isBreak c.char then
        (blockBreaks indent most cs).map fun (breaks, most, rest) => (c.char :: breaks, most, rest)
      else some ([], most, c :: cs)

/-- The content of a block scalar after its first break. It gives the text, the last line break, the
breaks after it and the rest. -/
def blockLines (literal : Bool) (indent : Nat) :
    Nat → List Char → List Char → Bool → List Cell →
      Option (List Char × List Char × List Char × List Cell)
  | 0, last, later, _, cells => some ([], last, later, cells)
  | fuel + 1, last, later, wasIndented, cells =>
    match cells with
    | [] => some ([], last, later, [])
    | c :: _ =>
      if c.column != indent then some ([], last, later, cells)
      else
        let isIndented := isSpace c.char
        let joint :=
          if !literal && last == ['\n'] && !wasIndented && !isIndented then
            (if later.isEmpty then [' '] else [])
          else last
        let (line, rest) := spanWhile (fun d => !isBreak d) cells
        let last := (rest.take 1).map Cell.char
        match blockBreaks indent 0 (rest.drop 1) with
        | none => none
        | some (breaks, _, rest) =>
          (blockLines literal indent fuel last breaks isIndented rest).map
            fun (more, last, breaks, rest) => (joint ++ later ++ line ++ more, last, breaks, rest)

/-- The header of a block scalar: chomping and the indentation digit, in either order. -/
def blockHeader (cells : List Cell) : Option (Chomp × Option Nat × List Cell) :=
  let chompOf (cells : List Cell) : Chomp × List Cell :=
    if startsWith '+' cells then (.keep, cells.drop 1)
    else if startsWith '-' cells then (.strip, cells.drop 1)
    else (.clip, cells)
  let digitOf (cells : List Cell) : Option (Option Nat × List Cell) :=
    match cells with
    | [] => some (none, [])
    | c :: cs =>
      if c.char == '0' then none
      else if c.char.isDigit then some (some (c.char.toNat - '0'.toNat), cs)
      else some (none, cells)
  let (chomp, rest) := chompOf cells
  match digitOf rest with
  | none => none
  | some (digit, rest) =>
    if chomp == .clip && digit.isSome then
      let (chomp, rest) := chompOf rest
      some (chomp, digit, rest)
    else some (chomp, digit, rest)

/-- Reads a block scalar after its indicator, inside a collection at indentation `outer`. -/
def readBlock (literal : Bool) (outer : Int) (cells : List Cell) : Option (List Char × List Cell) :=
  match blockHeader cells with
  | none => none
  | some (chomp, digit, rest) =>
    let rest := skipToBreak rest
    if !atBreak rest then none
    else
      let given : Nat := match digit with
        | some d => (if 0 ≤ outer then outer + d else d : Int).toNat
        | none => 0
      match blockBreaks given 0 (rest.drop 1) with
      | none => none
      | some (breaks, most, rest) =>
        let indent := if given == 0 then max (max most (outer + 1).toNat) 1 else given
        match blockLines literal indent (rest.length + 1) [] breaks false rest with
        | none => none
        | some (text, last, later, rest) =>
          let ending := match chomp with
            | .strip => []
            | .clip => last
            | .keep => last ++ later
          some (text ++ ending, rest)

end StudyFlow.Yaml
