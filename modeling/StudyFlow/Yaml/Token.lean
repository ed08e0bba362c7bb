import StudyFlow.Yaml.Scalar

/-!
The tokens of a YAML text.

Whether a scalar or a collection is the key of a mapping is known only when the colon after it is
met, so a token may be followed by a later one that has to be put in front of it. `Scan` keeps the
places where a key may have started, and `Token.scan` gives the tokens in their final order. If the
text has a fault, it gives those tokens in front of the fault whose place is settled.
-/

namespace StudyFlow.Yaml

/-- A token: a mark of the structure, a scalar, or a property of a node. -/
inductive Token where
  | version (major minor : Nat)
  | handle (name expansion : String)
  | documentStart
  | documentEnd
  | sequenceStart
  | mappingStart
  | blockEnd
  | flowSequenceStart
  | flowSequenceEnd
  | flowMappingStart
  | flowMappingEnd
  | entry
  | comma
  | key
  | value
  | alias (name : String)
  | anchor (name : String)
  | tag (handle suffix : String)
  | scalar (style : Style) (text : String)
  deriving DecidableEq, Inhabited

structure KeyPlace where
  /-- The number of the token that the key starts with. -/
  number : Nat
  cell : Cell
  /-- Whether the token stands where only a key can stand. -/
  required : Bool

/-- A text on its way to tokens. -/
structure Scan where
  rest : List Cell
  /-- The place after the last character. -/
  ending : Cell
  tokens : Array Token := #[]
  /-- Columns of the open block collections, innermost first. -/
  indents : List Nat := []
  /-- Whether a key may start at the next token. -/
  keyAllowed : Bool := true
  /-- Possible keys, one for each open flow collection, innermost first, and one for the block
  level. -/
  keys : List (Option KeyPlace) := [none]

namespace Scan

def inFlow (s : Scan) : Bool := 1 < s.keys.length

/-- The column of the innermost block collection, minus one outside of all. -/
def indent (s : Scan) : Int :=
  match s.indents with
  | [] => -1
  | n :: _ => n

/-- The place of the next character. -/
def here (s : Scan) : Cell := s.rest.head?.getD s.ending

def push (s : Scan) (t : Token) : Scan := { s with tokens := s.tokens.push t }

def insertAt (s : Scan) (number : Nat) (t : Token) : Scan :=
  { s with tokens := (s.tokens.toList.take number ++ t :: s.tokens.toList.drop number).toArray }

/-- Whether a possible key has its colon too far away: on a further line or beyond 1024 bytes. -/
def isStale (s : Scan) (k : KeyPlace) : Bool :=
  k.cell.line < s.here.line || k.cell.index + 1024 < s.here.index

/-- Drops the possible keys that are out of reach; a required one among them is a fault. -/
def dropStale (s : Scan) : Option Scan :=
  let stale (k : Option KeyPlace) : Bool := (k.map s.isStale).getD false
  let required (k : Option KeyPlace) : Bool := (k.map KeyPlace.required).getD false
  if s.keys.any fun k => stale k && required k then none
  else some { s with keys := s.keys.map fun k => if stale k then none else k }

/-- Gives up the possible key of the innermost collection; a required one is a fault. -/
def dropKey (s : Scan) : Option Scan :=
  match s.keys with
  | some k :: ks => if k.required then none else some { s with keys := none :: ks }
  | _ => some s

/-- Notes that a key may start with the next token. -/
def noteKey (s : Scan) : Option Scan :=
  if !s.keyAllowed then some s
  else
    let place : KeyPlace :=
      { number := s.tokens.size, cell := s.here,
        required := !s.inFlow && s.indent == (s.here.column : Int) }
    s.dropKey.map fun s => { s with keys := some place :: s.keys.drop 1 }

/-- Opens a block collection at a column, unless one is open there or further right. -/
def openBlock (s : Scan) (column : Nat) (number : Option Nat) (t : Token) : Scan :=
  if s.inFlow || (column : Int) ≤ s.indent then s
  else
    let s := { s with indents := column :: s.indents }
    match number with
    | none => s.push t
    | some n => s.insertAt n t

/-- Closes the block collections that stand right of a column. -/
def closeBlocks (s : Scan) (column : Int) : Scan :=
  if s.inFlow then s
  else
    let open_ := s.indents.dropWhile fun (n : Nat) => decide (column < (n : Int))
    let closed := s.indents.length - open_.length
    { s with indents := open_, tokens := s.tokens ++ Array.replicate closed Token.blockEnd }

/-- The mark that a text may carry in front of its lines. It takes up a column of its line. -/
def byteOrderMark : Char := Char.ofNat 0xFEFF

/-- The rest of a text after the mark in front of a line. -/
def skipMark : List Cell → List Cell
  | c :: cs => if c.column == 0 && c.char == byteOrderMark then cs else c :: cs
  | [] => []

/-- The rest of the text from the next token on, and whether a line break in block context was
passed. -/
def skipToToken (flow : Bool) : Nat → Bool → List Cell → Bool × List Cell
  | 0, allowed, cells => (allowed, cells)
  | fuel + 1, allowed, cells =>
    let rest := skipWhile (fun c => c == ' ' || ((flow || !allowed) && c == '\t')) (skipMark cells)
    let rest := if startsWith '#' rest then skipWhile (fun c => !isBreak c) rest else rest
    match rest with
    | [] => (allowed, [])
    | c :: cs =>
      if isBreak c.char then skipToToken flow fuel (allowed || !flow) cs else (allowed, c :: cs)

def take (s : Scan) (length : Nat) (t : Token) : Scan :=
  { s.push t with rest := s.rest.drop length }

/-- A mark between documents. -/
def documentMark (s : Scan) (t : Token) : Option Scan :=
  (s.closeBlocks (-1)).dropKey.map fun s => { s.take 3 t with keyAllowed := false }

def openFlow (s : Scan) (t : Token) : Option Scan :=
  s.noteKey.map fun s => { s.take 1 t with keys := none :: s.keys, keyAllowed := true }

def closeFlow (s : Scan) (t : Token) : Option Scan :=
  s.dropKey.map fun s =>
    { s.take 1 t with keys := if s.inFlow then s.keys.drop 1 else s.keys, keyAllowed := false }

def flowComma (s : Scan) : Option Scan :=
  s.dropKey.map fun s => { s.take 1 .comma with keyAllowed := true }

/-- An entry of a block sequence; it stands where a key could stand. -/
def blockEntry (s : Scan) : Option Scan :=
  if !s.inFlow && !s.keyAllowed then none
  else
    (s.openBlock s.here.column none .sequenceStart).dropKey.map fun s =>
      { s.take 1 .entry with keyAllowed := true }

def explicitKey (s : Scan) : Option Scan :=
  if !s.inFlow && !s.keyAllowed then none
  else
    (s.openBlock s.here.column none .mappingStart).dropKey.map fun s =>
      { s.take 1 .key with keyAllowed := !s.inFlow }

/-- The colon of a value: after a possible key that key is now certain. -/
def valueMark (s : Scan) : Option Scan :=
  match s.keys with
  | some k :: ks =>
    let s := s.insertAt k.number .key
    let s := s.openBlock k.cell.column (some k.number) .mappingStart
    some { s.take 1 .value with keys := none :: ks, keyAllowed := false }
  | _ =>
    if !s.inFlow && !s.keyAllowed then none
    else
      let s := s.openBlock s.here.column none .mappingStart
      some { s.take 1 .value with keyAllowed := !s.inFlow }

/-- An anchor or an alias: a name after its mark. -/
def named (s : Scan) (make : String → Token) : Option Scan :=
  s.noteKey.bind fun s =>
    let (name, rest) := spanWhile isWordChar (s.rest.drop 1)
    let ends := atGap rest || (rest.take 1).any fun c =>
      ['?', ':', ',', ']', '}', '%', '@', Char.ofNat 0x60].contains c.char
    if name.isEmpty || !ends then none
    else some { s.push (make (String.ofList name)) with rest := rest, keyAllowed := false }

/-- Characters of a tag besides letters and digits. -/
def isTagChar (verbatim : Bool) (c : Char) : Bool :=
  isWordChar c || ";/?:@&=+$.!~*'()".toList.contains c ||
    (verbatim && (c == ',' || c == '[' || c == ']'))

/-- The characters of a tag, in which a percent sign escapes an octet. Octets beyond ASCII are read
as a whole sequence. -/
def tagText (verbatim : Bool) : Nat → List Cell → Option (List UInt8 × List Cell)
  | 0, _ => none
  | _ + 1, [] => some ([], [])
  | fuel + 1, c :: cs =>
    if c.char == '%' then
      match Text.digits? 16 ((cs.take 2).map Cell.char) with
      | some n =>
        if (cs.take 2).length < 2 then none
        else (tagText verbatim fuel (cs.drop 2)).map fun (bs, rest) => (n.toUInt8 :: bs, rest)
      | none => none
    else if isTagChar verbatim c.char then
      (tagText verbatim fuel cs).map fun (bs, rest) => (c.char.toNat.toUInt8 :: bs, rest)
    else some ([], c :: cs)

/-- Reads the text of a tag, which ends at its first zero octet. The flag says whether nothing is
there. -/
def readTagText (verbatim : Bool) (cells : List Cell) : Option (String × Bool × List Cell) :=
  (tagText verbatim (cells.length + 1) cells).bind fun (bytes, rest) =>
    (String.fromUTF8? ⟨bytes.toArray⟩).map fun text =>
      (String.ofList (text.toList.takeWhile (· != '\x00')), text.isEmpty, rest)

/-- Reads a handle: an exclamation mark, a name, and perhaps a second exclamation mark. -/
def readHandle (cells : List Cell) : Option (String × Bool × List Cell) :=
  if !startsWith '!' cells then none
  else
    let (name, rest) := spanWhile isWordChar (cells.drop 1)
    if startsWith '!' rest then some (String.ofList ('!' :: name ++ ['!']), true, rest.drop 1)
    else some (String.ofList ('!' :: name), false, rest)

/-- A tag: verbatim between angle brackets, or a handle and a suffix. -/
def readTag (cells : List Cell) : Option (Token × List Cell) :=
  if startsWith '<' (cells.drop 1) then
    (readTagText true (cells.drop 2)).bind fun (text, isEmpty, rest) =>
      if isEmpty || !startsWith '>' rest then none else some (.tag "" text, rest.drop 1)
  else
    (readHandle cells).bind fun (handle, closed, rest) =>
      (readTagText false rest).bind fun (suffix, isEmpty, rest) =>
        if closed then
          if isEmpty then none else some (.tag handle suffix, rest)
        else
          let suffix := String.ofList (handle.toList.drop 1) ++ suffix
          if suffix.isEmpty then some (.tag "" "!", rest) else some (.tag "!" suffix, rest)

def tagMark (s : Scan) : Option Scan :=
  s.noteKey.bind fun s =>
    (readTag s.rest).bind fun (t, rest) =>
      if (s.inFlow && startsWith ',' rest) || atGap rest then
        some { s.push t with rest := rest, keyAllowed := false }
      else none

def blockScalar (s : Scan) (literal : Bool) : Option Scan :=
  s.dropKey.bind fun s =>
    (readBlock literal s.indent (s.rest.drop 1)).map fun (text, rest) =>
      { s.push (.scalar (if literal then .literal else .folded) (String.ofList text)) with
        rest := rest, keyAllowed := true }

def quotedScalar (s : Scan) (double : Bool) : Option Scan :=
  s.noteKey.bind fun s =>
    (readQuoted double (s.rest.drop 1)).map fun (text, rest) =>
      { s.push (.scalar (if double then .doubleQuoted else .singleQuoted) (String.ofList text)) with
        rest := rest, keyAllowed := false }

def plainScalar (s : Scan) : Option Scan :=
  s.noteKey.bind fun s =>
    (readPlain s.inFlow (s.indent + 1) s.rest).map fun (text, broken, rest) =>
      { s.push (.scalar .plain (String.ofList text)) with rest := rest, keyAllowed := broken }

/-- A number of at most nine digits. -/
def versionNumber? (ds : List Char) : Option Nat :=
  if 9 < ds.length then none else Text.digits? 10 ds

/-- Reads a directive after its percent sign, up to the end of its line. -/
def readDirective (cells : List Cell) : Option (Token × List Cell) :=
  let (name, rest) := spanWhile isWordChar cells
  if !atGap rest then none
  else
    let body := skipWhile isSpace rest
    let token : Option (Token × List Cell) :=
      if name == "YAML".toList then
        let (major, rest) := spanWhile Char.isDigit body
        let (minor, rest') := spanWhile Char.isDigit (rest.drop 1)
        match versionNumber? major, versionNumber? minor with
        | some a, some b => if startsWith '.' rest then some (.version a b, rest') else none
        | _, _ => none
      else if name == "TAG".toList then
        (readHandle body).bind fun (handle, closed, rest) =>
          if (!closed && handle != "!") || rest.isEmpty ||
            !isSpace (rest.head?.map Cell.char |>.getD 'x')
          then none
          else
            (readTagText true (skipWhile isSpace rest)).bind fun (text, isEmpty, rest) =>
              if isEmpty || !atGap rest then none else some (.handle handle text, rest)
      else none
    token.bind fun (t, rest) =>
      let rest := skipToBreak rest
      if atBreak rest then some (t, rest.drop 1) else none

def directive (s : Scan) : Option Scan :=
  (s.closeBlocks (-1)).dropKey.bind fun s =>
    (readDirective (s.rest.drop 1)).map fun (t, rest) =>
      { s.push t with rest := rest, keyAllowed := false }

/-- Characters that a plain scalar cannot start with, whatever follows. -/
def isIndicator (c : Char) : Bool :=
  "-?:,[]{}#&*!|>'\"%@".toList.contains c || c == Char.ofNat 0x60

/-- Reads the next token of a text that is not used up. -/
def next (s : Scan) (c : Cell) (cs : List Cell) : Option Scan :=
  let gapAfter := atGap cs
  if c.column == 0 && c.char == '%' then s.directive
  else if atMark '-' s.rest then s.documentMark .documentStart
  else if atMark '.' s.rest then s.documentMark .documentEnd
  else if c.char == '[' then s.openFlow .flowSequenceStart
  else if c.char == '{' then s.openFlow .flowMappingStart
  else if c.char == ']' then s.closeFlow .flowSequenceEnd
  else if c.char == '}' then s.closeFlow .flowMappingEnd
  else if c.char == ',' then s.flowComma
  else if c.char == '-' && gapAfter then s.blockEntry
  else if c.char == '?' && (s.inFlow || gapAfter) then s.explicitKey
  else if c.char == ':' && (s.inFlow || gapAfter) then s.valueMark
  else if c.char == '*' then s.named .alias
  else if c.char == '&' then s.named .anchor
  else if c.char == '!' then s.tagMark
  else if c.char == '|' && !s.inFlow then s.blockScalar true
  else if c.char == '>' && !s.inFlow then s.blockScalar false
  else if c.char == '\'' then s.quotedScalar false
  else if c.char == '"' then s.quotedScalar true
  else if !(isSpace c.char || isIndicator c.char) then s.plainScalar
  else if c.char == '-' then s.plainScalar
  else if !s.inFlow && (c.char == '?' || c.char == ':') then s.plainScalar
  else none

/-- How many tokens in front are settled: those before the first one that may still become a key. -/
def settled (s : Scan) : Nat :=
  s.keys.foldl (fun n k => match k with
    | some place => min n place.number
    | none => n) s.tokens.size

/-- Closes what is open at the end of the text. -/
def finish (s : Scan) : Option Scan :=
  (s.closeBlocks (-1)).dropKey

/-- Reads tokens to the end or to a fault. It gives the settled tokens and whether the end was
reached. -/
def run : Nat → Nat → Scan → List Token × Bool
  | 0, ready, s => (s.tokens.toList.take ready, false)
  | fuel + 1, ready, s =>
    let (allowed, rest) := skipToToken s.inFlow (s.rest.length + 1) s.keyAllowed s.rest
    match { s with rest := rest, keyAllowed := allowed }.dropStale with
    | none => (s.tokens.toList.take ready, false)
    | some s => match s.rest with
      | [] => match s.finish with
        | none => (s.tokens.toList.take ready, false)
        | some s => (s.tokens.toList, true)
      | c :: cs =>
        match ((s.closeBlocks c.column).next c cs).bind dropStale with
        | none => (s.tokens.toList.take ready, false)
        | some s => run fuel s.settled s

end Scan

/-- The tokens of a text and whether the text was read to its end. -/
def Token.scan (text : String) : List Token × Bool :=
  let cs := text.toList
  if cs.all isPrintable then
    let (cells, ending) := place 0 0 0 (uniformBreaks cs)
    Scan.run (cells.length + 1) 0 { rest := cells, ending := ending }
  else ([], false)

end StudyFlow.Yaml
