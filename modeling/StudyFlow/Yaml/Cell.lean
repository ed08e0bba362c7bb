/-!
The characters of a YAML text with their places. Line breaks are made uniform here: a carriage
return, with or without a line feed, and the next-line character count as one line feed.
-/

namespace StudyFlow.Yaml

/-- A character of the text with its line, its column in that line and its index in the text, which
counts bytes. -/
structure Cell where
  char : Char
  line : Nat
  column : Nat
  index : Nat
  deriving Inhabited

/-- Whether the text may hold the character at all: no control characters but tab and line ends. -/
def isPrintable (c : Char) : Bool :=
  let n := c.toNat
  n == 9 || n == 10 || n == 13 || (0x20 ≤ n && n ≤ 0x7E) || n == 0x85 ||
  (0xA0 ≤ n && n ≤ 0xD7FF) || (0xE000 ≤ n && n ≤ 0xFFFD) || 0x10000 ≤ n

/-- A character that ends a line, once line breaks are uniform. -/
def isBreak (c : Char) : Bool := c == '\n' || c.toNat == 0x2028 || c.toNat == 0x2029

def isSpace (c : Char) : Bool := c == ' ' || c == '\t'

/-- A letter, digit, hyphen or underscore: what anchors and handles are made of. -/
def isWordChar (c : Char) : Bool := c.isAlphanum || c == '-' || c == '_'

/-- The text with each line break written in the uniform way. -/
def uniformBreaks : List Char → List Char
  | '\r' :: '\n' :: cs => '\n' :: uniformBreaks cs
  | '\r' :: cs => '\n' :: uniformBreaks cs
  | c :: cs => (if c.toNat == 0x85 then '\n' else c) :: uniformBreaks cs
  | [] => []

/-- The characters with their places, and the place after the last one. -/
def place : Nat → Nat → Nat → List Char → List Cell × Cell
  | line, column, index, [] => ([], ⟨' ', line, column, index⟩)
  | line, column, index, c :: cs =>
    let (cells, last) :=
      if isBreak c then place (line + 1) 0 (index + c.utf8Size) cs
      else place line (column + 1) (index + c.utf8Size) cs
    (⟨c, line, column, index⟩ :: cells, last)

/-- The column at which the rest of a text starts; the end of the text counts as column zero. -/
def columnOf : List Cell → Nat
  | [] => 0
  | c :: _ => c.column

/-- Whether the rest of a text is empty or starts with a line break. -/
def atBreak : List Cell → Bool
  | [] => true
  | c :: _ => isBreak c.char

/-- Whether the rest of a text is empty or starts with a space, a tab or a line break. -/
def atGap : List Cell → Bool
  | [] => true
  | c :: _ => isSpace c.char || isBreak c.char

def startsWith (c : Char) : List Cell → Bool
  | [] => false
  | d :: _ => d.char == c

/-- Whether a line starts here with three times the character and then a gap. -/
def atMark (c : Char) : List Cell → Bool
  | a :: b :: d :: rest =>
    a.column == 0 && a.char == c && b.char == c && d.char == c && atGap rest
  | _ => false

/-- Whether a document starts or ends here. -/
def atDocumentMark (cells : List Cell) : Bool := atMark '-' cells || atMark '.' cells

/-- The rest of a text after the characters that satisfy the test. -/
def skipWhile (test : Char → Bool) (cells : List Cell) : List Cell :=
  cells.dropWhile fun c => test c.char

/-- The characters in front that satisfy the test, and the rest of the text. -/
def spanWhile (test : Char → Bool) (cells : List Cell) : List Char × List Cell :=
  ((cells.takeWhile fun c => test c.char).map Cell.char, skipWhile test cells)

/-- The rest of a text after spaces, tabs and a comment. -/
def skipToBreak (cells : List Cell) : List Cell :=
  let rest := skipWhile isSpace cells
  if startsWith '#' rest then skipWhile (fun c => !isBreak c) rest else rest

end StudyFlow.Yaml
