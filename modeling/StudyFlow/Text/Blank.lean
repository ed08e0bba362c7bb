/-!
Blank characters (the Unicode property `White_Space`) and what depends on them: trimming, splitting
a line into words, and asking whether a text holds a blank at all.
-/

namespace StudyFlow.Text

/-- The characters with the Unicode property `White_Space`. -/
def isBlank (c : Char) : Bool :=
  let n := c.toNat
  (9 ≤ n && n ≤ 13) || n == 0x20 || n == 0x85 || n == 0xA0 || n == 0x1680 ||
  (0x2000 ≤ n && n ≤ 0x200A) || n == 0x2028 || n == 0x2029 || n == 0x202F || n == 0x205F ||
  n == 0x3000

def hasBlank (s : String) : Bool := s.toList.any isBlank

/-- The characters left once blanks at both ends are dropped. -/
def trimChars (cs : List Char) : List Char :=
  ((cs.dropWhile isBlank).reverse.dropWhile isBlank).reverse

/-- The text without the blanks at its two ends. -/
def trim (s : String) : String := String.ofList (trimChars s.toList)

def isBlankText (s : String) : Bool := s.toList.all isBlank

/-- The maximal runs of characters that are not blank, in order. -/
def wordChars : List Char → List (List Char)
  | [] => []
  | c :: cs =>
    if isBlank c then wordChars cs
    else match cs with
      | [] => [[c]]
      | d :: _ =>
        if isBlank d then [c] :: wordChars cs
        else match wordChars cs with
          | [] => [[c]]
          | w :: ws => (c :: w) :: ws

/-- The words of a line: its maximal runs of characters that are not blank. -/
def words (s : String) : List String := (wordChars s.toList).map String.ofList

/-- The text with each blank character written as an underscore. -/
def squashBlanks (s : String) : String :=
  String.ofList (s.toList.map fun c => if isBlank c then '_' else c)

end StudyFlow.Text
