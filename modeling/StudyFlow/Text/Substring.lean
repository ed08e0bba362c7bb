import StudyFlow.Text.Bytes

/-!
Searching a text for another one and replacing each occurrence, either literally or up to the case
of ASCII letters. Occurrences are taken from left to right and do not overlap. Up to the case of
letters they are looked for in a copy in small letters, and the text itself is cut at the positions
found there.
-/

namespace StudyFlow.Text

/-- Two characters are the same letter up to ASCII case; any other character matches itself only. -/
def sameFolded (a b : Char) : Bool := a.toLower == b.toLower

/-- Whether `pattern` matches at the front of `text`, character by character. -/
def matchesFront (same : Char → Char → Bool) : List Char → List Char → Bool
  | [], _ => true
  | _ :: _, [] => false
  | p :: ps, c :: cs => same p c && matchesFront same ps cs

/-- Whether `pattern` occurs somewhere in `text`. -/
def occurs (pattern : List Char) : List Char → Bool
  | [] => pattern.isEmpty
  | c :: cs => matchesFront (· == ·) pattern (c :: cs) || occurs pattern cs

/-- Whether `text` contains `pattern`. -/
def contains (text pattern : String) : Bool := occurs pattern.toList text.toList

/--
Replaces the occurrences of `pattern` that a reader going from left to right meets. The counter says
how many characters of the last occurrence are still to be passed over.
-/
def substitute (same : Char → Char → Bool) (pattern by_ : List Char) : Nat → List Char → List Char
  | _, [] => []
  | 0, c :: cs =>
    if matchesFront same pattern (c :: cs) then
      by_ ++ substitute same pattern by_ (pattern.length - 1) cs
    else c :: substitute same pattern by_ 0 cs
  | n + 1, _ :: cs => substitute same pattern by_ n cs

/-- The text with each occurrence of a pattern replaced; an empty pattern changes nothing. -/
def replaceWhere (same : Char → Char → Bool) (text pattern by_ : String) : String :=
  if pattern.isEmpty then text
  else String.ofList (substitute same pattern.toList by_.toList 0 text.toList)

/-- The text with each literal occurrence of a pattern replaced. -/
def replace (text pattern by_ : String) : String := replaceWhere (· == ·) text pattern by_

/-- The text with ASCII letters written small. -/
def lowered (s : String) : String := String.ofList (s.toList.map Char.toLower)

/-- The text with each occurrence of a pattern replaced, where ASCII letters match in either case;
an empty pattern changes nothing. There is none if an occurrence in small letters is no place to cut
the text. -/
def replaceFolded? (text pattern by_ : String) : Option String :=
  if pattern.isEmpty then some text
  else splice? text by_ (lowered pattern).utf8ByteSize 0 (offsets (lowered text) (lowered pattern))

/-- The text with each occurrence of a pattern replaced, where ASCII letters match in either case.
The cuts are always there, so the text is never left as it is for want of one. -/
def replaceFolded (text pattern by_ : String) : String :=
  (replaceFolded? text pattern by_).getD text

/-- Two texts are the same up to ASCII case. -/
def equalFolded (a b : String) : Bool := a.toList.map Char.toLower == b.toList.map Char.toLower

end StudyFlow.Text
