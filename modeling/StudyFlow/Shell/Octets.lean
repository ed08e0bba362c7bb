/-!
Texts of octets. Scripts and what programs print are octets; a text of octets has one character
below 256 for each of them, so that programs can be written over characters. Outside of scripts the
same octets stand for characters in UTF-8.
-/

namespace StudyFlow.Shell

def octetsOfBytes (b : ByteArray) : String :=
  String.ofList (b.foldl (fun acc x => Char.ofNat x.toNat :: acc) []).reverse

def octetsOfText (s : String) : String := octetsOfBytes s.toUTF8

def bytesOfOctets (s : String) : ByteArray :=
  s.foldl (fun acc c => acc.push (UInt8.ofNat c.toNat)) ByteArray.empty

/-- The text that octets stand for; octets that stand for no character become replacement
characters. -/
def textOfOctets (s : String) : String :=
  (String.fromUTF8? (bytesOfOctets s)).getD
    (s.map fun c => if c.toNat < 0x80 then c else Char.ofNat 0xFFFD)

/-- The parts of a text between the occurrences of a character. -/
def splitChars (sep : Char) : List Char → List (List Char)
  | [] => [[]]
  | c :: cs =>
    if c == sep then [] :: splitChars sep cs
    else match splitChars sep cs with
      | [] => [[c]]
      | w :: ws => (c :: w) :: ws

/-- The parts of a text between the occurrences of a character. -/
def splitAtEach (sep : Char) (s : String) : List String :=
  (splitChars sep s.toList).map String.ofList

/-- The lines of a text. A last line counts without its newline as well; no line follows a final
newline. -/
def linesOf (s : String) : List String :=
  let parts := splitAtEach '\n' s
  if parts.getLast? == some "" then parts.dropLast else parts

def endsOpen (s : String) : Bool := !s.isEmpty && s.toList.getLast? != some '\n'

/-- Letters, digits and the underscore of names; a name starts with no digit. -/
def isNameStart (c : Char) : Bool := c.isAlpha || c == '_'

def isNameChar (c : Char) : Bool := c.isAlphanum || c == '_'

def isName (s : String) : Bool :=
  match s.toList with
  | [] => false
  | c :: cs => isNameStart c && cs.all isNameChar

/-- Whether every character is a digit and there is one. -/
def isDigits (s : String) : Bool := !s.isEmpty && s.all Char.isDigit

/-- The number that decimal digits denote; other characters count as nothing. -/
def decimalOf (s : String) : Nat :=
  s.foldl (fun n c => if c.isDigit then n * 10 + (c.toNat - 48) else n) 0

def repeated (n : Nat) (c : Char) : String := String.ofList (List.replicate n c)

/-- A text made at least so wide by blanks in front. -/
def padFront (n : Nat) (s : String) : String := repeated (n - s.length) ' ' ++ s

/-- A text made at least so wide by blanks behind. -/
def padBack (n : Nat) (s : String) : String := s ++ repeated (n - s.length) ' '

def startsWith (s front : String) : Bool := front.toList.isPrefixOf s.toList

/-- A text without its first characters. -/
def dropFront (n : Nat) (s : String) : String := String.ofList (s.toList.drop n)

def takeFront (n : Nat) (s : String) : String := String.ofList (s.toList.take n)

/-- The place of the first occurrence of a text in another, counted in characters. -/
def indexOf? (sub : List Char) : List Char → Option Nat
  | [] => if sub.isEmpty then some 0 else none
  | c :: cs => if sub.isPrefixOf (c :: cs) then some 0 else (indexOf? sub cs).map (· + 1)

end StudyFlow.Shell
