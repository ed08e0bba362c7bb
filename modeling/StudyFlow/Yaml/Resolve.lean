import StudyFlow.Number.Binary64
import StudyFlow.Text.Numeral

/-!
What a plain scalar stands for: nothing, a truth value, a whole number, a floating-point number or a
text.

Whole numbers are decimal, or hexadecimal, octal or binary with `0x`, `0o` or `0b` in front, each
with an optional sign. A decimal with leading zeros is a text. Numbers between the range of 64 bits
and that of 128 bits are whole numbers that no setting can hold; those beyond are floating-point
numbers.
-/

namespace StudyFlow.Yaml

attribute [local instance (high)] instPowNat

inductive Plain where
  | null
  | bool (value : Bool)
  | int (value : Int)
  /-- A whole number that needs more than 64 bits. -/
  | wide
  | float (value : Binary64)
  | text
  deriving DecidableEq

/-- Whether the scalar spells out that there is no value. -/
def isNullWord (s : String) : Bool := s == "~" || s == "null" || s == "Null" || s == "NULL"

/-- The truth value that the scalar spells out. -/
def boolWord? (s : String) : Option Bool :=
  if s == "true" || s == "True" || s == "TRUE" then some true
  else if s == "false" || s == "False" || s == "FALSE" then some false
  else none

/-- The text without a plus sign in front. -/
def dropPlus : List Char → List Char
  | '+' :: cs => cs
  | cs => cs

def startsSigned : List Char → Bool
  | '+' :: _ => true
  | '-' :: _ => true
  | _ => false

/-- Whether the scalar is made of decimal digits with needless zeros in front, after an optional
sign. -/
def isPadded (cs : List Char) : Bool :=
  let ds := if startsSigned cs then cs.drop 1 else cs
  1 < ds.length && ds.head? == some '0' && ds.all Char.isDigit

/-- The number after a base mark such as `0x`. -/
def basedDigits? : List Char → Option Nat
  | '0' :: 'x' :: ds => Text.digits? 16 ds
  | '0' :: 'o' :: ds => Text.digits? 8 ds
  | '0' :: 'b' :: ds => Text.digits? 2 ds
  | _ => none

/-- The number without a minus sign that the scalar spells out, if it is below the bound. -/
def unsigned? (bound : Nat) (cs : List Char) : Option Nat :=
  let body := dropPlus cs
  match basedDigits? body with
  | some n => if n < bound then some n else none
  | none =>
    if startsSigned body || isPadded cs then none
    else (Text.digits? 10 body).filter (· < bound)

/-- The size of the number with a minus sign that the scalar spells out, if it is at most the
bound. -/
def negative? (bound : Nat) : List Char → Option Nat
  | '-' :: body => match basedDigits? body with
    | some n => if n ≤ bound then some n else none
    | none =>
      if isPadded ('-' :: body) then none else (Text.digits? 10 body).filter (· ≤ bound)
  | _ => none

/-- The whole number that the scalar spells out. -/
def intWord? (cs : List Char) : Option Plain :=
  match unsigned? UInt64.size cs with
  | some n => some (.int n)
  | none => match negative? (2 ^ (63 : Nat)) cs with
    | some n => some (.int (-(n : Int)))
    | none =>
      if (unsigned? (2 ^ (128 : Nat)) cs).isSome || (negative? (2 ^ (127 : Nat)) cs).isSome then
        some .wide
      else none

/-- The number of a setting that is read as a counter; it has no minus sign, not even in front of
zero. -/
def counterWord? (cs : List Char) : Option Nat := unsigned? UInt64.size cs

/-- Digits before the point, digits after it, and the exponent of a decimal without a sign. -/
def decimalParts? (cs : List Char) : Option (List Char × List Char × Int) :=
  let whole := cs.takeWhile Char.isDigit
  let rest := cs.dropWhile Char.isDigit
  let (part, rest) := match rest with
    | '.' :: rest => (rest.takeWhile Char.isDigit, rest.dropWhile Char.isDigit)
    | _ => ([], rest)
  if whole.isEmpty && part.isEmpty then none
  else match rest with
    | [] => some (whole, part, 0)
    | e :: rest =>
      if e == 'e' || e == 'E' then
        match rest with
        | '-' :: ds => (Text.digits? 10 ds).map fun n => (whole, part, -(n : Int))
        | ds => (Text.digits? 10 (dropPlus ds)).map fun n => (whole, part, (n : Int))
      else none

/-- The finite number that a decimal spells out, with an optional sign. -/
def decimal? (cs : List Char) : Option Binary64 :=
  let negative := cs.head? == some '-'
  let body := if startsSigned cs then cs.drop 1 else cs
  (decimalParts? body).bind fun (whole, part, e) =>
    (Text.digits? 10 (whole ++ part)).bind fun m =>
      Binary64.ofDecimal? negative m (e - (part.length : Int))

/-- The floating-point number that the scalar spells out. -/
def floatWord? (cs : List Char) : Option Binary64 :=
  let body := dropPlus cs
  let s := String.ofList body
  if cs.head? == some '+' && startsSigned body then none
  else if s == ".inf" || s == ".Inf" || s == ".INF" then some (.infinite false)
  else if s == "-.inf" || s == "-.Inf" || s == "-.INF" then some (.infinite true)
  else
    let whole := String.ofList cs
    if whole == ".nan" || whole == ".NaN" || whole == ".NAN" then some .notANumber
    else decimal? body

def Plain.ofText (s : String) : Plain :=
  let cs := s.toList
  if s.isEmpty || isNullWord s then .null
  else match boolWord? s with
    | some b => .bool b
    | none => match intWord? cs with
      | some n => n
      | none =>
        if isPadded cs then .text
        else match floatWord? cs with
          | some x => .float x
          | none => .text

end StudyFlow.Yaml
