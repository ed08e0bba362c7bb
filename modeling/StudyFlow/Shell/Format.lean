import StudyFlow.Number.Binary64
import StudyFlow.Shell.Octets

/-!
Numbers as text under a format: a conversion with flags, a width and a precision. Fractions are laid
out from their exact value, so every digit is right and a half goes to the even digit.
-/

namespace StudyFlow.Shell

attribute [local instance (high)] instPowNat

/-- A number that is a multiple of a power of two, an infinity, or no number. -/
inductive Real where
  | finite (negative : Bool) (significand : Nat) (exponent : Int)
  | infinite (negative : Bool)
  | undefined (negative : Bool)
  deriving Inhabited, DecidableEq

namespace Real

/-- The nearest number of so many significant bits to a ratio. -/
def ofRatio (bits : Nat) (negative : Bool) (num den : Nat) : Real :=
  if num == 0 || den == 0 then .finite negative 0 0
  else
    let size : Int := (Nat.log2 num : Int) - (Nat.log2 den : Int)
    let fits (e : Int) : Bool :=
      let (n, d) := Binary64.scaleDown num den e
      n / d < 2 ^ bits
    let start := size - bits
    let e := if fits start then start else if fits (start + 1) then start + 1 else start + 2
    let e := if bits == 53 && e < Binary64.minExponent then Binary64.minExponent else e
    let (n, d) := Binary64.scaleDown num den e
    let m := Binary64.roundHalfEven n d
    let limit : Int := if bits == 53 then 1024 else 16384
    if limit < e + (Nat.log2 m : Int) + 1 then .infinite negative else .finite negative m e

/-- The nearest number of so many significant bits to `m · 10^k`. -/
def ofDecimal (bits : Nat) (negative : Bool) (m : Nat) (k : Int) : Real :=
  let size : Int := (m.repr.length : Int) + k
  if m == 0 || size < -5000 then .finite negative 0 0
  else if 5000 < size then .infinite negative
  else if 0 ≤ k then ofRatio bits negative (m * 10 ^ k.toNat) 1
  else ofRatio bits negative m (10 ^ (-k).toNat)

/-- The value of a floating-point number. -/
def ofFloat (x : Float) : Real :=
  let b := x.toBits.toNat
  let negative := b / 2 ^ (63 : Nat) == 1
  let biased : Nat := b / 2 ^ (52 : Nat) % 2 ^ (11 : Nat)
  let fraction : Nat := b % 2 ^ (52 : Nat)
  if biased == 2047 then if fraction == 0 then .infinite negative else .undefined negative
  else if biased == 0 then .finite negative fraction (-1074)
  else .finite negative (fraction + 2 ^ (52 : Nat)) ((biased : Int) - 1075)

/-- The nearest floating-point number. -/
def toFloat : Real → Float
  | .finite negative m e =>
    let x := match ofRatio 53 false (if 0 ≤ e then m * 2 ^ e.toNat else m)
      (if 0 ≤ e then 1 else 2 ^ (-e).toNat) with
      | .finite _ m e => Float.scaleB (Float.ofNat m) e
      | .infinite _ => 1.0 / 0.0
      | .undefined _ => 0.0 / 0.0
    if negative then -x else x
  | .infinite negative => if negative then -1.0 / 0.0 else 1.0 / 0.0
  | .undefined _ => 0.0 / 0.0

/-- The sign of the number. -/
def isNegative : Real → Bool
  | .finite n _ _ | .infinite n | .undefined n => n

/-- The absolute value times a power of ten, rounded to an integer. -/
def scaled (m : Nat) (e : Int) (k : Int) : Nat :=
  let num := m * (if 0 ≤ e then 2 ^ e.toNat else 1) * (if 0 ≤ k then 10 ^ k.toNat else 1)
  let den := (if 0 ≤ e then 1 else 2 ^ (-e).toNat) * (if 0 ≤ k then 1 else 10 ^ (-k).toNat)
  Binary64.roundHalfEven num den

/-- Digits with a point before the last `places` of them. -/
def withPoint (digits : String) (places : Nat) (always : Bool) : String :=
  let digits := repeated (places + 1 - digits.length) '0' ++ digits
  let cut := digits.length - places
  takeFront cut digits ++ (if places == 0 && !always then "" else "." ++ dropFront cut digits)

/-- The digits of the absolute value with so many places after the point. -/
def fixed (m : Nat) (e : Int) (places : Nat) (always : Bool) : String :=
  withPoint (scaled m e places).repr places always

/-- The exponent of the first digit, searched from a guess. -/
def leadingExponent (m : Nat) (e : Int) (digits : Nat) : Int × Nat := Id.run do
  if m == 0 then return (0, 0)
  let size := (Nat.log2 m : Int) + e
  let mut x : Int := size * 30103 / 100000 + 1
  for _ in [0:5] do
    let d := scaled m e ((digits : Int) - 1 - x)
    if d < 10 ^ (digits - 1) then x := x - 1
    else if 10 ^ digits ≤ d then
      -- Rounding may have carried into a further digit.
      let up := scaled m e ((digits : Int) - 2 - x)
      return (x + 1, up)
    else return (x, d)
  return (x, scaled m e ((digits : Int) - 1 - x))

/-- An exponent of at least two digits with its sign. -/
def exponentText (x : Int) : String :=
  let n := x.natAbs.repr
  (if x < 0 then "-" else "+") ++ (if n.length < 2 then "0" ++ n else n)

/-- Digits without the zeros at the end of their fraction. -/
def trimZeros (s : String) : String :=
  if s.toList.contains '.' then
    let cs := s.toList.reverse.dropWhile (· == '0')
    let cs := match cs with
      | '.' :: rest => rest
      | cs => cs
    String.ofList cs.reverse
  else s

/-- The absolute value with an exponent and so many places after the point. -/
def scientific (m : Nat) (e : Int) (places : Nat) (always : Bool) (mark : String) : String :=
  let (x, d) := leadingExponent m e (places + 1)
  let digits := if m == 0 then repeated (places + 1) '0' else d.repr
  withPoint digits places always ++ mark ++ exponentText x

/-- The absolute value in the shorter one of the two forms. -/
def general (m : Nat) (e : Int) (precision : Nat) (always : Bool) (mark : String) : String :=
  let p := if precision == 0 then 1 else precision
  let (x, d) := leadingExponent m e p
  let strip (s : String) : String := if always then s else trimZeros s
  if -4 ≤ x && x < p then strip (fixed m e ((p : Int) - 1 - x).toNat always)
  else
    let digits := if m == 0 then repeated p '0' else d.repr
    strip (withPoint digits (p - 1) always) ++ mark ++ exponentText x

end Real

/-- Flags, width and precision of a conversion. -/
structure Spec where
  left : Bool := false
  plus : Bool := false
  space : Bool := false
  alternate : Bool := false
  zero : Bool := false
  width : Nat := 0
  precision : Option Nat := none
  deriving Inhabited

namespace Spec

def fill (s : Spec) (text : String) : String :=
  if s.left then padBack s.width text else padFront s.width text

/-- A number in its width; zeros go between the sign and the digits. -/
def fillNumber (s : Spec) (sign digits : String) (zeros : Bool) : String :=
  if s.zero && !s.left && zeros then
    sign ++ repeated (s.width - sign.length - digits.length) '0' ++ digits
  else s.fill (sign ++ digits)

/-- The sign that is written before a number. -/
def sign (s : Spec) (negative : Bool) : String :=
  if negative then "-" else if s.plus then "+" else if s.space then " " else ""

def text (s : Spec) (t : String) : String :=
  s.fill (match s.precision with
    | some p => takeFront p t
    | none => t)

/-- Digits with the zeros that the precision asks for. -/
def digits (s : Spec) (t : String) : String :=
  match s.precision with
  | some p => if p == 0 && t == "0" then "" else repeated (p - t.length) '0' ++ t
  | none => t

def integer (s : Spec) (n : Int) : String :=
  s.fillNumber (s.sign (n < 0)) (s.digits n.natAbs.repr) s.precision.isNone

/-- A number in a base of at most sixteen. -/
def unsigned (s : Spec) (base : Nat) (upper : Bool) (n : Nat) : String :=
  let ds := String.ofList (Nat.toDigits base n)
  let ds := s.digits (if upper then ds.map Char.toUpper else ds)
  let (front, ds) :=
    if !s.alternate || (n == 0 && base == 16) then ("", ds)
    else if base == 16 then (if upper then "0X" else "0x", ds)
    else if base == 8 && ds.toList.head? != some '0' then ("", "0" ++ ds)
    else ("", ds)
  s.fillNumber front ds s.precision.isNone

/-- A fraction under one of the conversions `e`, `f`, `g` and their capitals. -/
def real (s : Spec) (conversion : Char) (x : Real) : String :=
  let sign := s.sign x.isNegative
  let upper := conversion.isUpper
  match x with
  | .infinite _ => s.fillNumber sign (if upper then "INF" else "inf") false
  | .undefined _ => s.fillNumber sign (if upper then "NAN" else "nan") false
  | .finite _ m e =>
    let p := s.precision.getD 6
    let mark := if upper then "E" else "e"
    let ds := match conversion.toLower with
      | 'f' => Real.fixed m e p s.alternate
      | 'e' => Real.scientific m e p s.alternate mark
      | _ => Real.general m e p s.alternate mark
    s.fillNumber sign ds true

end Spec

structure Conversion where
  spec : Spec
  /-- The width and the precision are taken from the arguments. -/
  starWidth : Bool
  starPrecision : Bool
  letter : Option Char
  /-- The conversion as it is written, up to its letter. -/
  written : String
  deriving Inhabited

def readFlags : List Char → Spec → Spec × List Char
  | [], s => (s, [])
  | c :: cs, s =>
    if c == '-' then readFlags cs { s with left := true }
    else if c == '+' then readFlags cs { s with plus := true }
    else if c == ' ' then readFlags cs { s with space := true }
    else if c == '#' then readFlags cs { s with alternate := true }
    else if c == '0' then readFlags cs { s with zero := true }
    else if c == '\'' then readFlags cs s
    else (s, c :: cs)

/-- Reads a conversion after its percent sign, and gives what follows. -/
def readConversion (cs : List Char) : Conversion × List Char :=
  let (s, rest) := readFlags cs {}
  let (width, starWidth, rest) := match rest with
    | '*' :: rest => (0, true, rest)
    | rest =>
      let ds := rest.takeWhile Char.isDigit
      (decimalOf (String.ofList ds), false, rest.drop ds.length)
  let (precision, starPrecision, rest) := match rest with
    | '.' :: '*' :: rest => (none, true, rest)
    | '.' :: rest =>
      let ds := rest.takeWhile Char.isDigit
      (some (decimalOf (String.ofList ds)), false, rest.drop ds.length)
    | rest => (none, false, rest)
  let rest := rest.dropWhile fun c => c == 'l' || c == 'h' || c == 'L' || c == 'z' ||
    c == 'j' || c == 't'
  let used := cs.length - rest.length
  let letter := rest.head?
  let written := cs.take (used + 1)
  (⟨{ s with width := width, precision := precision }, starWidth, starPrecision, letter,
    "%" ++ String.ofList written⟩, rest.drop 1)

/-- The characters that programs take for blanks in front of numbers. -/
def isBlankOctet (c : Char) : Bool := c == ' ' || ('\t' ≤ c && c ≤ '\r')

/-- Reads a fraction at the front of a text, and gives what follows; none if no number is there. -/
def readReal (bits : Nat) (cs : List Char) : Option (Real × List Char) :=
  let cs := cs.dropWhile isBlankOctet
  let (negative, cs) := match cs with
    | '-' :: cs => (true, cs)
    | '+' :: cs => (false, cs)
    | cs => (false, cs)
  let lower := String.ofList ((cs.take 8).map Char.toLower)
  if lower.startsWith "infinity" then some (.infinite negative, cs.drop 8)
  else if lower.startsWith "inf" then some (.infinite negative, cs.drop 3)
  else if lower.startsWith "nan" then some (.undefined negative, cs.drop 3)
  else
    let isHexDigit (c : Char) : Bool := c.isDigit || ('a' ≤ c.toLower && c.toLower ≤ 'f')
    let hexValue (s : List Char) : Nat := s.foldl (fun n c =>
      n * 16 + (if c.isDigit then c.toNat - 48 else c.toLower.toNat - 87)) 0
    let exponent (mark : Char) (cs : List Char) : Int × List Char :=
      match cs with
      | c :: rest =>
        if c.toLower == mark then
          let (neg, ds) := match rest with
            | '-' :: ds => (true, ds)
            | '+' :: ds => (false, ds)
            | ds => (false, ds)
          let digits := ds.takeWhile Char.isDigit
          if digits.isEmpty then (0, cs)
          else
            let n : Int := decimalOf (String.ofList digits)
            (if neg then -n else n, ds.drop digits.length)
        else (0, cs)
      | [] => (0, [])
    let body (digit : Char → Bool) (cs : List Char) : List Char × List Char × List Char :=
      let whole := cs.takeWhile digit
      let rest := cs.drop whole.length
      match rest with
      | '.' :: after =>
        let part := after.takeWhile digit
        if whole.isEmpty && part.isEmpty then
          (whole, part, rest)
        else (whole, part, after.drop part.length)
      | rest => (whole, [], rest)
    let hex : Option (Real × List Char) := match cs with
      | '0' :: x :: rest =>
        if x == 'x' || x == 'X' then
          let (whole, part, rest) := body isHexDigit rest
          if whole.isEmpty && part.isEmpty then none
          else
            let (k, rest) := exponent 'p' rest
            let m := hexValue (whole ++ part)
            let k := k - 4 * part.length
            some (Real.ofRatio bits negative (if 0 ≤ k then m * 2 ^ k.toNat else m)
              (if 0 ≤ k then 1 else 2 ^ (-k).toNat), rest)
        else none
      | _ => none
    match hex with
    | some r => some r
    | none =>
      let (whole, part, rest) := body Char.isDigit cs
      if whole.isEmpty && part.isEmpty then none
      else
        let (k, rest) := exponent 'e' rest
        let m := decimalOf (String.ofList (whole ++ part))
        some (Real.ofDecimal bits negative m (k - part.length), rest)

/-- Reads an integer as the library of programs does: an octal, decimal or hexadecimal numeral with
a sign. It gives what follows; none if no number is there. -/
def readInteger (cs : List Char) : Option (Int × List Char) :=
  let cs := cs.dropWhile isBlankOctet
  let (negative, cs) := match cs with
    | '-' :: cs => (true, cs)
    | '+' :: cs => (false, cs)
    | cs => (false, cs)
  let signed (n : Nat) : Int := if negative then -(n : Int) else n
  let digits (base : Nat) (cs : List Char) : Option (Nat × List Char) :=
    let value (c : Char) : Nat :=
      if c.isDigit then c.toNat - 48
      else if 'a' ≤ c.toLower && c.toLower ≤ 'z' then c.toLower.toNat - 87
      else 99
    let ds := cs.takeWhile fun c => value c < base
    if ds.isEmpty then none
    else some (ds.foldl (fun n c => n * base + value c) 0, cs.drop ds.length)
  let found := match cs with
    | '0' :: x :: rest =>
      if x == 'x' || x == 'X' then
        match digits 16 rest with
        | some r => some r
        | none => some (0, x :: rest)
      else digits 8 cs
    | '0' :: [] => some (0, [])
    | cs => digits 10 cs
  found.map fun r => (signed r.1, r.2)

def maxWord : Int := 9223372036854775807

def minWord : Int := -9223372036854775808

def wrapWord (n : Int) : Int := Int.bmod n UInt64.size

def unsignedWord (n : Int) : Nat := (n % (UInt64.size : Int)).toNat

end StudyFlow.Shell
