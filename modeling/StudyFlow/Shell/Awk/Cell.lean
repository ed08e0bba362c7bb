import StudyFlow.Shell.Awk.Token

/-!
The values of programs for records. A value is a number or a text; what came from the input is a
text that counts as a number if it looks like one.
-/

namespace StudyFlow.Shell.Awk

/-- A value. -/
inductive Cell where
  /-- Nothing has been assigned: zero and the empty text at once. -/
  | none
  | number (x : Float)
  | text (s : String)
  | input (s : String)
  deriving Inhabited

/-- The number that a text starts with, or zero. -/
def leadingNumber (s : String) : Float :=
  let cs := s.toList.dropWhile isBlankOctet
  let ds := cs.takeWhile Char.isDigit
  if !ds.isEmpty && ds.length < 16 && ds.length == cs.length then
    Float.ofNat (decimalOf (String.ofList ds))
  else match readReal 53 cs with
    | some (r, _) => r.toFloat
    | none => 0

/-- The number that a whole text denotes, blanks around it aside. -/
def wholeNumber? (s : String) : Option Float :=
  let cs := s.toList.dropWhile isBlankOctet
  let body := match cs with
    | '-' :: r => r
    | '+' :: r => r
    | r => r
  let starts : Bool := match body with
    | '.' :: c :: _ => c.isDigit
    | c :: _ => c.isDigit
    | [] => false
  if !starts then none
  else
    let (ds, rest) := Token.numeralPart body
    if rest.all isBlankOctet then
      if ds.length < 16 && ds.all Char.isDigit then
        let x := Float.ofNat (decimalOf (String.ofList ds))
        some (if cs.head? == some '-' then -x else x)
      else (readReal 53 cs).map fun r => r.1.toFloat
    else none

/-- Two to the power of sixty-three. -/
def wordLimit : Float := 9223372036854775808

/-- A number without its fraction, as an integer that is not below the least word nor above the
greatest unsigned one. -/
def asWord (x : Float) : Int :=
  if x.isNaN then -9223372036854775808
  else if wordLimit ≤ x then (x.toUInt64.toNat : Int)
  else if x < -wordLimit then -9223372036854775807
  else if 0 ≤ x then (x.toUInt64.toNat : Int)
  else -((-x).toUInt64.toNat : Int)

/-- The text of a number that is an integer of at most a word. -/
def integralText? (x : Float) : Option String :=
  if x.isNaN || x.isInf then none
  else if 18446744073709551616.0 < x || x < -wordLimit then none
  else if x.floor == x then some (toString (asWord x))
  else none

/-- A number within a small range of integers. -/
def asInteger (x : Float) : Int :=
  if x.isNaN then 0
  else if 2147483647 ≤ x then 2147483647
  else if x ≤ -2147483647 then -2147483647
  else asWord x

/-- The number with a sign that its undefined form has. -/
def realOf (x : Float) : Real := if x.isNaN then .undefined true else Real.ofFloat x

namespace Cell

def settled : Cell → Cell
  | .input s => match wholeNumber? s with
    | some x => .number x
    | .none => .text s
  | c => c

def toNumber : Cell → Float
  | .none => 0
  | .number x => x
  | .text s | .input s => leadingNumber s

/-- Whether the value counts as true. -/
def holds : Cell → Bool
  | .none => false
  | .number x => x != 0
  | .text s => !s.isEmpty
  | .input s => match wholeNumber? s with
    | some x => x != 0
    | .none => !s.isEmpty

def ofBool (b : Bool) : Cell := .number (if b then 1 else 0)

def ofNat (n : Nat) : Cell := .number (Float.ofNat n)

def ofInt (n : Int) : Cell := .number (Float.ofInt n)

def plainFormat : String := "%.6g"

end Cell

/-- Why a format cannot be applied. -/
inductive FormatFault where
  | missing
  | improper (number : Nat)
  deriving Inhabited

/-- A number under a conversion for fractions. -/
def fractionText (s : Spec) (letter : Char) (x : Float) : String :=
  match letter, s.precision with
  | 'g', some 6 => if s.width == 0 && !s.plus && !s.space && !s.alternate then
      match realOf x with
      | .finite negative m e => (if negative then "-" else "") ++ Real.general m e 6 false "e"
      | r => s.real letter r
    else s.real letter (realOf x)
  | _, _ => s.real letter (realOf x)

/-- Applies a conversion to a value. The text of the value is given as it is where one is asked
for. -/
def convert (s : Spec) (letter : Char) (c : Cell) (text : String) : Option String :=
  match letter with
  | 'd' | 'i' => some (s.integer (asWord c.toNumber))
  | 'o' => some (s.unsigned 8 false (unsignedWord (asWord c.toNumber)))
  | 'x' => some (s.unsigned 16 false (unsignedWord (asWord c.toNumber)))
  | 'X' => some (s.unsigned 16 true (unsignedWord (asWord c.toNumber)))
  | 'u' =>
    some ({ s with plus := false, space := false }.integer (unsignedWord (asWord c.toNumber)))
  | 'e' | 'f' | 'g' | 'E' | 'G' => some (fractionText s letter c.toNumber)
  | 's' => some (s.text text)
  | 'c' =>
    let one := match c.settled with
      | .number x => String.singleton (Char.ofNat (asWord x % 256).toNat)
      | .text t => if t.isEmpty then "\x00" else takeFront 1 t
      | _ => "\x00"
    some (s.fill one)
  | _ => none

/-- Applies a format to values. What comes before a fault is given with it. -/
def formatted (textOf : Cell → String) : Nat → Nat → List Char → List Cell → String →
    String × Option FormatFault
  | 0, _, _, _, out => (out, none)
  | fuel + 1, n, cs, args, out =>
    match cs with
    | [] => (out, none)
    | '%' :: '%' :: rest => formatted textOf fuel n rest args (out.push '%')
    | '%' :: rest =>
      let n := n + 1
      let (flags, rest) := readFlags rest {}
      if args.isEmpty then (out, some .missing)
      else
        let starOf (rest : List Char) (args : List Cell) : Option Int × List Char × List Cell :=
          match rest, args with
          | '*' :: rest, a :: args => (some (asInteger a.toNumber), rest, args)
          | rest, args =>
            let ds := rest.takeWhile Char.isDigit
            (if ds.isEmpty then none else some (decimalOf (String.ofList ds)),
              rest.drop ds.length, args)
        let (width, rest, args) := starOf rest args
        let (precision, rest, args) : Option Int × List Char × List Cell := match rest with
          | '.' :: rest =>
            let (p, rest, args) := starOf rest args
            (some (p.getD 0), rest, args)
          | rest => (none, rest, args)
        let spec := match width with
          | some w => { flags with left := flags.left || w < 0, width := w.natAbs }
          | none => flags
        let spec := { spec with precision := match precision with
          | some p => if p < 0 then none else some p.toNat
          | none => none }
        let (long, rest) := match rest with
          | 'l' :: rest => (true, rest)
          | 'h' :: rest => (true, rest)
          | rest => (false, rest)
        match rest, args with
        | [], _ => (out, some (.improper n))
        | _, [] => (out, some .missing)
        | letter :: rest, a :: args =>
          if long && !("dioxXu".toList.contains letter) then (out, some (.improper n))
          else match convert spec letter a (textOf a) with
            | some t => formatted textOf fuel n rest args (out ++ t)
            | none => (out, some (.improper n))
    | c :: rest => formatted textOf fuel n rest args (out.push c)

def numberText (format : String) (x : Float) : String :=
  match integralText? x with
  | some t => t
  | none =>
    if format == Cell.plainFormat then fractionText { precision := some 6 } 'g' x
    else (formatted (fun _ => "") (format.length + 1) 0 format.toList [.number x] "").1

def Cell.toText (format : String) : Cell → String
  | .none => ""
  | .number x => numberText format x
  | .text s | .input s => s

/-- Compares two values: as numbers if neither is a text, and else as texts. -/
def Cell.compare (format : String) (a b : Cell) : Ordering :=
  let numbers (x y : Float) : Ordering := if x < y then .lt else if y < x then .gt else .eq
  let texts (s t : String) : Ordering := if s < t then .lt else if s == t then .eq else .gt
  match a.settled, b.settled with
  | .none, .none => .eq
  | .none, .number y => numbers 0 y
  | .number x, .none => numbers x 0
  | .number x, .number y => numbers x y
  | a, b => texts (a.toText format) (b.toText format)

end StudyFlow.Shell.Awk
