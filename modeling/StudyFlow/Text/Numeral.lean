/-!
Numerals of bounded counters. A counter is read with an optional plus sign and any number of leading
zeros, and written in plain decimal.
-/

namespace StudyFlow.Text

/-- The value of a digit in a base of at most sixteen. -/
def digitValue? (base : Nat) (c : Char) : Option Nat :=
  let v :=
    if '0' ≤ c && c ≤ '9' then c.toNat - '0'.toNat
    else if 'a' ≤ c && c ≤ 'f' then c.toNat - 'a'.toNat + 10
    else if 'A' ≤ c && c ≤ 'F' then c.toNat - 'A'.toNat + 10
    else base
  if v < base then some v else none

/-- The number that digits denote after the number `acc`, or none if some character is no digit. -/
def digitsFrom (base acc : Nat) : List Char → Option Nat
  | [] => some acc
  | c :: cs => match digitValue? base c with
    | some v => digitsFrom base (acc * base + v) cs
    | none => none

/-- The number that a non-empty run of digits denotes. -/
def digits? (base : Nat) (cs : List Char) : Option Nat :=
  if cs.isEmpty then none else digitsFrom base 0 cs

/-- Reads a counter below `bound`: an optional plus sign, then at least one decimal digit. -/
def counter? (bound : Nat) (s : String) : Option Nat :=
  let cs := match s.toList with
    | '+' :: rest => rest
    | all => all
  match digits? 10 cs with
  | some n => if n < bound then some n else none
  | none => none

/-- A number below a hundred or more in decimal, with a leading zero if it has one digit only. -/
def twoDigits (n : Nat) : String := if n < 10 then "0" ++ n.repr else n.repr

end StudyFlow.Text
