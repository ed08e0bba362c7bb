/-!
Floating-point numbers of the format binary64, as exact values.

A finite number is a significand below `2^53` times a power of two. `Binary64.ofDecimal?` rounds a
decimal to the nearest such number, a half going to the even neighbour; a decimal beyond the largest
finite number has none.
-/

namespace StudyFlow

/-- A binary64 number: finite (`± significand · 2^exponent`), infinite, or not a number. -/
inductive Binary64 where
  | finite (negative : Bool) (significand : Nat) (exponent : Int)
  | infinite (negative : Bool)
  | notANumber
  deriving DecidableEq, Inhabited, Repr

namespace Binary64

-- Powers are those of the core library, whatever else a module imports.
attribute [local instance (high)] instPowNat

def minExponent : Int := -1074

/-- The greatest exponent of a finite number with a full significand. -/
def maxExponent : Int := 971

/-- The quotient rounded to the nearest integer, a half to the even one. -/
def roundHalfEven (num den : Nat) : Nat :=
  let q := num / den
  let r := num % den
  if 2 * r < den then q
  else if den < 2 * r then q + 1
  else if q % 2 == 0 then q else q + 1

/-- The ratio `num / den · 2^(-e)`, again as a ratio. -/
def scaleDown (num den : Nat) (e : Int) : Nat × Nat :=
  if 0 ≤ e then (num, den * 2 ^ e.toNat) else (num * 2 ^ (-e).toNat, den)

/-- The finite number nearest to `num / den`, or none beyond the largest one. -/
def ofRatio? (negative : Bool) (num den : Nat) : Option Binary64 :=
  if num == 0 then some (.finite negative 0 minExponent)
  else
    let size : Int := (Nat.log2 num : Int) - (Nat.log2 den : Int)
    let fits (e : Int) : Bool :=
      let (n, d) := scaleDown num den e
      n / d < 2 ^ (53 : Nat)
    let start := size - 53
    let e := if fits start then start else if fits (start + 1) then start + 1 else start + 2
    let e := if e < minExponent then minExponent else e
    let (n, d) := scaleDown num den e
    let m := roundHalfEven n d
    let (m, e) := if m == 2 ^ (53 : Nat) then (2 ^ (52 : Nat), e + 1) else (m, e)
    if maxExponent < e then none else some (.finite negative m e)

/-- The finite number nearest to `m · 10^k`, or none beyond the largest one. -/
def ofDecimal? (negative : Bool) (m : Nat) (k : Int) : Option Binary64 :=
  let size : Int := (m.repr.length : Int) + k
  if m == 0 || size < -330 then some (.finite negative 0 minExponent)
  else if 310 < size then none
  else if 0 ≤ k then ofRatio? negative (m * 10 ^ k.toNat) 1
  else ofRatio? negative m (10 ^ (-k).toNat)

end Binary64

end StudyFlow
