import StudyFlow.Number.Binary64

/-!
The shortest decimal text that reads back as a given binary64 number.

`Binary64.shortest` finds the fewest significant digits with which a decimal lies among the reals
that round to the number, and of those the decimal nearest to it. `Binary64.toText` lays these
digits out: positional from `1e-5` up to below `1e16`, with `.0` after an integer, and with an
exponent elsewhere.
-/

namespace StudyFlow.Binary64

attribute [local instance (high)] instPowNat

/-- A positive rational number. -/
structure Ratio where
  num : Nat
  den : Nat

namespace Ratio

/-- The value `m · 2^e`. -/
def ofBinary (m : Nat) (e : Int) : Ratio :=
  if 0 ≤ e then ⟨m * 2 ^ e.toNat, 1⟩ else ⟨m, 2 ^ (-e).toNat⟩

/-- The value `m · 10^k`. -/
def ofDecimal (m : Nat) (k : Int) : Ratio :=
  if 0 ≤ k then ⟨m * 10 ^ k.toNat, 1⟩ else ⟨m, 10 ^ (-k).toNat⟩

def lt (a b : Ratio) : Bool := a.num * b.den < b.num * a.den

def le (a b : Ratio) : Bool := a.num * b.den ≤ b.num * a.den

/-- How far two values lie apart. -/
def distance (a b : Ratio) : Ratio :=
  let x := a.num * b.den
  let y := b.num * a.den
  ⟨if x ≤ y then y - x else x - y, a.den * b.den⟩

/-- The value rounded down to a multiple of `10^k`, as the factor. -/
def floorAt (a : Ratio) (k : Int) : Nat :=
  if 0 ≤ k then a.num / (a.den * 10 ^ k.toNat) else a.num * 10 ^ (-k).toNat / a.den

end Ratio

/-- Whether a decimal rounds to `m · 2^e`: it lies between the midpoints to the two neighbours, ends
included if `m` is even. -/
def roundsTo (m : Nat) (e : Int) (x : Ratio) : Bool :=
  let low :=
    if m == 2 ^ (52 : Nat) && minExponent < e then Ratio.ofBinary (4 * m - 1) (e - 2)
    else Ratio.ofBinary (2 * m - 1) (e - 1)
  let high := Ratio.ofBinary (2 * m + 1) (e - 1)
  if m % 2 == 0 then low.le x && x.le high else low.lt x && x.lt high

/-- Digits and exponent with the zeros at the end of the digits moved into the exponent. -/
def dropZeros : Nat → Nat → Int → Nat × Int
  | 0, d, k => (d, k)
  | fuel + 1, d, k => if d != 0 && d % 10 == 0 then dropZeros fuel (d / 10) (k + 1) else (d, k)

/-- The better one of the two multiples of `10^k` around the value, if one rounds to it. -/
def onGrid? (m : Nat) (e k : Int) : Option (Nat × Int) :=
  let v := Ratio.ofBinary m e
  let below := v.floorAt k
  let above := below + 1
  let fits (d : Nat) : Bool := d != 0 && roundsTo m e (Ratio.ofDecimal d k)
  match fits below, fits above with
  | true, true =>
    let down := v.distance (Ratio.ofDecimal below k)
    let up := v.distance (Ratio.ofDecimal above k)
    if up.lt down then some (above, k)
    else if down.lt up then some (below, k)
    else if below % 2 == 0 then some (below, k) else some (above, k)
  | true, false => some (below, k)
  | false, true => some (above, k)
  | false, false => none

/-- The least `k` with the value below `10^k`, searched upwards. -/
def magnitude (v : Ratio) : Nat → Int → Int
  | 0, k => k
  | fuel + 1, k => if v.lt (Ratio.ofDecimal 1 k) then k else magnitude v fuel (k + 1)

/-- The first grid, from coarse to fine, with a decimal that rounds to the value. -/
def firstGrid (m : Nat) (e top : Int) : Nat → Nat → Nat × Int
  | _, 0 => (m, e)
  | n, fuel + 1 => match onGrid? m e (top - n) with
    | some found => found
    | none => firstGrid m e top (n + 1) fuel

/-- The digits `d` and the exponent `k` of the shortest decimal `d · 10^k` that reads back as `m ·
2^e`, for a positive `m`. -/
def shortest (m : Nat) (e : Int) : Nat × Int :=
  let v := Ratio.ofBinary m e
  let (d, k) := firstGrid m e (magnitude v 700 (-330)) 1 20
  dropZeros 20 d k

/-- A run of zeros. -/
def zeros (n : Nat) : String := String.ofList (List.replicate n '0')

/-- Lays out the decimal `d · 10^k`. -/
def layout (d : Nat) (k : Int) : String :=
  let ds := d.repr
  let point : Int := (ds.length : Int) + k
  if 0 ≤ k && point ≤ 16 then ds ++ zeros k.toNat ++ ".0"
  else if 0 < point && point ≤ 16 then
    let cs := ds.toList
    String.ofList (cs.take point.toNat) ++ "." ++ String.ofList (cs.drop point.toNat)
  else if -5 < point && point ≤ 0 then "0." ++ zeros (-point).toNat ++ ds
  else
    let exponent := (if 0 < point then "+" else "") ++ toString (point - 1)
    match ds.toList with
    | c :: [] => String.ofList [c] ++ "e" ++ exponent
    | c :: cs => String.ofList [c] ++ "." ++ String.ofList cs ++ "e" ++ exponent
    | [] => "e" ++ exponent

/-- The text of a finite number; infinities and what is not a number have none. -/
def toText? : Binary64 → Option String
  | .finite negative m e =>
    let sign := if negative then "-" else ""
    if m == 0 then some (sign ++ "0.0")
    else
      let (d, k) := shortest m e
      some (sign ++ layout d k)
  | _ => none

end StudyFlow.Binary64
