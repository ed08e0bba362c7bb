/-!
How one sequence becomes another. Both ends that are equal are set aside; between them the shortest
way of leaving out and putting in is looked for from both sides at once, at the place where the two
searches meet the sequences are cut, and the parts are treated in the same way. In the end runs of
changes are moved as far to the back as they may stand, unless a run of the other sequence stands
beside them.
-/

namespace StudyFlow.Shell

namespace Difference

/-- Marks of what is left out of the first sequence and of what is put in from the second. -/
structure Marks where
  left : Array Bool
  right : Array Bool
  deriving Inhabited

/-- A run of changes: where it starts in both sequences and how long it is there. -/
structure Change where
  left : Nat
  leftSize : Nat
  right : Nat
  rightSize : Nat
  deriving Inhabited

/-- Whether two places hold the same. -/
def same (a b : Array Nat) (x y : Int) : Bool :=
  match a[x.toNat]?, b[y.toNat]? with
  | some p, some q => p == q
  | _, _ => false

/-- How far two sequences go on equally from two places. -/
def slide (a b : Array Nat) (xlim ylim : Int) : Nat → Int → Int → Int
  | 0, x, _ => x
  | fuel + 1, x, y =>
    if x < xlim && y < ylim && same a b x y then slide a b xlim ylim fuel (x + 1) (y + 1) else x

/-- How far two sequences are equal backwards from two places. -/
def slideBack (a b : Array Nat) (xoff yoff : Int) : Nat → Int → Int → Int
  | 0, x, _ => x
  | fuel + 1, x, y =>
    if xoff < x && yoff < y && same a b (x - 1) (y - 1) then
      slideBack a b xoff yoff fuel (x - 1) (y - 1)
    else x

/-- Places by diagonals, the first of which has the number of the origin. -/
structure Front where
  origin : Int
  places : Array Int
  deriving Inhabited

/-- The place on a diagonal. -/
def Front.at (f : Front) (d : Int) : Int := (f.places[(d - f.origin).toNat]?).getD 0

def Front.set (f : Front) (d x : Int) : Front :=
  { f with places := f.places.setIfInBounds (d - f.origin).toNat x }

/-- The place at which the searches from both ends meet. -/
def meeting (a b : Array Nat) (xoff xlim yoff ylim : Int) : Int × Int := Id.run do
  let dmin := xoff - ylim
  let dmax := xlim - yoff
  let fmid := xoff - yoff
  let bmid := xlim - ylim
  let odd := (fmid - bmid) % 2 != 0
  let size := (dmax - dmin + 5).toNat
  let steps := (xlim - xoff + (ylim - yoff) + 2).toNat
  let far : Int := 1000000000000
  let mut forward : Front := (⟨dmin - 2, Array.replicate size (-1)⟩ : Front).set fmid xoff
  let mut backward : Front := (⟨dmin - 2, Array.replicate size far⟩ : Front).set bmid xlim
  let mut fmin := fmid
  let mut fmax := fmid
  let mut bmin := bmid
  let mut bmax := bmid
  let mut found : Option (Int × Int) := none
  for _ in [0:steps] do
    if found.isSome then break
    if fmin > dmin then
      fmin := fmin - 1
      forward := forward.set (fmin - 1) (-1)
    else fmin := fmin + 1
    if fmax < dmax then
      fmax := fmax + 1
      forward := forward.set (fmax + 1) (-1)
    else fmax := fmax - 1
    for k in [0:((fmax - fmin) / 2 + 1).toNat] do
      if found.isSome then break
      let d := fmax - 2 * (k : Int)
      let low := forward.at (d - 1)
      let high := forward.at (d + 1)
      let x0 := if low < high then high else low + 1
      let x := slide a b xlim ylim steps x0 (x0 - d)
      forward := forward.set d x
      if odd && bmin ≤ d && d ≤ bmax && backward.at d ≤ x then found := some (x, x - d)
    if found.isSome then break
    if bmin > dmin then
      bmin := bmin - 1
      backward := backward.set (bmin - 1) far
    else bmin := bmin + 1
    if bmax < dmax then
      bmax := bmax + 1
      backward := backward.set (bmax + 1) far
    else bmax := bmax - 1
    for k in [0:((bmax - bmin) / 2 + 1).toNat] do
      if found.isSome then break
      let d := bmax - 2 * (k : Int)
      let low := backward.at (d - 1)
      let high := backward.at (d + 1)
      let x0 := if low < high then low else high - 1
      let x := slideBack a b xoff yoff steps x0 (x0 - d)
      backward := backward.set d x
      if !odd && fmin ≤ d && d ≤ fmax && x ≤ forward.at d then found := some (x, x - d)
  return found.getD (xlim, ylim)

/-- Marks the changes between two parts of the sequences. -/
def compare (a b : Array Nat) : Nat → Int → Int → Int → Int → Marks → Marks
  | 0, _, _, _, _, m => m
  | fuel + 1, xoff, xlim, yoff, ylim, m =>
    let steps := a.size + b.size + 1
    let x := slide a b xlim ylim steps xoff yoff
    let y := yoff + (x - xoff)
    let xe := slideBack a b x y steps xlim ylim
    let ye := ylim - (xlim - xe)
    if x == xe then
      { m with right := (List.range (ye - y).toNat).foldl (fun r k =>
        r.setIfInBounds (y.toNat + k) true) m.right }
    else if y == ye then
      { m with left := (List.range (xe - x).toNat).foldl (fun r k =>
        r.setIfInBounds (x.toNat + k) true) m.left }
    else
      let (p, q) := meeting a b x xe y ye
      compare a b fuel p xe q ye (compare a b fuel x p y q m)

def marked (r : Array Bool) (i : Int) : Bool := if i < 0 then false else (r[i.toNat]?).getD false

/-- The first place from one on, forwards or backwards, that is not marked. -/
def unmarkedFrom (r : Array Bool) (step : Int) : Nat → Int → Int
  | 0, i => i
  | fuel + 1, i => if marked r i then unmarkedFrom r step fuel (i + step) else i

/-- Moves the runs of changes of one sequence as far to the back as they may stand, and back to a
run of the other sequence if they have one. -/
def settle (keys : Array Nat) (own other : Array Bool) : Array Bool := Id.run do
  let n : Int := keys.size
  let limit := own.size + other.size + 4
  let key (i : Int) : Nat := (keys[i.toNat]?).getD 0
  let mut c := own
  let mut i : Int := 0
  let mut j : Int := 0
  for _ in [0:limit] do
    -- On to the next run of changes.
    for _ in [0:limit] do
      if i < n && !marked c i then
        j := unmarkedFrom other 1 limit j + 1
        i := i + 1
      else break
    if i ≥ n then break
    let mut start := i
    i := unmarkedFrom c 1 limit (i + 1)
    j := unmarkedFrom other 1 limit j
    let mut corresponding := n
    for _ in [0:limit] do
      let size := i - start
      for _ in [0:limit] do
        if start > 0 && key (start - 1) == key (i - 1) then
          start := start - 1
          c := c.setIfInBounds start.toNat true
          i := i - 1
          c := c.setIfInBounds i.toNat false
          start := unmarkedFrom c (-1) limit (start - 1) + 1
          j := unmarkedFrom other (-1) limit (j - 1)
        else break
      corresponding := if marked other (j - 1) then i else n
      for _ in [0:limit] do
        if i != n && key start == key i then
          c := c.setIfInBounds start.toNat false
          start := start + 1
          c := c.setIfInBounds i.toNat true
          i := unmarkedFrom c 1 limit (i + 1)
          let beside := unmarkedFrom other 1 limit (j + 1)
          if beside != j + 1 then corresponding := i
          j := beside
        else break
      if size == i - start then break
    for _ in [0:limit] do
      if corresponding < i then
        start := start - 1
        c := c.setIfInBounds start.toNat true
        i := i - 1
        c := c.setIfInBounds i.toNat false
        j := unmarkedFrom other (-1) limit (j - 1)
      else break
  return c

/-- How many places two lists have in common from their fronts on. -/
def commonFront : List Nat → List Nat → Nat
  | x :: xs, y :: ys => if x == y then commonFront xs ys + 1 else 0
  | _, _ => 0

/-- The runs of changes that marks tell of, from two places on. -/
def changesFrom : Nat → Marks → Nat → Nat → List Change
  | 0, _, _, _ => []
  | fuel + 1, m, i, j =>
    if i ≥ m.left.size && j ≥ m.right.size then []
    else
      let x := (unmarkedFrom m.left 1 (m.left.size + 1) i).toNat
      let y := (unmarkedFrom m.right 1 (m.right.size + 1) j).toNat
      if x == i && y == j then changesFrom fuel m (i + 1) (j + 1)
      else ⟨i, x - i, j, y - j⟩ :: changesFrom fuel m x y

/-- The changes that make one sequence the other. Some of what is equal at the ends may be kept in
view. -/
def changes (a b : List Nat) (kept : Nat) : List Change :=
  let front := commonFront a b - kept
  let restA := a.drop front
  let restB := b.drop front
  let ahead := commonFront restA restB
  let back := commonFront (restA.drop ahead).reverse (restB.drop ahead).reverse - kept
  let a := restA.take (restA.length - back)
  let b := restB.take (restB.length - back)
  -- What has no counterpart at all is a change from the start.
  let keptA := (a.zip (List.range a.length)).filter fun x => b.contains x.1
  let keptB := (b.zip (List.range b.length)).filter fun x => a.contains x.1
  let n := a.length + b.length + 2
  let inner := compare (keptA.map Prod.fst).toArray (keptB.map Prod.fst).toArray n 0 keptA.length
    0 keptB.length
    ⟨Array.replicate keptA.length false, Array.replicate keptB.length false⟩
  let spread (size : Nat) (kept : List (Nat × Nat)) (marks : Array Bool) : Array Bool :=
    ((kept.zip marks.toList).filter fun x => !x.2).foldl (fun r x => r.setIfInBounds x.1.2 false)
      (Array.replicate size true)
  let left := spread a.length keptA inner.left
  let right := spread b.length keptB inner.right
  let left := settle a.toArray left right
  let right := settle b.toArray right left
  (changesFrom (n + 1) ⟨left, right⟩ 0 0).map fun c =>
    { c with left := c.left + front, right := c.right + front }

end Difference

end StudyFlow.Shell
