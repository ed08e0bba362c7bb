import Std.Data.HashMap
import StudyFlow.Shell.Octets

/-!
Arrays by keys. The members of an array are visited in an order that comes from where their keys lie
in a table of chains: by the chain, and within a chain the last one that was looked for comes first.
Numbers lie in chains of their own until a text is looked for or the members are visited.
-/

namespace StudyFlow.Shell.Awk

inductive Key where
  | number (n : Int)
  | text (s : String)
  deriving Inhabited

def Key.name : Key → String
  | .number n => toString n
  | .text s => s

/-- A number of thirty-two bits made from the octets of a text. -/
def scatter (s : String) : Nat :=
  (s.foldl (fun (h : UInt32) c => (h ^^^ c.toNat.toUInt32) * 16777619) 2166136261).toNat

/-- Chains of keys, as many as a power of two. -/
structure Chains where
  texts : Array (List String)
  numbers : Array (List Int)
  /-- Whether every member lies in a chain of texts. -/
  named : Bool
  deriving Inhabited

namespace Chains

def least : Nat := 64

/-- How many members there are for each chain before there are more chains. -/
def load : Nat := 12

def slotOf (n : Int) (count : Nat) : Nat := (n % (count : Int)).toNat

/-- Chains without members, enough for so many. -/
def ofSize (members : Nat) (named : Bool) : Chains :=
  let count := (List.range 40).foldl (fun c _ => if c * load < members then c * 2 else c) least
  ⟨Array.replicate count [], Array.replicate count [], named⟩

def putText (c : Chains) (s : String) : Chains :=
  { c with texts := c.texts.modify (scatter s % c.texts.size) (s :: ·) }

def putNumber (c : Chains) (n : Int) : Chains :=
  { c with numbers := c.numbers.modify (slotOf n c.numbers.size) (n :: ·) }

def dropText (c : Chains) (s : String) : Chains :=
  { c with texts := c.texts.modify (scatter s % c.texts.size) (·.filter (· != s)) }

def dropNumber (c : Chains) (n : Int) : Chains :=
  { c with numbers := c.numbers.modify (slotOf n c.numbers.size) (·.filter (· != n)) }

def hasNumber (c : Chains) (n : Int) : Bool :=
  ((c.numbers[slotOf n c.numbers.size]?).getD []).contains n

/-- Twice as many chains; the order within what is left of a chain stays. -/
def doubled (c : Chains) : Chains :=
  let count := c.texts.size
  let back := 2 * count
  { c with
    texts := c.texts.mapIdx (fun i l => l.filter fun s => scatter s % back == i) ++
      c.texts.map (fun l => l.filter fun s => scatter s % back ≥ count)
    numbers := c.numbers.mapIdx (fun i l => l.filter fun n => slotOf n back == i) ++
      c.numbers.map (fun l => l.filter fun n => slotOf n back ≥ count) }

def ofRow (size : Nat) : Chains :=
  (List.range size).foldl (fun c (i : Nat) => c.putNumber ((i : Int) + 1)) (ofSize size false)

/-- Every number among the texts too. -/
def withNames (c : Chains) : Chains :=
  if c.named then c
  else
    let d := c.numbers.foldl (fun d l => l.foldl (fun d n => d.putText (toString n)) d) c
    { d with named := true }

/-- What lies in front once a key has been looked for that is a member. -/
def touch (c : Chains) : Key → Chains
  | .text s => (c.dropText s).putText s
  | .number n =>
    if c.hasNumber n then (c.dropNumber n).putNumber n
    else
      let s := toString n
      ((c.dropText s).putText s).putNumber n

/-- A member that is new. -/
def add (c : Chains) (grown : Bool) (k : Key) : Chains :=
  let c := if grown then c.doubled else c
  match k with
  | .text s => c.putText s
  | .number n => (if c.named then c.putText (toString n) else c).putNumber n

end Chains

/-- Where the keys of an array lie. -/
inductive Layout where
  /-- The numbers from one up to the size, in a row. -/
  | row
  | chains (c : Chains)
  deriving Inhabited

/-- The members of an array. -/
structure Members (α : Type) where
  values : Std.HashMap String α := ∅
  layout : Layout := .row

namespace Members

variable {α : Type}

instance : Inhabited (Members α) := ⟨{}⟩

def size (m : Members α) : Nat := m.values.size

/-- The chains of an array, made now if there are none. -/
def chains (m : Members α) (named : Bool) : Chains :=
  match m.layout with
  | .chains c => c
  | .row => if m.size == 0 then Chains.ofSize 0 named else Chains.ofRow m.size

def looked (m : Members α) (k : Key) (create : Bool) : Layout :=
  let inRow : Bool := match m.layout, k with
    | .row, .number n => 1 ≤ n && n ≤ m.size
    | _, _ => false
  if inRow then m.layout
  else
    let present := m.values.contains k.name
    if m.size == 0 && !create then m.layout
    else if !present && !create then
      match m.layout, k with
      | _, .text _ => .chains (m.chains true).withNames
      | l, .number _ => l
    else
      let named : Bool := match k with
        | .text _ => true
        | .number _ => false
      let c := m.chains named
      let c := if named then c.withNames else c
      if present then .chains (c.touch k)
      else .chains (c.add (c.texts.size * Chains.load < m.size + 1) k)

def find? (m : Members α) (k : Key) : Option α := m.values[k.name]?

def contains (m : Members α) (k : Key) : Bool := m.values.contains k.name

/-- Notes that a key has been looked for. -/
def touched (m : Members α) (k : Key) : Members α := { m with layout := m.looked k false }

/-- Gives a member a value. -/
def put (m : Members α) (k : Key) (v : α) : Members α :=
  { values := m.values.insert k.name v, layout := m.looked k true }

/-- Gives a member a value without looking for it anew. -/
def update (m : Members α) (k : Key) (v : α) : Members α :=
  if m.contains k then { m with values := m.values.insert k.name v } else m.put k v

def remove (m : Members α) (k : Key) : Members α :=
  if !m.contains k then m.touched k
  else if m.size == 1 then {}
  else
    let values := m.values.erase k.name
    let inner : Option Nat := match m.layout, k with
      | .row, .number n => some n.toNat
      | _, _ => none
    if inner == some m.size then { values := values, layout := .row }
    else
      let named : Bool := match k with
        | .text _ => true
        | .number _ => false
      let c := m.chains named
      let c := if named then c.withNames else c
      let c := c.dropText k.name
      let c := match k with
        | .number n => c.dropNumber n
        | .text s => match s.toInt? with
          | some n => if toString n == s then c.dropNumber n else c
          | none => c
      { values := values, layout := .chains c }

/-- The keys in the order in which members are visited, and the array after that. -/
def visit (m : Members α) : List String × Members α :=
  if m.size == 0 then ([], m)
  else
    let c := (m.chains false).withNames
    ((c.texts.toList.flatMap id), { m with layout := .chains c })

/-- The numbers from one on with their values. -/
def ofList (vs : List α) : Members α :=
  { values := (vs.zip (List.range vs.length)).foldl (fun h v => h.insert (toString (v.2 + 1)) v.1) ∅
    layout := .row }

end Members

end StudyFlow.Shell.Awk
