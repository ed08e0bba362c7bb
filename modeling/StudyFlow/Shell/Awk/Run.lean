import StudyFlow.Shell.Awk.Memory
import StudyFlow.Shell.Date

/-!
Running programs for records. Expressions have values and effects; a statement that does not go on
with the next one stops what surrounds it, up to where that is asked for.
-/

namespace StudyFlow.Shell.Awk

namespace Run

open Utility

attribute [local instance (high)] instPowNat

/-- What is left of a division of numbers; the sign is that of the first one. -/
def remainder (x y : Float) : Float :=
  if x.isNaN || y.isNaN || x.isInf || y == 0 then 0.0 / 0.0
  else if y.isInf then x
  else match Real.ofFloat x, Real.ofFloat y with
    | .finite negative m e, .finite _ n f =>
      let low := min e f
      let a := m * 2 ^ (e - low).toNat
      let b := n * 2 ^ (f - low).toNat
      (Real.finite negative (a % b) low).toFloat
    | _, _ => 0.0 / 0.0

def arithmetic (op : Char) (x y : Float) : Float :=
  match op with
  | '+' => x + y
  | '-' => x - y
  | '*' => x * y
  | '/' => x / y
  | '%' => remainder x y
  | _ => x ^ y

def partOf (s : String) (start : Float) (length : Option Float) : String :=
  let i := asInteger start
  let cs := s.toList
  match length with
  | none => String.ofList (cs.drop (i - 1).toNat)
  | some n =>
    let n := asInteger n
    let n := Int.bmod (if i < 1 then n - i else n) UInt32.size
    String.ofList ((cs.drop (i - 1).toNat).take n.toNat)

/-- The seconds of a time that is written as numbers: year, month, day, hour, minute and second. -/
def secondsOf (s : String) : Int :=
  match (blankWords s.toList).map String.toInt? with
  | some y :: some mo :: some d :: some h :: some mi :: some sec :: _ =>
    let month := mo - 1
    let year := y + month / 12
    Date.daysFrom year ((month % 12).toNat + 1) 1 * 86400 + (d - 1) * 86400 + h * 3600 +
      mi * 60 + sec
  | _ => -1

/-- The most values that the parameters of running functions take. -/
def stackSize : Nat := 1006

def printedText (v : Cell) : Run String := do
  match v with
  | .number x => return numberText (← get).printedNumbers x
  | v => textOf v

def applyFormat (c : Context) (what : String) (values : List Cell) (keep : String → Run Unit) :
    Run String := do
  match values with
  | [] => return ""
  | f :: args =>
    let format ← textOf f
    let numbers := (← get).numbers
    let (text, fault) := formatted (fun v => v.toText numbers)
      (format.length + 1) 0 format.toList args ""
    match fault with
    | none => return text
    | some reason =>
      keep text
      match reason with
      | .missing =>
        runFault c ("not enough arguments passed to " ++ what ++ "(\"" ++ format ++ "\")")
      | .improper n =>
        runFault c ("improper conversion(number " ++ n.repr ++ ") in " ++ what ++ "(\"" ++
          format ++ "\")")

/-- Closes what has a name; the last status, or a negative number if there is nothing. -/
def closeNamed (c : Context) (name : String) : Run Int := do
  let m ← get
  let outputs := m.outputs.filter fun o => o.name == name
  let sources := m.sources.filter fun s => s.1 == "<" ++ name || s.1 == "|" ++ name
  modify fun m => { m with
    outputs := m.outputs.filter fun o => o.name != name
    sources := m.sources.filter fun s => !(s.1 == "<" ++ name || s.1 == "|" ++ name) }
  let mut status : Int := if sources.isEmpty then -1 else 0
  for o in outputs do
    status := ((← closeOutput c o) : Nat)
  if outputs.isEmpty then
    match (← get).ended.lookup name, sources.any fun s => s.1 == "|" ++ name with
    | some n, true => status := (n : Nat)
    | _, _ => pure ()
  return status

mutual

def eval (c : Context) (fuel : Nat) (e : Expr) : Run Cell :=
  match fuel with
  | 0 => tooDeep
  | fuel + 1 =>
    match e with
    | .number x => return .number x
    | .text s => return .text s
    | .group e => eval c fuel e
    | .regex _ r => do
      let s ← textOf (← get).record
      return .ofBool (r.search? { text := s.toList.toArray } 0).isSome
    | .var v => getVariable c v
    | .element v index => do
      let k ← keyOf c fuel index
      let key ← arrayKey v
      let m ← membersOf key
      match m.find? k with
      | some x =>
        setMembers key (m.touched k)
        return x
      | none =>
        setMembers key (m.put k .none)
        return .none
    | .field i => do
      let n ← eval c fuel i
      getField c (asInteger n.toNumber)
    | .assign op target value => do
      match op with
      | none =>
        let place ← settle c fuel target
        let v ← eval c fuel value
        store c fuel place v
        return v
      | some o =>
        let place ← settle c fuel target
        let v ← eval c fuel value
        let old ← eval c fuel place
        let result := Cell.number (arithmetic o old.toNumber v.toNumber)
        store c fuel place result
        return result
    | .choice q a b => do
      if (← eval c fuel q).holds then eval c fuel a else eval c fuel b
    | .either a b => do
      if (← eval c fuel a).holds then return .ofBool true
      return .ofBool (← eval c fuel b).holds
    | .both a b => do
      if !(← eval c fuel a).holds then return .ofBool false
      return .ofBool (← eval c fuel b).holds
    | .member index v => do
      let k ← keyOf c fuel index
      let key ← arrayKey v
      let m ← membersOf key
      setMembers key (m.touched k)
      return .ofBool (m.contains k)
    | .matches negated a p => do
      let s ← textOf (← eval c fuel a)
      let r ← regexOf c fuel p
      return .ofBool ((r.search? { text := s.toList.toArray } 0).isSome != negated)
    | .compare r a b => do
      let x ← eval c fuel a
      let y ← eval c fuel b
      return .ofBool (r.holds (Cell.compare (← get).numbers x y))
    | .join a b => do
      let s ← textOf (← eval c fuel a)
      let t ← textOf (← eval c fuel b)
      return .text (s ++ t)
    | .arith op a b => do
      let x ← eval c fuel a
      let y ← eval c fuel b
      return .number (arithmetic op x.toNumber y.toNumber)
    | .negative a => do return .number (-(← eval c fuel a).toNumber)
    | .positive a => do return .number (← eval c fuel a).toNumber
    | .not a => do return .ofBool !(← eval c fuel a).holds
    | .step d after target => do
      let place ← settle c fuel target
      let old := (← eval c fuel place).toNumber
      let new := Cell.number (old + d)
      store c fuel place new
      return if after then new else .number old
    | .call f args => callFunction c fuel f args
    | .builtin f args => callBuiltin c fuel f args
    | .getline source target => do
      match source with
      | none =>
        match ← nextRecord c with
        | some r =>
          match target with
          | some t => store c fuel (← settle c fuel t) (.input r)
          | none => setRecord (.input r)
          return .number 1
        | none => return .number 0
      | some (isCommand, name) =>
        let name ← textOf (← eval c fuel name)
        let (n, r) ← nextOf c isCommand name
        if n == 1 then
          match target with
          | some t => store c fuel (← settle c fuel t) (.input r)
          | none => setRecord (.input r)
        return .ofInt n

/-- The place that an expression means, with its indices settled. -/
def settle (c : Context) (fuel : Nat) (target : Expr) : Run Expr :=
  match fuel with
  | 0 => tooDeep
  | fuel + 1 =>
    match target with
    | .element v index => do
      let k ← keyOf c fuel index
      changeMembers (← arrayKey v) fun m => if m.contains k then m.touched k else m.put k .none
      match k with
      | .number n => return .element v [.number (Float.ofInt n)]
      | .text s => return .element v [.text s]
    | .field i => do
      let n ← eval c fuel i
      return .field (.number n.toNumber)
    | e => return e

/-- Puts a value somewhere. -/
def store (c : Context) (fuel : Nat) (target : Expr) (v : Cell) : Run Unit :=
  match fuel with
  | 0 => tooDeep
  | fuel + 1 =>
    match target with
    | .var x => setVariable c x v
    | .element x index => do
      let k ← keyOf c fuel index
      let key ← arrayKey x
      changeMembers key (·.update k v)
    | .field i => do
      let n ← eval c fuel i
      setField c (asInteger n.toNumber) v
    | _ => return

def keyOf (c : Context) (fuel : Nat) (index : List Expr) : Run Key :=
  match fuel with
  | 0 => tooDeep
  | fuel + 1 => do
    match index with
    | [e] =>
      match ← eval c fuel e with
      | .number x =>
        if x.floor == x && x.abs < 9007199254740992 then return .number (asWord x)
        else return .text (numberText (← get).numbers x)
      | v => return .text (← textOf v)
    | index =>
      let between ← sharedText "SUBSEP"
      let mut out := ""
      let mut first := true
      for e in index do
        let t ← textOf (← eval c fuel e)
        out := if first then t else out ++ between ++ t
        first := false
      return .text out

/-- The expression that is meant as a pattern. -/
def regexOf (c : Context) (fuel : Nat) (e : Expr) : Run Regex :=
  match fuel with
  | 0 => tooDeep
  | fuel + 1 => do
    match e with
    | .regex _ r => return r
    | .group e => regexOf c fuel e
    | e => patternOf c (← textOf (← eval c fuel e))

def callFunction (c : Context) (fuel : Nat) (name : String) (args : List Expr) : Run Cell :=
  match fuel with
  | 0 => tooDeep
  | fuel + 1 => do
    match c.program.functions.find? fun f => f.name == name with
    | none => return .none
    | some f =>
      let mut slots : Array Slot := #[]
      let mut fresh : List String := []
      for (i, a) in (List.range f.params.length).zip
        (args.map some ++ List.replicate f.params.length none) do
        if f.arrays.contains i then
          match a with
          | some (.var v) => slots := slots.push (.array (← arrayKey v))
          | _ =>
            let n := (← get).serial
            let key := "\x00" ++ n.repr
            modify fun m => { m with serial := n + 1 }
            fresh := key :: fresh
            slots := slots.push (.array key)
        else match a with
          | some e => slots := slots.push (.cell (← eval c fuel e))
          | none => slots := slots.push .free
      let caller := (← get).frame
      let size := f.params.length
      if stackSize < (← get).used + size then fatal c "program limit exceeded: eval stack size=1024"
      modify fun m => { m with frame := slots, used := m.used + size }
      let leave : Run Unit := do
        let own := fresh
        modify fun m => { m with
          frame := caller, used := m.used - size, arrays :=
            own.foldl (fun a k => a.erase k) m.arrays }
      let result ← try
          exec c fuel f.body
          pure Cell.none
        catch s =>
          match s with
          | .give v => pure v
          | s =>
            leave
            throw s
      leave
      return result

/-- Calls a function that is there from the start. -/
def callBuiltin (c : Context) (fuel : Nat) (name : String) (args : List Expr) : Run Cell :=
  match fuel with
  | 0 => tooDeep
  | fuel + 1 => do
    let numberOf (e : Expr) : Run Float := do return (← eval c fuel e).toNumber
    let textOfExpr (e : Expr) : Run String := do textOf (← eval c fuel e)
    match name, args with
    | "length", [] => return .ofNat (← textOf (← get).record).length
    | "length", [.var v] =>
      let isArray ← match v with
        | .shared n => pure ((← get).arrays.contains n)
        | .own i => do
          match (← get).frame[i]? with
          | some (.array _) => pure true
          | _ => pure false
      if isArray then return .ofNat (← membersOf (← arrayKey v)).size
      else return .ofNat (← textOf (← getVariable c v)).length
    | "length", [e] => return .ofNat (← textOfExpr e).length
    | "index", [a, b] =>
      let s ← textOfExpr a
      let t ← textOfExpr b
      if t.isEmpty then return .number 1
      else return .ofNat (match indexOf? t.toList s.toList with
        | some i => i + 1
        | none => 0)
    | "substr", [a, b] =>
      let s ← textOfExpr a
      return .text (partOf s (← numberOf b) none)
    | "substr", [a, b, d] =>
      let s ← textOfExpr a
      let i ← numberOf b
      return .text (partOf s i (some (← numberOf d)))
    | "sprintf", args =>
      let mut values := #[]
      for a in args do
        values := values.push (← eval c fuel a)
      return .text (← applyFormat c "sprintf" values.toList fun _ => pure ())
    | "sin", [e] => return .number (← numberOf e).sin
    | "cos", [e] => return .number (← numberOf e).cos
    | "exp", [e] => return .number (← numberOf e).exp
    | "log", [e] => return .number (← numberOf e).log
    | "sqrt", [e] => return .number (← numberOf e).sqrt
    | "atan2", [a, b] =>
      let x ← numberOf a
      return .number (Float.atan2 x (← numberOf b))
    | "int", [e] =>
      let x ← numberOf e
      return .number (if x < 0 then x.ceil else x.floor)
    | "rand", [] =>
      let n := ((← get).chance * 6364136223846793005 + 1442695040888963407) % 2 ^ (53 : Nat)
      modify fun m => { m with chance := n }
      return .number (Float.ofNat n / 9007199254740992)
    | "srand", args =>
      let old := (← get).seed
      let new ← match args with
        | [e] => numberOf e
        | _ => pure (Float.ofNat ((← act Action.world).clock / 1000))
      modify fun m => { m with seed := new, chance := new.abs.toUInt64.toNat }
      return .number old
    | "toupper", [e] => return .text ((← textOfExpr e).map Char.toUpper)
    | "tolower", [e] => return .text ((← textOfExpr e).map Char.toLower)
    | "close", [e] => return .ofInt (← closeNamed c (← textOfExpr e))
    | "system", [e] =>
      let t ← textOfExpr e
      flushFiles c
      return .ofNat (outcomeNumber (← command c "sh" t none))
    | "fflush", [] =>
      flushFiles c
      return .number 0
    | "fflush", [e] =>
      let t ← textOfExpr e
      let known := t.isEmpty || t == "/dev/stdout" || t == "/dev/stderr" ||
        (← get).outputs.any fun o => o.name == t
      if known then
        flushFiles c
        return .number 0
      else return .number (-1)
    | "systime", [] => return .ofNat ((← act Action.world).clock / 1000)
    | "mktime", [e] => return .ofInt (secondsOf (← textOfExpr e))
    | "strftime", args =>
      let format ← match args with
        | e :: _ => textOfExpr e
        | [] => pure "%c"
      let seconds : Int ← match args with
        | _ :: e :: _ => pure (asWord (← numberOf e))
        | _ => pure (((← act Action.world).clock / 1000 : Nat) : Int)
      return .text (Date.format format (Date.ofSeconds seconds) seconds 0)
    | "split", s :: .var v :: rest =>
      let text ← textOfExpr s
      let sep ← match rest with
        | [.regex source r] => pure (Separator.ofPattern source r)
        | [e] => separatorOf c (← textOfExpr e)
        | _ => separatorOf c (← sharedText "FS")
      let parts := sep.split text
      setMembers (← arrayKey v) (Members.ofList (parts.map Cell.input))
      return .ofNat parts.length
    | "match", [s, p] =>
      let text ← textOfExpr s
      let r ← regexOf c fuel p
      let (start, length) : Nat × Int := match r.search? { text := text.toList.toArray } 0 with
        | some (k, st) => (k + 1, ((st.pos - k : Nat) : Int))
        | none => (0, -1)
      setShared c "RSTART" (.ofNat start)
      setShared c "RLENGTH" (.ofInt length)
      return .ofNat start
    | f, p :: t :: rest =>
      let r ← regexOf c fuel p
      let by_ ← textOfExpr t
      let target ← match rest with
        | [e] => settle c fuel e
        | _ => pure (Expr.field (.number 0))
      let text ← textOf (← eval c fuel target)
      let (n, result) := replaceMatches r (f == "gsub") by_ text
      if n != 0 then store c fuel target (.text result)
      return .ofNat n
    | _, _ => return .none

/-- Carries out a statement. -/
def exec (c : Context) (fuel : Nat) (s : Stmt) : Run Unit :=
  match fuel with
  | 0 => tooDeep
  | fuel + 1 =>
    let round (body : Stmt) : Run Bool := do
      try
        exec c fuel body
        pure true
      catch s => match s with
        | .leave => pure false
        | .again => pure true
        | s => throw s
    let sinkName (out : Option (Sink × Expr)) : Run (Option (Sink × String)) := do
      match out with
      | some (k, e) => return some (k, ← textOf (← eval c fuel e))
      | none => return none
    let send (out : Option (Sink × String)) (text : String) : Run Unit := do
      match out with
      | some (k, name) => emitTo c k name text
      | none => emit text
    match s with
    | .expr e => do
      let _ ← eval c fuel e
    | .print args out => do
      let mut text := ""
      if args.isEmpty then text ← textOf (← get).record
      else
        let mut values := #[]
        for a in args do
          values := values.push (← eval c fuel a)
        let between ← sharedText "OFS"
        let mut first := true
        for v in values do
          let t ← printedText v
          text := if first then t else text ++ between ++ t
          first := false
      let out ← sinkName out
      send out (text ++ (← sharedText "ORS"))
    | .printf args out => do
      let mut values := #[]
      for a in args do
        values := values.push (← eval c fuel a)
      let out ← sinkName out
      send out (← applyFormat c "printf" values.toList (send out))
    | .block body => do
      for s in body do
        exec c fuel s
    | .branch q yes no => do
      if (← eval c fuel q).holds then exec c fuel yes else exec c fuel no
    | .while_ q body => do
      for _ in [0:1000000000] do
        if !(← eval c fuel q).holds then break
        if !(← round body) then break
    | .until_ body q => do
      for _ in [0:1000000000] do
        if !(← round body) then break
        if !(← eval c fuel q).holds then break
    | .for_ first q next body => do
      match first with
      | some e =>
        let _ ← eval c fuel e
      | none => pure ()
      for _ in [0:1000000000] do
        match q with
        | some e => if !(← eval c fuel e).holds then break
        | none => pure ()
        if !(← round body) then break
        match next with
        | some e =>
          let _ ← eval c fuel e
        | none => pure ()
    | .each v a body => do
      let key ← arrayKey a
      let (keys, members) := (← membersOf key).visit
      setMembers key members
      for k in keys do
        setVariable c v (.text k)
        if !(← round body) then break
    | .break_ => throw .leave
    | .continue_ => throw .again
    | .next => throw .next
    | .nextFile => throw .nextFile
    | .exit e => do
      match e with
      | some e =>
        let n := asInteger (← eval c fuel e).toNumber
        modify fun m => { m with status := (n % 256).toNat }
      | none => pure ()
      throw .exit
    | .return_ e => do
      match e with
      | some e => throw (.give (← eval c fuel e))
      | none => throw (.give .none)
    | .delete v index => do
      let key ← arrayKey v
      match index with
      | none => setMembers key {}
      | some index =>
        let k ← keyOf c fuel index
        changeMembers key (·.remove k)

end

/-- How deep a program goes into itself. -/
def depth : Nat := 40000

def chosen (c : Context) (index : Nat) (r : Rule) : Run Bool := do
  match r.choice with
  | .all => return true
  | .when e => return (← eval c depth e).holds
  | .range a b =>
    let running := (← get).open_.contains index
    let begins ← if running then pure true else pure (← eval c depth a).holds
    if !begins then return false
    let ends := (← eval c depth b).holds
    modify fun m => { m with open_ :=
      if ends then m.open_.filter (· != index) else if running then m.open_ else index :: m.open_ }
    return true

/-- Carries out the rules for the record. -/
def applyRules (c : Context) : Run Unit := do
  let rules := c.program.rules
  for (i, r) in (List.range rules.length).zip rules do
    if ← chosen c i r then exec c depth r.body

/-- Carries out the rules for all records. -/
def applyToAll (c : Context) : Run Unit := do
  for _ in [0:1000000000] do
    match ← nextRecord c with
    | none => break
    | some r =>
      setRecord (.input r)
      try
        applyRules c
      catch s => match s with
        | .next => pure ()
        | .nextFile => modify fun m => { m with main := none, mainIsInput := false }
        | s => throw s

/-- Runs an action; the answer is whether the rest is to follow, where an exit only ends the
action. -/
def part (body : Run Unit) : Run Bool := do
  try
    body
    pure true
  catch s => match s with
    | .exit => pure false
    | .next | .nextFile | .leave | .again | .give _ => pure true
    | .quit => throw .quit

/-- Runs a program from its start to its end. -/
def whole (c : Context) : Run Unit := do
  let p := c.program
  let goesOn ← part (for s in p.begins do exec c depth s)
  let reads := !p.rules.isEmpty || !p.ends.isEmpty
  if goesOn && reads then
    let _ ← part (applyToAll c)
  if reads then
    let _ ← part (for s in p.ends do exec c depth s)

/-- Runs a program; the status is its answer. -/
def start (c : Context) : Run Nat := do
  try
    whole c
  catch _ => pure ()
  try
    closeAll c
  catch _ => pure ()
  let m ← get
  match m.main, m.mainIsInput with
  | some s, true => act (giveBack false s.text.size s.pos)
  | _, _ => pure ()
  return m.status

end Run

end StudyFlow.Shell.Awk
