import StudyFlow.Shell.Utility.Lines

/-!
Sorting lines by keys, and joining sorted files.
-/

namespace StudyFlow.Shell

namespace Utility

open StudyFlow.Shell.Action

structure Comparison where
  numeric : Bool := false
  general : Bool := false
  human : Bool := false
  version : Bool := false
  month : Bool := false
  reversed : Bool := false
  foldCase : Bool := false
  dictionary : Bool := false
  printable : Bool := false
  blanksFront : Bool := false
  blanksBack : Bool := false
  random : Bool := false
  deriving Inhabited

/-- Whether any way of comparing is chosen. -/
def Comparison.isPlain (c : Comparison) : Bool :=
  !(c.numeric || c.general || c.human || c.version || c.month || c.reversed || c.foldCase ||
    c.dictionary ||
    c.printable || c.blanksFront || c.blanksBack || c.random)

/-- A key of lines: from a field and character to another. -/
structure SortKey where
  field : Nat
  char : Nat
  toField : Option Nat
  toChar : Nat
  comparison : Comparison
  deriving Inhabited

def Comparison.add (c : Comparison) (letter : Char) (front : Bool) : Option Comparison :=
  match letter with
  | 'n' => some { c with numeric := true }
  | 'g' => some { c with general := true }
  | 'h' => some { c with human := true }
  | 'V' => some { c with version := true }
  | 'M' => some { c with month := true }
  | 'r' => some { c with reversed := true }
  | 'f' => some { c with foldCase := true }
  | 'd' => some { c with dictionary := true }
  | 'i' => some { c with printable := true }
  | 'R' => some { c with random := true }
  | 'b' => some (if front then { c with blanksFront := true } else { c with blanksBack := true })
  | _ => none

/-- A decimal number in text as it is compared: its sign, its digits before and after the point. -/
structure SortNumber where
  negative : Bool
  whole : Nat
  part : List Char

/-- The number at the front of a text. -/
def sortNumber (cs : List Char) : SortNumber × List Char :=
  let cs := cs.dropWhile fun c => c == ' ' || c == '\t' || c == '\n'
  let (negative, cs) := match cs with
    | '-' :: rest => (true, rest)
    | cs => (false, cs)
  let whole := cs.takeWhile Char.isDigit
  let rest := cs.drop whole.length
  let part := match rest with
    | '.' :: ds => ds.takeWhile Char.isDigit
    | _ => []
  let after := if part.isEmpty then rest else rest.drop (part.length + 1)
  let trimmed := (part.reverse.dropWhile (· == '0')).reverse
  (⟨negative, decimalOf (String.ofList whole), trimmed⟩, after)

def comparePart : List Char → List Char → Ordering
  | [], [] => .eq
  | [], _ => .lt
  | _, [] => .gt
  | a :: as, b :: bs => if a < b then .lt else if b < a then .gt else comparePart as bs

def compareNumbers (a b : SortNumber) : Ordering :=
  let size (x y : SortNumber) : Ordering :=
    (compare x.whole y.whole).then (comparePart x.part y.part)
  let zero (x : SortNumber) : Bool := x.whole == 0 && x.part.isEmpty
  let negative (x : SortNumber) : Bool := x.negative && !zero x
  match negative a, negative b with
  | false, false => size a b
  | true, true => size b a
  | true, false => .lt
  | false, true => .gt

def monthOf (cs : List Char) : Nat :=
  let t := (String.ofList ((cs.dropWhile fun c => c == ' ' || c == '\t').take 3)).toUpper
  match ["JAN", "FEB", "MAR", "APR", "MAY", "JUN", "JUL", "AUG", "SEP", "OCT", "NOV",
    "DEC"].findIdx? (· == t) with
  | some i => i + 1
  | none => 0

/-- Where a character comes in names of versions: a tilde before all, then the end, then letters. -/
def versionOrder (c : Char) : Int :=
  if c.isDigit then 0 else if c.isAlpha then c.toNat else if c == '~' then -1 else c.toNat + 256

/-- Compares names of versions: runs of digits as numbers, all else by characters. -/
def compareVersions : Nat → List Char → List Char → Ordering
  | 0, _, _ => .eq
  | fuel + 1, a, b =>
    if a.isEmpty && b.isEmpty then .eq
    else
      let wordA := a.takeWhile fun c => !c.isDigit
      let wordB := b.takeWhile fun c => !c.isDigit
      let rec words : List Char → List Char → Ordering
        | [], [] => .eq
        | [], c :: _ => compare (0 : Int) (versionOrder c)
        | c :: _, [] => compare (versionOrder c) 0
        | c :: cs, d :: ds => (compare (versionOrder c) (versionOrder d)).then (words cs ds)
      match words wordA wordB with
      | .eq =>
        let a := a.drop wordA.length
        let b := b.drop wordB.length
        let digitsA := a.takeWhile Char.isDigit
        let digitsB := b.takeWhile Char.isDigit
        match compare (decimalOf (String.ofList digitsA)) (decimalOf (String.ofList digitsB)) with
        | .eq => compareVersions fuel (a.drop digitsA.length) (b.drop digitsB.length)
        | o => o
      | o => o

def unitScale (cs : List Char) : Nat :=
  match cs.head? with
  | some c => match "KMGTPEZY".toList.findIdx? (· == c.toUpper) with
    | some i => i + 1
    | none => 0
  | none => 0

def Comparison.compareTexts (c : Comparison) (a b : List Char) : Ordering :=
  let result :=
    if c.numeric then compareNumbers (sortNumber a).1 (sortNumber b).1
    else if c.human then
      let (x, r) := sortNumber a
      let (y, s) := sortNumber b
      let zero (n : SortNumber) : Bool := n.whole == 0 && n.part.isEmpty
      let rank (n : SortNumber) (rest : List Char) : Int :=
        if zero n then 0 else if n.negative then -(unitScale rest : Int) - 1 else unitScale rest + 1
      (compare (rank x r) (rank y s)).then (compareNumbers x y)
    else if c.general then
      let value (t : List Char) : Option Float := (readReal 53 t).map fun x => Real.toFloat x.1
      match value a, value b with
      | none, none => .eq
      | none, some _ => .lt
      | some _, none => .gt
      | some x, some y => if x < y then .lt else if y < x then .gt else .eq
    else if c.month then compare (monthOf a) (monthOf b)
    else if c.version then compareVersions (a.length + b.length + 1) a b
    else
      let prepare (t : List Char) : List Char :=
        let t := if c.dictionary then t.filter fun x => x.isAlphanum || x == ' ' || x == '\t' else t
        let t := if c.printable then t.filter fun x => 32 ≤ x.toNat && x.toNat < 127 else t
        if c.foldCase then t.map Char.toUpper else t
      compare (String.ofList (prepare a)) (String.ofList (prepare b))
  if c.reversed then result.swap else result

/-- The fields of a line with the place where each starts. Without a separator a field starts with
the blanks in front of it. -/
def fieldStarts (separator : Option Char) (line : Array Char) : List (Nat × Nat) :=
  let isBlank (c : Char) : Bool := c == ' ' || c == '\t'
  match separator with
  | some s =>
    let rec go : List Char → Nat → Nat → List (Nat × Nat) → List (Nat × Nat)
      | [], i, start, acc => ((start, i) :: acc).reverse
      | c :: cs, i, start, acc =>
        if c == s then go cs (i + 1) (i + 1) ((start, i) :: acc) else go cs (i + 1) start acc
    go line.toList 0 0 []
  | none =>
    let rec goBlank : List Char → Nat → Nat → Bool → List (Nat × Nat) → List (Nat × Nat)
      | [], i, start, _, acc => ((start, i) :: acc).reverse
      | c :: cs, i, start, inWord, acc =>
        if isBlank c && inWord then goBlank cs (i + 1) i false ((start, i) :: acc)
        else goBlank cs (i + 1) start (inWord || !isBlank c) acc
    goBlank line.toList 0 0 false []

def SortKey.text (k : SortKey) (separator : Option Char) (line : String) : List Char :=
  let cs := line.toList.toArray
  let fields := fieldStarts separator cs
  let skipBlanks (i : Nat) : Nat :=
    i + ((cs.toList.drop i).takeWhile fun c => c == ' ' || c == '\t').length
  let start := match fields[k.field - 1]? with
    | some (a, _) =>
      let a := if k.comparison.blanksFront then skipBlanks a else a
      min cs.size (a + (k.char - 1))
    | none => cs.size
  let stop := match k.toField with
    | none => cs.size
    | some f =>
      match fields[f - 1]? with
      | some (a, b) =>
        if k.toChar == 0 then b
        else
          let a := if k.comparison.blanksBack then skipBlanks a else a
          min cs.size (a + k.toChar)
      | none => cs.size
  (cs.extract start (max start stop)).toList

def readKey (name text : String) : Action SortKey := do
  let bad {α : Type} (what : String) : Action α := die 2 (name ++ ": " ++ what)
  let number (cs : List Char) : Nat × List Char :=
    let ds := cs.takeWhile Char.isDigit
    (decimalOf (String.ofList ds), cs.drop ds.length)
  let letters (cs : List Char) (c : Comparison) (front : Bool) : Comparison × List Char := Id.run do
    let mut c := c
    let mut rest := cs
    for _ in [0:cs.length] do
      match rest with
      | l :: more =>
        match c.add l front with
        | some d =>
          c := d
          rest := more
        | none => break
      | [] => break
    return (c, rest)
  let cs := text.toList
  if !(cs.head?.any Char.isDigit) then
    bad ("invalid number at field start: invalid count at start of " ++ Utility.quoted text)
  let (field, rest) := number cs
  if field == 0 then bad ("-: invalid field specification " ++ Utility.quoted text ++
    ": field number is zero")
  let (char, rest) ← match rest with
    | '.' :: more =>
      let (n, r) := number more
      if n == 0 then
        bad ("character offset is zero: invalid field specification " ++ Utility.quoted text)
      else pure (n, r)
    | r => pure (1, r)
  let (c, rest) := letters rest {} true
  match rest with
  | [] => return ⟨field, char, none, 0, c⟩
  | ',' :: more =>
    if !(more.head?.any Char.isDigit) then
      bad ("invalid number after ',': invalid count at start of " ++
        Utility.quoted (String.ofList more))
    let (toField, rest) := number more
    if toField == 0 then
      bad ("-: invalid field specification " ++ Utility.quoted text ++ ": field number is zero")
    let (toChar, rest) := match rest with
      | '.' :: more => number more
      | r => (0, r)
    let (c, rest) := letters rest c false
    if !rest.isEmpty then
      bad ("stray character in field spec: invalid field specification " ++ Utility.quoted text)
    return ⟨field, char, some toField, toChar, c⟩
  | _ => bad ("stray character in field spec: invalid field specification " ++ Utility.quoted text)

def sortUtility : Utility := fun _ name args => do
  let g ← readArguments name
    { letters := "nrufbdighMVRsmzcCk:t:o:S:T:", names := [("numeric-sort", 'n'), ("reverse", 'r'),
        ("unique", 'u'), ("ignore-case", 'f'), ("ignore-leading-blanks", 'b'),
        ("dictionary-order", 'd'), ("ignore-nonprinting", 'i'), ("general-numeric-sort", 'g'),
        ("human-numeric-sort", 'h'), ("month-sort", 'M'), ("version-sort", 'V'),
        ("random-sort", 'R'), ("stable", 's'), ("merge", 'm'), ("zero-terminated", 'z'),
        ("check", 'c'), ("key", 'k'), ("field-separator", 't'), ("output", 'o'),
        ("buffer-size", 'S'), ("temporary-directory", 'T')], wrong := 2 } args
  let separator ← match g.last? 't' with
    | none => pure none
    | some t =>
      if t == "\\0" then pure (some '\x00')
      else match t.toList with
        | [c] => pure (some c)
        | [] => die 2 (name ++ ": empty tab")
        | _ => die 2 (name ++ ": multi-character tab " ++ Utility.quoted t)
  let whole := g.options.foldl (fun (c : Comparison) o => match c.add o.1 true with
    | some d => if o.1 == 'b' then { d with blanksBack := true } else d
    | none => c) {}
  let mut keys : Array SortKey := #[]
  for (c, text) in g.options do
    if c == 'k' then
      let k ← readKey name text
      keys := keys.push (if k.comparison.isPlain then { k with comparison := whole } else k)
  let wholeKey : SortKey := ⟨1, 1, none, 0, whole⟩
  let used := if keys.isEmpty then [wholeKey] else keys.toList
  let files := if g.operands.isEmpty then ["-"] else g.operands.toList
  let ending := if g.has 'z' then '\x00' else '\n'
  let mut lines : Array String := #[]
  for f in files do
    match ← contentOf f with
    | .ok text => lines := lines ++ (cleanLines text ending).toArray
    | .error cause =>
      if cause == "Is a directory" then
        die 2 (name ++ ": read failed: " ++ shown f ++ ": " ++ cause)
      else die 2 (name ++ ": cannot read: " ++ shown f ++ ": " ++ cause)
  let prepared := lines.toList.map fun l => (l, used.map fun k =>
    if keys.isEmpty && !k.comparison.blanksFront then l.toList else k.text separator l)
  let byKeys (a b : String × List (List Char)) : Ordering :=
    ((used.zip (a.2.zip b.2)).foldl (fun (acc : Ordering) x =>
      match acc with
      | .eq => x.1.comparison.compareTexts x.2.1 x.2.2
      | o => o) .eq)
  let isUnique := g.has 'u'
  let full (a b : String × List (List Char)) : Ordering :=
    match byKeys a b with
    | .eq => if g.has 's' || isUnique then .eq
      else if whole.reversed then (compare a.1 b.1).swap else compare a.1 b.1
    | o => o
  if g.has 'c' || g.has 'C' then
    let mut before : Option (String × List (List Char)) := none
    let mut number := 0
    for x in prepared do
      number := number + 1
      match before with
      | some b =>
        let o := full b x
        if o == .gt || (isUnique && o == .eq) then
          if g.has 'c' then
            complain (name ++ ": " ++ files.head?.getD "-" ++ ":" ++ number.repr ++
              ": disorder: " ++ x.1)
          return 1
      | none => pure ()
      before := some x
    return 0
  let sorted := prepared.mergeSort fun a b => full a b != .gt
  let result := if isUnique then
      (sorted.foldl (fun (acc : List (String × List (List Char))) x =>
        match acc with
        | y :: _ => if byKeys y x == .eq then acc else x :: acc
        | [] => [x]) []).reverse
    else sorted
  let out := String.join (result.map fun x => x.1.push ending)
  match g.last? 'o' with
  | some f =>
    match ← writeFile f .write out with
    | some fault => die 2 (name ++ ": open failed: " ++ shown f ++ ": " ++ faultText fault)
    | none => return 0
  | none =>
    match ← writeTo 1 out with
    | some f =>
      complain (name ++ ": write failed: 'standard output': " ++ f.message)
      return 2
    | none => return 0

def joinUtility : Utility := fun _ name args => do
  let g ← readArguments name
    { letters := "t:1:2:j:a:v:o:e:iz", names := [("ignore-case", 'i'), ("check-order", 'x'),
        ("nocheck-order", 'x'), ("header", 'h'), ("zero-terminated", 'z')] } args
  match g.operands.toList with
  | [] => misuse name 1 "missing operand"
  | [a] => misuse name 1 ("missing operand after " ++ Utility.quoted a)
  | [a, b] =>
    let read (f : String) : Action (List String) := do
      match ← contentOf f with
      | .ok text => return cleanLines text '\n'
      | .error cause => die 1 (name ++ ": " ++ shown f ++ ": " ++ cause)
    let separator := (g.last? 't').bind fun t => t.toList.head?
    let fieldsOf (l : String) : List String :=
      match separator with
      | some c => splitAtEach c l
      | none =>
        (splitAtEach ' ' (l.map fun c => if c == '\t' then ' ' else c)).filter fun w => !w.isEmpty
    let between := match separator with
      | some c => String.singleton c
      | none => " "
    let j := g.last? 'j'
    let k1 := decimalOf ((g.last? '1').getD (j.getD "1")) - 1
    let k2 := decimalOf ((g.last? '2').getD (j.getD "1")) - 1
    let first := (← read a).map fieldsOf
    let second := (← read b).map fieldsOf
    let fold (s : String) : String := if g.has 'i' then s.toLower else s
    let key (k : Nat) (fs : List String) : String := fs.getD k ""
    let others (k : Nat) (fs : List String) : List String :=
      ((fs.zip (List.range fs.length)).filter fun x => x.2 != k).map Prod.fst
    let filler := (g.last? 'e').getD ""
    let filled (s : String) : String := if s.isEmpty then filler else s
    let unpaired (n : Nat) : Bool := g.options.any fun o => (o.1 == 'a' || o.1 == 'v') &&
      o.2 == n.repr
    let onlyUnpaired := g.has 'v'
    let layout := (g.last? 'o').map fun o =>
      (splitAtEach ',' (o.map fun c => if c == ' ' then ',' else c)).filter fun w => !w.isEmpty
    let line (k : String) (x y : Option (List String)) : String :=
      match layout with
      | some ["auto"] | none =>
        between.intercalate ((k :: (x.map (others k1)).getD [] ++ (y.map (others k2)).getD []).map
          filled) ++ "\n"
      | some specs =>
        between.intercalate (specs.map fun s => filled (
          if s == "0" then k
          else
            let n := decimalOf (dropFront 2 s) - 1
            let fs := if s.startsWith "1" then x else y
            (fs.map fun f => f.getD n "").getD "")) ++ "\n"
    let mut xs := first
    let mut ys := second
    let mut out : String := ""
    for _ in [0:first.length + second.length + 1] do
      match xs, ys with
      | [], [] => break
      | x :: rest, [] =>
        if unpaired 1 then out := out ++ line (key k1 x) (some x) none
        xs := rest
      | [], y :: rest =>
        if unpaired 2 then out := out ++ line (key k2 y) none (some y)
        ys := rest
      | x :: restX, y :: restY =>
        let p := fold (key k1 x)
        let q := fold (key k2 y)
        if p < q then
          if unpaired 1 then out := out ++ line (key k1 x) (some x) none
          xs := restX
        else if q < p then
          if unpaired 2 then out := out ++ line (key k2 y) none (some y)
          ys := restY
        else
          let sameX := xs.takeWhile fun f => fold (key k1 f) == p
          let sameY := ys.takeWhile fun f => fold (key k2 f) == p
          if !onlyUnpaired then
            for f in sameX do
              for h in sameY do
                out := out ++ line (key k1 f) (some f) (some h)
          xs := xs.drop sameX.length
          ys := ys.drop sameY.length
    put name 1 out
    return 0
  | _ :: _ :: c :: _ => misuse name 1 ("extra operand " ++ Utility.quoted c)

def shufUtility : Utility := fun _ name args => do
  let g ← readArguments name
    { letters := "en:i:o:rz", names := [("echo", 'e'), ("head-count", 'n'), ("input-range", 'i'),
        ("output", 'o'), ("repeat", 'r')] } args
  let lines ← match g.has 'e', g.last? 'i' with
    | true, _ => pure g.operands.toList
    | false, some r =>
      match r.splitOn "-" with
      | [a, b] =>
        pure ((List.range (decimalOf b + 1 - decimalOf a)).map fun k => (decimalOf a + k).repr)
      | _ => die 1 (name ++ ": invalid input range: " ++ Utility.quoted r)
    | false, none => do
      match ← contentOf (g.operands[0]?.getD "-") with
      | .ok text => pure (cleanLines text '\n')
      | .error cause => die 1 (name ++ ": " ++ shown (g.operands[0]?.getD "-") ++ ": " ++ cause)
  let count := match g.last? 'n' with
    | some n => decimalOf n
    | none => lines.length
  put name 1 (String.join ((lines.take count).map (· ++ "\n")))
  return 0

def tsortUtility : Utility := fun _ name args => do
  let g ← readArguments name { letters := "" } args
  let file := g.operands[0]?.getD "-"
  let text ← match ← contentOf file with
    | .ok text => pure text
    | .error cause => die 1 (name ++ ": " ++ shown file ++ ": " ++ cause)
  let words := (splitAtEach ' ' (text.map fun c => if isBlankOctet c then ' ' else c)).filter
    fun w => !w.isEmpty
  if words.length % 2 == 1 then
    die 1 (name ++ ": " ++ shown file ++ ": input contains an odd number of tokens")
  let rec pairs : List String → List (String × String)
    | a :: b :: rest => (a, b) :: pairs rest
    | _ => []
  let edges := ((pairs words).filter fun e => e.1 != e.2).eraseDups
  let nodes := words.eraseDups.mergeSort (· ≤ ·)
  let mut left := nodes
  let mut edges := edges
  let mut queue := nodes.filter fun n => !(edges.any fun e => e.2 == n)
  let mut status := 0
  for _ in [0:2 * nodes.length + 1] do
    match queue with
    | n :: rest =>
      printLine n
      left := left.filter (· != n)
      let outgoing := (edges.filter fun e => e.1 == n).reverse.map Prod.snd
      edges := edges.filter fun e => e.1 != n
      let freed := outgoing.filter fun m => !(edges.any fun e => e.2 == m)
      queue := rest ++ freed
    | [] =>
      match left with
      | [] => break
      | n :: _ =>
        complain (name ++ ": " ++ shown file ++ ": input contains a loop:")
        complain (name ++ ": " ++ n)
        status := 1
        edges := edges.filter fun e => e.2 != n
        queue := [n]
  return status

def sortPrograms : List (String × Utility) :=
  [("sort", sortUtility), ("join", joinUtility), ("shuf", shufUtility), ("tsort", tsortUtility)]

end Utility

end StudyFlow.Shell
