import StudyFlow.Shell.Condition
import StudyFlow.Shell.Difference
import StudyFlow.Shell.Utility.Files

/-!
Programs that compare files: octet by octet, and line by line. Differences of lines are told in the
plain form, in the two forms with context, as a script for an editor, or side by side.
-/

namespace StudyFlow.Shell

namespace Utility

open StudyFlow.Shell.Action

def visibleOctet (c : Char) : String :=
  let n := c.toNat
  let (front, n) := if n ≥ 128 then ("M-", n - 128) else ("", n)
  if n < 32 then front ++ "^" ++ String.singleton (Char.ofNat (n + 64))
  else if n == 127 then front ++ "^?"
  else front ++ String.singleton (Char.ofNat n)

/-- The digits of an octet in base eight. -/
def octalOf (c : Char) : String := padFront 3 (String.ofList (Nat.toDigits 8 c.toNat))

/-- A number that may end in a letter for its unit. -/
def readBytes? (text : String) : Option Nat :=
  let digits := text.toList.takeWhile Char.isDigit
  if digits.isEmpty then none
  else
    let n := decimalOf (String.ofList digits)
    match String.ofList (text.toList.drop digits.length) with
    | "" => some n
    | "k" | "K" => some (n * 1024)
    | "kB" => some (n * 1000)
    | "M" => some (n * 1048576)
    | _ => none

def cmpUtility : Utility := fun _ name args => do
  let misused {α : Type} (text : String) : Action α := do
    complain (name ++ ": " ++ text)
    complain (name ++ ": Try '" ++ name ++ " --help' for more information.")
    exit 2
  let g ← readArguments name
    { letters := "bli:n:s", names := [("print-bytes", 'b'), ("verbose", 'l'),
        ("ignore-initial", 'i'), ("bytes", 'n'), ("quiet", 's'),
        ("silent", 's')], wrong := 2, signed := true } args
  let files := g.operands.toList
  let (one, two) ← match files with
    | [] => misused ("missing operand after '" ++ name ++ "'")
    | [a] => pure (a, "-")
    | a :: b :: _ => pure (a, b)
  let number (option text : String) : Action Nat := match readBytes? text with
    | some n => return n
    | none => misused ("invalid " ++ option ++ " value '" ++ text ++ "'")
  let mut skips := (0, 0)
  match g.last? 'i' with
  | some t =>
    match splitAtEach ':' t with
    | [a, b] => skips := (← number "--ignore-initial" a, ← number "--ignore-initial" b)
    | _ =>
      let n ← number "--ignore-initial" t
      skips := (n, n)
  | none => pure ()
  match files with
  | [_, _, a] =>
    let n ← number "--ignore-initial" a
    skips := (n, skips.2)
  | [_, _, a, b] => skips := (← number "--ignore-initial" a, ← number "--ignore-initial" b)
  | _ :: _ :: a :: b :: c :: _ =>
    let _ ← number "--ignore-initial" a
    let _ ← number "--ignore-initial" b
    misused ("extra operand '" ++ c ++ "'")
  | _ => pure ()
  let most ← match g.last? 'n' with
    | some t => pure (some (← number "--bytes" t))
    | none => pure none
  if g.has 's' && g.has 'l' then misused "options -l and -s are incompatible"
  let load (f : String) : Action String := do
    match ← contentOf f with
    | .ok text => return text
    | .error cause =>
      if !g.has 's' || cause == "Is a directory" then complain (name ++ ": " ++ f ++ ": " ++ cause)
      exit 2
  if (one == "-" && two == "-") || one == two then
    if one == "-" || (← fileExists one) then return 0
  let cut (s : String) (skip : Nat) : List Char :=
    let cs := s.toList.drop skip
    match most with
    | some n => cs.take n
    | none => cs
  -- Both must be there before either is read.
  for f in [one, two] do
    if f != "-" && !(← fileExists f) then
      if !g.has 's' then complain (name ++ ": " ++ f ++ ": No such file or directory")
      exit 2
  let a := cut (← load one) skips.1
  let b := cut (← load two) skips.2
  let pairs := a.zip b
  let width := (max a.length b.length).repr.length
  let mut line := 1
  let mut differs := false
  let mut at_ := 0
  let mut out : Array String := #[]
  for (x, y) in pairs do
    at_ := at_ + 1
    if x != y then
      differs := true
      if g.has 's' then return 1
      if g.has 'l' then
        let mark (c : Char) (wide : Bool) : String :=
          if g.has 'b' then octalOf c ++ " " ++
            (if wide then padBack 4 (visibleOctet c) else visibleOctet c)
          else octalOf c
        out := out.push (padFront width at_.repr ++ " " ++ mark x true ++ " " ++
          mark y false ++ "\n")
      else
        put name 2 (one ++ " " ++ two ++ " differ: " ++
          (if g.has 'b' then "byte " else "char ") ++ at_.repr ++
          ", line " ++ line.repr ++ (if g.has 'b' then " is " ++ octalOf x ++ " " ++
            visibleOctet x ++ " " ++ octalOf y ++ " " ++ visibleOctet y else "") ++ "\n")
        return 1
    if x == '\n' then line := line + 1
  put name 2 (String.join out.toList)
  if a.length != b.length then
    if !g.has 's' then
      let short := if a.length < b.length then one else two
      let n := pairs.length
      let last := (pairs.getLast?.map Prod.fst) == some '\n'
      complain (name ++ ": EOF on " ++ short ++ (if n == 0 then " which is empty"
        else " after byte " ++ n.repr ++ (if g.has 'l' then "" else
          if last then ", line " ++ (line - 1).repr else ", in line " ++ line.repr)))
    return 1
  return if differs then 1 else 0

/-- A line of a file that is compared; the last one may be open. -/
structure FileLine where
  text : String
  ends : Bool := true
  deriving Inhabited

def fileLines (s : String) : Array FileLine :=
  let ls := linesOf s
  ((ls.zip (List.range ls.length)).map fun x =>
    (⟨x.1, !(endsOpen s && x.2 + 1 == ls.length)⟩ : FileLine)).toArray

/-- The forms in which differences are told. -/
inductive Style where
  | plain
  | unified (context : Nat)
  | context (context : Nat)
  | editor
  | columns
  deriving Inhabited, DecidableEq

structure FileComparison where
  name : String
  style : Style := .plain
  given : Given
  /-- The options as they were written. -/
  written : String := ""
  deriving Inhabited

def isBlankChar (c : Char) : Bool := c == ' ' || c == '\t' || c == '\x0b' ||
    c == '\x0c' || c == '\r'

/-- A text with each run of blanks as one, and without those at its end. -/
def singleBlanks : List Char → List Char
  | [] => []
  | c :: rest =>
    if isBlankChar c then
      match singleBlanks rest with
      | [] => []
      | d :: more => if d == ' ' then d :: more else ' ' :: d :: more
    else c :: singleBlanks rest

/-- A line as far as it counts in a comparison. -/
def FileComparison.key (c : FileComparison) (l : FileLine) : String :=
  let g := c.given
  let cs := l.text.toList
  let cs := if g.has 'i' then cs.map Char.toLower else cs
  let loose := g.has 'w' || g.has 'b' || g.has 'Z'
  let cs := if g.has 'w' then cs.filter fun c => !isBlankChar c
    else if g.has 'b' then singleBlanks cs
    else if g.has 'Z' then (cs.reverse.dropWhile isBlankChar).reverse
    else cs
  String.ofList cs ++ (if l.ends || loose then "" else "\x00")

/-- Numbers for lines, so that lines that count as equal have the same one. -/
def numbersOf (keys : List String) : List Nat := Id.run do
  let mut seen : Array String := #[]
  let mut out := #[]
  for k in keys do
    match seen.findIdx? (· == k) with
    | some n => out := out.push n
    | none =>
      out := out.push seen.size
      seen := seen.push k
  return out.toList

def told (front : String) (l : FileLine) : String :=
  front ++ l.text ++ (if l.ends then "\n" else "\n\\ No newline at end of file\n")

def toldAll (front : String) (ls : Array FileLine) (start count : Nat) : String :=
  String.join ((ls.extract start (start + count)).toList.map (told front))

def plainRange (start count : Nat) : String :=
  if count == 0 then start.repr
  else if count == 1 then (start + 1).repr
  else (start + 1).repr ++ "," ++ (start + count).repr

def plainChange (a b : Array FileLine) (c : Difference.Change) : String :=
  let letter := if c.leftSize == 0 then "a" else if c.rightSize == 0 then "d" else "c"
  plainRange c.left c.leftSize ++ letter ++ plainRange c.right c.rightSize ++ "\n" ++
    toldAll "< " a c.left c.leftSize ++ (if letter == "c" then "---\n" else "") ++
    toldAll "> " b c.right c.rightSize

/-- Changes that stand so close that they are told together. -/
def groupedChanges (context : Nat) : List Difference.Change → List (List Difference.Change)
  | [] => []
  | c :: rest =>
    match groupedChanges context rest, rest with
    | group :: groups, next :: _ =>
      if next.left - (c.left + c.leftSize) ≤ 2 * context then (c :: group) :: groups
      else [c] :: group :: groups
    | groups, _ => [c] :: groups

def unifiedRange (start count : Nat) : String :=
  if count == 0 then start.repr ++ ",0"
  else if count == 1 then (start + 1).repr
  else (start + 1).repr ++ "," ++ count.repr

/-- The range of lines in the older form with context. -/
def contextRange (start count : Nat) : String :=
  if count ≤ 1 then (start + count).repr else (start + 1).repr ++ "," ++ (start + count).repr

/-- The bounds of a group of changes with its context: starts and ends in both files. -/
def groupBounds (context : Nat) (a b : Array FileLine) (group : List Difference.Change) :
    Nat × Nat × Nat × Nat :=
  match group.head?, group.getLast? with
  | some f, some l =>
    (f.left - min context f.left, min a.size (l.left + l.leftSize + context),
      f.right - min context f.right, min b.size (l.right + l.rightSize + context))
  | _, _ => (0, 0, 0, 0)

def unifiedGroup (context : Nat) (a b : Array FileLine) (group : List Difference.Change) : String :=
  let (a0, a1, b0, b1) := groupBounds context a b group
  let (body, next) := group.foldl (fun (acc : String × Nat) c =>
    (acc.1 ++ toldAll " " a acc.2 (c.left - acc.2) ++ toldAll "-" a c.left c.leftSize ++
      toldAll "+" b c.right c.rightSize, c.left + c.leftSize)) ("", a0)
  "@@ -" ++ unifiedRange a0 (a1 - a0) ++ " +" ++ unifiedRange b0 (b1 - b0) ++ " @@\n" ++ body ++
    toldAll " " a next (a1 - next)

/-- A group of changes in the older form with context. -/
def contextGroup (context : Nat) (a b : Array FileLine) (group : List Difference.Change) : String :=
  let (a0, a1, b0, b1) := groupBounds context a b group
  let side (ls : Array FileLine) (first last : Nat) (mark : String)
      (place : Difference.Change → Nat × Nat) (other : Difference.Change → Nat) : String :=
    if group.all fun c => (place c).2 == 0 then ""
    else
      let (body, next) := group.foldl (fun (acc : String × Nat) c =>
        let (start, count) := place c
        (acc.1 ++ toldAll "  " ls acc.2 (start - acc.2) ++
          toldAll (if other c == 0 then mark else "! ") ls start count, start + count)) ("", first)
      body ++ toldAll "  " ls next (last - next)
  "***************\n*** " ++ contextRange a0 (a1 - a0) ++ " ****\n" ++
    side a a0 a1 "- " (fun c => (c.left, c.leftSize)) (fun c => c.rightSize) ++
    "--- " ++ contextRange b0 (b1 - b0) ++ " ----\n" ++
    side b b0 b1 "+ " (fun c => (c.right, c.rightSize)) (fun c => c.leftSize)

def editorChange (b : Array FileLine) (c : Difference.Change) : String :=
  let letter := if c.leftSize == 0 then "a" else if c.rightSize == 0 then "d" else "c"
  plainRange c.left c.leftSize ++ letter ++ "\n" ++
    (if c.rightSize == 0 then ""
      else String.join ((b.extract c.right (c.right + c.rightSize)).toList.map fun l =>
        l.text ++ "\n") ++ ".\n")

/-- The blanks from one column to another: tabs as far as they reach. -/
def toColumn (from_ until_ : Nat) : String :=
  let next := from_ / 8 * 8 + 8
  if next ≤ until_ then
    let tabs := (until_ - next) / 8 + 1
    repeated tabs '\t' ++ repeated (until_ - (next + (tabs - 1) * 8)) ' '
  else repeated (until_ - from_) ' '

/-- A text cut at a column, and the column that it reaches. -/
def cutAt (bound : Nat) (text : String) : String × Nat :=
  text.foldl (fun (acc : String × Nat) c =>
    if c == '\t' then
      let next := acc.2 / 8 * 8 + 8
      if next ≤ bound then (acc.1 ++ toColumn acc.2 next, next) else (acc.1, bound)
    else if acc.2 < bound then (acc.1.push c, acc.2 + 1) else acc) ("", 0)

def columnLine (width : Nat) (left : Option FileLine) (mark : Char)
    (right : Option FileLine) : String :=
  let gutter := (width + 8 + 3) / 16 * 8
  let half := min (gutter - 3) (width - gutter)
  let second := if half == 0 then width else gutter
  let (front, col) := match left with
    | some l => cutAt half l.text
    | none => ("", 0)
  let (front, col) :=
    if mark == ' ' then (front, col)
    else
      let middle := (half + second - 1) / 2
      (front ++ toColumn col middle ++ String.singleton mark, middle + 1)
  match right with
  | some r => if r.text.isEmpty then front ++ "\n"
    else front ++ toColumn col second ++ (cutAt half r.text).1 ++ "\n"
  | none => front ++ "\n"

/-- Two files side by side. -/
def inColumns (width : Nat) (onlyChanges leftOnly : Bool) (a b : Array FileLine)
    (cs : List Difference.Change) : String :=
  let common (i j count : Nat) : String :=
    if onlyChanges then ""
    else String.join ((List.range count).map fun k =>
      if leftOnly then
        columnLine width a[i + k]? '(' none
      else columnLine width a[i + k]? ' ' b[j + k]?)
  let (body, i, j) := cs.foldl (fun (acc : String × Nat × Nat) c =>
    let (text, i, j) := acc
    let both := min c.leftSize c.rightSize
    let pairs := (List.range both).map fun k => columnLine width a[c.left + k]? '|' b[c.right + k]?
    let more := (List.range (c.rightSize - both)).map fun k =>
      columnLine width none '>' b[c.right + both + k]?
    let less := (List.range (c.leftSize - both)).map fun k =>
      columnLine width a[c.left + both + k]? '<' none
    (text ++ common i j (c.left - i) ++ String.join (pairs ++ more ++ less), c.left + c.leftSize,
      c.right + c.rightSize)) ("", 0, 0)
  body ++ common i j (a.size - i)

/-- Whether a change is one of blank lines only, or of lines that need not be told of. -/
def FileComparison.isIdle (c : FileComparison) (ignored : List Regex) (a b : Array FileLine)
    (x : Difference.Change) : Bool :=
  let ls := (a.extract x.left (x.left + x.leftSize)).toList ++
    (b.extract x.right (x.right + x.rightSize)).toList
  (c.given.has 'B' || !ignored.isEmpty) && ls.all fun l =>
    (c.given.has 'B' && (if c.given.has 'b' || c.given.has 'w' then l.text.all isBlankChar else
      l.text.isEmpty)) ||
    ignored.any fun r => (r.search? { text := l.text.toList.toArray } 0).isSome

/-- The front lines of the forms with context. -/
def FileComparison.titles (c : FileComparison) (first second : String)
    (one two : String) : String :=
  let labels := (c.given.options.filter fun o => o.1 == 'L').toList.map Prod.snd
  let title (k : Nat) (f : String) : String := match labels[k]? with
    | some l => l
    | none => f ++ "\t" ++ "1970-01-01 00:00:00.000000000 +0000"
  first ++ " " ++ title 0 one ++ "\n" ++ second ++ " " ++ title 1 two ++ "\n"

/-- Tells the differences of two texts and whether there are any. -/
def FileComparison.tell (c : FileComparison) (header one two s t : String) : Action Bool := do
  let g := c.given
  let say (text : String) : Action Unit := put c.name 2 text
  if s == t then
    if g.has 's' then
      say ("Files " ++ one ++ " and " ++ two ++ " are identical\n")
    else if c.style == .columns then
      let a := fileLines s
      say (header ++ inColumns (((g.last? 'W').map decimalOf).getD 130) (g.has 'P')
        (g.has 'l') a a [])
    return false
  if (s.toList.contains '\x00' || t.toList.contains '\x00') && !g.has 'a' then
    if g.has 'q' then say ("Files " ++ one ++ " and " ++ two ++ " differ\n")
    else say (header ++ "Binary files " ++ one ++ " and " ++ two ++ " differ\n")
    return true
  let a := fileLines s
  let b := fileLines t
  let numbers := numbersOf ((a.toList ++ b.toList).map c.key)
  let context := match c.style with
    | .unified n | .context n => n
    | _ => 0
  let ignored := (g.options.filter fun o => o.1 == 'I').toList.filterMap fun o =>
    match Regex.read { extended := false } o.2 with
    | .ok r => some r
    | .error _ => none
  let all := Difference.changes (numbers.take a.size) (numbers.drop a.size) context
  let real := all.filter fun x => !c.isIdle ignored a b x
  if real.isEmpty then
    if g.has 's' then say ("Files " ++ one ++ " and " ++ two ++ " are identical\n")
    else if c.style == .columns then
      say (header ++ inColumns (((g.last? 'W').map decimalOf).getD 130) (g.has 'P')
        (g.has 'l') a b [])
    return false
  if g.has 'q' then
    say ("Files " ++ one ++ " and " ++ two ++ " differ\n")
    return true
  let groups := (groupedChanges context all).filter fun group => group.any fun x =>
    !c.isIdle ignored a b x
  match c.style with
  | .plain => say (header ++ String.join (real.map (plainChange a b)))
  | .unified n =>
    say (header ++ c.titles "---" "+++" one two ++ String.join (groups.map (unifiedGroup n a b)))
  | .context n =>
    say (header ++ c.titles "***" "---" one two ++ String.join (groups.map (contextGroup n a b)))
  | .editor => say (header ++ String.join (real.reverse.map (editorChange b)))
  | .columns =>
    say (header ++ inColumns (((g.last? 'W').map decimalOf).getD 130) (g.has 'P')
      (g.has 'l') a b real)
  return true

/-- What a complaint calls a file of some kind. -/
def kindText : Entry → String
  | .directory => "a directory"
  | .file b _ => if b.size == 0 then "a regular empty file" else "a regular file"

/-- Compares two directories; the status is that of the worst difference. -/
def FileComparison.directories (c : FileComparison) : Nat → String → String → Action Nat
  | 0, _, _ => return 0
  | fuel + 1, one, two => do
    let g := c.given
    let excluded := (g.options.filter fun o => o.1 == 'x').toList.map fun o =>
      regexOfPattern {} (o.2.toList.map fun c => (c, false))
    let admitted (x : String × Entry) : Bool := !(excluded.any fun r => matchesWhole r false x.1)
    let lefts := (← listing one).filter admitted
    let rights := (← listing two).filter admitted
    let names := (lefts ++ rights.filter fun r => !(lefts.any fun l => l.1 == r.1)).map Prod.fst
    let mut status := 0
    for n in names.mergeSort (fun x y => x ≤ y) do
      let p := inside one n
      let q := inside two n
      let header := if c.written.isEmpty then "diff " ++ shown p ++ " " ++ shown q ++ "\n"
        else "diff " ++ c.written ++ " " ++ shown p ++ " " ++ shown q ++ "\n"
      match lefts.lookup n, rights.lookup n with
      | some .directory, some .directory =>
        if g.has 'r' then status := max status (← c.directories fuel p q)
        else put c.name 2 ("Common subdirectories: " ++ p ++ " and " ++ q ++ "\n")
      | some (.file s _), some (.file t _) =>
        if ← c.tell header p q (octetsOfBytes s) (octetsOfBytes t) then status := max status 1
      | some x, some y =>
        put c.name 2 ("File " ++ p ++ " is " ++ kindText x ++ " while file " ++ q ++ " is " ++
          kindText y ++ "\n")
        status := max status 1
      | some (.file s _), none =>
        if g.has 'N' then
          if ← c.tell header p q (octetsOfBytes s) "" then status := max status 1
        else
          put c.name 2 ("Only in " ++ one ++ ": " ++ n ++ "\n")
          status := max status 1
      | none, some (.file t _) =>
        if g.has 'N' then
          if ← c.tell header p q "" (octetsOfBytes t) then status := max status 1
        else
          put c.name 2 ("Only in " ++ two ++ ": " ++ n ++ "\n")
          status := max status 1
      | some .directory, none =>
        if g.has 'N' && g.has 'r' then status := max status (← c.directories fuel p q)
        else
          put c.name 2 ("Only in " ++ one ++ ": " ++ n ++ "\n")
          status := max status 1
      | none, some .directory =>
        if g.has 'N' && g.has 'r' then status := max status (← c.directories fuel p q)
        else
          put c.name 2 ("Only in " ++ two ++ ": " ++ n ++ "\n")
          status := max status 1
      | none, none => pure ()
    return status

def diffUtility : Utility := fun _ name args => do
  let misused {α : Type} (text : String) : Action α := do
    complain (name ++ ": " ++ text)
    complain (name ++ ": Try '" ++ name ++ " --help' for more information.")
    exit 2
  let g ← readArguments name
    { letters := "uU:cC:eyqsriwbBaNL:x:I:W:EZdtTpHl",
      names := [("brief", 'q'), ("report-identical-files", 's'), ("recursive", 'r'),
        ("ignore-case", 'i'), ("ignore-all-space", 'w'), ("ignore-space-change", 'b'),
        ("ignore-blank-lines", 'B'), ("text", 'a'), ("new-file", 'N'), ("label", 'L'),
        ("exclude", 'x'), ("ignore-matching-lines", 'I'), ("width", 'W'),
        ("ignore-trailing-space", 'Z'), ("ignore-tab-expansion", 'E'), ("minimal", 'd'),
        ("expand-tabs", 't'), ("unified", 'u'), ("context", 'c'), ("ed", 'e'),
        ("side-by-side", 'y'), ("suppress-common-lines", 'P'), ("left-column", 'l'),
        ("normal", 'n'), ("color", 'k'), ("strip-trailing-cr", 'R')],
      optional := "uck", wrong := 2, signed := true } args
  let number (v : String) : Action Nat :=
    if isDigits v then return decimalOf v else misused ("invalid context length '" ++ v ++ "'")
  let mut style : Style := .plain
  for (c, v) in g.options do
    match c with
    | 'u' => style := .unified (if isDigits v then decimalOf v else 3)
    | 'U' => style := .unified (← number v)
    | 'c' => style := .context (if isDigits v then decimalOf v else 3)
    | 'C' => style := .context (← number v)
    | 'e' => style := .editor
    | 'y' => style := .columns
    | 'p' => if style == .plain then style := .context 3
    | _ => pure ()
  -- Letters in the same word as the one for context are options of their own.
  let clustered := (g.options.filter fun o => (o.1 == 'u' || o.1 == 'c') && !o.2.isEmpty &&
    !isDigits o.2).toList
  let more := clustered.flatMap fun o => o.2.toList.map fun c => (c, "")
  let g := { g with options := g.options ++ more.toArray }
  let written := " ".intercalate ((args.filter fun a => a.startsWith "-" && a.length > 1).map shown)
  let c : FileComparison := { name := name, style := style, given := g, written := written }
  match g.operands.toList with
  | [] => misused ("missing operand after '" ++ (args.getLast?.getD name) ++ "'")
  | [a] => misused ("missing operand after '" ++ a ++ "'")
  | [one, two] =>
    let kind (f : String) : Action (Option Entry) :=
      if f == "-" then return some (.file ByteArray.empty false)
      else entry? f
    let mut trouble := false
    let left ← kind one
    let right ← kind two
    for (f, e) in [(one, left), (two, right)] do
      if e.isNone && !(g.has 'N' && (left.isSome || right.isSome)) then
        complain (name ++ ": " ++ f ++ ": No such file or directory")
        trouble := true
    if trouble then return 2
    match left, right with
    | some .directory, some .directory =>
      if ← isSameFile one two then return 0
      c.directories 64 one two
    | left, right =>
      let one :=
        if left == some .directory && right != some .directory then
          inside one (baseName two)
        else one
      let two :=
        if right == some .directory && left != some .directory then
          inside two (baseName one)
        else two
      let load (f : String) : Action String := do
        match ← contentOf f with
        | .ok text => return text
        | .error cause =>
          if g.has 'N' && cause == "No such file or directory" then return ""
          complain (name ++ ": " ++ f ++ ": " ++ cause)
          exit 2
      if one == "-" && two == "-" then return 0
      let s ← load one
      let t ← load two
      return if ← c.tell "" one two s t then 1 else 0
  | _ :: _ :: x :: _ => misused ("extra operand '" ++ x ++ "'")

/-- The programs of this module by their names. -/
def comparePrograms : List (String × Utility) := [("cmp", cmpUtility), ("diff", diffUtility)]

end Utility

end StudyFlow.Shell
