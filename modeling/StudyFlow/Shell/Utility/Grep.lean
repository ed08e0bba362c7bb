import StudyFlow.Shell.Regex
import StudyFlow.Shell.Utility.Files
import StudyFlow.Shell.Utility.Lines

/-!
Searching lines for patterns.
-/

namespace StudyFlow.Shell

namespace Utility

open StudyFlow.Shell.Action

/-- An expression that matches a text and nothing else. -/
def literalRegex (s : String) : Regex :=
  s.toList.foldr (fun c acc => .seq (.one c) acc) .empty

structure Search where
  patterns : List Regex
  folded : Bool
  whole : Bool
  word : Bool

/-- Whether a match has no word characters around it. -/
def standsAlone (cs : Array Char) (i j : Nat) : Bool :=
  let isWord (k : Nat) : Bool := match cs[k]? with
    | some c => isNameChar c
    | none => false
  !(i != 0 && isWord (i - 1)) && !isWord j

/-- The first match in a line from a position on. -/
def Search.find? (s : Search) (cs : Array Char) (start : Nat) : Option (Nat × Nat) :=
  let subject : Regex.Subject := { text := cs, folded := s.folded }
  let fits (r : Regex) (i : Nat) : Option Nat :=
    if s.whole then if i == 0 && (r.endsAt subject 0).contains cs.size then some cs.size else none
    else if s.word then
      ((r.endsAt subject i).filter fun j => standsAlone cs i j).max?
    else (r.matchAt? subject i).map Regex.State.pos
  (List.range (cs.size + 1 - start)).findSome? fun k =>
    let i := start + k
    match s.patterns.filterMap fun r => fits r i with
    | [] => none
    | ends => some (i, ends.foldl max 0)

/-- All matches in a line that are not empty. -/
def Search.all (s : Search) (cs : Array Char) : List (Nat × Nat) := Id.run do
  let mut found := #[]
  let mut i := 0
  for _ in [0:cs.size + 1] do
    if i > cs.size then break
    match s.find? cs i with
    | some (a, b) =>
      if a == b then i := a + 1
      else
        found := found.push (a, b)
        i := b
    | none => break
  return found.toList

/-- How programs that search word that a pattern is none. -/
def patternFault (text : String) (f : Regex.Flaw) : String :=
  if f == .bracket && text.endsWith "[" then "Invalid regular expression" else f.message

def lineFront (g : Given) (named : Bool) (file : String) (number offset : Nat)
    (mark : String) : String :=
  let ending := if g.has 'Z' then "\x00" else mark
  (if named then file ++ ending else "") ++ (if g.has 'n' then number.repr ++ mark else "") ++
  (if g.has 'b' then offset.repr ++ mark else "")

/-- Searches the lines of a text. Gives what is printed, how many lines were chosen, and how much
was read. -/
def searchText (g : Given) (s : Search) (named : Bool) (file text : String) (limit : Option Nat)
    (before after : Nat) : String × Nat × Nat := Id.run do
  let ending := if g.has 'z' then '\x00' else '\n'
  let quiet := g.has 'q' || g.has 'l' || g.has 'L' || g.has 'c'
  let context := g.has 'A' || g.has 'B' || g.has 'C'
  let mut out : String := ""
  let mut count := 0
  let mut offset := 0
  let mut number := 0
  let mut recent : List (Nat × Nat × String) := []
  let mut trailing := 0
  let mut lastShown := 0
  let mut used := text.length
  for raw in rawLines text ending do
    number := number + 1
    let line :=
      if raw.endsWith (String.singleton ending) then takeFront (raw.length - 1) raw else raw
    if limit == some count then
      -- Only the lines around the last one that was chosen are left.
      if trailing == 0 || quiet then
        used := offset
        break
    let cs := line.toList.toArray
    let found := limit != some count && (s.find? cs 0).isSome != g.has 'v'
    if found then
      count := count + 1
      if !quiet then
        if g.has 'o' then
          if !g.has 'v' then
            for (a, b) in s.all cs do
              out := out ++ lineFront g named file number (offset + a) ":" ++ sliceOf cs a b ++ "\n"
        else
          let shownBefore := (recent.take before).reverse
          let first := match shownBefore.head? with
            | some (n, _) => n
            | none => number
          if context && lastShown != 0 && first > lastShown + 1 then out := out ++ "--\n"
          for (n, o, l) in shownBefore do
            out := (out ++ lineFront g named file n o "-" ++ l).push ending
          out := (out ++ lineFront g named file number offset ":" ++ line).push ending
        lastShown := number
      recent := []
      trailing := after
      if limit == some count then
        used := offset + raw.length
      if g.has 'q' || g.has 'l' || g.has 'L' then
        used := offset + raw.length
        break
    else if trailing > 0 then
      trailing := trailing - 1
      if !quiet && !g.has 'o' then
        out := (out ++ lineFront g named file number offset "-" ++ line).push ending
        lastShown := number
    else recent := (number, offset, line) :: recent.take (before - 1)
    offset := offset + raw.length
  return (out, count, used)

/-- The files below a directory, in the order of their names. -/
def filesBelow (fuel : Nat) (path : String) : Action (List String) := do
  match fuel with
  | 0 => return []
  | fuel + 1 =>
    let mut out := #[]
    for (n, e) in ← listing path do
      let p := if path.isEmpty then n else inside path n
      match e with
      | .directory => out := out ++ (← filesBelow fuel p).toArray
      | _ => out := out.push p
    return out.toList

/-- The programs that search, with the form of patterns that holds if none is asked for. -/
def grepUtility (form : Char) : Utility := fun _ name args => do
  let digitsOption (a : String) : Bool := a.length > 1 && a.startsWith "-" &&
    isDigits (dropFront 1 a)
  let args := args.flatMap fun a => if digitsOption a then ["-C", dropFront 1 a] else [a]
  let usage {α : Type} (text : String) : Action α := do
    if !text.isEmpty then complain (name ++ ": " ++ text)
    complain ("Usage: " ++ name ++ " [OPTION]... PATTERNS [FILE]...")
    complain ("Try '" ++ name ++ " --help' for more information.")
    exit 2
  let options : Options :=
    { letters := "EFGPe:f:iyvwxclLqsnHhorRA:B:C:m:abzZTUuD:d:I1:2:3:4", names :=
      [("extended-regexp", 'E'), ("fixed-strings", 'F'), ("basic-regexp", 'G'),
       ("perl-regexp", 'P'), ("regexp", 'e'), ("file", 'f'), ("ignore-case", 'i'),
       ("invert-match", 'v'), ("word-regexp", 'w'), ("line-regexp", 'x'), ("count", 'c'),
       ("files-with-matches", 'l'), ("files-without-match", 'L'), ("quiet", 'q'), ("silent", 'q'),
       ("no-messages", 's'), ("line-number", 'n'), ("with-filename", 'H'), ("no-filename", 'h'),
       ("only-matching", 'o'), ("recursive", 'r'), ("dereference-recursive", 'r'),
       ("after-context", 'A'), ("before-context", 'B'), ("context", 'C'), ("max-count", 'm'),
       ("text", 'a'), ("byte-offset", 'b'), ("null-data", 'z'), ("null", 'Z'), ("include", '1'),
       ("exclude", '2'), ("exclude-dir", '3'), ("color", '4'), ("colour", '4'),
       ("initial-tab", 'T')], wrong := 2, optional := "4" }
  -- The complaints of the reader of options end in its own hint.
  let n ← newStream (.memory ByteArray.empty 0)
  let errors ← channel? 2
  setChannel 2 (some ⟨n, false, true⟩)
  let read ← try
      let g ← readArguments name options args
      pure (some g)
    catch _ => pure none
  setChannel 2 errors
  let g ← match read with
    | some g => pure g
    | none => do
      let text := octetsOfBytes (← remaining n)
      let first := (splitAtEach '\n' text).head?.getD ""
      usage (dropFront (name.length + 2) first)
  let given := g.options.toList.filter fun o => o.1 == 'e' || o.1 == 'f'
  let (texts, operands) ← if given.isEmpty then
      match g.operands.toList with
      | [] => usage ""
      | p :: rest => pure (splitAtEach '\n' p, rest)
    else do
      let mut texts := #[]
      for (c, v) in given do
        if c == 'e' then texts := texts ++ (splitAtEach '\n' v).toArray
        else match ← contentOf v with
          | .ok t => texts := texts ++ (cleanLines t '\n').toArray
          | .error cause => die 2 (name ++ ": " ++ v ++ ": " ++ cause)
      pure (texts.toList, g.operands.toList)
  let chosen := (g.lastOf? "EFGP").getD form
  let mut patterns := #[]
  for t in texts do
    if chosen == 'F' then patterns := patterns.push (literalRegex t)
    else
      if chosen == 'E' && (t.startsWith "*" || t.startsWith "+" || t.startsWith "?") then
        complain (name ++ ": warning: " ++ takeFront 1 t ++ " at start of expression")
      if t.startsWith "[:" && t.endsWith ":]" then
        die 2 (name ++ ": character class syntax is [[:space:]], not [:space:]")
      match Regex.read { extended := chosen != 'G', wide := chosen == 'P' } t with
      | .ok r => patterns := patterns.push r
      | .error f => die 2 (name ++ ": " ++ patternFault t f)
  let count (c : Char) : Action (Option Nat) := do
    match g.last? c with
    | none => return none
    | some v =>
      if isDigits v then return some (decimalOf v)
      else if c == 'm' then die 2 (name ++ ": invalid max count")
      else die 2 (name ++ ": " ++ v ++ ": invalid context length argument")
  let around := (← count 'C').getD 0
  let after := (← count 'A').getD around
  let before := (← count 'B').getD around
  let limit ← count 'm'
  let s : Search := ⟨patterns.toList, g.has 'i' || g.has 'y', g.has 'x', g.has 'w'⟩
  let recursive := g.has 'r' || g.has 'R'
  let wanted (path : String) : Bool :=
    let base := baseName path
    let fits (p : String) : Bool :=
      matchesWhole (regexOfPattern { alternatives := false, caret := true }
        (p.toList.map fun c => (c, false))) false base
    let only := (g.options.toList.filter fun o => o.1 == '1').map Prod.snd
    let without := (g.options.toList.filter fun o => o.1 == '2').map Prod.snd
    let dirs := (g.options.toList.filter fun o => o.1 == '3').map Prod.snd
    (only.isEmpty || only.any fits) && !without.any fits &&
      !((splitAtEach '/' path).dropLast.any fun d => dirs.contains d)
  let mut files : Array String := #[]
  if recursive then
    if operands.isEmpty then
      files := ((← filesBelow 100 "").filter wanted).toArray
    else
      for o in operands do
        if ← isDirectory o then
          files := files ++ ((← filesBelow 100 o).filter wanted).toArray
        else files := files.push o
  else files := (if operands.isEmpty then ["-"] else operands).toArray
  let below ← isDirectory (operands.head?.getD "")
  let severalNamed := if recursive then operands.length > 1 || below else files.size > 1
  let named := match g.lastOf? "Hh" with
    | some 'H' => true
    | some _ => false
    | none => severalNamed
  let mut found := false
  let mut failed := false
  for f in files do
    match ← contentOf f with
    | .error cause =>
      if !g.has 's' then complain (name ++ ": " ++ f ++ ": " ++ cause)
      failed := true
    | .ok text =>
      let label := if f == "-" then "(standard input)" else f
      let (out, n, used) := searchText g s named label text limit before after
      if f == "-" then giveBack (limit.isSome) text.length used
      if n > 0 then found := true
      let binary := text.toList.contains '\x00' && !g.has 'a' && !g.has 'z'
      if g.has 'q' then
        if found then return 0
      else if g.has 'l' || g.has 'L' then
        if (n > 0) == g.has 'l' then put name 2 (label ++ (if g.has 'Z' then "\x00" else "\n"))
      else if g.has 'c' then
        put name 2 ((if named then label ++ (if g.has 'Z' then "\x00" else ":") else "") ++
          n.repr ++ "\n")
      else if binary && n > 0 then put name 2 (name ++ ": " ++ label ++ ": binary file matches\n")
      else put name 2 out
  return if failed && !(g.has 'q' && found) then 2 else if found then 0 else 1

def searchPrograms : List (String × Utility) :=
  [("grep", grepUtility 'G'), ("egrep", grepUtility 'E'), ("fgrep", grepUtility 'F')]

end Utility

end StudyFlow.Shell
