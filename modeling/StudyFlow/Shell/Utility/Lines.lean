import StudyFlow.Shell.Format
import StudyFlow.Shell.Utility.Basic

/-!
Programs that print, count, choose and rearrange the lines of their input.
-/

namespace StudyFlow.Shell

namespace Utility

open StudyFlow.Shell.Action

attribute [local instance (high)] instPowNat

/-- A number with a unit behind it, as counts of lines and bytes are given. -/
def countOf? (text : String) : Option Nat :=
  let cs := text.toList
  let digits := cs.takeWhile Char.isDigit
  if digits.isEmpty then none
  else
    let n := decimalOf (String.ofList digits)
    match cs.drop digits.length with
    | [] => some n
    | ['b'] => some (n * 512)
    | ['k', 'B'] => some (n * 1000)
    | ['k'] | ['K'] => some (n * 1024)
    | ['M', 'B'] => some (n * 1000000)
    | ['M'] => some (n * 1048576)
    | ['G'] => some (n * 1073741824)
    | _ => none

def rawLines (text : String) (ending : Char) : List String :=
  let rec go : List Char → List Char → List String → List String
    | [], cur, acc => (if cur.isEmpty then acc else String.ofList cur.reverse :: acc).reverse
    | c :: cs, cur, acc =>
      if c == ending then
        go cs [] (String.ofList (c :: cur).reverse :: acc)
      else go cs (c :: cur) acc
  go text.toList [] []

/-- The lines of a text without their ends. -/
def cleanLines (text : String) (ending : Char) : List String :=
  let parts := splitAtEach ending text
  if parts.getLast? == some "" then parts.dropLast else parts

def catUtility : Utility := fun _ name args => do
  let g ← readArguments name
    { letters := "nbsEATvetu", names := [("number", 'n'), ("number-nonblank", 'b'),
        ("squeeze-blank", 's'), ("show-ends", 'E'), ("show-all", 'A'), ("show-tabs", 'T'),
        ("show-nonprinting", 'v')] } args
  let files := if g.operands.isEmpty then ["-"] else g.operands.toList
  let ends := g.has 'E' || g.has 'A' || g.has 'e'
  let tabs := g.has 'T' || g.has 'A' || g.has 't'
  let marks := g.has 'v' || g.has 'A' || g.has 'e' || g.has 't'
  let plain := !(ends || tabs || marks || g.has 'n' || g.has 'b' || g.has 's')
  let mark (c : Char) : String :=
    let visible (n : Nat) : String :=
      if n < 32 then "^" ++ String.singleton (Char.ofNat (n + 64))
      else if n == 127 then "^?" else String.singleton (Char.ofNat n)
    if c == '\t' then (if tabs then "^I" else "\t")
    else if c == '\n' || !marks then String.singleton c
    else if c.toNat < 128 then visible c.toNat
    else "M-" ++ visible (c.toNat - 128)
  let mut status := 0
  let mut number := 0
  let mut blanks := 0
  let mut open_ := false
  let mut closedInput := false
  for f in files do
    -- A file that is printed to must not be read as well.
    let out ← match ← channel? 1 with
      | some d => pure (some (← streamAt d.stream))
      | none => pure none
    let clash ← match out, f == "-" with
      | some (.file place _ appends), false => do
        match ← entryAt f with
        | .ok (l, .file content _) => pure (l == place && content.size != 0 && appends)
        | _ => pure false
      | _, _ => pure false
    if clash then
      complain (name ++ ": " ++ shown f ++ ": input file is output file")
      status := 1
      continue
    match ← contentOf f with
    | .error cause =>
      fileFault name f cause
      status := 1
      if f == "-" && cause == "Bad file descriptor" then closedInput := true
    | .ok text =>
      if plain then put name 1 text
      else
        let mut shownText : String := ""
        for line in rawLines text '\n' do
          let isBlank := line == "\n" && !open_
          blanks := if isBlank then blanks + 1 else 0
          if g.has 's' && blanks > 1 then continue
          let numbered := !open_ && (if g.has 'b' then !isBlank else g.has 'n')
          if numbered then
            number := number + 1
            shownText := shownText ++ padFront 6 number.repr ++ "\t"
          let complete := line.endsWith "\n"
          open_ := !complete
          let body := if complete then takeFront (line.length - 1) line else line
          shownText := shownText ++ String.join (body.toList.map mark) ++
            (if complete then (if ends then "$\n" else "\n") else "")
        put name 1 shownText
  if closedInput then
    complain (name ++ ": closing standard input: Bad file descriptor")
    status := 1
  return status

/-- How much of its input a program of the first or the last lines takes. -/
structure Portion where
  count : Nat
  bytes : Bool
  /-- Whether the count is taken from the other end. -/
  other : Bool

/-- The legacy form of a count as the first argument. -/
def legacyCount (args : List String) : List String :=
  match args with
  | a :: rest =>
    let cs := a.toList
    match cs with
    | '-' :: c :: _ =>
      if c.isDigit then
        let digits := (cs.drop 1).takeWhile Char.isDigit
        let tail := cs.drop (1 + digits.length)
        let n := String.ofList digits
        let unit := if tail.contains 'c' then "-c" else "-n"
        (tail.filter fun c => c == 'q' || c == 'v').map (fun c => "-" ++ String.singleton c) ++
          unit :: n :: rest
      else args
    | _ => args
  | [] => []

/-- Reads how much of its input a program takes. -/
def readPortion (name : String) (g : Given) (plus : Bool) : Action Portion := do
  let spec := g.options.toList.reverse.find? fun o => o.1 == 'n' || o.1 == 'c'
  match spec with
  | none => return ⟨10, false, false⟩
  | some (c, text) =>
    let sign := if plus then '+' else '-'
    let other := text.toList.head? == some sign
    let body := if text.startsWith "+" || text.startsWith "-" then dropFront 1 text else text
    match countOf? body with
    | some n => return ⟨n, c == 'c', other⟩
    | none =>
      let kind := if c == 'c' then "bytes" else "lines"
      die 1 (name ++ ": invalid number of " ++ kind ++ ": " ++ Utility.quoted text)

/-- Prints a part of each file, with titles if there are several. -/
def printPortions (name : String) (g : Given) (part : String → String) : Action Nat := do
  let files := if g.operands.isEmpty then ["-"] else g.operands.toList
  let titled := match g.lastOf? "qv" with
    | some 'q' => false
    | some _ => true
    | none => files.length > 1
  let mut status := 0
  let mut first := true
  for f in files do
    match ← contentOf f with
    | .error cause =>
      let missing := cause != "Is a directory"
      if missing then
        complain (name ++ ": cannot open " ++ Utility.quoted f ++ " for reading: " ++ cause)
      else
        if titled then
          put name 1 ((if first then "" else "\n") ++ "==> " ++ f ++ " <==\n")
          first := false
        complain (name ++ ": error reading " ++ Utility.quoted f ++ ": " ++ cause)
      status := 1
    | .ok text =>
      if titled then
        put name 1 ((if first then "" else "\n") ++ "==> " ++
          (if f == "-" then "standard input" else f) ++ " <==\n")
        first := false
      let taken := part text
      if f == "-" && name.endsWith "head" then
        -- What is not printed stays on the input, as far as it was not read ahead.
        if ← isSeekable 0 then unread 0 (text.length - taken.length)
        else match ← channel? 0 with
          | some d =>
            match ← streamAt d.stream with
            | .memory content offset =>
              let ahead := (taken.length + 8191) / 8192 * 8192
              setStream d.stream (.memory content (offset - (text.length - ahead)))
            | _ => pure ()
          | none => pure ()
      put name 1 taken
  return status

def headUtility : Utility := fun _ name args => do
  let g ← readArguments name
    { letters := "n:c:qvz", names := [("lines", 'n'), ("bytes", 'c'), ("quiet", 'q'),
        ("silent", 'q'), ("verbose", 'v'), ("zero-terminated", 'z')] } (legacyCount args)
  let p ← readPortion name g false
  let ending := if g.has 'z' then '\x00' else '\n'
  printPortions name g fun text =>
    if p.bytes then takeFront (if p.other then text.length - p.count else p.count) text
    else
      let lines := rawLines text ending
      String.join (lines.take (if p.other then lines.length - p.count else p.count))

def tailUtility : Utility := fun _ name args => do
  let g ← readArguments name
    { letters := "n:c:qvzfFs:", names := [("lines", 'n'), ("bytes", 'c'), ("quiet", 'q'),
        ("silent", 'q'), ("verbose", 'v'), ("zero-terminated", 'z'),
        ("follow", 'f')], optional := "" } (legacyCount args)
  let p ← readPortion name g true
  let ending := if g.has 'z' then '\x00' else '\n'
  printPortions name g fun text =>
    if p.bytes then dropFront (if p.other then p.count - 1 else text.length - p.count) text
    else
      let lines := rawLines text ending
      String.join (lines.drop (if p.other then p.count - 1 else lines.length - p.count))

def countWords (text : String) : Nat :=
  (text.foldl (fun (acc : Nat × Bool) c =>
    if isBlankOctet c then (acc.1, false) else (if acc.2 then acc.1 else acc.1 + 1, true))
      (0, false)).1

/-- The length of the longest line of a text, with tabs going to every eighth column. -/
def longestLine (text : String) : Nat :=
  let r := text.foldl (fun (acc : Nat × Nat) c =>
    if c == '\n' || c == '\r' || c == '\x0c' then (max acc.1 acc.2, 0)
    else if c == '\t' then (acc.1, (acc.2 / 8 + 1) * 8)
    else if 32 ≤ c.toNat && c.toNat < 127 then (acc.1, acc.2 + 1) else acc) (0, 0)
  max r.1 r.2

def wcUtility : Utility := fun _ name args => do
  let g ← readArguments name
    { letters := "lwcmL", names := [("lines", 'l'), ("words", 'w'), ("bytes", 'c'), ("chars", 'm'),
        ("max-line-length", 'L')] } args
  let all := g.options.isEmpty
  let chosen := [('l', all || g.has 'l'), ('w', all || g.has 'w'), ('m', g.has 'm'),
    ('c', all || g.has 'c'), ('L', g.has 'L')]
  let wanted := (chosen.filter Prod.snd).map Prod.fst
  let files := g.operands.toList
  let sources := if files.isEmpty then ["-"] else files
  -- The columns are as wide as the sizes of the files need.
  let mut total := 0
  let mut least := 1
  let mut firstFailed := false
  for (f, k) in sources.zip (List.range sources.length) do
    if f == "-" then
      match ← channel? 0 with
      | some d => match ← streamAt d.stream with
        | .file place _ _ => match (← world).files.get? place with
          | some (.file c _) => total := total + c.size
          | _ => pure ()
        | _ => least := 7
      | none => least := 7
    else match ← entry? f with
      | some (.file c _) => total := total + c.size
      | some .directory => least := 7
      | none =>
        if (device? f).isSome then least := 7
        else if k == 0 then firstFailed := true
  let width :=
    if (files.length ≤ 1 && wanted.length == 1) || firstFailed then
      1
    else max least total.repr.length
  let line (counts : List Nat) (label : Option String) : String :=
    " ".intercalate (counts.map fun n => padFront width n.repr) ++ (match label with
      | some f => " " ++ f
      | none => "") ++ "\n"
  let mut status := 0
  let mut sums := wanted.map fun _ => 0
  for f in sources do
    let label := if files.isEmpty then none else some f
    let counts (text : String) : List Nat := wanted.map fun c => match c with
      | 'l' => (text.toList.filter (· == '\n')).length
      | 'w' => countWords text
      | 'L' => longestLine text
      | _ => text.length
    let text ← match ← contentOf f with
      | .ok text => pure (some text)
      | .error cause => do
        fileFault name f cause
        status := 1
        pure (if cause == "Is a directory" then some "" else none)
    match text with
    | some text =>
      let found := counts text
      sums := (sums.zip (found.zip wanted)).map fun x =>
        if x.2.2 == 'L' then max x.1 x.2.1 else x.1 + x.2.1
      put name 1 (line found label)
    | none => pure ()
  if files.length > 1 then put name 1 (line sums (some "total"))
  return status

def tacUtility : Utility := fun _ name args => do
  let g ← readArguments name { letters := "brs:", names := [("separator", 's'), ("before", 'b')] }
    args
  let files := if g.operands.isEmpty then ["-"] else g.operands.toList
  let mut status := 0
  for f in files do
    match ← contentOf f with
    | .ok text => put name 1 (String.join (rawLines text '\n').reverse)
    | .error cause =>
      if cause == "Is a directory" then
        complain (name ++ ": " ++ shown f ++ ": read error: " ++ cause)
      else complain (name ++ ": failed to open " ++ Utility.quoted f ++ " for reading: " ++ cause)
      status := 1
  return status

def revUtility : Utility := fun _ name args => do
  let files := if args.isEmpty then ["-"] else args.filter (· != "--")
  let mut status := 0
  for f in files do
    match ← contentOf f with
    | .ok text =>
      for line in rawLines text '\n' do
        let body := if line.endsWith "\n" then takeFront (line.length - 1) line else line
        put name 1 (String.ofList body.toList.reverse ++ (if line.endsWith "\n" then "\n" else ""))
    | .error cause =>
      complain (name ++ ": cannot open " ++ f ++ ": " ++ cause)
      status := 1
  return status

def teeUtility : Utility := fun _ name args => do
  let g ← readArguments name
    { letters := "aip", names := [("append", 'a'), ("ignore-interrupts", 'i')] } args
  let text ← match ← contentOf "-" with
    | .ok text => pure text
    | .error _ => pure ""
  let mut status := 0
  for f in g.operands do
    match ← openFile f (if g.has 'a' then .append else .write) with
    | .ok d => let _ ← writeStream d.stream (bytesOfOctets text)
    | .error fault =>
      fileFault name f (faultText fault)
      status := 1
  match ← writeTo 1 text with
  | some f =>
    complain (name ++ ": 'standard output': " ++ f.message)
    return 1
  | none => return status

def nlUtility : Utility := fun _ name args => do
  let g ← readArguments name
    { letters := "b:w:s:n:v:i:h:f:d:l:p", names := [("body-numbering", 'b'), ("number-width", 'w'),
        ("number-separator", 's'), ("number-format", 'n'), ("starting-line-number", 'v'),
        ("line-increment", 'i'), ("header-numbering", 'h'), ("footer-numbering", 'f'),
        ("no-renumber", 'p')] } args
  let width := decimalOf ((g.last? 'w').getD "6")
  let separator := (g.last? 's').getD "\t"
  let style := (g.last? 'n').getD "rn"
  let signed (t : String) : Int := if t.startsWith "-" then -(decimalOf t : Int) else decimalOf t
  let start := signed ((g.last? 'v').getD "1")
  let step := signed ((g.last? 'i').getD "1")
  let (sources, status) ← inputs name g.operands.toList
  let mut number := start
  let mut section_ := 'b'
  for (_, text) in sources do
    for line in cleanLines text '\n' do
      match line with
      | "\\:\\:\\:" | "\\:\\:" | "\\:" =>
        section_ := if line.length == 6 then 'h' else if line.length == 4 then 'b' else 'f'
        if !g.has 'p' then number := start
        put name 1 "\n"
      | _ =>
        let how := (g.last? section_).getD (if section_ == 'b' then "t" else "n")
        let counted := how == "a" || (how == "t" && !line.isEmpty)
        if counted then
          let digits := toString number
          let shownNumber := if style == "ln" then padBack width digits
            else if style == "rz" then repeated (width - digits.length) '0' ++ digits
            else padFront width digits
          put name 1 (shownNumber ++ separator ++ line ++ "\n")
          number := number + step
        else put name 1 (repeated (width + separator.length) ' ' ++ line ++ "\n")
  return status

/-- Separators with their escapes replaced; the empty one for a backslash and zero. -/
def separatorList : List Char → List String
  | [] => []
  | '\\' :: 'n' :: cs => "\n" :: separatorList cs
  | '\\' :: 't' :: cs => "\t" :: separatorList cs
  | '\\' :: '\\' :: cs => "\\" :: separatorList cs
  | '\\' :: '0' :: cs => "" :: separatorList cs
  | c :: cs => String.singleton c :: separatorList cs

def joinInTurn (separators : List String) (texts : List String) : String :=
  let n := separators.length
  match texts with
  | [] => ""
  | t :: rest =>
    t ++ String.join ((rest.zip (List.range rest.length)).map fun x =>
      (if n == 0 then "" else separators.getD (x.2 % n) "") ++ x.1)

def pasteUtility : Utility := fun _ name args => do
  let g ← readArguments name
    { letters := "d:sz", names := [("delimiters", 'd'), ("serial", 's'), ("zero-terminated", 'z')] }
      args
  let separators := separatorList ((g.last? 'd').getD "\t").toList
  let files := if g.operands.isEmpty then ["-"] else g.operands.toList
  let hyphens := (files.filter (· == "-")).length
  if g.has 's' then
    let (sources, status) ← inputs name files
    for (_, text) in sources do
      put name 1 (joinInTurn separators (cleanLines text '\n') ++ "\n")
    return status
  else
    let mut columns : Array (List String) := #[]
    let mut standard : Option (List String) := none
    let mut index := 0
    for f in files do
      if f == "-" then
        let lines ← match standard with
          | some l => pure l
          | none => do
            match ← contentOf "-" with
            | .ok text => pure (cleanLines text '\n')
            | .error cause => do
              fileFault name f cause
              exit 1
        standard := some lines
        let k := index
        index := index + 1
        -- Hyphens take the lines of the input in turn.
        let own := (lines.zip (List.range lines.length)).filter fun x => x.2 % hyphens == k
        columns := columns.push (own.map Prod.fst)
      else match ← contentOf f with
        | .ok text => columns := columns.push (cleanLines text '\n')
        | .error cause =>
          fileFault name f cause
          exit 1
    let rows := columns.foldl (fun m c => max m c.length) 0
    let arrays := columns.map List.toArray
    let mut out : String := ""
    for r in [0:rows] do
      out := out ++ joinInTurn separators
        ((arrays.map fun column => (column[r]?).getD "").toList) ++ "\n"
    put name 1 out
    return 0

def commUtility : Utility := fun _ name args => do
  let g ← readArguments name
    { letters := "123z", names := [("check-order", 'z'), ("nocheck-order", 'z'), ("total", 'z'),
        ("output-delimiter", 'z')] } args
  match g.operands.toList with
  | [] => misuse name 1 "missing operand"
  | [a] => misuse name 1 ("missing operand after " ++ Utility.quoted a)
  | [a, b] =>
    let read (f : String) : Action (List String) := do
      match ← contentOf f with
      | .ok text => return cleanLines text '\n'
      | .error cause => die 1 (name ++ ": " ++ shown f ++ ": " ++ cause)
    let first ← read a
    let second ← read b
    let column2 := if g.has '1' then "" else "\t"
    let column3 := column2 ++ (if g.has '2' then "" else "\t")
    let mut x := first
    let mut y := second
    let mut out : String := ""
    let mut disorder : Nat := 0
    for _ in [0:first.length + second.length] do
      match x, y with
      | [], [] => break
      | p :: ps, [] =>
        if !g.has '1' then out := out ++ p ++ "\n"
        if (ps.head?.any fun n => n < p) && disorder == 0 then disorder := 1
        x := ps
      | [], q :: qs =>
        if !g.has '2' then out := out ++ column2 ++ q ++ "\n"
        if (qs.head?.any fun n => n < q) && disorder == 0 then disorder := 2
        y := qs
      | p :: ps, q :: qs =>
        if p == q then
          if !g.has '3' then out := out ++ column3 ++ p ++ "\n"
          x := ps
          y := qs
        else if p < q then
          if !g.has '1' then out := out ++ p ++ "\n"
          if (ps.head?.any fun n => n < p) && disorder == 0 then disorder := 1
          x := ps
        else
          if !g.has '2' then out := out ++ column2 ++ q ++ "\n"
          if (qs.head?.any fun n => n < q) && disorder == 0 then disorder := 2
          y := qs
    put name 1 out
    if disorder != 0 then
      complain (name ++ ": file " ++ disorder.repr ++ " is not in sorted order")
      complain (name ++ ": input is not in sorted order")
      return 1
    return 0
  | _ :: _ :: c :: _ => misuse name 1 ("extra operand " ++ Utility.quoted c)

def foldUtility : Utility := fun _ name args => do
  let args := match args with
    | a :: rest =>
      if a.length > 1 && a.startsWith "-" && isDigits (dropFront 1 a) then
        "-w" :: dropFront 1 a :: rest
      else args
    | [] => []
  let g ← readArguments name
    { letters := "w:sb", names := [("width", 'w'), ("spaces", 's'), ("bytes", 'b')] } args
  let text := (g.last? 'w').getD "80"
  if !isDigits text || decimalOf text == 0 then
    die 1 (name ++ ": invalid number of columns: " ++ Utility.quoted text)
  let width := decimalOf text
  let advance (column : Nat) (c : Char) : Nat :=
    if g.has 'b' then column + 1
    else if c == '\t' then (column / 8 + 1) * 8
    else if c == '\x08' then column - 1
    else if c == '\r' then 0
    else column + 1
  let widthOf (cs : List Char) : Nat := cs.foldl advance 0
  let foldLine (line : String) : String := Id.run do
    let mut out : String := ""
    let mut current : List Char := []
    for c in line.toList do
      if advance (widthOf current.reverse) c > width && !current.isEmpty then
        if g.has 's' then
          let tail := current.takeWhile fun c => c != ' ' && c != '\t'
          let front := current.drop tail.length
          if front.isEmpty then
            out := out ++ String.ofList current.reverse ++ "\n"
            current := []
          else
            out := out ++ String.ofList front.reverse ++ "\n"
            current := tail
        else
          out := out ++ String.ofList current.reverse ++ "\n"
          current := []
      current := c :: current
    return out ++ String.ofList current.reverse
  let (sources, status) ← inputs name g.operands.toList
  for (_, text) in sources do
    for line in rawLines text '\n' do
      let body := if line.endsWith "\n" then takeFront (line.length - 1) line else line
      put name 1 (foldLine body ++ (if line.endsWith "\n" then "\n" else ""))
  return status

def tabStops (text : String) : List Nat :=
  ((text.map fun c => if c == ' ' then ',' else c).splitOn ",").filterMap fun t =>
    if isDigits t then some (decimalOf t) else none

def nextStop (stops : List Nat) (column : Nat) : Nat :=
  match stops with
  | [] => (column / 8 + 1) * 8
  | [n] => if n == 0 then column + 1 else (column / n + 1) * n
  | many => (many.find? fun s => column < s).getD (column + 1)

def expandUtility : Utility := fun _ name args => do
  let args := match args with
    | a :: rest =>
      if a.length > 1 && a.startsWith "-" && isDigits (dropFront 1 a) then
        "-t" :: dropFront 1 a :: rest
      else args
    | [] => []
  let g ← readArguments name { letters := "t:i", names := [("tabs", 't'), ("initial", 'i')] } args
  let stops := tabStops ((g.last? 't').getD "8")
  let (sources, status) ← inputs name g.operands.toList
  for (_, text) in sources do
    let r := text.foldl (fun (acc : String × Nat × Bool) c =>
      let (out, column, start) := acc
      if c == '\n' then (out.push c, 0, true)
      else if c == '\t' && (start || !g.has 'i') then
        let next := nextStop stops column
        (out ++ repeated (next - column) ' ', next, start)
      else if c == '\x08' then (out.push c, column - 1, start)
      else (out.push c, column + 1, start && c == ' ')) ("", 0, true)
    put name 1 r.1
  return status

def unexpandUtility : Utility := fun _ name args => do
  let g ← readArguments name
    { letters := "at:", names := [("all", 'a'), ("tabs", 't'), ("first-only", 'f')] } args
  let stops := tabStops ((g.last? 't').getD "8")
  let all := g.has 'a' || g.has 't'
  let convert (line : String) : String := Id.run do
    let mut out : String := ""
    let mut column := 0
    let mut blanks := 0
    let mut start := true
    for c in line.toList do
      if (c == ' ' || c == '\t') && (all || start) then
        let next := if c == '\t' then nextStop stops column else column + 1
        blanks := if c == '\t' then 0 else blanks + 1
        column := next
        if c == '\t' then out := out.push '\t'
        else if nextStop stops (column - 1) == column then
          out := out ++ (if blanks == 1 && !start then " " else "\t")
          blanks := 0
      else
        out := out ++ repeated blanks ' '
        blanks := 0
        start := false
        out := out.push c
        column := column + 1
    return out ++ repeated blanks ' '
  let (sources, status) ← inputs name g.operands.toList
  for (_, text) in sources do
    for line in rawLines text '\n' do
      let body := if line.endsWith "\n" then takeFront (line.length - 1) line else line
      put name 1 (convert body ++ (if line.endsWith "\n" then "\n" else ""))
  return status

def uniqUtility : Utility := fun _ name args => do
  let g ← readArguments name
    { letters := "cduiDf:s:w:z", names := [("count", 'c'), ("repeated", 'd'), ("unique", 'u'),
        ("ignore-case", 'i'), ("all-repeated", 'D'), ("skip-fields", 'f'), ("skip-chars", 's'),
        ("check-chars", 'w'), ("zero-terminated", 'z')] } args
  let operands := g.operands.toList
  if operands.length > 2 then
    misuse name 1 ("extra operand " ++ Utility.quoted (operands.getD 2 ""))
  let file := operands.head?.getD "-"
  let text ← match ← contentOf file with
    | .ok text => pure text
    | .error cause =>
      if cause == "Is a directory" then die 1 (name ++ ": error reading " ++ Utility.quoted file)
      else die 1 (name ++ ": " ++ shown file ++ ": " ++ cause)
  let isBlank (c : Char) : Bool := c == ' ' || c == '\t'
  let dropField (cs : List Char) : List Char := (cs.dropWhile isBlank).dropWhile fun c => !isBlank c
  let keyOf (line : String) : String :=
    let cs := (List.range (decimalOf ((g.last? 'f').getD "0"))).foldl
      (fun cs _ => dropField cs) line.toList
    let cs := cs.drop (decimalOf ((g.last? 's').getD "0"))
    let cs := match g.last? 'w' with
      | some n => cs.take (decimalOf n)
      | none => cs
    let key := String.ofList cs
    if g.has 'i' then key.toLower else key
  let ending := if g.has 'z' then '\x00' else '\n'
  let groups := (cleanLines text ending).foldl (fun (acc : List (String × List String)) line =>
    let k := keyOf line
    match acc with
    | (key, lines) :: rest => if key == k then (key, line :: lines) :: rest else (k, [line]) :: acc
    | [] => [(k, [line])]) []
  let mut out : String := ""
  for (_, lines) in groups.reverse do
    let n := lines.length
    let chosen :=
      if g.has 'd' && g.has 'u' then
        false
      else if g.has 'd' then n > 1 else if g.has 'u' then n == 1 else true
    let shownLine := lines.getLast?.getD ""
    if g.has 'D' then
      if n > 1 then
        for l in lines.reverse do
          out := (out ++ l).push ending
    else if chosen then
      out := (out ++ (if g.has 'c' then padFront 7 n.repr ++ " " else "") ++ shownLine).push ending
  match operands with
  | [_, target] =>
    match ← writeFile target .write out with
    | some f => die 1 (name ++ ": " ++ shown target ++ ": " ++ faultText f)
    | none => return 0
  | _ =>
    put name 1 out
    return 0

/-- The ranges that a list of positions names, each with its end if it has one. -/
def rangeList (text : String) : Except String (List (Nat × Option Nat)) :=
  let pieces := ((text.map fun c => if c == ' ' then ',' else c).splitOn ",")
  pieces.mapM fun p =>
    match p.splitOn "-" with
    | [a] =>
      if a.isEmpty then .error "zero"
      else if !isDigits a then .error ("value " ++ p)
      else if decimalOf a == 0 then .error "zero" else .ok (decimalOf a, some (decimalOf a))
    | [a, b] =>
      if a.isEmpty && b.isEmpty then .error "endpoint"
      else if !(a.isEmpty || isDigits a) || !(b.isEmpty || isDigits b) then .error ("value " ++ p)
      else
        let low := if a.isEmpty then 1 else decimalOf a
        if low == 0 then .error "zero"
        else if b.isEmpty then .ok (low, none)
        else if decimalOf b < low then .error "decreasing"
        else .ok (low, some (decimalOf b))
    | _ => .error ("value " ++ p)

def inRanges (ranges : List (Nat × Option Nat)) (n : Nat) : Bool :=
  ranges.any fun r => r.1 ≤ n && (r.2.all fun e => n ≤ e)

/-- The runs of neighbours among positions that are chosen. -/
def chosenRuns (cs : List Char) (chosen : Nat → Bool) (starts : Nat → Bool) : List (List Char) :=
  let rec go : Nat → List Char → Bool → List (List Char) → List (List Char)
    | _, [], _, acc => (acc.map List.reverse).reverse
    | k, c :: rest, before, acc =>
      if chosen k then
        match acc, before && !starts k with
        | run :: others, true => go (k + 1) rest true ((c :: run) :: others)
        | acc, _ => go (k + 1) rest true ([c] :: acc)
      else go (k + 1) rest false acc
  go 1 cs false []

def cutUtility : Utility := fun _ name args => do
  let g ← readArguments name
    { letters := "b:c:f:d:szn1:2", names := [("bytes", 'b'), ("characters", 'c'), ("fields", 'f'),
        ("delimiter", 'd'), ("only-delimited", 's'), ("zero-terminated", 'z'),
        ("output-delimiter", '1'), ("complement", '2')] } args
  let lists := g.options.toList.filter fun o => o.1 == 'b' || o.1 == 'c' || o.1 == 'f'
  let (kind, text) ← match lists with
    | [] => misuse name 1 "you must specify a list of bytes, characters, or fields"
    | [l] => pure l
    | _ => misuse name 1 "only one list may be specified"
  let delimiter := (g.last? 'd').getD "\t"
  if delimiter.length > 1 then misuse name 1 "the delimiter must be a single character"
  if kind != 'f' && g.has 'd' then
    misuse name 1 "an input delimiter may be specified only\n\twhen operating on fields"
  if kind != 'f' && g.has 's' then
    misuse name 1 "suppressing non-delimited lines makes sense\n\tonly when operating on fields"
  let ranges ← match rangeList text with
    | .ok r => pure r
    | .error "zero" => misuse name 1 (if kind == 'f' then "fields are numbered from 1"
        else "byte/character positions are numbered from 1")
    | .error "endpoint" => misuse name 1 "invalid range with no endpoint: -"
    | .error "decreasing" => misuse name 1 "invalid decreasing range"
    | .error e =>
      misuse name 1 ((if kind == 'f' then "invalid field " else
        "invalid byte/character position ") ++
        (if kind == 'f' then "value " else "") ++ Utility.quoted (dropFront 6 e))
  let chosen (n : Nat) : Bool := inRanges ranges n != g.has '2'
  let starts (n : Nat) : Bool := (g.last? '1').isSome && ranges.any fun r => r.1 == n &&
    !g.has '2' &&
    !(ranges.any fun q => q.1 < n && (q.2.all fun e => n ≤ e))
  let d := delimiter.toList.head?.getD '\x00'
  let ending := if g.has 'z' then '\x00' else '\n'
  let cutLine (line : String) : Option String :=
    if kind == 'f' then
      if !line.toList.contains d then if g.has 's' then none else some line
      else
        let fields := splitAtEach d line
        let kept := (fields.zip (List.range fields.length)).filter fun f => chosen (f.2 + 1)
        some (((g.last? '1').getD (String.singleton d)).intercalate (kept.map Prod.fst))
    else
      let runs := chosenRuns line.toList chosen starts
      some (((g.last? '1').getD "").intercalate (runs.map String.ofList))
  let (sources, status) ← inputs name g.operands.toList
  for (_, text) in sources do
    let mut out : String := ""
    for line in cleanLines text ending do
      match cutLine line with
      | some l => out := (out ++ l).push ending
      | none => pure ()
    put name 1 out
  return status

/-- A member of a set of characters: a character, a class, or a character repeated. -/
inductive SetMember where
  | char (c : Char)
  | range (a b : Char)
  | class_ (name : String)
  /-- Repeated so often, or as often as is needed. -/
  | repeated (c : Char) (n : Nat)

def classMembers (name : String) : List Char :=
  let all := (List.range 256).map Char.ofNat
  match name with
  | "alpha" => all.filter Char.isAlpha
  | "digit" => all.filter Char.isDigit
  | "alnum" => all.filter Char.isAlphanum
  | "upper" => all.filter Char.isUpper
  | "lower" => all.filter Char.isLower
  | "space" => all.filter isBlankOctet
  | "blank" => [' ', '\t']
  | "punct" => all.filter fun c => 32 < c.toNat && c.toNat < 127 && !c.isAlphanum
  | "cntrl" => all.filter fun c => c.toNat < 32 || c.toNat == 127
  | "print" => all.filter fun c => 32 ≤ c.toNat && c.toNat < 127
  | "graph" => all.filter fun c => 32 < c.toNat && c.toNat < 127
  | "xdigit" => all.filter fun c => c.isDigit || ('a' ≤ c && c ≤ 'f') || ('A' ≤ c && c ≤ 'F')
  | _ => []

/-- The escapes of a set, with a mark whether each character was escaped. -/
def setUnits : List Char → List (Char × Bool)
  | [] => []
  | '\\' :: c :: cs =>
    let octal (x : Char) : Bool := '0' ≤ x && x ≤ '7'
    if octal c then
      match cs with
      | d :: e :: rest =>
        if octal d && octal e && c ≤ '3' then
          (Char.ofNat ((c.toNat - 48) * 64 + (d.toNat - 48) * 8 + (e.toNat - 48)), true) ::
            setUnits rest
        else if octal d then
          (Char.ofNat ((c.toNat - 48) * 8 + (d.toNat - 48)), true) :: setUnits (e :: rest)
        else (Char.ofNat (c.toNat - 48), true) :: setUnits (d :: e :: rest)
      | [d] =>
        if octal d then [(Char.ofNat ((c.toNat - 48) * 8 + (d.toNat - 48)), true)]
        else (Char.ofNat (c.toNat - 48), true) :: setUnits [d]
      | [] => [(Char.ofNat (c.toNat - 48), true)]
    else
      let x := match c with
        | 'n' => '\n'
        | 't' => '\t'
        | 'r' => '\r'
        | 'a' => '\x07'
        | 'b' => '\x08'
        | 'f' => '\x0c'
        | 'v' => '\x0b'
        | c => c
      (x, true) :: setUnits cs
  | c :: cs => (c, false) :: setUnits cs

/-- The members of a set. The number bounds how many there are. -/
def setMembers : Nat → List (Char × Bool) → List SetMember
  | 0, _ => []
  | _, [] => []
  | fuel + 1, ('[', false) :: (':', false) :: rest =>
    let word := rest.takeWhile fun u => u.1 != ':'
    match rest.drop word.length with
    | (':', false) :: (']', false) :: more =>
      .class_ (String.ofList (word.map Prod.fst)) :: setMembers fuel more
    | _ => .char '[' :: setMembers fuel ((':', false) :: rest)
  | fuel + 1, ('[', false) :: ('=', false) :: (c, e) :: ('=', false) :: (']', false) :: rest =>
    let _ := e
    .char c :: setMembers fuel rest
  | fuel + 1, ('[', false) :: (c, e) :: ('*', false) :: rest =>
    let digits := rest.takeWhile fun u => u.1.isDigit
    match rest.drop digits.length with
    | (']', false) :: more =>
      let ds := String.ofList (digits.map Prod.fst)
      let n :=
        if ds.startsWith "0" then ds.foldl (fun n c => n * 8 + (c.toNat - 48)) 0 else decimalOf ds
      .repeated c n :: setMembers fuel more
    | _ => .char '[' :: setMembers fuel ((c, e) :: ('*', false) :: rest)
  | fuel + 1, (a, _) :: ('-', false) :: (b, _) :: rest => .range a b :: setMembers fuel rest
  | fuel + 1, (c, _) :: rest => .char c :: setMembers fuel rest

/-- The characters of a set; a member repeated as needed fills it up to a length. -/
def setChars (members : List SetMember) (length : Nat) : List Char :=
  let sized (m : SetMember) : Nat := match m with
    | .char _ => 1
    | .range a b => b.toNat + 1 - a.toNat
    | .class_ n => (classMembers n).length
    | .repeated _ n => n
  let fixed := members.foldl (fun t m => t + sized m) 0
  members.flatMap fun m => match m with
    | .char c => [c]
    | .range a b => (List.range (b.toNat + 1 - a.toNat)).map fun k => Char.ofNat (a.toNat + k)
    | .class_ n => classMembers n
    | .repeated c n => List.replicate (if n == 0 then length - fixed else n) c

def trUtility : Utility := fun _ name args => do
  let g ← readArguments name
    { letters := "cCdst", names := [("complement", 'c'), ("delete", 'd'), ("squeeze-repeats", 's'),
        ("truncate-set1", 't')], anywhere := false } args
  let operands := g.operands.toList
  let deletes := g.has 'd'
  let squeezes := g.has 's'
  let two := "Two strings must be given when " ++
    (if deletes then "both deleting and squeezing repeats." else "translating.")
  let help := "Try '" ++ name ++ " --help' for more information."
  match operands with
  | [] => misuse name 1 "missing operand"
  | [a] =>
    if deletes == squeezes then
      complain (name ++ ": missing operand after " ++ Utility.quoted a)
      complain two
      complain help
      exit 1
  | [_, b] =>
    if deletes && !squeezes then
      complain (name ++ ": extra operand " ++ Utility.quoted b)
      complain "Only one string may be given when deleting without squeezing repeats."
      complain help
      exit 1
  | _ :: _ :: c :: _ => misuse name 1 ("extra operand " ++ Utility.quoted c)
  let membersOf (s : String) : Action (List SetMember) := do
    let units := setUnits s.toList
    let ms := setMembers (units.length + 1) units
    for m in ms do
      match m with
      | .range a b =>
        if b < a then
          die 1 (name ++ ": range-endpoints of '" ++ String.ofList [a, '-', b] ++
            "' are in reverse collating sequence order")
      | .class_ n =>
        if (classMembers n).isEmpty then
          die 1 (name ++ ": invalid character class " ++ Utility.quoted n)
      | _ => pure ()
    return ms
  let members1 ← membersOf (operands.getD 0 "")
  let members2 ← membersOf (operands.getD 1 "")
  let complement := g.has 'c' || g.has 'C'
  let plain1 := setChars members1 0
  let set1 :=
    if complement then
      ((List.range 256).map Char.ofNat).filter fun c => !plain1.contains c
    else plain1
  let set2 := setChars members2 set1.length
  let text ← match ← contentOf "-" with
    | .ok text => pure text
    | .error cause => die 1 (name ++ ": read error: " ++ cause)
  let translating := !deletes && operands.length == 2
  if translating && set2.isEmpty && !g.has 't' && !set1.isEmpty then
    die 1 (name ++ ": when not truncating set1, string2 must be non-empty")
  let table1 : Array Bool := ((List.range 256).map fun n => set1.contains (Char.ofNat n)).toArray
  let cased (name : String) (ms : List SetMember) : Bool := ms.any fun m => match m with
    | .class_ n => n == name
    | _ => false
  let last := set2.getLast?
  let padded := if g.has 't' then set2 else match last with
    | some c => set2 ++ List.replicate (set1.length - set2.length) c
    | none => []
  -- Upper and lower case letters in both sets stand for each other.
  let pairs :=
    if !complement && (cased "lower" members1 && cased "upper" members2) && members1.length == 1
      then (classMembers "lower").zip (classMembers "upper")
    else if !complement && (cased "upper" members1 && cased "lower" members2) &&
      members1.length == 1
      then (classMembers "upper").zip (classMembers "lower")
    else set1.zip padded
  let map : Array Char := (pairs.foldl (fun (t : Array Char) p => t.setIfInBounds p.1.toNat p.2)
    ((List.range 256).map Char.ofNat).toArray)
  let isIn (c : Char) : Bool := (table1[c.toNat]?).getD false
  let translated : List Char :=
    if deletes then text.toList.filter fun c => !isIn c
    else if translating then text.toList.map fun c => (map[c.toNat]?).getD c
    else text.toList
  let result : List Char :=
    if squeezes then
      let set := if operands.length == 2 then set2 else set1
      (translated.foldl (fun (acc : List Char) c =>
        match acc with
        | d :: _ => if c == d && set.contains c then acc else c :: acc
        | [] => [c]) []).reverse
    else translated
  put name 1 (String.ofList result)
  return 0

def yesUtility : Utility := fun _ name args => do
  let args := if args.head? == some "--" then args.drop 1 else args
  let line := (if args.isEmpty then "y" else " ".intercalate args) ++ "\n"
  let block := String.join (List.replicate (8192 / line.length + 1) line)
  for _ in [0:20000] do
    put name 1 block
  return 1

def splitUtility : Utility := fun _ name args => do
  let args := match args with
    | a :: rest =>
      if a.length > 1 && a.startsWith "-" && isDigits (dropFront 1 a) then
        "-l" :: dropFront 1 a :: rest
      else args
    | [] => []
  let g ← readArguments name
    { letters := "l:b:a:dxn:C:e1:", names := [("lines", 'l'), ("bytes", 'b'),
        ("suffix-length", 'a'), ("numeric-suffixes", 'd'), ("number", 'n'),
        ("additional-suffix", '1')], optional := "" } args
  let operands := g.operands.toList
  let file := operands.getD 0 "-"
  let front := operands.getD 1 "x"
  let text ← match ← contentOf file with
    | .ok text => pure text
    | .error cause =>
      if cause == "Is a directory" then
        die 1 (name ++ ": " ++ shown file ++ ": read error: " ++ cause)
      else die 1 (name ++ ": cannot open " ++ Utility.quoted file ++ " for reading: " ++ cause)
  let width := decimalOf ((g.last? 'a').getD "2")
  let chunk (n : Nat) (cs : List Char) : List String :=
    if n == 0 then []
    else (List.range ((cs.length + n - 1) / n)).map fun k =>
      String.ofList ((cs.drop (k * n)).take n)
  let pieces ← match g.last? 'b', g.last? 'n' with
    | some b, _ =>
      match countOf? b with
      | some n =>
        if n == 0 then
          die 1 (name ++ ": invalid number of bytes: " ++ Utility.quoted b)
        else pure (chunk n text.toList)
      | none => die 1 (name ++ ": invalid number of bytes: " ++ Utility.quoted b)
    | none, some n =>
      let lined := n.startsWith "l/"
      let k := decimalOf (if lined then dropFront 2 n else n)
      if k == 0 then die 1 (name ++ ": invalid number of chunks: " ++ Utility.quoted n)
      let size := text.length / k
      pure ((List.range k).map fun i =>
        let from_ := i * size
        let until_ := if i + 1 == k then text.length else (i + 1) * size
        String.ofList ((text.toList.drop from_).take (until_ - from_)))
    | none, none =>
      let l := (g.last? 'l').getD "1000"
      match countOf? l with
      | some n =>
        if n == 0 then die 1 (name ++ ": invalid number of lines: " ++ Utility.quoted l)
        let lines := rawLines text '\n'
        pure ((List.range ((lines.length + n - 1) / n)).map fun k =>
          String.join ((lines.drop (k * n)).take n))
      | none => die 1 (name ++ ": invalid number of lines: " ++ Utility.quoted l)
  for (piece, k) in pieces.zip (List.range pieces.length) do
    let suffix := if g.has 'd' then
        repeated (width - k.repr.length) '0' ++ k.repr
      else String.ofList ((List.range width).reverse.map fun p => Char.ofNat (97 + k / 26 ^ p % 26))
    let _ ← writeFile (front ++ suffix ++ (g.last? '1').getD "") .write piece
  return 0

def linePrograms : List (String × Utility) :=
  [("cat", catUtility), ("head", headUtility), ("tail", tailUtility), ("wc", wcUtility),
   ("tac", tacUtility), ("rev", revUtility), ("tee", teeUtility), ("nl", nlUtility),
   ("paste", pasteUtility), ("comm", commUtility), ("fold", foldUtility), ("expand", expandUtility),
   ("unexpand", unexpandUtility), ("uniq", uniqUtility), ("cut", cutUtility), ("tr", trUtility),
   ("yes", yesUtility), ("split", splitUtility)]

end Utility

end StudyFlow.Shell
