import StudyFlow.Shell.Condition
import StudyFlow.Shell.Utility.Files
import StudyFlow.Shell.Utility.Values

/-!
A search through a directory for entries that fulfil a criterion. A criterion is built from tests
and from actions, which are true or false as tests are; it is read from the arguments into a tree
first, with the closest binding for negation, then for both, then for either, and last for a
sequence.
-/

namespace StudyFlow.Shell

namespace Utility

open StudyFlow.Shell.Action

/-- A number that is asked for: fewer, just as many, or more. -/
structure Amount where
  order : Ordering
  count : Nat
  deriving Inhabited

def Amount.admits (a : Amount) (n : Nat) : Bool := compare n a.count == a.order

def Amount.read? (text : String) : Option Amount :=
  let (order, digits) := match text.toList with
    | '+' :: ds => (Ordering.gt, ds)
    | '-' :: ds => (.lt, ds)
    | ds => (.eq, ds)
  let digits := String.ofList digits
  if isDigits digits then some ⟨order, decimalOf digits⟩ else none

/-- How the permissions of an entry compare with those that are asked for. -/
inductive Permitted where
  | exactly
  | atLeast
  | some
  deriving Inhabited

/-- A piece of the text that is printed for an entry. -/
inductive Piece where
  | text (s : String)
  /-- A property of the entry, by its letter, in a field of some width. -/
  | field (c : Char) (left zeros : Bool) (width : Nat) (most : Option Nat)
  /-- The text ends here. -/
  | stop
  deriving Inhabited

/-- What is asked of an entry, and what is done with it. -/
inductive Criterion where
  | always (answer : Bool)
  | name (r : Regex) (folded : Bool)
  | path (r : Regex) (folded : Bool)
  | kind (letters : List Char)
  | empty
  | size (a : Amount) (unit : Nat)
  | permissions (how : Permitted) (mode : Nat)
  | access (letter : Char)
  | newerThan (path : String)
  | sameAs (path : String)
  | links (a : Amount)
  /-- The age, which is nothing here, in some unit. -/
  | age (a : Amount) (minutes : Bool)
  | print (target : Option String) (ending : String)
  | format (target : Option String) (pieces : List Piece)
  | detail
  | delete
  | prune
  | quit
  /-- Runs a command for each entry. -/
  | each (words : List String) (within ask : Bool)
  /-- Runs a command for all entries together. The number tells several of these apart. -/
  | together (number : Nat) (words : List String) (within : Bool)
  | not (c : Criterion)
  | both (a b : Criterion)
  | either (a b : Criterion)
  | sequence (a b : Criterion)
  deriving Inhabited

/-- An entry that the search has come to. -/
structure Visit where
  path : String
  /-- The path under which the search started. -/
  start : String
  depth : Nat
  entry : Entry
  deriving Inhabited

/-- The state of a search. -/
structure Quest where
  status : Nat := 0
  /-- Whether what is below the entry is left out. -/
  pruned : Bool := false
  /-- Whether the search is over. -/
  halted : Bool := false
  /-- What commands wait for: their numbers, words, directories, and the paths so far. -/
  waiting : List (Nat × List String × Option String × Array String) := []
  deriving Inhabited

def sizeOf_ : Entry → Nat
  | .file b _ => b.size
  | .directory => 4096

/-- The part of a path below the start. -/
def Visit.tail (v : Visit) : String :=
  let rest := v.path.toList.drop v.start.length
  String.ofList (rest.dropWhile (· == '/'))

/-- The last part of a path, as it is written at the start of a search. -/
def Visit.last (v : Visit) : String := if v.depth == 0 then
    let b := baseName v.path
    if v.path.endsWith "/" && b != "/" then b ++ "/" else b
  else baseName v.path

/-- What a letter of a format says about an entry. -/
def Visit.field (v : Visit) (c : Char) : Option String :=
  match c with
  | 'p' => some v.path
  | 'f' => some v.last
  | 'h' =>
    let front := v.path.toList.reverse.dropWhile (· == '/') |>.dropWhile (· != '/')
    some (if v.path.endsWith "/" then trimSlashes v.path
      else if front.isEmpty then "." else String.ofList (front.drop 1).reverse)
  | 'P' => some v.tail
  | 'H' => some v.start
  | 's' => some (sizeOf_ v.entry).repr
  | 'd' => some v.depth.repr
  | 'y' | 'Y' => some (if v.entry == .directory then "d" else "f")
  | 'm' => some (statField v.path v.entry 'a')
  | 'M' => some (statField v.path v.entry 'A')
  | 'u' | 'g' => some "root"
  | 'U' | 'G' => some "0"
  | 'n' => some (statField v.path v.entry 'h')
  | 'b' => some (statField v.path v.entry 'b')
  | 'k' => some (((sizeOf_ v.entry + 4095) / 4096) * 4).repr
  | 'l' => some ""
  | 'i' | 'D' => some "0"
  | 'F' => some "overlay"
  | 'S' => some (if sizeOf_ v.entry == 4096 then "1" else "0")
  | 't' | 'a' | 'c' => some "Thu Jan  1 00:00:00.0000000000 1970"
  | _ => none

def Visit.fill (v : Visit) : List Piece → String
  | [] | .stop :: _ => ""
  | .text s :: rest => s ++ v.fill rest
  | .field c left zeros width most :: rest =>
    let s := (v.field c).getD ""
    let s := match most with
      | some n =>
        if c == 'f' || c == 'p' || c == 'h' || c == 'P' || c == 'H' then takeFront n s else s
      | none => s
    let isNumber := "dUGn".toList.contains c
    (if left then padBack width s
      else if zeros && isNumber then repeated (width - s.length) '0' ++ s else padFront width s) ++
        v.fill rest

/-- Reads a format, and gives what there is to warn about. -/
def readPieces : Nat → List Char → List Piece × List String
  | 0, _ => ([], [])
  | _, [] => ([], [])
  | fuel + 1, '\\' :: rest =>
    let add (s : String) (rest : List Char) : List Piece × List String :=
      let (ps, ws) := readPieces fuel rest
      (.text s :: ps, ws)
    match rest with
    | 'n' :: rest => add "\n" rest
    | 't' :: rest => add "\t" rest
    | 'a' :: rest => add "\x07" rest
    | 'b' :: rest => add "\x08" rest
    | 'f' :: rest => add "\x0c" rest
    | 'r' :: rest => add "\r" rest
    | 'v' :: rest => add "\x0b" rest
    | '\\' :: rest => add "\\" rest
    | 'c' :: _ => ([.stop], [])
    | c :: more =>
      let digits := (rest.take 3).takeWhile fun d => '0' ≤ d && d ≤ '7'
      if digits.isEmpty then
        let (ps, ws) := readPieces fuel more
        (.text (String.ofList ['\\', c]) :: ps,
          ("unrecognized escape \x60\\" ++ String.singleton c ++ "'") :: ws)
      else
        let n := digits.foldl (fun n d => n * 8 + (d.toNat - 48)) 0
        add (String.singleton (Char.ofNat (n % 256))) (rest.drop digits.length)
    | [] => ([.text "\\"], ["escape \x60\\' followed by nothing at all"])
  | fuel + 1, '%' :: '%' :: rest =>
    let (ps, ws) := readPieces fuel rest
    (.text "%" :: ps, ws)
  | fuel + 1, '%' :: rest =>
    let flags := rest.takeWhile fun c => "-+ #0".toList.contains c
    let more := rest.drop flags.length
    let width := more.takeWhile Char.isDigit
    let more := more.drop width.length
    let (most, more) := match more with
      | '.' :: ds =>
        let d := ds.takeWhile Char.isDigit
        (some (decimalOf (String.ofList d)), ds.drop d.length)
      | ds => (none, ds)
    match more with
    | [] => ([], [])
    | c :: more =>
      let more := if c == 'T' || c == 'A' || c == 'C' then more.drop 1 else more
      let (ps, ws) := readPieces fuel more
      if c == 'T' || c == 'A' || c == 'C' then (.text "0" :: ps, ws)
      else if (({ path := "", start := "", depth := 0, entry := .directory } : Visit).field
        c).isSome then
        (.field c (flags.contains '-') (flags.contains '0')
          (decimalOf (String.ofList width)) most :: ps, ws)
      else (.text ("%" ++ String.singleton c) :: ps,
        ("unrecognized format directive \x60%" ++ String.singleton c ++ "'") :: ws)
  | fuel + 1, cs =>
    let plain := cs.takeWhile fun c => c != '\\' && c != '%'
    let (ps, ws) := readPieces fuel (cs.drop plain.length)
    (.text (String.ofList plain) :: ps, ws)

/-- Whether a format breaks off within a field. -/
def breaksOff : List Char → Bool
  | ['%'] => true
  | '%' :: _ :: rest => breaksOff rest
  | _ :: rest => breaksOff rest
  | [] => false

/-- Runs a command of a search and tells whether it succeeded. -/
def runFound (e : Engine) (name : String) (within : Option String) (words : List String) :
    Action Bool := do
  let before := (← process).dir
  match within with
  | some dir =>
    let target ← absolutePath dir
    setProcess fun p => { p with dir := target }
  | none => pure ()
  let first := words.head?.getD ""
  let place ← findProgram first
  let good ← match place, missingProgram place with
    | .program path, _ => do
      match ← e.launch path words with
      | .ok o => pure (o == .exited 0)
      | .error f => do
        complain (name ++ ": " ++ Utility.quoted first ++ ": " ++ faultText f)
        pure false
    | _, some (cause, _) => do
      complain (name ++ ": " ++ Utility.quoted first ++ ": " ++ cause)
      pure false
    | _, none => pure false
  setProcess fun p => { p with dir := before }
  return good

/-- Prints for a search, to its output or to a file. -/
def sayFound (name : String) (target : Option String) (text : String) : Action Unit := do
  match target with
  | none => put name 1 text
  | some f => discard <| writeFile f .append text

/-- The text of a line that tells all about an entry. -/
def detailLine (v : Visit) : String :=
  let field (c : Char) : String := (v.field c).getD ""
  "  1000000 " ++ padFront 6 (field 'k') ++ " " ++ field 'M' ++ padFront 4 (field 'n') ++
    " root     root     " ++ padFront 8 (field 's') ++ " Jan  1 00:00 " ++ v.path ++ "\n"

/-- Whether an entry fulfils a criterion; its actions are done on the way. -/
def Criterion.holds (e : Engine) (name : String) (v : Visit) :
    Criterion → Quest → Action (Bool × Quest)
  | .always b, q => return (b, q)
  | .name r folded, q => return (matchesWhole r folded (baseName v.path), q)
  | .path r folded, q => return (matchesWhole r folded v.path, q)
  | .kind letters, q => return (letters.contains (if v.entry == .directory then 'd' else 'f'), q)
  | .empty, q =>
    match v.entry with
    | .directory => return ((← listing v.path).isEmpty, q)
    | .file b _ => return (b.size == 0, q)
  | .size a unit, q => return (a.admits ((sizeOf_ v.entry + unit - 1) / unit), q)
  | .permissions how mode, q =>
    let own := modeOf v.entry
    return (match how with
      | .exactly => own == mode
      | .atLeast => own &&& mode == mode
      | .some => mode == 0 || own &&& mode != 0, q)
  | .access letter, q => return (letter != 'x' || modeOf v.entry &&& 73 != 0, q)
  | .newerThan other, q => return (← isNewer v.path other, q)
  | .sameAs other, q => return (← isSameFile v.path other, q)
  | .links a, q => do
    let n ← match v.entry with
      | .file .. => pure 1
      | .directory => do
        let inner := (← listing v.path).filter fun x => x.2 == .directory
        pure (2 + inner.length)
    return (a.admits n, q)
  | .age a minutes, q => return (a.admits (if minutes then 1 else 0), q)
  | .print target ending, q => do
    sayFound name target (v.path ++ ending)
    return (true, q)
  | .format target pieces, q => do
    sayFound name target (v.fill pieces)
    return (true, q)
  | .detail, q => do
    sayFound name none (detailLine v)
    return (true, q)
  | .delete, q => do
    if v.path == "." then return (true, q)
    match ← entryAt v.path with
    | .ok (l, entry) =>
      if entry == .directory && !(← listing v.path).isEmpty then
        complain (name ++ ": cannot delete " ++ Utility.quoted v.path ++ ": Directory not empty")
        return (false, { q with status := 1 })
      dropEntry l
      return (true, q)
    | .error f =>
      complain (name ++ ": cannot delete " ++ Utility.quoted v.path ++ ": " ++ faultText f)
      return (false, { q with status := 1 })
  | .prune, q => return (true, { q with pruned := true })
  | .quit, q => return (true, { q with halted := true })
  | .each words within ask, q => do
    let own := if within then "./" ++ baseName v.path else v.path
    let agreed ← if ask then do
        printError ("< " ++ words.head?.getD "" ++ " ... " ++ v.path ++ " > ? ")
        let answer ← readOctet 0
        let mut c := answer
        for _ in [0:4096] do
          if c == some '\n' || c.isNone then break
          c ← readOctet 0
        pure (answer == some 'y' || answer == some 'Y')
      else pure true
    if !agreed then return (false, q)
    let dir := if within then some (directoryName v.path) else none
    return (← runFound e name dir (words.map fun w => w.replace "\x7b\x7d" own), q)
  | .together number words within, q => do
    let own := if within then "./" ++ baseName v.path else v.path
    let dir := if within then some (directoryName v.path) else none
    if q.waiting.any fun w => w.1 == number && w.2.2.1 == dir then
      return (true, { q with waiting := q.waiting.map fun w =>
        if w.1 == number && w.2.2.1 == dir then (w.1, w.2.1, w.2.2.1, w.2.2.2.push own) else w })
    else return (true, { q with waiting := q.waiting ++ [(number, words, dir, #[own])] })
  | .not c, q => do
    let (b, q) ← c.holds e name v q
    return (!b, q)
  | .both a b, q => do
    let (x, q) ← a.holds e name v q
    if x && !q.halted then b.holds e name v q else return (x, q)
  | .either a b, q => do
    let (x, q) ← a.holds e name v q
    if x || q.halted then return (x, q) else b.holds e name v q
  | .sequence a b, q => do
    let (_, q) ← a.holds e name v q
    if q.halted then return (false, q) else b.holds e name v q

structure Bounds where
  least : Nat := 0
  most : Option Nat := none
  /-- Whether what is in a directory comes before the directory. -/
  deep : Bool := false
  deriving Inhabited

def runWaiting (e : Engine) (name : String) (which : Option String → Bool) (q : Quest) :
    Action Quest := do
  let mut q := q
  for (_, words, dir, paths) in q.waiting do
    if which dir then
      if !(← runFound e name dir (words ++ paths.toList)) then q := { q with status := 1 }
  return { q with waiting := q.waiting.filter fun w => !which w.2.2.1 }

/-- Goes through an entry and all that is below it. -/
def explore (e : Engine) (name : String) (b : Bounds) (c : Criterion) :
    Nat → Visit → Quest → Action Quest
  | 0, _, q => return q
  | fuel + 1, v, q => do
    let wanted := b.least ≤ v.depth
    let isDir := v.entry == .directory
    let goesOn := isDir && (match b.most with
      | some n => v.depth < n
      | none => true)
    let descend (q : Quest) : Action Quest := do
      if !goesOn then return q
      if !(← isDirectory v.path) then
        complain (name ++ ": " ++ Utility.quoted v.path ++ ": No such file or directory")
        return { q with status := 1 }
      let mut q := q
      for (n, entry) in ← listing v.path do
        if !q.halted then
          q ← explore e name b c fuel
            { v with path := inside v.path n, depth := v.depth + 1, entry := entry } q
      runWaiting e name (fun d => d == some v.path) q
    if b.deep then
      let q ← descend q
      if q.halted || !wanted then return q
      let (_, q) ← c.holds e name v q
      return { q with pruned := false }
    else
      let q ← if wanted then do
          let (_, q) ← c.holds e name v q
          pure q
        else pure q
      if q.halted then return q
      if q.pruned then return { q with pruned := false }
      descend q

/-- A part of an expression as it stands among the arguments. -/
inductive Term where
  | one (c : Criterion)
  | negation (written : String)
  | joint (written : String) (rank : Nat)
  | opening
  | closing
  deriving Inhabited

/-- What is read from the arguments. -/
structure Request where
  terms : Array Term := #[]
  bounds : Bounds := {}
  /-- Whether depth first is asked for by itself. -/
  deepAsked : Bool := false
  deletes : Bool := false
  prunes : Bool := false
  /-- Whether something is done with what is found. -/
  acts : Bool := false
  /-- How many commands wait for all entries. -/
  commands : Nat := 0
  form : Regex.Form := { extended := false }
  lisp : Bool := true
  deriving Inhabited

/-- A regular expression in the form in which plus and question mark are operators and braces are
not, in the basic form. -/
def basicFromEditor : Nat → List Char → List Char
  | 0, _ => []
  | _, [] => []
  | fuel + 1, '[' :: rest =>
    let (front, rest) := match rest with
      | '^' :: ']' :: r => (['^', ']'], r)
      | '^' :: r => (['^'], r)
      | ']' :: r => ([']'], r)
      | r => ([], r)
    let inner := rest.takeWhile (· != ']')
    '[' :: front ++ inner ++ ((rest.drop inner.length).take 1) ++
      basicFromEditor fuel (rest.drop (inner.length + 1))
  | fuel + 1, '\\' :: c :: rest =>
    (if c == '+' || c == '?' then ['[', c, ']'] else if c == '\x7b' ||
      c == '\x7d' then [c] else ['\\', c]) ++ basicFromEditor fuel rest
  | fuel + 1, c :: rest =>
    (if c == '+' || c == '?' then ['\\', c] else [c]) ++ basicFromEditor fuel rest

/-- The criterion of several terms, with the rest. The rank is that of the operator in front; the
name is that of the term in front. -/
def readTerms (name : String) : Nat → Nat → String → Bool → List Term →
    Except String (Criterion × List Term)
  | 0, _, _, _, _ => .error "invalid expression"
  | fuel + 1, rank, front, joined, terms => do
    let (first, rest) ← match terms with
      | [] =>
        .error (if front == "(" then
          "invalid expression; expected to find a ')' but didn't see one. " ++
          "Perhaps you need an extra predicate after '('" else "expected an expression after '" ++
            front ++ "'")
      | .one c :: rest => .ok (c, rest)
      | .joint w _ :: _ =>
        .error ("invalid expression; you have used a binary operator '" ++ w ++
          "' with nothing before it.")
      | .negation w :: rest => do
        let (c, rest) ← readTerms name fuel 4 w true rest
        .ok (.not c, rest)
      | .opening :: rest =>
        match rest with
        | .closing :: _ => .error "invalid expression; empty parentheses are not allowed."
        | _ => do
          let (c, rest) ← readTerms name fuel 0 "(" false rest
          match rest with
          | .closing :: rest => .ok (c, rest)
          | _ =>
            .error "invalid expression; I was expecting to find a ')' somewhere but did not see one."
      | .closing :: _ =>
        .error (if joined then "expected an expression between '" ++ front ++ "' and ')'"
          else "invalid expression; you have too many ')'")
    joinTerms name fuel rank first rest
where
  /-- Joins a criterion with what follows, as far as that binds closer than what is in front. -/
  joinTerms (name : String) : Nat → Nat → Criterion → List Term →
    Except String (Criterion × List Term)
    | 0, _, c, rest => .ok (c, rest)
    | fuel + 1, rank, c, rest =>
      match rest with
      | [] => .ok (c, [])
      | .closing :: _ => .ok (c, rest)
      | .joint w r :: more =>
        if r ≤ rank then .ok (c, rest)
        else do
          let (d, more) ← readTerms name fuel r w true more
          let joined :=
            if r == 3 then Criterion.both c d else if r == 2 then .either c d else .sequence c d
          joinTerms name fuel rank joined more
      | _ =>
        if 3 ≤ rank then .ok (c, rest)
        else do
          let (d, more) ← readTerms name fuel 3 "-a" true rest
          joinTerms name fuel rank (.both c d) more

/-- Whether an argument belongs to the expression, and not to the paths. -/
def isTerm (first : Bool) (a : String) : Bool :=
  match a.toList with
  | '-' :: _ :: _ => true
  | [')'] | [','] => !first
  | ['('] | ['!'] => true
  | _ => false

def readSize (text : String) : Except String (Amount × Nat) :=
  if text.isEmpty then .error "invalid null argument to -size"
  else
    let cs := text.toList
    let last := cs.getLastD 'b'
    let unit : Option Nat :=
      if last.isDigit then some 512
      else match last with
        | 'b' => some 512
        | 'c' => some 1
        | 'w' => some 2
        | 'k' => some 1024
        | 'M' => some 1048576
        | 'G' => some 1073741824
        | _ => none
    match unit with
    | none => .error ("invalid -size type \x60" ++ String.singleton last ++ "'")
    | some u =>
      match Amount.read? (String.ofList (if last.isDigit then cs else cs.dropLast)) with
      | some a => .ok (a, u)
      | none => .error ("Invalid argument \x60" ++ text ++ "' to -size")

def readKinds (option text : String) : Except String (List Char) :=
  let rec go : List Char → List Char → Except String (List Char)
    | [], acc => .ok acc
    | c :: rest, acc =>
      if !("bcdpflsD".toList.contains c) then
        .error ("Unknown argument to " ++ option ++ ": " ++ String.singleton c)
      else if acc.contains c then
        .error ("Duplicate file type '" ++ String.singleton c ++ "' in the argument list to " ++
          option ++ ".")
      else match rest with
        | [] => .ok (c :: acc)
        | [','] => .error ("Last file type in list argument to " ++ option ++
            " is missing, i.e., list is ending on: ','")
        | ',' :: rest => go rest (c :: acc)
        | _ => .error ("Must separate multiple arguments to " ++ option ++ " using: ','")
  if text.isEmpty then .error ("Arguments to " ++ option ++ " should contain at least one letter")
  else go text.toList []

/-- Users and groups that are known besides the first. -/
def otherUsers : List String :=
  ["daemon", "bin", "sys", "sync", "games", "man", "lp", "mail", "news", "uucp", "proxy",
   "www-data", "backup", "list", "irc", "_apt", "nobody", "nogroup", "adm", "tty", "disk", "users",
   "staff", "shadow", "sudo", "utmp"]

/-- Whether a word has the mark in it that stands for the path of what is found. -/
def hasBraces (w : String) : Bool := (indexOf? "\x7b\x7d".toList w.toList).isSome

/-- The words of a command among the arguments, whether it is run for all entries together, and the
rest. -/
def readCommand (gathers : Bool) : List String → List String →
    Option (List String × Bool × List String)
  | _, [] => none
  | acc, a :: rest =>
    if a == ";" then some (acc.reverse, false, rest)
    else if gathers && a == "+" && (acc.head?.map hasBraces).getD false then
      some (acc.reverse, true, rest)
    else readCommand gathers (a :: acc) rest

/-- The names of the forms of regular expressions, with whether operators stand unescaped. -/
def expressionForms : List (String × Bool) :=
  [("findutils-default", false), ("ed", false), ("emacs", false), ("gnu-awk", true),
   ("grep", false), ("posix-awk", true), ("awk", true), ("posix-basic", false),
   ("posix-egrep", true), ("egrep", true), ("posix-extended", true), ("posix-minimal-basic", false),
   ("sed", false)]

def namePattern (text : String) : Regex :=
  regexOfPattern { caret := true } (text.toList.map fun c => (c, false))

/-- Reads one predicate with its arguments. The rest of the arguments is given back. -/
def readPredicate (name : String) (r : Request) (a : String) (rest : List String) :
    Action (Request × List String) := do
  let stop {α : Type} (text : String) : Action α := die 1 (name ++ ": " ++ text)
  let argument : Action (String × List String) := match rest with
    | v :: rest => return (v, rest)
    | [] => stop ("missing argument to \x60" ++ a ++ "'")
  let wrong {α : Type} (v : String) : Action α :=
    stop ("invalid argument \x60" ++ v ++ "' to \x60" ++ a ++ "'")
  let test (c : Criterion) (rest : List String) : Action (Request × List String) :=
    return ({ r with terms := r.terms.push (.one c) }, rest)
  let act (c : Criterion) (rest : List String) : Action (Request × List String) :=
    return ({ r with terms := r.terms.push (.one c), acts := true }, rest)
  let amount : Action (Amount × List String) := do
    let (v, rest) ← argument
    match Amount.read? v with
    | some n => return (n, rest)
    | none => wrong v
  let file : Action (String × List String) := do
    let (f, rest) ← argument
    match ← writeFile f .write "" with
    | some fault => stop (Utility.quoted f ++ ": " ++ faultText fault)
    | none => return (f, rest)
  let pieces (text : String) : Action (List Piece) := do
    if breaksOff text.toList then stop "error: % at end of format string"
    let (ps, warnings) := readPieces (text.length + 1) text.toList
    for w in warnings do complain (name ++ ": warning: " ++ w)
    return ps
  let depth : Action (Nat × List String) := do
    let (v, rest) ← argument
    if isDigits v then return (decimalOf v, rest)
    else stop ("Expected a positive decimal integer argument to " ++ a ++ ", but got " ++
      Utility.quoted v)
  match a with
  | "(" => return ({ r with terms := r.terms.push .opening }, rest)
  | ")" => return ({ r with terms := r.terms.push .closing }, rest)
  | "!" | "-not" => return ({ r with terms := r.terms.push (.negation a) }, rest)
  | "-a" | "-and" => return ({ r with terms := r.terms.push (.joint a 3) }, rest)
  | "-o" | "-or" => return ({ r with terms := r.terms.push (.joint a 2) }, rest)
  | "," => return ({ r with terms := r.terms.push (.joint a 1) }, rest)
  | "-true" | "-noleaf" | "-xdev" | "-mount" | "-follow" | "-daystart" | "-warn" | "-nowarn"
  | "-ignore_readdir_race" | "-noignore_readdir_race" => test (.always true) rest
  | "-false" | "-nouser" | "-nogroup" => test (.always false) rest
  | "-name" | "-iname" => do
    let (v, rest) ← argument
    test (.name (namePattern v) (a == "-iname")) rest
  | "-path" | "-wholename" | "-ipath" | "-iwholename" => do
    let (v, rest) ← argument
    test (.path (namePattern v) (a.startsWith "-i")) rest
  | "-lname" | "-ilname" | "-context" | "-fstype" => do
    let (_, rest) ← argument
    test (.always false) rest
  | "-regextype" => do
    let (v, rest) ← argument
    match expressionForms.lookup v with
    | some extended =>
      return ({ r with form := { extended := extended }, lisp := v == "emacs" ||
        v == "findutils-default",
                       terms := r.terms.push (.one (.always true)) }, rest)
    | none =>
      stop ("Unknown regular expression type " ++ Utility.quoted v ++ "; valid types are " ++
        ", ".intercalate (expressionForms.map fun f => Utility.quoted f.1) ++ ".")
  | "-regex" | "-iregex" => do
    let (v, rest) ← argument
    let text := if r.lisp then String.ofList (basicFromEditor (v.length + 1) v.toList) else v
    match Regex.read r.form text with
    | .ok x => test (.path x (a == "-iregex")) rest
    | .error f =>
      stop ("failed to compile regular expression " ++ Utility.quoted v ++ ": " ++ f.message)
  | "-type" | "-xtype" => do
    let (v, rest) ← argument
    match readKinds a v with
    | .ok letters => test (.kind letters) rest
    | .error text => stop text
  | "-empty" => test .empty rest
  | "-size" => do
    let (v, rest) ← argument
    match readSize v with
    | .ok (n, unit) => test (.size n unit) rest
    | .error text => stop text
  | "-perm" => do
    let (v, rest) ← argument
    let (how, text) := match v.toList with
      | '-' :: _ => (Permitted.atLeast, dropFront 1 v)
      | '/' :: _ => (.some, dropFront 1 v)
      | _ => (.exactly, v)
    match applyMode 0 text with
    | some m => test (.permissions how m) rest
    | none => stop ("invalid mode " ++ Utility.quoted v)
  | "-readable" => test (.access 'r') rest
  | "-writable" => test (.access 'w') rest
  | "-executable" => test (.access 'x') rest
  | "-newer" | "-anewer" | "-cnewer" | "-samefile" | "-neweraa" | "-newermm" | "-newercm"
  | "-newermc" => do
    let (v, rest) ← argument
    if !(← fileExists v) then stop (Utility.quoted v ++ ": No such file or directory")
    test (if a == "-samefile" then .sameAs v else .newerThan v) rest
  | "-newermt" | "-newerct" | "-newerat" => do
    let (_, rest) ← argument
    test (.always true) rest
  | "-links" => do
    let (n, rest) ← amount
    test (.links n) rest
  | "-inum" | "-used" => do
    let (_, rest) ← amount
    test (.always false) rest
  | "-uid" | "-gid" => do
    let (n, rest) ← amount
    test (.always (n.admits 0)) rest
  | "-mtime" | "-atime" | "-ctime" => do
    let (n, rest) ← amount
    test (.age n false) rest
  | "-mmin" | "-amin" | "-cmin" => do
    let (n, rest) ← amount
    test (.age n true) rest
  | "-user" | "-group" => do
    let (v, rest) ← argument
    if v == "root" then test (.always true) rest
    else if otherUsers.contains v then test (.always false) rest
    else if isDigits v then test (.always (decimalOf v == 0)) rest
    else stop (Utility.quoted v ++
      (if a == "-user" then " is not the name of a known user" else
        " is not the name of an existing group"))
  | "-maxdepth" => do
    let (n, rest) ← depth
    return ({ r with bounds := { r.bounds with most := some n }, terms := r.terms.push (.one
      (.always true)) }, rest)
  | "-mindepth" => do
    let (n, rest) ← depth
    return ({ r with bounds := { r.bounds with least := n }, terms := r.terms.push (.one
      (.always true)) }, rest)
  | "-depth" | "-d" =>
    return ({ r with bounds := { r.bounds with deep := true }, deepAsked := true,
                     terms := r.terms.push (.one (.always true)) }, rest)
  | "-print" => act (.print none "\n") rest
  | "-print0" => act (.print none "\x00") rest
  | "-fprint" | "-fprint0" => do
    let (f, rest) ← file
    act (.print (some f) (if a == "-fprint" then "\n" else "\x00")) rest
  | "-printf" => do
    let (v, rest) ← argument
    act (.format none (← pieces v)) rest
  | "-fprintf" => do
    let (f, rest) ← file
    match rest with
    | v :: rest => act (.format (some f) (← pieces v)) rest
    | [] => stop ("missing argument to \x60" ++ a ++ "'")
  | "-ls" => act .detail rest
  | "-delete" =>
    return ({ r with terms := r.terms.push (.one .delete), acts := true, deletes := true,
                     bounds := { r.bounds with deep := true } }, rest)
  | "-prune" => return ({ r with terms := r.terms.push (.one .prune), prunes := true }, rest)
  | "-quit" => test .quit rest
  | "-exec" | "-execdir" | "-ok" | "-okdir" => do
    let within := a.endsWith "dir"
    match readCommand (a.startsWith "-exec") [] rest with
    | none => stop ("missing argument to \x60" ++ a ++ "'" )
    | some (words, all, rest) =>
      if words.isEmpty then wrong ";"
      if all then
        let fixed := words.dropLast
        if fixed.any hasBraces then
          stop ("Only one instance of \x7b\x7d is supported with " ++ a ++ " ... +")
        let mark := words.getLastD ""
        if mark != "\x7b\x7d" then
          stop ("In '" ++ a ++
            " ... \x7b\x7d +' the '\x7b\x7d' must appear by itself, but you specified '" ++
            mark ++ "'")
        let n := r.commands
        return ({ r with terms := r.terms.push (.one (.together n fixed within)), acts := true,
                         commands := n + 1 }, rest)
      else act (.each words within (a.startsWith "-ok")) rest
  | _ =>
    if a.startsWith "-newer" then stop ("invalid predicate \x60" ++ a ++ "'")
    else stop ("unknown predicate \x60" ++ a ++ "'")

def findUtility : Utility := fun e name args => do
  if args.contains "--version" || args.contains "-version" then
    printLine (name ++ " (GNU findutils) 4.9.0")
    exit 0
  -- Options that say how links are followed, of which there are none here.
  let mut rest := args
  for _ in [0:args.length] do
    match rest with
    | [] => break
    | a :: more =>
      if a == "-H" || a == "-L" || a == "-P" || a.startsWith "-O" then rest := more
      else if a == "-D" then rest := more.drop 1
      else
        if a == "--" then rest := more
        break
  let paths := rest.takeWhile fun a => !isTerm true a
  rest := rest.drop paths.length
  let mut request : Request := {}
  let mut last : String := ""
  for _ in [0:args.length] do
    match rest with
    | [] => break
    | a :: more =>
      if !isTerm false a then
        complain (name ++ ": paths must precede expression: \x60" ++ a ++ "'")
        if (← fileExists a) && !last.isEmpty then
          complain (name ++ ": possible unquoted pattern after predicate \x60" ++ last ++ "'?")
        exit 1
      let (q, others) ← readPredicate name request a more
      request := q
      rest := others
      last := a
  if request.deletes && request.prunes && !request.deepAsked then
    die 1 (name ++ ": The -delete action automatically turns on -depth, but -prune does nothing when -depth is " ++
      "in effect.  If you want to carry on anyway, just explicitly use the -depth option.")
  let shownAll : Criterion := .print none "\n"
  let criterion ← if request.terms.isEmpty then pure shownAll
    else match readTerms name (4 * request.terms.size + 8) 0 "(" false request.terms.toList with
      | .ok (c, []) => pure (if request.acts then c else .both c shownAll)
      | .ok _ => die 1 (name ++ ": you have too many ')'")
      | .error text => die 1 (name ++ ": " ++ text)
  let mut q : Quest := {}
  for p in if paths.isEmpty then ["."] else paths do
    if !q.halted then
      match ← entryAt p with
      | .error f =>
        complain (name ++ ": " ++ Utility.quoted p ++ ": " ++ faultText f)
        q := { q with status := 1 }
      | .ok (_, entry) =>
        q ← explore e name request.bounds criterion 256
          { path := p, start := p, depth := 0, entry := entry } q
  q ← runWaiting e name (fun _ => true) q
  return q.status

end Utility

end StudyFlow.Shell
