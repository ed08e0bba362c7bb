import StudyFlow.Shell.Octets

/-!
Regular expressions. An expression is matched by following all places that it may lead to from a
place; of several ways to the same place the one is kept whose earlier parts are longer. Two written
forms are read: the basic one, in which operators are escaped, and the extended one.
-/

namespace StudyFlow.Shell

/-- A regular expression. -/
inductive Regex where
  | empty
  | one (c : Char)
  | any
  | set (negated : Bool) (ranges : List (Char × Char))
  | seq (first second : Regex)
  | alt (first second : Regex)
  | repeated (body : Regex) (least : Nat) (most : Option Nat)
  | group (n : Nat) (body : Regex)
  /-- The text of a group once more. -/
  | back (n : Nat)
  | lineStart
  | lineEnd
  | wordStart
  | wordEnd
  | wordEdge
  | noWordEdge
  /-- Any text but what the expression matches. -/
  | without (body : Regex)
  deriving Inhabited

namespace Regex

def classRanges? : String → Option (List (Char × Char))
  | "alpha" => some [('a', 'z'), ('A', 'Z')]
  | "digit" => some [('0', '9')]
  | "alnum" => some [('a', 'z'), ('A', 'Z'), ('0', '9')]
  | "upper" => some [('A', 'Z')]
  | "lower" => some [('a', 'z')]
  | "space" => some [('\t', '\r'), (' ', ' ')]
  | "blank" => some [(' ', ' '), ('\t', '\t')]
  | "punct" => some [('!', '/'), (':', '@'), ('[', '\x60'), ('{', '~')]
  | "print" => some [(' ', '~')]
  | "graph" => some [('!', '~')]
  | "cntrl" => some [('\x00', '\x1f'), ('\x7f', '\x7f')]
  | "xdigit" => some [('0', '9'), ('a', 'f'), ('A', 'F')]
  | _ => none

def inRanges (ranges : List (Char × Char)) (c : Char) : Bool :=
  ranges.any fun r => r.1 ≤ c && c ≤ r.2

def wordRanges : List (Char × Char) := [('a', 'z'), ('A', 'Z'), ('0', '9'), ('_', '_')]

/-- A character and whether it stands for itself. -/
abbrev Marked := Char × Bool

/-- Why a text is no expression. -/
inductive Flaw where
  | bracket
  | parenthesis
  | brace
  | braceContent
  | repetition
  | reference
  | rangeEnd
  | className
  | backslash
  | closing
  deriving DecidableEq, Inhabited

/-- Reads the rest of a choice of characters, whose bracket has been read. -/
def readSet : Nat → Bool → List (Char × Char) → List Marked →
    Except Flaw (List (Char × Char) × List Marked)
  | 0, _, _, _ => .error .bracket
  | _, _, _, [] => .error .bracket
  | fuel + 1, first, acc, (c, quoted) :: rest =>
    if c == ']' && !quoted && !first then .ok (acc, rest)
    else if c == '[' && !quoted && rest.head? == some (':', false) then
      let name := (rest.drop 1).takeWhile fun m => m.1 != ':'
      let after := rest.drop (name.length + 1)
      match after with
      | (':', _) :: (']', _) :: after =>
        match classRanges? (String.ofList (name.map Prod.fst)) with
        | some ranges => readSet fuel false (acc ++ ranges) after
        | none => .error .className
      | _ => readSet fuel false (('[', '[') :: acc) rest
    else
      let (c, rest) := match c, quoted, rest with
        | '[', false, ('.', false) :: x :: ('.', false) :: (']', false) :: rest => (x.1, rest)
        | '[', false, ('=', false) :: x :: ('=', false) :: (']', false) :: rest => (x.1, rest)
        | _, _, _ => (c, rest)
      match rest with
      | ('-', false) :: (d, q) :: after =>
        if d == ']' && !q then readSet fuel false ((c, c) :: acc) rest
        else
          let (d, after) := match d, q, after with
            | '[', false, ('.', false) :: x :: ('.', false) :: (']', false) :: after => (x.1, after)
            | _, _, _ => (d, after)
          if d < c then .error .rangeEnd else readSet fuel false ((c, d) :: acc) after
      | _ => readSet fuel false ((c, c) :: acc) rest

/-- Where matching stands: a position and what groups have matched. -/
structure State where
  pos : Nat
  groups : List (Nat × Nat × Nat) := []
  deriving Inhabited

/-- What is matched against. -/
structure Subject where
  text : Array Char
  /-- Whether the case of letters does not matter. -/
  folded : Bool := false
  /-- Whether the ends of inner lines count. -/
  multiline : Bool := false
  /-- Whether the text goes on in front, so that no line starts at its first character. -/
  continued : Bool := false
  deriving Inhabited

/-- Whether a word character is at a position. -/
def Subject.wordAt (s : Subject) (i : Nat) : Bool :=
  match s.text[i]? with
  | some c => inRanges wordRanges c
  | none => false

/-- Whether a word character is before a position. -/
def Subject.wordBefore (s : Subject) (i : Nat) : Bool := i != 0 && s.wordAt (i - 1)

def Subject.same (s : Subject) (a b : Char) : Bool :=
  a == b || (s.folded && a.toLower == b.toLower)

def Subject.inSet (s : Subject) (ranges : List (Char × Char)) (c : Char) : Bool :=
  inRanges ranges c || (s.folded && (inRanges ranges c.toLower || inRanges ranges c.toUpper))

/-- The first state for each position, if positions are all that matters. -/
def distinct (all : Bool) (states : List State) : List State :=
  if all then states
  else
    (states.foldl (fun (acc : Nat × List State) s =>
      if acc.1.testBit s.pos then acc else (acc.1 ||| (1 <<< s.pos), s :: acc.2)) (0, [])).2.reverse

/-- Places that are reached by any number of steps, at most so many. The deeper way is followed
first. -/
def closure (step : State → List State) : Nat → Nat → List State → List State → List State
  | 0, _, _, acc => acc.reverse
  | _, _, [], acc => acc.reverse
  | fuel + 1, seen, s :: pending, acc =>
    if seen.testBit s.pos then closure step fuel seen pending acc
    else closure step fuel (seen ||| (1 <<< s.pos)) (step s ++ pending) (s :: acc)

/-- Places that are reached by so many steps. -/
def powers (all : Bool) (step : State → List State) : Nat → List State → List State
  | 0, states => states
  | n + 1, states => powers all step n (distinct all (states.flatMap step))

/-- Places that are reached by at most so many steps, those of more steps first. -/
def upTo (all : Bool) (step : State → List State) : Nat → List State → List State
  | 0, states => states
  | n + 1, states =>
    let next := distinct all (states.flatMap step)
    if next.isEmpty then states else distinct all (upTo all step n next ++ states)

/-- Orders places by how far they are. -/
def farthestFirst (states : List State) : List State :=
  states.mergeSort fun a b => b.pos ≤ a.pos

/-- The places that an expression leads to from a place. The flag asks for all ways to a place. -/
def states (s : Subject) (all : Bool) : Regex → State → List State
  | .empty, st => [st]
  | .one c, st => match s.text[st.pos]? with
    | some d => if s.same c d then [{ st with pos := st.pos + 1 }] else []
    | none => []
  | .any, st => if st.pos < s.text.size then [{ st with pos := st.pos + 1 }] else []
  | .set negated ranges, st => match s.text[st.pos]? with
    | some d =>
      if s.inSet ranges d != negated then [{ st with pos := st.pos + 1 }] else []
    | none => []
  | .seq a b, st =>
    distinct all ((farthestFirst (states s all a st)).flatMap fun m => states s all b m)
  | .alt a b, st => distinct all (states s all a st ++ states s all b st)
  | .repeated body least most, st =>
    let step := fun m => farthestFirst (states s all body m)
    let start := powers all step least [st]
    let n := s.text.size + 2
    match most with
    | some m => upTo all step (m - least) start
    | none =>
      if all then
        let onward := fun m => (step m).filter fun t => m.pos < t.pos
        upTo all onward n start
      else closure step (n * n + n) 0 start []
  | .group n body, st =>
    (states s all body st).map fun m =>
      { m with groups := (n, st.pos, m.pos) :: m.groups.filter fun g => g.1 != n }
  | .back n, st => match st.groups.lookup n with
    | some (i, j) =>
      let len := j - i
      let ok := st.pos + len ≤ s.text.size && (List.range len).all fun k =>
        match s.text[i + k]?, s.text[st.pos + k]? with
        | some a, some b => s.same a b
        | _, _ => false
      if ok then [{ st with pos := st.pos + len }] else []
    | none => []
  | .lineStart, st =>
    if (st.pos == 0 && !s.continued) ||
      (s.multiline && st.pos != 0 && s.text[st.pos - 1]? == some '\n')
    then [st] else []
  | .lineEnd, st =>
    if st.pos == s.text.size || (s.multiline && s.text[st.pos]? == some '\n') then [st] else []
  | .wordStart, st => if s.wordAt st.pos && !s.wordBefore st.pos then [st] else []
  | .wordEnd, st => if s.wordBefore st.pos && !s.wordAt st.pos then [st] else []
  | .wordEdge, st => if s.wordBefore st.pos != s.wordAt st.pos then [st] else []
  | .noWordEdge, st => if s.wordBefore st.pos == s.wordAt st.pos then [st] else []
  | .without body, st =>
    let taken := (states s false body st).map State.pos
    ((List.range (s.text.size + 1 - st.pos)).reverse.map (st.pos + ·)).filterMap fun p =>
      if taken.contains p then none else some { st with pos := p }

/-- Whether the expression refers to the text of a group. -/
def hasBack : Regex → Bool
  | .back _ => true
  | .seq a b | .alt a b => a.hasBack || b.hasBack
  | .repeated a _ _ | .group _ a | .without a => a.hasBack
  | _ => false

def groupCount : Regex → Nat
  | .seq a b | .alt a b => max a.groupCount b.groupCount
  | .repeated a _ _ | .without a => a.groupCount
  | .group n a => max n a.groupCount
  | _ => 0

/-- The farthest place that the expression leads to from a position. -/
def matchAt? (r : Regex) (s : Subject) (i : Nat) : Option State :=
  (farthestFirst (states s r.hasBack r { pos := i })).head?

/-- The places that the expression leads to from a position. -/
def endsAt (r : Regex) (s : Subject) (i : Nat) : List Nat :=
  (states s r.hasBack r { pos := i }).map State.pos

/-- The first match from a position on: where it starts, and where matching stands after it. -/
def search? (r : Regex) (s : Subject) (i : Nat) : Option (Nat × State) := Id.run do
  for k in [i:s.text.size + 1] do
    match r.matchAt? s k with
    | some st => return some (k, st)
    | none => pure ()
  return none

/-- The first matches that do not overlap, from the left: start, end and groups. -/
def searchAll (r : Regex) (s : Subject) : List (Nat × State) := Id.run do
  let mut found := #[]
  let mut i := 0
  let mut last : Option Nat := none
  for _ in [0:s.text.size + 2] do
    if i > s.text.size then break
    match r.search? s i with
    | some (k, st) =>
      if st.pos == k then
        if last != some k then found := found.push (k, st)
        i := k + 1
      else
        found := found.push (k, st)
        i := st.pos
        last := some st.pos
    | none => break
  return found.toList

structure Form where
  /-- Whether operators are not escaped. -/
  extended : Bool
  /-- Whether the letters of the widest form mean classes. -/
  wide : Bool := false
  /-- Whether braces repeat. -/
  braces : Bool := true
  deriving Inhabited

/-- How many repetitions braces ask for, and what follows. -/
def readCount (form : Form) (cs : List Char) : Except Flaw ((Nat × Option Nat) × List Char) :=
  let low := cs.takeWhile Char.isDigit
  let rest := cs.drop low.length
  let close (most : Option Nat) (cs : List Char) : Except Flaw ((Nat × Option Nat) × List Char) :=
    let least := decimalOf (String.ofList low)
    match form.extended, cs with
    | true, '}' :: cs =>
      if (most.getD least) < least then .error .braceContent else .ok ((least, most), cs)
    | false, '\\' :: '}' :: cs =>
      if (most.getD least) < least then .error .braceContent else .ok ((least, most), cs)
    | _, [] => .error .brace
    | _, _ => .error .braceContent
  match rest with
  | ',' :: rest =>
    let high := rest.takeWhile Char.isDigit
    close (if high.isEmpty then none else some (decimalOf (String.ofList high)))
      (rest.drop high.length)
  | rest =>
    if low.isEmpty then .error .braceContent else close (some (decimalOf (String.ofList low))) rest

/-- A step of reading an expression: what was read, the rest, and how many groups were opened. -/
abbrev Step := Except Flaw (Regex × List Char × Nat)

/-- Applies the repetitions that follow an expression. -/
def readRepeats (form : Form) : Nat → Regex → List Char → Except Flaw (Regex × List Char)
  | 0, r, cs => .ok (r, cs)
  | fuel + 1, r, cs =>
    let count (cs : List Char) : Except Flaw (Regex × List Char) := do
      let ((least, most), cs) ← readCount form cs
      readRepeats form fuel (.repeated r least most) cs
    match form.extended, cs with
    | _, '*' :: cs => readRepeats form fuel (.repeated r 0 none) cs
    | true, '+' :: cs => readRepeats form fuel (.repeated r 1 none) cs
    | true, '?' :: cs => readRepeats form fuel (.repeated r 0 (some 1)) cs
    | true, '{' :: rest => if form.braces then
        match count rest with
        | .ok x => .ok x
        | .error f => if (rest.head?.map Char.isDigit) == some true then .error f else .ok (r, cs)
      else .ok (r, cs)
    | false, '\\' :: '+' :: cs => readRepeats form fuel (.repeated r 1 none) cs
    | false, '\\' :: '?' :: cs => readRepeats form fuel (.repeated r 0 (some 1)) cs
    | false, '\\' :: '{' :: cs => count cs
    | _, cs => .ok (r, cs)

/-- What an escaped character stands for in both forms. -/
def escaped? (form : Form) (c : Char) : Option Regex :=
  match c with
  | 'w' => some (.set false wordRanges)
  | 'W' => some (.set true wordRanges)
  | 's' => some (.set false [('\t', '\r'), (' ', ' ')])
  | 'S' => some (.set true [('\t', '\r'), (' ', ' ')])
  | 'b' => some .wordEdge
  | 'B' => some .noWordEdge
  | '<' => some .wordStart
  | '>' => some .wordEnd
  | '\x60' => some .lineStart
  | '\'' => some .lineEnd
  | 'd' => if form.wide then some (.set false [('0', '9')]) else none
  | 'D' => if form.wide then some (.set true [('0', '9')]) else none
  | 't' => if form.wide then some (.one '\t') else none
  | 'n' => if form.wide then some (.one '\n') else none
  | _ => none

/-- Whether an expression is over here, because of an alternative or a closing parenthesis. -/
def atBreak (form : Form) (depth : Nat) (cs : List Char) : Bool :=
  match form.extended, cs with
  | _, [] => true
  | true, '|' :: _ => true
  | true, ')' :: _ => depth != 0
  | false, '\\' :: '|' :: _ => true
  | false, '\\' :: ')' :: _ => true
  | _, _ => false

mutual

def readAlternatives (form : Form) : Nat → Nat → List Char → Nat → Step
  | 0, _, _, _ => .error .parenthesis
  | fuel + 1, depth, cs, n => do
    let (r, cs, n) ← readSequence form fuel depth true cs n .empty
    match form.extended, cs with
    | true, '|' :: cs => do
      let (q, cs, n) ← readAlternatives form fuel depth cs n
      .ok (.alt r q, cs, n)
    | false, '\\' :: '|' :: cs => do
      let (q, cs, n) ← readAlternatives form fuel depth cs n
      .ok (.alt r q, cs, n)
    | _, cs => .ok (r, cs, n)

/-- Reads expressions that follow each other. -/
def readSequence (form : Form) : Nat → Nat → Bool → List Char → Nat → Regex → Step
  | 0, _, _, _, _, _ => .error .parenthesis
  | fuel + 1, depth, first, cs, n, acc =>
    if atBreak form depth cs then .ok (acc, cs, n)
    else do
      let (r, cs, n, anchor) ← readAtom form fuel depth first cs n
      let (r, cs) ← if anchor then .ok (r, cs) else readRepeats form (cs.length + 1) r cs
      let acc := match acc with
        | .empty => r
        | acc => .seq acc r
      readSequence form fuel depth (anchor && first) cs n acc

/-- Reads one expression. The last value says whether it is the anchor of a line. -/
def readAtom (form : Form) : Nat → Nat → Bool → List Char → Nat →
    Except Flaw (Regex × List Char × Nat × Bool)
  | 0, _, _, _, _ => .error .parenthesis
  | _, _, _, [], n => .ok (.empty, [], n, false)
  | fuel + 1, depth, first, c :: cs, n =>
    let one (c : Char) (cs : List Char) : Except Flaw (Regex × List Char × Nat × Bool) :=
      .ok (.one c, cs, n, false)
    let group (cs : List Char) : Except Flaw (Regex × List Char × Nat × Bool) := do
      let (r, cs, m) ← readAlternatives form fuel (depth + 1) cs (n + 1)
      match form.extended, cs with
      | true, ')' :: cs => .ok (.group (n + 1) r, cs, m, false)
      | false, '\\' :: ')' :: cs => .ok (.group (n + 1) r, cs, m, false)
      | _, _ => .error .parenthesis
    match c with
    | '.' => .ok (.any, cs, n, false)
    | '[' =>
      let (negated, cs) := match cs with
        | '^' :: cs => (true, cs)
        | cs => (false, cs)
      match readSet (cs.length + 1) true [] (cs.map fun c => (c, false)) with
      | .ok (ranges, rest) => .ok (.set negated ranges, rest.map Prod.fst, n, false)
      | .error f => .error f
    | '^' =>
      if form.extended || first then .ok (.lineStart, cs, n, true) else one '^' cs
    | '$' =>
      if form.extended || atBreak form depth cs then
        .ok (.lineEnd, cs, n, form.extended)
      else one '$' cs
    | '*' => if form.extended && !first then .error .repetition else one '*' cs
    | '(' =>
      if form.extended then
        match form.wide, cs with
        | true, '?' :: ':' :: cs => do
          let (r, cs, m) ← readAlternatives form fuel (depth + 1) cs n
          match cs with
          | ')' :: cs => .ok (r, cs, m, false)
          | _ => .error .parenthesis
        | _, cs => group cs
      else one '(' cs
    | '+' => if form.extended && first then one '+' cs else one '+' cs
    | '\\' => match cs with
      | [] => .error .backslash
      | d :: cs =>
        if d == '(' && !form.extended then group cs
        else if d.isDigit && d != '0' then
          if d.toNat - 48 ≤ n then .ok (.back (d.toNat - 48), cs, n, false) else .error .reference
        else match escaped? form d with
          | some r => .ok (r, cs, n, false)
          | none => one d cs
    | c => one c cs

end

def read (form : Form) (text : String) : Except Flaw Regex := do
  let cs := text.toList
  let (r, rest, _) ← readAlternatives form (3 * cs.length + 4) 0 cs 0
  match rest with
  | [] => .ok r
  | _ => .error .closing

/-- How programs word that a text is no expression. -/
def Flaw.message : Flaw → String
  | .bracket => "Unmatched [, [^, [:, [., or [="
  | .parenthesis => "Unmatched ( or \\("
  | .brace => "Unmatched \\\x7b"
  | .braceContent => "Invalid content of \\\x7b\\\x7d"
  | .repetition => "Invalid preceding regular expression"
  | .reference => "Invalid back reference"
  | .rangeEnd => "Invalid range end"
  | .className => "Invalid character class name"
  | .backslash => "Trailing backslash"
  | .closing => "Unmatched ) or \\)"

end Regex

/-- The text between two positions. -/
def sliceOf (text : Array Char) (i j : Nat) : String := String.ofList (text.extract i j).toList

end StudyFlow.Shell
