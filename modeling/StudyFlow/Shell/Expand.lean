import StudyFlow.Shell.Engine

/-!
Expanding words: parameters, command substitutions and expressions give items; items are split into
words, and words that are patterns become the names of files.
-/

namespace StudyFlow.Shell

namespace Action

def itemsOf (quoted splits : Bool) (s : String) : List Item :=
  if s.isEmpty then
    (if quoted then [.mark] else [])
  else s.toList.map fun c => .char c quoted splits

/-- What separates the arguments when they are joined. -/
def joiner : Action String := do
  match ← valueOf? "IFS" with
  | some s => return takeFront 1 s
  | none => return " "

def flatten (items : List Item) : Action String := do
  let sep ← if ← isBash then pure " " else joiner
  return items.foldl (fun acc i => match i with
    | .char c _ _ => acc.push c
    | .gap => acc ++ sep
    | .mark => acc) ""

def patternOf (items : List Item) : List Regex.Marked :=
  items.filterMap fun i => match i with
    | .char c q _ => some (c, q)
    | .gap => some (' ', true)
    | .mark => none

def patternRules : Action PatternRules := do
  return { alternatives := ← hasFeature "extglob", caret := ← isBash }

def textOf (e : Engine) (w : Word) : Action String := do flatten (← e.items false w)

def regexOf (e : Engine) (w : Word) : Action Regex := do
  return regexOfPattern (← patternRules) (patternOf (← e.items false w))

/-- What a parameter stands for before anything is done with it. -/
structure Operand where
  name : String
  /-- None if it is not set. -/
  values : Option (List String)
  many : Bool := false
  joined : Bool := false

/-- The members of an array or the arguments, unless there are none. -/
def manyOf (name : String) (values : List String) (joined : Bool) : Operand :=
  { name := name, values := if values.isEmpty then none else some values, many := true,
    joined := joined }

def operandNamed (e : Engine) (name : String) (index : Option String) : Action Operand := do
  match name, index with
  | "@", _ => return manyOf name (← process).arguments false
  | "*", _ => return manyOf name (← process).arguments true
  | _, some "@" =>
    return manyOf (name ++ "[@]")
      ((membersOf (← wholeValue (← resolveName name))).map Prod.snd) false
  | _, some "*" =>
    return manyOf (name ++ "[*]")
      ((membersOf (← wholeValue (← resolveName name))).map Prod.snd) true
  | _, some i =>
    return {
      name := name ++ "[" ++ i ++ "]",
      values := (← memberValue? e (← resolveName name) i).map fun v => [v] }
  | _, none => return { name := name, values := (← parameter? name).map fun v => [v] }

/-- An index as a text; none stands for no index. -/
def indexText (e : Engine) : Index → Action (Option String)
  | .none => return none
  | .all joined => return some (if joined then "*" else "@")
  | .at w => return some (← textOf e w)

/-- The name and the index in a text such as a reference holds. -/
def splitReference (text : String) : String × Option String :=
  match indexOf? ['['] text.toList with
  | some i =>
    if text.endsWith "]" then
      (takeFront i text, some (String.ofList ((text.toList.drop (i + 1)).dropLast)))
    else (text, none)
  | none => (text, none)

/-- The parameter that a subject means. -/
def operandOf (e : Engine) : Subject → Action Operand
  | .mk name index indirect => do
    let o ← operandNamed e name (← indexText e index)
    if !indirect then return o
    match ← binding? name with
    | some v =>
      if v.reference then return { o with values := (Value.text? v.value).map fun t => [t] }
    | none => pure ()
    match o.values with
    | some [t] =>
      let (name, index) := splitReference t
      if isName name || isDigits name || name == "@" || name == "*" || name == "#" ||
        name == "?" then
        operandNamed e name index
      else
        warn (t ++ ": invalid variable name")
        throw (.discard 1)
    | _ =>
      warn (o.name ++ ": invalid indirect expansion")
      throw (.discard 1)

/-- What an expansion gives. -/
def emit (quoted splitting : Bool) (o : Operand) (values : List String) : Action (List Item) := do
  if !o.many then
    return values.flatMap fun v => itemsOf quoted true v
  else if quoted && o.joined then return itemsOf true false ((← joiner).intercalate values)
  else if splitting then
    return ((values.map fun v => itemsOf quoted true v).intersperse [.gap]).flatten
  else
    let sep ← if (← isBash) && !o.joined then pure " " else joiner
    return itemsOf quoted true (sep.intercalate values)

/-- A part of a text, from an offset on and of a length; negative ones count from the end. -/
def sliceText (text : String) (offset : Int) (length : Option Int) : Except Int String :=
  let n : Int := text.length
  let start := if offset < 0 then n + offset else offset
  if start < 0 || n < start then .ok ""
  else match length with
    | none => .ok (dropFront start.toNat text)
    | some l =>
      if l < 0 then
        if n + l < start then .error l
        else .ok (takeFront (n + l - start).toNat (dropFront start.toNat text))
      else .ok (takeFront l.toNat (dropFront start.toNat text))

def substituted (r : Regex) (place : Place) (replacement : String → String)
    (text : String) : String :=
  let cs := text.toList.toArray
  let s : Regex.Subject := { text := cs }
  let apply (found : List (Nat × Nat)) : String := Id.run do
    let mut out : String := ""
    let mut pos := 0
    for (i, j) in found do
      out := out ++ sliceOf cs pos i ++ replacement (sliceOf cs i j)
      pos := j
    return out ++ sliceOf cs pos cs.size
  match place with
  | .front => match r.matchAt? s 0 with
    | some st => apply [(0, st.pos)]
    | none => text
  | .back =>
    match (List.range (cs.size + 1)).find? fun i => (r.endsAt s i).contains cs.size with
    | some i => apply [(i, cs.size)]
    | none => text
  | .first => match r.search? s 0 with
    | some (i, st) => if st.pos == i && cs.size != 0 then text else apply [(i, st.pos)]
    | none => text
  | .every =>
    if cs.isEmpty then
      match r.search? s 0 with
      | some (i, st) => apply [(i, st.pos)]
      | none => text
    else apply ((r.searchAll s).filterMap fun m => if m.2.pos == m.1 then none else
      some (m.1, m.2.pos))

/-- The items that stand for what was matched inside a replacement. -/
def replacementOf (items : List Item) (matched : String) : String :=
  let rec go : List Item → String → String
    | [], acc => acc
    | .char '\\' false _ :: .char '&' false _ :: rest, acc => go rest (acc.push '&')
    | .char '&' false _ :: rest, acc => go rest (acc ++ matched)
    | .char c _ _ :: rest, acc => go rest (acc.push c)
    | .gap :: rest, acc => go rest (acc.push ' ')
    | .mark :: rest, acc => go rest acc
  go items ""

def changeCase (upper every : Bool) (matched : Char → Bool) (text : String) : String :=
  let change (c : Char) : Char := if matched c then (if upper then c.toUpper else c.toLower) else c
  if every then text.map change
  else match text.toList with
    | c :: cs => String.ofList (change c :: cs)
    | [] => ""

def attributesOf (v : Variable) : String :=
  (match v.value with
    | .indexed _ => "a"
    | .keyed _ => "A"
    | _ => "") ++
  (if v.integer then "i" else "") ++ (if v.lower then "l" else "") ++
    (if v.reference then "n" else "") ++
  (if v.readonly then "r" else "") ++ (if v.upper then "u" else "") ++
    (if v.exported then "x" else "")

/-- A text with the escapes of control characters replaced. -/
def unescape (text : String) : String :=
  let s : Source := { rest := (text ++ "'").toList, dialect := .bash }
  match Reader.escapedQuoted.run s with
  | .ok (t, _) => t
  | .error _ => text

/-- What an operator of the larger shell makes of a value. -/
def transformed (operator : Char) (name : String) (v : Option Variable) (text : String) : String :=
  match operator with
  | 'Q' | 'K' | 'k' => readableQuote text
  | 'U' => text.map Char.toUpper
  | 'u' => match text.toList with
    | c :: cs => String.ofList (c.toUpper :: cs)
    | [] => ""
  | 'L' => text.map Char.toLower
  | 'E' => unescape text
  | 'a' => (v.map attributesOf).getD ""
  | 'A' =>
    let attributes := (v.map attributesOf).getD ""
    if attributes.isEmpty then name ++ "=" ++ readableQuote text
    else "declare -" ++ attributes ++ " " ++ name ++ "=" ++ readableQuote text
  | _ => text

def expandParameter (e : Engine) (quoted splitting : Bool) (subject : Subject)
    (modifier : Modifier) : Action (List Item) := do
  match modifier with
  | .bad text =>
    if ← isBash then
      warn (text ++ ": bad substitution")
      throw (.discard 1)
    else fail "Bad substitution"
  | .keys =>
    match subject with
    | .mk name (.all joined) _ =>
      let keys := (membersOf (← wholeValue (← resolveName name))).map Prod.fst
      emit quoted splitting (manyOf name keys joined) keys
    | _ => return []
  | .names joined =>
    match subject with
    | .mk name _ _ =>
      let names := ((← process).vars.map Variable.name).filter fun n => n.startsWith name
      let names := names.mergeSort (· ≤ ·)
      emit quoted splitting (manyOf name names joined) names
  | modifier =>
    let o ← operandOf e subject
    let strict := (← hasOption 'u') && !(o.many && true)
    let needed : Action (List String) := do
      match o.values with
      | some vs => return vs
      | none => if strict then refuseUnset o.name else return if o.many then [] else [""]
    let each (f : String → String) : Action (List Item) := do
      emit quoted splitting o ((← needed).map f)
    match modifier with
    | .plain =>
      match o.values with
      | some vs => emit quoted splitting o vs
      | none =>
        if strict then refuseUnset o.name
        else if o.many && !(quoted && o.joined) then return []
        else return itemsOf quoted true ""
    | .length =>
      let vs ← needed
      let n := if o.many then vs.length else (vs.head?.getD "").length
      return itemsOf quoted true n.repr
    | .fallback kind emptyToo word =>
      let sep ← joiner
      let present := match o.values with
        | some vs =>
          !(emptyToo && (sep.intercalate vs).isEmpty && vs.all String.isEmpty && vs.length ≤ 1)
        | none => false
      let loose (items : List Item) : List Item := items.map fun i => match i with
        | .char c false _ => .char c false true
        | i => i
      match kind, present with
      | .alternative, true =>
        let items := loose (← e.items splitting word)
        return if items.isEmpty && quoted then [.mark] else items
      | .alternative, false => return if quoted && !o.many then [.mark] else []
      | _, true => emit quoted splitting o (o.values.getD [])
      | .default, false =>
        let items := loose (← e.items splitting word)
        return if items.isEmpty && quoted then [.mark] else items
      | .assign, false =>
        let text ← textOf e word
        match subject with
        | .mk name index _ =>
          if !isName name then
            if ← isBash then
              warn ("$" ++ name ++ ": cannot assign in this way")
              throw (.discard 1)
            else fail (name ++ ": bad variable name")
          match ← indexText e index with
          | some i => assignMember e name i text
          | none => assign name text
        return itemsOf quoted true text
      | .complain, false =>
        let text ← textOf e word
        let bash ← isBash
        let text := if !word.isEmpty then text
          else if !emptyToo then "parameter not set"
          else if bash then "parameter null or not set"
          else "parameter not set or null"
        warn (o.name ++ ": " ++ text)
        throw (if bash then .exit 1 else .failed 2)
    | .trim front longest pattern =>
      let values ← needed
      let r ← regexOf e pattern
      emit quoted splitting o (values.map (trimMatch r front longest))
    | .slice offset length =>
      let i ← e.value (← textOf e offset)
      let l ← match length with
        | some w => do
          let n ← e.value (← textOf e w)
          pure (some n)
        | none => pure none
      let tooShort {α : Type} (n : Int) : Action α := do
        warn (toString n ++ ": substring expression < 0")
        throw (.discard 1)
      if o.many then
        let isArguments := o.name == "@" || o.name == "*"
        let all : List (Nat × String) ← if isArguments then do
            let p ← process
            let all := p.name :: p.arguments
            pure ((List.range all.length).zip all)
          else match subject with
            | .mk name _ _ => do
              match ← wholeValue (← resolveName name) with
              | .keyed items =>
                let vs := (orderedMembers items).map Prod.snd
                pure ((List.range vs.length).zip vs)
              | v => pure (asIndexed v)
        let size : Int := (all.getLast?.map fun x => (x.1 : Int) + 1).getD 0
        let start := if i < 0 then size + i else i
        let kept := if start < 0 then [] else all.filter fun x => start ≤ (x.1 : Int)
        let kept ← match l with
          | some n => if n < 0 then tooShort n else pure (kept.take n.toNat)
          | none => pure kept
        emit quoted splitting o (kept.map Prod.snd)
      else
        let values ← needed
        match values.mapM fun v => sliceText v i l with
        | .ok vs => emit quoted splitting o vs
        | .error n => tooShort n
    | .substitute place pattern replacement =>
      let values ← needed
      let p ← e.items false pattern
      let items ← e.items false replacement
      if p.isEmpty && place != .front && place != .back then emit quoted splitting o values
      else
        let r := regexOfPattern (← patternRules) (patternOf p)
        emit quoted splitting o (values.map (substituted r place (replacementOf items)))
    | .casing upper every pattern =>
      let values ← needed
      let items ← e.items false pattern
      let r := regexOfPattern (← patternRules) (patternOf items)
      let matched (c : Char) : Bool := items.isEmpty || matchesWhole r false (String.singleton c)
      emit quoted splitting o (values.map (changeCase upper every matched))
    | .transform op =>
      match subject with
      | .mk name _ _ =>
        let v ← binding? name
        if op == 'a' && o.values.isNone && v.isNone then return itemsOf quoted true ""
        match op, o.many, v.map Variable.value with
        | 'A', true, some value =>
          let items := (membersOf value).map fun m => "[" ++ m.1 ++ "]=" ++ declaredQuote m.2
          let text := "declare -" ++ (v.map attributesOf).getD "" ++ " " ++ name ++ "=(" ++
            " ".intercalate items ++ (match value with
              | .keyed _ => " )"
              | _ => ")")
          return itemsOf quoted true text
        | _, _, _ => each (transformed op name v)
    | _ => return []

/-- What was printed, as it is inserted: without line ends at its end. -/
def insertedOutput (text : String) : String :=
  let cs := text.toList.filter fun c => c != '\x00'
  String.ofList (cs.reverse.dropWhile (· == '\n')).reverse

/-- Keeps the status of a command substitution. -/
def noteSubstitution (outcome : Outcome) : Action Unit := do
  let bash ← isBash
  setProcess fun p => { p with substituted := some outcome.status,
                               status := if bash then outcome.status else p.status }

/-- The home directory that a tilde with a name stands for. -/
def homeOf? (name : String) : Action (Option String) := do
  match name with
  | "" => match ← valueOf? "HOME" with
    | some h => return some h
    | none => return some "/root"
  | "root" => return some "/root"
  | "+" => if ← isBash then return some (← process).dir else return none
  | "-" => if ← isBash then valueOf? "OLDPWD" else return none
  | "daemon" => return some "/usr/sbin"
  | "nobody" => return some "/nonexistent"
  | _ => return none

/-- Replaces a tilde at the front of a text. It may only end at a slash, at a colon if asked, or at
the end of the word. -/
def expandTilde (colons last : Bool) (text : String) : Action (Option (String × String)) := do
  match text.toList with
  | '~' :: rest =>
    let name := rest.takeWhile fun c => c != '/' && !(colons && c == ':')
    let after := rest.drop name.length
    if after.isEmpty && !last then return none
    match ← homeOf? (String.ofList name) with
    | some home => return some (home, String.ofList after)
    | none => return none
  | _ => return none

/-- Expands the tildes of a word; in an assignment one may follow each colon. -/
def expandTildes (assignment : Bool) (w : Word) : Action Word := do
  match w with
  | .text false t :: rest =>
    if !assignment then
      match ← expandTilde false rest.isEmpty t with
      | some (home, after) => return .text true home :: .text false after :: rest
      | none => return w
    else
      let pieces := splitAtEach ':' t
      let mut out : Word := []
      let n := pieces.length
      for (piece, k) in pieces.zip (List.range n) do
        let isLast := k + 1 == n
        if k != 0 then out := out ++ [.text false ":"]
        match ← expandTilde true (!isLast || rest.isEmpty) piece with
        | some (home, after) => out := out ++ [.text true home, .text false after]
        | none => out := out ++ [.text false piece]
      return out ++ rest
  | w => return w

def expandPart (e : Engine) (splitting : Bool) : Part → Action (List Item)
  | .text q t => return itemsOf q false t
  | .parameter q subject modifier => expandParameter e q splitting subject modifier
  | .output q body => do
    let (outcome, out) ← outputOf e do
      setProcess fun p => { p with tested := false }
      for c in body do
        e.run c
    noteSubstitution outcome
    return itemsOf q true (insertedOutput out)
  | .script q text => do
    let line := (← process).line
    let trimmed := String.ofList (text.toList.dropWhile isBlankOctet)
    let isFile := trimmed.startsWith "<" && !trimmed.startsWith "<<" && !trimmed.startsWith "<("
    let (outcome, out) ← outputOf e do
      if !(← hasFeature "inherit_errexit") then
        setProcess fun p => { p with options := p.options.filter (· != 'e') }
      setProcess fun p => { p with label := "command substitution", tested := false }
      e.script (if isFile then "cat " ++ text else text) line
    if out.toList.contains '\x00' then
      warn "warning: command substitution: ignored null byte in input"
    noteSubstitution outcome
    return itemsOf q true (insertedOutput out)
  | .arithmetic q w => do
    let n ← e.value (← textOf e w)
    return itemsOf q true (toString n)
  | .conduit writes text => do
    let used := (← process).channels.map Prod.fst
    let number := ((List.range 60).map fun k => 63 - k).find? fun n => !used.contains n
    let number := number.getD 63
    if writes then
      let n ← newStream (.memory ByteArray.empty 0)
      setChannel number (some ⟨n, true, true⟩)
      setProcess fun p => { p with conduits := (n, text) :: p.conduits }
    else
      let line := (← process).line
      let (_, out) ← outputOf e (e.script text line)
      setChannel number (some (← sourceOf out))
    return itemsOf true false ("/dev/fd/" ++ number.repr)
  | .members _ => return []

def expandItems (e : Engine) (splitting : Bool) (w : Word) : Action (List Item) := do
  let w ← expandTildes false w
  let mut out := #[]
  for part in w do
    for i in (← expandPart e splitting part) do
      out := out.push i
  return out.toList

/-- The state of splitting: the words so far, last one first, the word that is being read, and
whether blanks have just ended one. -/
structure Splitting where
  words : List (List Regex.Marked) := []
  current : Option (List Regex.Marked) := none
  blank : Bool := false

/-- Ends the word that is being read. -/
def Splitting.close (s : Splitting) : Splitting :=
  match s.current with
  | some w => { words := w.reverse :: s.words, current := none, blank := s.blank }
  | none => s

def fieldsOf (ifs : String) (items : List Item) : List (List Regex.Marked) :=
  let step (s : Splitting) (i : Item) : Splitting :=
    match i with
    | .gap => { s.close with blank := false }
    | .mark => { s with current := some (s.current.getD []), blank := false }
    | .char c q splits =>
      if splits && !q && ifs.toList.contains c then
        if c == ' ' || c == '\t' || c == '\n' then
          match s.current with
          | some _ => { s.close with blank := true }
          | none => s
        else match s.current with
          | some _ => { s.close with blank := false }
          | none =>
            if s.blank then { s with blank := false } else { s with words := [] :: s.words }
      else { s with current := some ((c, q) :: s.current.getD []), blank := false }
  ((items.foldl step {}).close).words.reverse

/-- The names in a directory, hidden ones and the directory itself included. -/
def namesIn (dir : String) : Action (List String) := do
  let files := (← world).files
  match files.list (← locate (if dir.isEmpty then "." else dir)) with
  | .ok es => return (es.map fun x => octetsOfText x.1)
  | .error _ => return []

/-- The paths that a pattern leads to, one component after the other. The slashes before each
component are kept. -/
def globFrom (rules : PatternRules) (dots : Bool) (folded : Bool) (deep : Bool) :
    Nat → List String → List (List Regex.Marked) → Action (List String)
  | 0, _, _ => return []
  | _, paths, [] => return paths
  | fuel + 1, paths, component :: rest => do
    let isLast := rest.isEmpty
    let literal := String.ofList (component.map Prod.fst)
    let slash := if isLast then "" else "/"
    let mut found := #[]
    if deep && component == [('*', false), ('*', false)] then
      -- Two stars stand for any number of directories.
      let mut level := paths
      for _ in [0:50] do
        if level.isEmpty then break
        let mut next := #[]
        for p in level do
          if isLast then
            if !p.isEmpty then found := found.push p
          else found := found.push p
          for n in ← namesIn p do
            if !n.startsWith "." || dots then
              if ← isDirectory (p ++ n) then next := next.push (p ++ n ++ "/")
              else if isLast then found := found.push (p ++ n)
        level := next.toList
      globFrom rules dots folded deep fuel found.toList rest
    else if hasWildcards rules.alternatives component then
      let r := regexOfPattern rules component
      let hidden := component.head? == some ('.', false) || component.head? == some ('.', true)
      for p in paths do
        let names ← namesIn p
        let names := if hidden && !rules.caret then "." :: ".." :: names else names
        for n in names do
          if (!n.startsWith "." || hidden || dots) && matchesWhole r folded n then
            if isLast then found := found.push (p ++ n)
            else if ← isDirectory (p ++ n) then found := found.push (p ++ n ++ slash)
      globFrom rules dots folded deep fuel found.toList rest
    else
      for p in paths do
        let path := p ++ literal
        if isLast then
          if literal.isEmpty then found := found.push path
          else if ← fileExists path then found := found.push path
        else if literal.isEmpty then found := found.push (p ++ "/")
        else if ← isDirectory path then found := found.push (path ++ slash)
      globFrom rules dots folded deep fuel found.toList rest

def cutSlashes : List Regex.Marked → List (List Regex.Marked)
  | [] => [[]]
  | m :: rest =>
    if m.1 == '/' then [] :: cutSlashes rest
    else match cutSlashes rest with
      | [] => [[m]]
      | w :: ws => (m :: w) :: ws

/-- The files that a word means, or the word itself. -/
def pathsOf (field : List Regex.Marked) : Action (List String) := do
  let text := String.ofList (field.map Prod.fst)
  let rules ← patternRules
  if (← hasOption 'f') || !hasWildcards rules.alternatives field then return [text]
  let components := cutSlashes field
  let found ← globFrom rules (← hasFeature "dotglob") (← hasFeature "nocaseglob")
    (← hasFeature "globstar")
    (components.length + 1) [""] components
  let found := found.mergeSort (· ≤ ·)
  if found.isEmpty then
    if ← hasFeature "failglob" then
      warn ("no match: " ++ text)
      throw (.discard 1)
    else if ← hasFeature "nullglob" then return []
    else
      -- What is no pattern keeps the backslashes that came from expansions.
      return [text]
  else return found

/-- A unit of a word for the expansion of braces: a character that is not quoted, or anything
else. -/
inductive BraceUnit where
  | char (c : Char)
  | part (p : Part)
  deriving Inhabited

def unitsOf (w : Word) : List BraceUnit :=
  w.flatMap fun p => match p with
    | .text false t => t.toList.map .char
    | p => [.part p]

def wordOf (units : List BraceUnit) : Word :=
  units.foldr (fun u acc => match u, acc with
    | .char c, .text false t :: rest => .text false (String.singleton c ++ t) :: rest
    | .char c, acc => .text false (String.singleton c) :: acc
    | .part p, acc => p :: acc) []

/-- Cuts the inside of braces at its commas; the opening brace has been read. It gives the
alternatives and what follows the closing brace. -/
def cutBraces : Nat → List BraceUnit → List BraceUnit →
    Option (List (List BraceUnit) × List BraceUnit)
  | _, _, [] => none
  | depth, acc, u :: rest => match u with
    | .char '{' => cutBraces (depth + 1) (u :: acc) rest
    | .char '}' =>
      if depth == 0 then some ([acc.reverse], rest) else cutBraces (depth - 1) (u :: acc) rest
    | .char ',' =>
      if depth == 0 then (cutBraces 0 [] rest).map fun r => (acc.reverse :: r.1, r.2)
      else cutBraces depth (u :: acc) rest
    | u => cutBraces depth (u :: acc) rest

def signed? (s : String) : Option Int :=
  match s.toList with
  | '-' :: ds =>
    if isDigits (String.ofList ds) then some (-(decimalOf (String.ofList ds) : Int)) else none
  | '+' :: ds => if isDigits (String.ofList ds) then some (decimalOf (String.ofList ds)) else none
  | _ => if isDigits s then some (decimalOf s) else none

/-- The members of a range from one end to the other. -/
def rangeOf (a b step : Int) : List Int :=
  let step : Nat := if step == 0 then 1 else step.natAbs
  let n := (b - a).natAbs / step
  (List.range (n + 1)).map fun (k : Nat) => if a ≤ b then a + (k * step : Nat) else a -
    (k * step : Nat)

def braceRange? (units : List BraceUnit) : Option (List String) := do
  let chars ← units.mapM fun u => match u with
    | .char c => some c
    | .part _ => none
  let text := String.ofList chars
  let pieces := text.splitOn ".."
  let (a, b, step) ← match pieces with
    | [a, b] => some (a, b, (1 : Int))
    | [a, b, s] => (signed? s).map fun n => (a, b, n)
    | _ => none
  match signed? a, signed? b with
  | some x, some y =>
    let padded (s : String) : Bool :=
      match s.toList with
      | '-' :: '0' :: _ :: _ => true
      | '0' :: _ :: _ => true
      | _ => false
    let width := if padded a || padded b then max a.length b.length else 0
    let show_ (n : Int) : String :=
      let ds := n.natAbs.repr
      if n < 0 then "-" ++ repeated (width - 1 - ds.length) '0' ++ ds
      else repeated (width - ds.length) '0' ++ ds
    some ((rangeOf x y step).map show_)
  | none, none =>
    match a.toList, b.toList with
    | [x], [y] =>
      if x.isAlpha && y.isAlpha then
        some ((rangeOf x.toNat y.toNat step).map fun n => String.singleton (Char.ofNat n.toNat))
      else none
    | _, _ => none
  | _, _ => none

def expandBraces : Nat → List BraceUnit → List (List BraceUnit)
  | 0, units => [units]
  | _, [] => [[]]
  | fuel + 1, u :: rest =>
    let plain := (expandBraces fuel rest).map fun ws => u :: ws
    match u with
    | .char '{' =>
      match cutBraces 0 [] rest with
      | some ([inside], after) =>
        match braceRange? inside with
        | some texts =>
          let ends := expandBraces fuel after
          texts.flatMap fun t => ends.map fun e => t.toList.map .char ++ e
        | none => plain
      | some (choices, after) =>
        let ends := expandBraces fuel after
        choices.flatMap fun c => (expandBraces fuel c).flatMap fun x => ends.map fun e => x ++ e
      | none => plain
    | _ => plain

/-- The words that a word stands for before anything else is expanded. -/
def bracedWords (w : Word) : Action (List Word) := do
  if !(← isBash) || !(← hasOption 'B') then return [w]
  let units := unitsOf w
  let hasBrace := units.any fun u => match u with
    | .char '{' => true
    | _ => false
  if hasBrace then return (expandBraces (units.length + 1) units).map wordOf else return [w]

def expandWord (e : Engine) (w : Word) : Action (List String) := do
  match plainText? w with
  | some t =>
    -- Most words hold nothing that is expanded.
    if !t.any fun c => "*?[~\x7b(".toList.contains c then return if w.isEmpty then [] else [t]
  | none => pure ()
  let mut out := #[]
  for w in ← bracedWords w do
    let items ← e.items true w
    for field in fieldsOf (← separators) items do
      for path in ← pathsOf field do
        out := out.push path
  return out.toList

def expandWords (e : Engine) (ws : List Word) : Action (List String) := do
  let mut out := #[]
  for w in ws do
    for t in ← expandWord e w do
      out := out.push t
  return out.toList

def expandValue (e : Engine) (w : Word) : Action String := do
  let w ← expandTildes true w
  let mut out := #[]
  for part in w do
    for i in (← expandPart e false part) do
      out := out.push i
  flatten out.toList

end Action

end StudyFlow.Shell
