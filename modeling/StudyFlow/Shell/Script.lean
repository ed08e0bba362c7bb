import StudyFlow.Shell.Word

/-!
Reading commands: tokens, the grammar of commands, and the lines of a script one after the other.
-/

namespace StudyFlow.Shell

namespace Reader

/-- What is done with a token before it is used. -/
structure Want where
  /-- Line ends before the token are dropped. -/
  lines : Bool := false
  keywords : Bool := false
  aliases : Bool := false
  /-- Assignments to arrays are taken as a whole. -/
  arrays : Bool := false
  deriving Inhabited

def atCommand : Want where
  keywords := true
  aliases := true
  arrays := true

/-- At the start of a command that may be on a later line. -/
def atLaterCommand : Want where
  lines := true
  keywords := true
  aliases := true
  arrays := true

/-- The words that structure scripts of the small shell. -/
def plainKeywords : List String :=
  ["!", "case", "do", "done", "elif", "else", "esac", "fi", "for", "if", "in", "then", "until",
   "while", "\x7b", "\x7d"].map fun s => s

/-- The words that structure scripts. -/
def keywordsOf : Dialect → List String
  | .dash => plainKeywords
  | .bash => plainKeywords ++ ["function", "select", "time", "[["]

/-- Drops blanks, escaped line ends and comments. -/
def skipBlanks : Reader Unit := do
  for _ in [0:← bound] do
    match ← peekJoined with
    | some c =>
      if isSpace c then skip
      else if c == '#' then
        for _ in [0:← bound] do
          match ← peek with
          | some '\n' | none => break
          | some _ => skip
      else break
    | none => break

/-- Takes the longest of some operators that comes next, the longer ones first. -/
def oneOf (operators : List String) : Reader (Option String) := do
  let s ← get
  let ahead := s.rest.take 3
  match operators.find? fun o => o.toList.isPrefixOf ahead with
  | some o =>
    for _ in [0:o.length] do
      skip
    return some o
  | none => return none

/-- The operators that separate commands. -/
def separatorsOf : Dialect → List String
  | .dash => ["&&", "||", ";;", ";", "&", "|", "(", ")"]
  | .bash => [";;&", "&&", "||", ";;", ";&", "|&", ";", "&", "|", "(", ")"]

/-- The operators that start redirections. -/
def redirectionsOf : Dialect → List String
  | .dash => ["<<-", "<<", "<&", "<>", "<", ">>", ">&", ">|", ">"]
  | .bash => ["<<<", "<<-", "<<", "<&", "<>", "<", ">>", ">&", ">|", ">"]

/-- A channel that is named right before the operator of a redirection. -/
def channelAhead : Reader (Option Channel) := do
  let s ← get
  let digits := s.rest.takeWhile Char.isDigit
  let isArrow (cs : List Char) : Bool := cs.head? == some '<' || cs.head? == some '>'
  if !digits.isEmpty && isArrow (s.rest.drop digits.length)
      && (s.dialect == .bash || digits.length == 1) then
    for _ in [0:digits.length] do
      skip
    return some (.number (decimalOf (String.ofList digits)))
  else if s.dialect == .bash && s.rest.head? == some '{' then
    let name := (s.rest.drop 1).takeWhile isNameChar
    let after := s.rest.drop (name.length + 1)
    if isName (String.ofList name) && after.head? == some '}' && isArrow (after.drop 1) then
      for _ in [0:name.length + 2] do
        skip
      return some (.named (String.ofList name))
    else return none
  else return none

/-- Whether a word that names a channel by a process comes next. -/
def conduitAhead : Reader Bool := do
  let s ← get
  return s.dialect == .bash && (s.rest.head? == some '<' || s.rest.head? == some '>')
    && s.rest[1]? == some '('

/-- Reads the members of an array; the parenthesis before them has been read. -/
def arrayMembers (g : Grammar) : Reader (List Member) := do
  let start := (← get).line
  let mut acc := []
  for _ in [0:← bound] do
    skipBlanks
    match ← peekJoined with
    | none => stopAt start (.unclosed ")")
    | some '\n' => skip
    | some ')' =>
      skip
      return acc.reverse
    | some '[' =>
      let saved ← get
      skip
      let index ← tryCatch (some <$> bracketed g) fun _ => pure none
      let append ← if (← peek) == some '+' && (← peekSecond) == some '=' then accept '+'
        else pure false
      match index, ← accept '=' with
      | some (.at i), true => acc := .mk (some i) append (← g.parts .word) :: acc
      | _, _ =>
        set saved
        acc := .mk none false (← g.parts .word) :: acc
    | some c =>
      if isMeta c && !(← conduitAhead) then stop (.unexpected (.operator (String.singleton c)) none)
      acc := .mk none false (← g.parts .word) :: acc
  return acc.reverse

/-- An assignment to an array or to a member of one, if one comes next. -/
def arrayAssignment (g : Grammar) : Reader (Option Assignment) := do
  let saved ← get
  match ← peek with
  | some c =>
    if !isNameStart c then return none
    let name ← takeWhile isNameChar
    let hasIndex := (← peek) == some '['
    let index ← if hasIndex then do
        skip
        tryCatch (some <$> bracketed g) fun _ => pure none
      else pure (some Index.none)
    let append ← if (← peek) == some '+' && (← peekSecond) == some '=' then accept '+'
      else pure false
    match index, ← accept '=' with
    | some i, true =>
      if ← accept '(' then return some (.mk name i append [.members (← arrayMembers g)])
      else if hasIndex then return some (.mk name i append (← g.parts .word))
      else
        set saved
        return none
    | _, _ =>
      set saved
      return none
  | none => return none

/-- Reads a token without looking at what it means. -/
def rawToken (g : Grammar) (arrays : Bool) : Reader Token := do
  skipBlanks
  match ← peek with
  | none => return .done
  | some '\n' =>
    skip
    return .newline
  | some _ =>
    let dialect := (← get).dialect
    let wordNext ← conduitAhead
    let channel ← channelAhead
    let redirected ← if wordNext then pure none
      else if dialect == .bash && channel.isNone then do
        match ← oneOf ["&>>", "&>"] with
        | some o => pure (some (Channel.both, o))
        | none => pure none
      else pure none
    match redirected with
    | some (c, o) => return .redirect (some c) o
    | none =>
      let arrow ← if wordNext then pure none else oneOf (redirectionsOf dialect)
      match arrow with
      | some o => return .redirect channel o
      | none =>
        match ← (if wordNext then pure none else oneOf (separatorsOf dialect)) with
        | some o => return .operator o
        | none =>
          let before := (← get).rest
          if dialect == .bash && arrays then
            match ← arrayAssignment g with
            | some a => return .assignment a (← since before)
            | none =>
              let w ← g.parts .word
              return .word w (← since before)
          else
            let w ← g.parts .word
            return .word w (← since before)

/-- Takes the token that was given back, if there is one. -/
def popPushed : Reader (Option Token) := do
  let s ← get
  set { s with pushed := none }
  return s.pushed

def readToken (g : Grammar) (want : Want) : Reader Token := do
  let fetch : Reader Token := do
    match ← popPushed with
    | some t => return t
    | none => rawToken g want.arrays
  let mut aliases := want.aliases
  for _ in [0:← bound] do
    let mut t ← fetch
    if want.lines then
      for _ in [0:← bound] do
        match t with
        | .newline =>
          readDocuments g
          t ← fetch
        | _ => break
    let taken := t
    match taken with
    | .word w text =>
      match plainText? w with
      | none => return taken
      | some name =>
        let s ← get
        if want.keywords && (keywordsOf s.dialect).contains name then return .keyword name
        else match s.aliases.lookup name with
          | some value =>
            if aliases && !s.active.contains name then
              set { s with rest := value.toList ++
                replacedMark :: s.rest, active := name :: s.active }
              if value.isEmpty then aliases := true
            else return .word w text
          | none => return .word w text
    | other => return other
  return .done

def unexpected {α : Type} (t : Token) (expected : Option String) : Reader α := do
  push t
  stop (.unexpected t expected)

def expectKeyword (g : Grammar) (name : String) (want : Want) : Reader Unit := do
  let t ← readToken g want
  match t with
  | .keyword k => if k == name then pure () else unexpected t (some ("\"" ++ name ++ "\""))
  | t => unexpected t (some ("\"" ++ name ++ "\""))

def plainWant : Want where
  lines := false

/-- The file mode that the operator of a redirection stands for. -/
def modeOf? : String → Option OpenMode
  | "<" => some .read
  | ">" => some .write
  | ">|" => some .clobber
  | ">>" => some .append
  | "<>" => some .readWrite
  | "&>" => some .write
  | "&>>" => some .append
  | _ => none

def redirection (g : Grammar) (channel : Option Channel) (operator : String) : Reader Redirect := do
  let line := (← get).line
  let t ← readToken g plainWant
  match t with
  | .word w text =>
    let standard := if operator.startsWith "<" then 0 else 1
    let channel := channel.getD (.number standard)
    match modeOf? operator with
    | some mode => return .mk channel (.file mode w)
    | none =>
      if operator == "<<<" then return .mk channel (.line w)
      else if operator == "<&" || operator == ">&" then
        match (← get).dialect, operator, channel, plainText? w with
        | .bash, ">&", .number 1, some name =>
          if isDigits name || name == "-" ||
            (name.endsWith "-" && isDigits (takeFront (name.length - 1) name))
          then return .mk channel (.copy false w)
          else return .mk .both (.file .write w)
        | _, _, _, _ => return .mk channel (.copy (operator == "<&") w)
      else
        let s ← get
        let delimiter := match fixedText? w with
          | some d => d
          | none => text
        let d : Announced := ⟨s.nextDocument, delimiter, operator == "<<-", hasQuotes w, line⟩
        set { s with nextDocument := s.nextDocument + 1, waiting := s.waiting ++ [d] }
        return .mk channel (.document d.id)
  | t => unexpected t none

def redirections (g : Grammar) : Reader (List Redirect) := do
  let mut acc := []
  for _ in [0:← bound] do
    let t ← readToken g { keywords := true, aliases := true }
    match t with
    | .redirect c o => acc := (← redirection g c o) :: acc
    | t =>
      push t
      break
  return acc.reverse

def assignmentOf? (dialect : Dialect) : Word → Option Assignment
  | .text false s :: rest =>
    let name := s.toList.takeWhile isNameChar
    let after := s.toList.drop name.length
    let value (cs : List Char) : Word :=
      if cs.isEmpty then rest else .text false (String.ofList cs) :: rest
    if !isName (String.ofList name) then none
    else match after with
      | '=' :: cs => some (.mk (String.ofList name) .none false (value cs))
      | '+' :: '=' :: cs =>
        if dialect == .bash then some (.mk (String.ofList name) .none true (value cs)) else none
      | _ => none
  | _ => none

/-- Builtins of the small shell that functions may not be named after. -/
def specialNames : List String :=
  [".", ":", "break", "continue", "eval", "exec", "exit", "export", "readonly", "return", "set",
   "shift", "times", "trap", "unset"]

/-- Commands whose arguments may be assignments to arrays. -/
def declaringNames : List String := ["declare", "typeset", "local", "export", "readonly"]

/-- The word that an assignment among the arguments of a command is. -/
def wordOfAssignment : Assignment → Word
  | .mk name index append value =>
    let mark := if append then "+=" else "="
    match index with
    | .at i => (.text false (name ++ "[") :: i) ++ (.text false ("]" ++ mark) :: value)
    | _ => .text false (name ++ mark) :: value

/-- Reads a simple command, or a function that is defined like one. -/
def simpleCommand (g : Grammar) : Reader Command := do
  let mut assignments := []
  let mut words : List Word := []
  let mut redirects := []
  let mut first := true
  let mut line ← here
  let dialect := (← get).dialect
  let mut settled := false
  for _ in [0:← bound] do
    let declares := match words.getLast? with
      | some w => ((plainText? w).map declaringNames.contains) == some true
      | none => false
    let t ← readToken g { aliases := first, arrays := first || declares }
    if dialect == .bash && !settled && words.length == 1 then
      settled := true
      if assignments.isEmpty && redirects.isEmpty then line ← here
    match t with
    | .word w _ =>
      match first, assignmentOf? dialect w with
      | true, some a => assignments := a :: assignments
      | _, _ =>
        words := w :: words
        first := false
    | .assignment a _ =>
      if first then assignments := a :: assignments
      else words := wordOfAssignment a :: words
    | .redirect c o => redirects := (← redirection g c o) :: redirects
    | .operator "(" =>
      if words.length == 1 && assignments.isEmpty && redirects.isEmpty then
        let close ← readToken g plainWant
        match close with
        | .operator ")" => pure ()
        | t => unexpected t (some "\")\"")
        let name := (words.head?.bind fun w => if dialect == .bash then fixedText? w else
          plainText? w).getD ""
        if dialect == .dash && (!isName name || specialNames.contains name) then
          stop (.message "Bad function name")
        let defined := (← get).line
        let t ← readToken g atLaterCommand
        push t
        match dialect, t with
        | .bash, .word _ _ | .bash, .assignment _ _ | .bash, .redirect _ _ => unexpected t none
        | _, _ => pure ()
        let body ← g.command
        return .define defined name body
      else
        push t
        break
    | t =>
      push t
      break
  return .simple line assignments.reverse words.reverse redirects.reverse

def loopItems (g : Grammar) : Reader (List Word) := do
  let mut items := []
  for _ in [0:← bound] do
    let t ← readToken g plainWant
    match t with
    | .word w _ => items := w :: items
    | .newline =>
      readDocuments g
      break
    | .operator ";" => break
    | t => unexpected t none
  return items.reverse

def loopBody (g : Grammar) : Reader (List Command) := do
  let t ← readToken g { lines := true, keywords := true, aliases := true }
  match t, (← get).dialect with
  | .keyword "do", _ =>
    let body ← g.commands .body
    expectKeyword g "done" { keywords := true }
    return body
  | .keyword "\x7b", .bash =>
    let body ← g.commands .body
    expectKeyword g "\x7d" { keywords := true }
    return body
  | t, _ => unexpected t (some "\"do\"")

/-- The arguments of the script, as the items of a loop. -/
def allArguments : Word := [.parameter true (.mk "@" .none false) .plain]

/-- Reads a loop over words; its keyword has been read. -/
def forLoop (g : Grammar) (menu : Bool) (line : Nat) : Reader Command := do
  let dialect := (← get).dialect
  skipBlanks
  let s ← get
  if dialect == .bash && !menu && s.pushed.isNone && ['(', '('].isPrefixOf s.rest then
    skip
    skip
    let start ← g.parts .clause
    let semi := ← accept ';'
    let test ← g.parts .clause
    let semi' := ← accept ';'
    let step ← g.parts .clause
    if semi && semi' && (← accept ')') && (← accept ')') then
      let t ← readToken g { lines := false, keywords := true }
      match t with
      | .operator ";" | .newline => pure ()
      | t => push t
      return .count line start test step (← loopBody g)
    else
      let t ← readToken g plainWant
      unexpected t none
  else
    let t ← readToken g plainWant
    let name ← match t with
      | .word w text => match dialect, plainText? w with
        | .dash, some n => if isName n then pure n else stop (.message "Bad for loop variable")
        | .dash, none => stop (.message "Bad for loop variable")
        | .bash, n => pure (n.getD text)
      | t => if dialect == .dash then stop (.message "Bad for loop variable") else unexpected t none
    let t ← readToken g { lines := true, keywords := true, aliases := true }
    let items ← match t with
      | .keyword "in" => loopItems g
      | .operator ";" => pure [allArguments]
      | t => do
        push t
        pure [allArguments]
    let body ← loopBody g
    return if menu then .menu line name items body else .each line name items body

def caseArms (g : Grammar) : Reader (List Arm) := do
  let mut arms := []
  let mut t ← readToken g { lines := true, keywords := true }
  for _ in [0:← bound] do
    match t with
    | .keyword "esac" => break
    | _ => pure ()
    match t with
    | .operator "(" => t ← readToken g plainWant
    | _ => pure ()
    let mut patterns : List Word := []
    let mut closed := false
    for _ in [0:← bound] do
      match t with
      | .word w _ => patterns := w :: patterns
      | .keyword k => patterns := [.text false k] :: patterns
      | .assignment a _ => patterns := wordOfAssignment a :: patterns
      | other => unexpected other (if patterns.isEmpty then some "\")\"" else none)
      t ← readToken g plainWant
      match t with
      | .operator "|" => t ← readToken g plainWant
      | .operator ")" =>
        closed := true
        break
      | _ => break
    if !closed then unexpected t (some "\")\"")
    let body ← g.commands .closing
    t ← readToken g { lines := true, keywords := true }
    let arm (e : ArmEnd) : Arm := .mk patterns.reverse body e
    match t with
    | .keyword "esac" => arms := arm .leave :: arms
    | .operator ";;" =>
      arms := arm .leave :: arms
      t ← readToken g { lines := true, keywords := true }
    | .operator ";&" =>
      arms := arm .fall :: arms
      t ← readToken g { lines := true, keywords := true }
    | .operator ";;&" =>
      arms := arm .resume :: arms
      t ← readToken g { lines := true, keywords := true }
    | other => unexpected other (some "\";;\"")
  return arms.reverse

/-- Reads the branches after the condition of an if has been read. -/
def ifBranches (g : Grammar) : Reader Command := do
  let mut branches := []
  let mut other : List Command := []
  let mut condition ← g.commands .body
  expectKeyword g "then" { keywords := true }
  let mut body ← g.commands .body
  for _ in [0:← bound] do
    let t ← readToken g { keywords := true }
    match t with
    | .keyword "elif" =>
      branches := (condition, body) :: branches
      condition ← g.commands .body
      expectKeyword g "then" { keywords := true }
      body ← g.commands .body
    | .keyword "else" =>
      other ← g.commands .body
      expectKeyword g "fi" { keywords := true }
      break
    | .keyword "fi" => break
    | t => unexpected t (some "\"fi\"")
  let last := Command.branch condition body other
  return branches.foldl (fun acc b => .branch b.1 b.2 [acc]) last

/-- Operators of conditions that ask about one word. -/
def unaryOperators : List String :=
  ["-a", "-b", "-c", "-d", "-e", "-f", "-g", "-h", "-k", "-n", "-o", "-p", "-r", "-s", "-t", "-u",
   "-v", "-w", "-x", "-z", "-G", "-L", "-N", "-O", "-R", "-S"]

/-- Operators of conditions that compare two words. -/
def binaryOperators : List String :=
  ["=", "==", "!=", "=~", "-eq", "-ne", "-lt", "-le", "-gt", "-ge", "-nt", "-ot", "-ef"]

def conditionFault {α : Type} (t : Token) : Reader α := do
  push t
  stop (.unexpected t (some "condition"))

def conditionWord (g : Grammar) (ground : Ground) : Reader Word := do
  skipBlanks
  match ← peek with
  | some c =>
    if (isMeta c && ground != .regex) || c == '\n' then conditionFault (← rawToken g false)
    g.parts ground
  | none => conditionFault .done

/-- The token that comes next in a condition; line ends are dropped. -/
def conditionToken (g : Grammar) : Reader Token := readToken g { lines := true }

/-- Reads a condition, with what is inside parentheses read by `whole`. -/
def conditionTerm (g : Grammar) (whole : Reader Condition) : Reader Condition := do
  let mut negations := 0
  let mut t ← conditionToken g
  for _ in [0:← bound] do
    match t with
    | .word [.text false "!"] _ =>
      negations := negations + 1
      t ← conditionToken g
    | _ => break
  let found ← match t with
    | .operator "(" => do
      let c ← whole
      match ← conditionToken g with
      | .operator ")" => pure c
      | other => conditionFault other
    | .word w text => do
      let next ← conditionToken g
      let isEnd (token : Token) : Bool := match token with
        | .operator "&&" | .operator "||" | .operator ")" | .newline | .done => true
        | .word [.text false "]]"] _ => true
        | _ => false
      if unaryOperators.contains text && !isEnd next then
        match next with
        | .word operand otext =>
          if binaryOperators.contains otext then
            -- The operator may compare its left neighbour as well.
            let after ← conditionToken g
            if isEnd after then
              push after
              pure (.unary text operand)
            else match after with
              | .word right _ => pure (.binary otext w right)
              | other => conditionFault other
          else pure (.unary text operand)
        | other => conditionFault other
      else match next with
        | .redirect none "<" => pure (.binary "<" w (← conditionWord g .matched))
        | .redirect none ">" => pure (.binary ">" w (← conditionWord g .matched))
        | .word _ otext =>
          if otext == "=~" then pure (.binary otext w (← conditionWord g .regex))
          else if binaryOperators.contains otext then
            pure (.binary otext w (← conditionWord g .matched))
          else if isEnd next then do
            push next
            pure (.word w)
          else conditionFault next
        | other =>
          if isEnd other then do
            push other
            pure (.word w)
          else conditionFault other
    | other => conditionFault other
  return if negations % 2 == 1 then .not found else found

/-- Reads a condition of at most so many nested parentheses. -/
def condition (g : Grammar) : Nat → Reader Condition
  | 0 => stop .tooDeep
  | depth + 1 => do
    let conjunction : Reader Condition := do
      let mut c ← conditionTerm g (condition g depth)
      for _ in [0:← bound] do
        let t ← conditionToken g
        match t with
        | .operator "&&" => c := .both c (← conditionTerm g (condition g depth))
        | t =>
          push t
          break
      return c
    let mut c ← conjunction
    for _ in [0:← bound] do
      let t ← conditionToken g
      match t with
      | .operator "||" => c := .either c (← conjunction)
      | t =>
        push t
        break
    return c

/-- How deep conditions are nested at most. -/
def conditionDepth : Nat := 100

def compound? (g : Grammar) (line : Nat) (t : Token) : Reader (Option Command) := do
  let dialect := (← get).dialect
  match t with
  | .keyword "if" => return some (← ifBranches g)
  | .keyword "while" | .keyword "until" =>
    let test ← g.commands .body
    let negated := match t with
      | .keyword "until" => true
      | _ => false
    expectKeyword g "do" { keywords := true }
    let body ← g.commands .body
    expectKeyword g "done" { keywords := true }
    return some (.loop negated test body)
  | .keyword "for" => return some (← forLoop g false line)
  | .keyword "select" => return some (← forLoop g true line)
  | .keyword "case" =>
    let w ← match ← readToken g plainWant with
      | .word w _ => pure w
      | t => unexpected t (some "word")
    expectKeyword g "in" { lines := true, keywords := true, aliases := true }
    return some (.select line w (← caseArms g))
  | .keyword "\x7b" =>
    let body ← g.commands .body
    expectKeyword g "\x7d" { keywords := true }
    return some (.group body)
  | .operator "(" =>
    let whole : Reader (Option Command) := do
      let body ← g.commands .body
      match ← readToken g { keywords := true } with
      | .operator ")" => return some (.subshell line body)
      | t => unexpected t (some "\")\"")
    let s ← get
    if dialect == .bash && s.pushed.isNone && s.rest.head? == some '(' then
      skip
      let tried ← tryCatch (expression g) fun _ => pure none
      match tried with
      | some parts => return some (.arithmetic line parts)
      | none =>
        set s
        whole
    else whole
  | .keyword "[[" =>
    let c ← condition g conditionDepth
    match ← conditionToken g with
    | .word [.text false "]]"] _ => return some (.test line c)
    | t => conditionFault t
  | .keyword "function" =>
    let t ← readToken g plainWant
    let name ← match t with
      | .word w text => pure ((fixedText? w).getD text)
      | t => unexpected t none
    let t ← readToken g plainWant
    match t with
    | .operator "(" =>
      match ← readToken g plainWant with
      | .operator ")" => pure ()
      | t => unexpected t none
    | t => push t
    let defined := (← get).line
    let t ← readToken g atLaterCommand
    match t with
    | .word _ _ | .redirect _ _ | .assignment _ _ => unexpected t none
    | t => push t
    return some (.define defined name (← g.command))
  | _ => return none

def commandOf (g : Grammar) : Reader Command := do
  let t ← readToken g plainWant
  let line ← here
  match ← compound? g line t with
  | some c =>
    match c with
    | .define _ _ _ => return c
    | c =>
      let redirects ← redirections g
      return if redirects.isEmpty then c else .redirected line c redirects
  | none =>
    match t with
    | .word _ _ | .redirect _ _ | .assignment _ _ =>
      push t
      simpleCommand g
    | t => unexpected t none

def withErrors (c : Command) : Command :=
  let copy : Redirect := .mk (.number 2) (.copy false [.text false "1"])
  match c with
  | .simple line a w r => .simple line a w (r ++ [copy])
  | c => .redirected 0 c [copy]

/-- Reads a pipeline; the first token is read at the start of a command. -/
def pipeline (g : Grammar) (want : Want) : Reader Command := do
  let bash ← isBash
  let mut negated := false
  let mut timed := false
  let mut t ← readToken g want
  for _ in [0:← bound] do
    match t with
    | .keyword "!" =>
      if negated && !bash then break
      negated := !negated
      t ← readToken g atCommand
      match t, bash with
      | .keyword "!", false => break
      | _, _ => pure ()
    | .keyword "time" =>
      timed := true
      t ← readToken g atCommand
      match t with
      | .word [.text false "-p"] _ => t ← readToken g atCommand
      | _ => pure ()
    | _ => break
  push t
  let empty := match t, bash with
    | .newline, true | .done, true | .operator ";", true => negated || timed
    | _, _ => false
  if empty then return .pipeline negated timed [.sequence []]
  let mut stages := [← g.command]
  for _ in [0:← bound] do
    let bar ← readToken g plainWant
    match bar with
    | .operator "|" | .operator "|&" =>
      match bar with
      | .operator "|&" => stages := match stages with
        | s :: rest => withErrors s :: rest
        | [] => []
      | _ => pure ()
      push (← readToken g atLaterCommand)
      stages := (← g.command) :: stages
    | other =>
      push other
      break
  match negated || timed, stages with
  | false, [c] => return c
  | _, all => return .pipeline negated timed all.reverse

/-- Reads pipelines that depend on each other's success. -/
def andOr (g : Grammar) (want : Want) : Reader Command := do
  let mut c ← pipeline g want
  for _ in [0:← bound] do
    let t ← readToken g plainWant
    match t with
    | .operator "&&" => c := .both c (← pipeline g atLaterCommand)
    | .operator "||" => c := .either c (← pipeline g atLaterCommand)
    | t =>
      push t
      break
  return c

def endsList : Token → Bool
  | .done => true
  | .operator o => o == ")" || o == ";;" || o == ";&" || o == ";;&"
  | .keyword k =>
    k == "do" || k == "done" || k == "elif" || k == "else" || k == "esac" || k == "fi" ||
      k == "then" || k == "\x7d"
  | _ => false

def commandList (g : Grammar) (ending : Ending) : Reader (List Command) := do
  let want := if ending == .line then atCommand else atLaterCommand
  let mut acc := []
  let mut started := ending != .body
  for _ in [0:← bound] do
    let t ← readToken g want
    match t, ending with
    | .newline, _ =>
      readDocuments g
      break
    | .done, .line =>
      readDocuments g
      push t
      break
    | .done, _ =>
      readDocuments g
      push t
      break
    | _, _ =>
      push t
      if ending != .line && started && endsList t then break
      started := true
      let c ← andOr g plainWant
      let t ← readToken g plainWant
      match t with
      | .operator "&" => acc := .background c :: acc
      | .operator ";" => acc := c :: acc
      | .newline | .done =>
        acc := c :: acc
        push t
      | t =>
        acc := c :: acc
        if ending == .line then unexpected t none
        push t
        break
  return acc.reverse

/-- The grammar in which commands are nested at most so deep. -/
def grammar : Nat → Grammar
  | 0 => ⟨fun _ => stop .tooDeep, stop .tooDeep, fun _ => stop .tooDeep⟩
  | n + 1 =>
    let g := grammar n
    ⟨commandList g, commandOf g, parts g⟩

/-- How deep commands and words are nested at most. -/
def nestingBound : Nat := 1000

def wholeGrammar : Grammar := grammar nestingBound

/-- The commands of the next line that holds any; none at the end of the script. -/
def nextLine : Reader (Option (List Command)) := do
  let body ← commandList wholeGrammar .line
  let s ← get
  match s.pushed with
  | some .done =>
    set { s with pushed := none }
    return if body.isEmpty then none else some body
  | _ => return some body

end Reader

def Source.readParts (s : Source) (ground : Ground) : Except SyntaxFault Word :=
  match (Reader.parts Reader.wholeGrammar ground).run s with
  | .ok (w, _) => .ok w
  | .error f => .error f

end StudyFlow.Shell
