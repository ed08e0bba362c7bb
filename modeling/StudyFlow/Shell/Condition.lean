import StudyFlow.Shell.Expand

/-!
Conditions: questions about files, texts and numbers, asked by a command with arguments or by a
condition that is part of the language.
-/

namespace StudyFlow.Shell

namespace Action

def isDevice (path : String) : Bool := (device? path).isSome || path == "/dev/tty"

/-- The answer to a question about a file. -/
def fileTest (letter : Char) (path : String) : Action Bool := do
  match channelOfPath? path with
  | some n =>
    let open_ := (← channel? n).isSome
    return open_ && (letter == 'e' || letter == 'r' || letter == 'w' || letter == 'a')
  | none =>
    if isDevice path then
      return "eacrwOG".toList.contains letter
    match ← entry? path with
    | none => return false
    | some .directory => return "eadrwxsOG".toList.contains letter
    | some (.file content executable) =>
      return match letter with
        | 'x' => executable
        | 's' => content.size != 0
        | c => "eafrwOG".toList.contains c

/-- Whether a file was changed later than another, as far as files that are missing tell. -/
def isNewer (a b : String) : Action Bool := return (← fileExists a) && !(← fileExists b)

/-- Whether two paths lead to the same place. -/
def isSameFile (a b : String) : Action Bool := do
  match ← entryAt a, ← entryAt b with
  | .ok (l, _), .ok (m, _) => return l == m
  | _, _ => return false

/-- The operators that ask about one argument, by their letters. -/
def unaryLetters (dialect : Dialect) : List Char :=
  match dialect with
  | .dash => "rwxefdcbpugkstznhOGLS".toList
  | .bash => "abcdefghkprstuwxzGLNORSnov".toList

/-- The operators that compare two arguments. -/
def comparisons (dialect : Dialect) : List String :=
  ["=", "!=", "<", ">", "-eq", "-ne", "-ge", "-gt", "-le", "-lt", "-nt", "-ot", "-ef"] ++
  (if dialect == .bash then ["=="] else [])

/-- Whether an argument is an operator that asks about the next one. -/
def isUnary (dialect : Dialect) (s : String) : Bool :=
  match s.toList with
  | ['-', c] => (unaryLetters dialect).contains c
  | _ => false

/-- Stops a question with a complaint. -/
def testFault {α : Type} (command text : String) : Action α := do
  if ← isBash then warn (command ++ ": " ++ text) else warn text
  throw (.failed 2)

/-- The integer that an operand denotes. -/
def testNumber (command text : String) : Action Int := do
  let cs := text.toList.dropWhile isBlankOctet
  let (negative, ds) := match cs with
    | '-' :: ds => (true, ds)
    | '+' :: ds => (false, ds)
    | ds => (false, ds)
  let digits := ds.takeWhile Char.isDigit
  let n : Int := decimalOf (String.ofList digits)
  let n := if negative then -n else n
  if digits.isEmpty || !((ds.drop digits.length).all isBlankOctet) || n < minWord ||
    maxWord < n then
    if ← isBash then testFault command (text ++ ": integer expression expected")
    else testFault command ("Illegal number: " ++ text)
  else return n

def isLongOption (name : String) : Action Bool := do
  match name with
  | "errexit" => hasOption 'e'
  | "nounset" => hasOption 'u'
  | "xtrace" => hasOption 'x'
  | "noglob" => hasOption 'f'
  | "noclobber" => hasOption 'C'
  | "allexport" => hasOption 'a'
  | "noexec" => hasOption 'n'
  | "verbose" => hasOption 'v'
  | "braceexpand" => hasOption 'B'
  | "hashall" => hasOption 'h'
  | "monitor" => hasOption 'm'
  | name => hasFeature name

/-- The answer of an operator that asks about one operand. -/
def unaryTest (command : String) (letter : Char) (operand : String) : Action Bool := do
  match letter with
  | 'z' => return operand.isEmpty
  | 'n' => return !operand.isEmpty
  | 't' =>
    let _ ← testNumber command operand
    return false
  | 'v' =>
    let (name, index) := splitReference operand
    match index with
    | none => return (← parameter? operand).isSome
    | some "@" | some "*" => return !(membersOf (← wholeValue name)).isEmpty
    | some i => return ((membersOf (← wholeValue name)).lookup i).isSome
  | 'o' => isLongOption operand
  | 'R' =>
    match ← binding? operand with
    | some v => return v.reference
    | none => return false
  | c => fileTest c operand

/-- The answer of an operator that compares two operands. -/
def binaryTest (command operator left right : String) : Action Bool := do
  match operator with
  | "=" | "==" => return left == right
  | "!=" => return left != right
  | "<" => return left < right
  | ">" => return right < left
  | "-nt" => isNewer left right
  | "-ot" => isNewer right left
  | "-ef" => isSameFile left right
  | o =>
    let a ← testNumber command left
    let b ← testNumber command right
    return match o with
      | "-eq" => a == b
      | "-ne" => a != b
      | "-lt" => a < b
      | "-le" => a ≤ b
      | "-gt" => b < a
      | _ => b ≤ a

/-- What an argument is taken for by the small shell. -/
inductive TestToken where
  | done
  | operand
  | unary (letter : Char)
  | comparison
  | negation
  | conjunction
  | disjunction
  | opening
  | closing
  deriving DecidableEq

/-- What an argument is if nothing follows from its neighbours. -/
def testToken (s : String) : TestToken :=
  match s with
  | "!" => .negation
  | "-a" => .conjunction
  | "-o" => .disjunction
  | "(" => .opening
  | ")" => .closing
  | s =>
    if (comparisons .dash).contains s then .comparison
    else if isUnary .dash s then .unary (s.toList.getD 1 ' ')
    else .operand

/-- What the argument at a position is taken for. -/
def tokenAt (args : Array String) (i : Nat) : TestToken :=
  match args[i]? with
  | none => .done
  | some s =>
    match testToken s with
    | .unary c =>
      -- An operator is an operand if nothing follows it, or a comparison.
      match args[i + 1]?, args[i + 2]? with
      | none, _ => .operand
      | some _, none => .unary c
      | some t, some _ => if testToken t == .comparison then .operand else .unary c
    | .opening => if args[i + 1]?.isNone then .operand else .opening
    | t => t

mutual

/-- Alternatives from a position on: the answer, and the last position that was used. -/
def plainEither (args : Array String) : Nat → TestToken → Nat → Action (Bool × Nat)
  | 0, _, i => return (false, i)
  | fuel + 1, t, i => do
    let (a, i) ← plainBoth args fuel t i
    if tokenAt args (i + 1) == .disjunction then
      let (b, j) ← plainEither args fuel (tokenAt args (i + 2)) (i + 2)
      return (a || b, j)
    else return (a, i)

/-- Conjunctions from a position on. -/
def plainBoth (args : Array String) : Nat → TestToken → Nat → Action (Bool × Nat)
  | 0, _, i => return (false, i)
  | fuel + 1, t, i => do
    let (a, i) ← plainNot args fuel t i
    if tokenAt args (i + 1) == .conjunction then
      let (b, j) ← plainBoth args fuel (tokenAt args (i + 2)) (i + 2)
      return (a && b, j)
    else return (a, i)

/-- Negations from a position on. -/
def plainNot (args : Array String) : Nat → TestToken → Nat → Action (Bool × Nat)
  | 0, _, i => return (false, i)
  | fuel + 1, t, i => do
    if t == .negation then
      let next := tokenAt args (i + 1)
      let (a, j) ← plainNot args fuel next (if next == .done then i else i + 1)
      return (!a, j)
    else plainPrimary args fuel t i

/-- A single question at a position. -/
def plainPrimary (args : Array String) : Nat → TestToken → Nat → Action (Bool × Nat)
  | 0, _, i => return (false, i)
  | fuel + 1, t, i => do
    let arg (k : Nat) : String := args[k]?.getD ""
    match t with
    | .done => return (false, i)
    | .opening =>
      let next := tokenAt args (i + 1)
      if next == .closing then return (false, i + 1)
      let (a, j) ← plainEither args fuel next (i + 1)
      if tokenAt args (j + 1) == .closing then return (a, j + 1)
      else testFault "[" "closing paren expected"
    | .unary c =>
      if args[i + 1]?.isNone then testFault "[" (arg i ++ ": argument expected")
      return (← unaryTest "[" c (arg (i + 1)), i + 1)
    | _ =>
      if tokenAt args (i + 1) == .comparison then
        if args[i + 2]?.isNone then testFault "[" (arg (i + 1) ++ ": argument expected")
        return (← binaryTest "[" (arg (i + 1)) (arg i) (arg (i + 2)), i + 2)
      else return (!(arg i).isEmpty, i)

end

/-- The answer to a question by the rules of the small shell. -/
def plainTest : Nat → List String → Action Bool
  | 0, _ => return false
  | fuel + 1, args => do
    match args with
    | [] => return false
    | _ =>
      let finish (inner : List String) (first : TestToken) : Action Bool := do
        let a := inner.toArray
        let (r, i) ← plainEither a (4 * a.size + 8) first 0
        match a[i]?, a[i + 1]? with
        | some op, some _ =>
          testFault "[" (if op.isEmpty then "unexpected operator" else op ++
            ": unexpected operator")
        | _, _ => return r
      let ordinary (inner : List String) : Action Bool := finish inner (tokenAt inner.toArray 0)
      let n := args.length
      let isComparison : Bool := match args with
        | [_, o, _] => testToken o == .comparison
        | _ => false
      if isComparison then finish args .operand
      else if n == 3 || n == 4 then
        if args.head? == some "(" && args.getLast? == some ")" then
          ordinary ((args.drop 1).dropLast)
        else if args.head? == some "!" then return !(← plainTest fuel (args.drop 1))
        else ordinary args
      else ordinary args

/-- Whether an argument joins two questions. -/
def isJoint (s : String) : Bool := s == "-a" || s == "-o"

/-- Whether an argument looks like an operator that asks about the next one. -/
def looksUnary (s : String) : Bool := s.length == 2 && s.startsWith "-"

def twoArguments (command a b : String) : Action Bool := do
  if a == "!" then return b.isEmpty
  else if looksUnary a && isUnary .bash a then unaryTest command (a.toList.getD 1 ' ') b
  else testFault command (a ++ ": unary operator expected")

def threeArguments (command a b c : String) : Action Bool := do
  if (comparisons .bash).contains b then binaryTest command b a c
  else if b == "-a" then return !a.isEmpty && !c.isEmpty
  else if b == "-o" then return !a.isEmpty || !c.isEmpty
  else if a == "!" then return !(← twoArguments command b c)
  else if a == "(" && c == ")" then return !b.isEmpty
  else testFault command (b ++ ": binary operator expected")

mutual

/-- Alternatives by the rules of the larger shell: the answer, and the arguments that are left. -/
def fullEither (command : String) : Nat → List String → Action (Bool × List String)
  | 0, args => return (false, args)
  | fuel + 1, args => do
    let (a, rest) ← fullBoth command fuel args
    match rest with
    | "-o" :: rest =>
      let (b, rest) ← fullEither command fuel rest
      return (a || b, rest)
    | rest => return (a, rest)

/-- Conjunctions by the rules of the larger shell. -/
def fullBoth (command : String) : Nat → List String → Action (Bool × List String)
  | 0, args => return (false, args)
  | fuel + 1, args => do
    let (a, rest) ← fullTerm command fuel args
    match rest with
    | "-a" :: rest =>
      let (b, rest) ← fullBoth command fuel rest
      return (a && b, rest)
    | rest => return (a, rest)

/-- A single question by the rules of the larger shell. -/
def fullTerm (command : String) : Nat → List String → Action (Bool × List String)
  | 0, args => return (false, args)
  | fuel + 1, args => do
    match args with
    | [] => testFault command "argument expected"
    | "!" :: rest =>
      let (a, rest) ← fullTerm command fuel rest
      return (!a, rest)
    | "(" :: rest =>
      let (a, rest) ← fullEither command fuel rest
      match rest with
      | ")" :: rest => return (a, rest)
      | [] => testFault command "`)' expected"
      | x :: _ => testFault command ("`)' expected, found " ++ x)
    | a :: o :: b :: rest =>
      if (comparisons .bash).contains o then return (← binaryTest command o a b, rest)
      else if looksUnary a then
        if isUnary .bash a then return (← unaryTest command (a.toList.getD 1 ' ') o, b :: rest)
        else testFault command (a ++ ": unary operator expected")
      else return (!a.isEmpty, o :: b :: rest)
    | a :: rest =>
      if looksUnary a then
        if isUnary .bash a then
          match rest with
          | b :: rest => return (← unaryTest command (a.toList.getD 1 ' ') b, rest)
          | [] => testFault command "argument expected"
        else testFault command (a ++ ": unary operator expected")
      else return (!a.isEmpty, rest)

end

/-- The answer to a question by the rules of the larger shell. -/
def fullTest (command : String) (args : List String) : Action Bool := do
  let whole : Action Bool := do
    let (a, rest) ← fullEither command (3 * args.length + 6) args
    match rest with
    | [] => return a
    | x :: _ =>
      if x.startsWith "-" then testFault command ("syntax error: `" ++ x ++ "' unexpected")
      else testFault command "too many arguments"
  match args with
  | [] => return false
  | [a] => return !a.isEmpty
  | [a, b] => twoArguments command a b
  | [a, b, c] => threeArguments command a b c
  | ["!", a, b, c] => return !(← threeArguments command a b c)
  | ["(", a, b, ")"] => twoArguments command a b
  | _ => whole

/-- The command that asks a question; its status is the answer. -/
def testCommand (command : String) (args : List String) : Action Nat := do
  let bash ← isBash
  let args ← if command == "[" then
      if args.getLast? == some "]" then pure args.dropLast
      else testFault command (if bash then "missing `]'" else "missing ]")
    else pure args
  let answer ← if bash then fullTest command args else plainTest (args.length + 1) args
  return if answer then 0 else 1

/-- The regular expression that items stand for; quoted characters stand for themselves. -/
def expressionText (items : List Item) : String :=
  items.foldl (fun acc i => match i with
    | .char c q _ =>
      if q && "\\^$.[]|()*+?\x7b\x7d".toList.contains c then (acc.push '\\').push c else acc.push c
    | .gap => acc.push ' '
    | .mark => acc) ""

/-- The integer that a side of a comparison denotes. -/
def conditionNumber (e : Engine) (text : String) : Action Int := evaluate e "[[: " text

def condition (e : Engine) : Condition → Action Bool
  | .word w => do return !(← textOf e w).isEmpty
  | .not c => do return !(← condition e c)
  | .both a b => do
    if ← condition e a then condition e b else return false
  | .either a b => do
    if ← condition e a then return true else condition e b
  | .unary o w => do
    let operand ← textOf e w
    unaryTest "[[" (o.toList.getD 1 ' ') operand
  | .binary o l r => do
    let left ← textOf e l
    match o with
    | "=" | "==" | "!=" =>
      let rules := { (← patternRules) with alternatives := true }
      let regex := regexOfPattern rules (patternOf (← e.items false r))
      let found := matchesWhole regex (← hasFeature "nocasematch") left
      return found != (o == "!=")
    | "=~" =>
      let text := expressionText (← e.items false r)
      match Regex.read { extended := true } text with
      | .ok regex =>
        let cs := left.toList.toArray
        match regex.search? { text := cs, folded := ← hasFeature "nocasematch" } 0 with
        | some (i, st) =>
          let groups := regex.groupCount
          let texts := (List.range (groups + 1)).map fun k =>
            if k == 0 then sliceOf cs i st.pos
            else match st.groups.lookup k with
              | some (a, b) => sliceOf cs a b
              | none => ""
          putVariable { name := "BASH_REMATCH", value := .indexed ((List.range texts.length).zip
            texts) }
          return true
        | none =>
          putVariable { name := "BASH_REMATCH", value := .indexed [] }
          return false
      | .error _ => throw (.discard 2)
    | "<" => return left < (← textOf e r)
    | ">" => return (← textOf e r) < left
    | "-nt" | "-ot" | "-ef" => binaryTest "[[" o left (← textOf e r)
    | o =>
      let a ← conditionNumber e left
      let b ← conditionNumber e (← textOf e r)
      return match o with
        | "-eq" => a == b
        | "-ne" => a != b
        | "-lt" => a < b
        | "-le" => a ≤ b
        | "-gt" => b < a
        | _ => b ≤ a

end Action

end StudyFlow.Shell
