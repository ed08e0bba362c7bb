import StudyFlow.Shell.Awk.Match

/-!
Programs for records: what they consist of, and how they are read. A program is a list of rules,
each with the records that it is for and what is done with them.
-/

namespace StudyFlow.Shell.Awk

/-- A variable: one of the whole program, or a parameter of the running function. -/
inductive Variable where
  | shared (name : String)
  | own (index : Nat)
  deriving Inhabited, BEq

/-- How two values are compared. -/
inductive Relation where
  | eq
  | ne
  | lt
  | le
  | gt
  | ge
  deriving Inhabited

def Relation.holds : Relation → Ordering → Bool
  | .eq, o => o == .eq
  | .ne, o => o != .eq
  | .lt, o => o == .lt
  | .le, o => o != .gt
  | .gt, o => o == .gt
  | .ge, o => o != .lt

inductive Expr where
  | number (x : Float)
  | text (s : String)
  | regex (source : String) (r : Regex)
  | var (v : Variable)
  | element (v : Variable) (index : List Expr)
  | field (index : Expr)
  | assign (op : Option Char) (target value : Expr)
  | choice (condition yes no : Expr)
  | either (a b : Expr)
  | both (a b : Expr)
  | member (index : List Expr) (v : Variable)
  | matches (negated : Bool) (subject pattern : Expr)
  | compare (r : Relation) (a b : Expr)
  | join (a b : Expr)
  | arith (op : Char) (a b : Expr)
  | negative (a : Expr)
  | positive (a : Expr)
  | not (a : Expr)
  /-- Adds to a variable; the value is the one before or after. -/
  | step (by_ : Float) (after : Bool) (target : Expr)
  | call (function : String) (args : List Expr)
  | builtin (function : String) (args : List Expr)
  /-- The next record of a file or of what a command prints, or of the input. -/
  | getline (source : Option (Bool × Expr)) (target : Option Expr)
  /-- An expression in parentheses. -/
  | group (e : Expr)
  deriving Inhabited

/-- Whether something can be assigned to the expression. -/
def Expr.isTarget : Expr → Bool
  | .var _ | .element _ _ | .field _ => true
  | _ => false

/-- Where printed text goes. -/
inductive Sink where
  | file
  | append
  | command
  deriving Inhabited, DecidableEq

/-- A statement of a program. -/
inductive Stmt where
  | expr (e : Expr)
  | print (args : List Expr) (out : Option (Sink × Expr))
  | printf (args : List Expr) (out : Option (Sink × Expr))
  | block (body : List Stmt)
  | branch (condition : Expr) (yes no : Stmt)
  | while_ (condition : Expr) (body : Stmt)
  | until_ (body : Stmt) (condition : Expr)
  | for_ (first condition next : Option Expr) (body : Stmt)
  | each (v array : Variable) (body : Stmt)
  | break_
  | continue_
  | next
  | nextFile
  | exit (status : Option Expr)
  | return_ (value : Option Expr)
  | delete (v : Variable) (index : Option (List Expr))
  deriving Inhabited

/-- The records that a rule is for. -/
inductive Choice where
  | all
  | when (e : Expr)
  | range (first last : Expr)
  deriving Inhabited

structure Rule where
  choice : Choice
  body : Stmt
  deriving Inhabited

structure Func where
  name : String
  params : List String
  /-- The parameters that are arrays. -/
  arrays : List Nat := []
  body : Stmt := .block []
  deriving Inhabited

structure Program where
  begins : List Stmt := []
  rules : List Rule := []
  ends : List Stmt := []
  functions : List Func := []
  deriving Inhabited

inductive NameKind where
  | scalar
  | array
  | function
  deriving Inhabited, DecidableEq

/-- Where a statement stands. -/
inductive Scope where
  | first
  | main
  | last
  | function
  deriving Inhabited, DecidableEq

/-- What is known while a program is read. -/
structure ReadState where
  tokens : List Placed
  kinds : List (String × NameKind) := []
  /-- The parameters of the function that is read, and what they are known to be. -/
  params : List (String × Option NameKind) := []
  scope : Scope := .main
  loops : Nat := 0
  /-- The functions that are called, latest first. -/
  called : List String := []
  /-- The calls of functions: the caller's name, the function, the arguments that are bare names,
  the line. -/
  calls : List (String × String × List (Option Variable) × Nat) := []
  inside : String := ""
  wrong : List (Nat × String) := []
  /-- Parentheses that a fault has left open. -/
  forgiven : Nat := 0
  defined : List Func := []

/-- Reading a program; it stops where a word does not fit. -/
abbrev Read := StateT ReadState (Except Placed)

namespace Read

def peek : Read Placed := return ((← get).tokens.head?).getD ⟨.finished, 1, 0, 0⟩

def peekSecond : Read Token :=
  return (((← get).tokens.drop 1).head?.map Placed.token).getD .finished

def advance : Read Unit := modify fun s => { s with tokens := s.tokens.drop 1 }

/-- The next word does not fit. -/
def misfit {α : Type} : Read α := do throw (← peek)

def atMark (m : String) : Read Bool := do
  match (← peek).token with
  | .mark n => return n == m
  | _ => return false

def atKeyword (k : String) : Read Bool := do
  match (← peek).token with
  | .keyword n => return n == k
  | _ => return false

def acceptMark (m : String) : Read Bool := do
  if ← atMark m then
    advance
    return true
  else return false

def expectMark (m : String) : Read Unit := do
  if !(← acceptMark m) then misfit

def note (text : String) : Read Unit := do
  let line := (← peek).line
  modify fun s => { s with wrong := s.wrong ++ [(line, text)] }

def skipNewlines : Read Unit := do
  match (← peek).token with
  | .newline => advance
  | _ => pure ()

def param? (name : String) : Read (Option Nat) := do
  let params := (← get).params
  return ((List.range params.length).zip params).findSome? fun p =>
    if p.2.1 == name then some p.1 else none

def useAs (name : String) (kind : NameKind) : Read Variable := do
  match ← param? name with
  | some i =>
    let known := ((← get).params[i]?).bind Prod.snd
    match known with
    | none => modify fun s => { s with params := s.params.modify i fun p => (p.1, some kind) }
    | some k =>
      if k != kind then
        note ("illegal reference to local " ++
          (if k == .array then "array " else "variable ") ++ name)
    return .own i
  | none =>
    match (← get).kinds.lookup name with
    | none => modify fun s => { s with kinds := (name, kind) :: s.kinds }
    | some k =>
      if k != kind then
        let word := match k with
          | .array => "array "
          | .function => "function "
          | .scalar => "variable "
        note ("illegal reference to " ++ word ++ name)
    return .shared name

/-- An expression from a text between slashes or quotes. -/
def pattern (source : String) : Read Expr := do
  match readPattern source with
  | .ok r => return .regex source r
  | .error f =>
    note ("regular expression compile failed (" ++ f.message ++ ")\n" ++ source)
    return .regex source .empty

/-- A text that is used as an expression is read at once. -/
def asPattern (e : Expr) : Read Expr := do
  match e with
  | .text s => pattern s
  | e => return e

/-- The marks that assign, with what they do before. -/
def assignMarks : List (String × Option Char) :=
  [("=", none), ("+=", some '+'), ("-=", some '-'), ("*=", some '*'), ("/=", some '/'),
   ("%=", some '%'), ("^=", some '^')]

def relationMarks : List (String × Relation) :=
  [("==", .eq), ("!=", .ne), ("<", .lt), ("<=", .le), (">", .gt), (">=", .ge)]

/-- Whether a word starts an operand that may follow another one. -/
def startsOperand : Token → Bool
  | .number _ _ | .text _ | .regex _ | .name _ _ | .builtin _ => true
  | .mark m => m == "$" || m == "!" || m == "(" || m == "++" || m == "--" || m == "-" || m == "+"
  | _ => false

/-- Whether a word starts something that can be assigned to. -/
def startsTarget : Token → Bool
  | .name _ _ => true
  | .mark m => m == "$"
  | _ => false

mutual

/-- Reads an expression. The flag says whether a greater-than sign compares. -/
def expr (fuel : Nat) (compares : Bool) : Read Expr :=
  match fuel with
  | 0 => misfit
  | fuel + 1 => do
    let c ← level fuel 0 compares
    if ← acceptMark "?" then
      let a ← expr fuel compares
      expectMark ":"
      let b ← expr fuel compares
      return .choice c a b
    else return c

/-- Reads operators that bind at least so tightly: alternatives, conjunctions, members, matches,
relations. -/
def level (fuel n : Nat) (compares : Bool) : Read Expr :=
  match fuel with
  | 0 => misfit
  | fuel + 1 => do
    if n ≥ 5 then operand fuel compares
    else
      let mut e ← level fuel (n + 1) compares
      let bound := (← get).tokens.length
      for _ in [0:bound] do
        match n, (← peek).token with
        | 0, .mark "||" =>
          advance
          e := .either e (← level fuel 1 compares)
        | 1, .mark "&&" =>
          advance
          e := .both e (← level fuel 2 compares)
        | 2, .keyword "in" =>
          advance
          match (← peek).token with
          | .name s _ =>
            advance
            e := .member [e] (← useAs s .array)
          | _ => misfit
        | 3, .mark "~" =>
          advance
          e := .matches false e (← asPattern (← level fuel 4 compares))
        | 3, .mark "!~" =>
          advance
          e := .matches true e (← asPattern (← level fuel 4 compares))
        | 4, .mark m =>
          match relationMarks.lookup m with
          | some r =>
            if m == ">" && !compares then break
            advance
            e := .compare r e (← level fuel 5 compares)
          | none => break
        | _, _ => break
      return e

def operand (fuel : Nat) (compares : Bool) : Read Expr :=
  match fuel with
  | 0 => misfit
  | fuel + 1 => do
    let e ← joined fuel
    match (← peek).token with
    | .mark m =>
      match assignMarks.lookup m with
      | some op =>
        if e.isTarget then
          advance
          return .assign op e (← expr fuel compares)
        else return e
      | none => return e
    | _ => return e

/-- Reads operands that are put together. -/
def joined (fuel : Nat) : Read Expr :=
  match fuel with
  | 0 => misfit
  | fuel + 1 => do
    let mut e ← sum fuel
    let bound := (← get).tokens.length
    for _ in [0:bound] do
      if startsOperand (← peek).token then e := .join e (← sum fuel) else break
    return e

def sum (fuel : Nat) : Read Expr :=
  match fuel with
  | 0 => misfit
  | fuel + 1 => do
    let mut e ← product fuel
    let bound := (← get).tokens.length
    for _ in [0:bound] do
      if ← acceptMark "+" then e := .arith '+' e (← product fuel)
      else if ← acceptMark "-" then e := .arith '-' e (← product fuel)
      else break
    return e

def product (fuel : Nat) : Read Expr :=
  match fuel with
  | 0 => misfit
  | fuel + 1 => do
    let mut e ← signed fuel
    let bound := (← get).tokens.length
    for _ in [0:bound] do
      if ← acceptMark "*" then e := .arith '*' e (← signed fuel)
      else if ← acceptMark "/" then e := .arith '/' e (← signed fuel)
      else if ← acceptMark "%" then e := .arith '%' e (← signed fuel)
      else break
    return e

def signed (fuel : Nat) : Read Expr :=
  match fuel with
  | 0 => misfit
  | fuel + 1 => do
    if ← acceptMark "!" then return .not (← signed fuel)
    else if ← acceptMark "-" then return .negative (← signed fuel)
    else if ← acceptMark "+" then return .positive (← signed fuel)
    else
      let mut e ← power fuel
      let bound := (← get).tokens.length
      for _ in [0:bound] do
        let isGet := match ← peekSecond with
          | .keyword "getline" => true
          | _ => false
        if isGet && (← atMark "|") then
          advance
          advance
          e := .getline (some (true, e)) (← target? fuel)
        else break
      return e

def power (fuel : Nat) : Read Expr :=
  match fuel with
  | 0 => misfit
  | fuel + 1 => do
    let e ← stepped fuel
    if ← acceptMark "^" then
      let isSign := (← atMark "-") || (← atMark "+") || (← atMark "!")
      let f ← if isSign then signed fuel else power fuel
      return .arith '^' e f
    else return e

/-- Reads an operand and what is added to it afterwards. -/
def stepped (fuel : Nat) : Read Expr :=
  match fuel with
  | 0 => misfit
  | fuel + 1 => do
    let e ← primary fuel
    if e.isTarget then
      if ← acceptMark "++" then return .step 1 false e
      else if ← acceptMark "--" then return .step (-1) false e
      else return e
    else return e

/-- Reads what a record is to be put into, if there is something. -/
def target? (fuel : Nat) : Read (Option Expr) :=
  match fuel with
  | 0 => misfit
  | fuel + 1 => do
    if startsTarget (← peek).token then
      let e ← primary fuel
      if e.isTarget then return some e else misfit
    else return none

def list (fuel : Nat) (close : String) : Read (List Expr) :=
  match fuel with
  | 0 => misfit
  | fuel + 1 => do
    let e ← expr fuel true
    if ← acceptMark "," then return e :: (← list fuel close)
    else
      expectMark close
      return [e]

/-- Reads the arguments of a function; bare names are not used in any way by that. -/
def arguments (fuel : Nat) : Read (List Expr) :=
  match fuel with
  | 0 => misfit
  | fuel + 1 => do
    let ends ← match ← peekSecond with
      | .mark m => pure (m == "," || m == ")")
      | _ => pure false
    let bare : Option String ← match (← peek).token with
      | .name s _ =>
        let known ← match ← param? s with
          | some _ => pure true
          | none => pure ((← get).kinds.lookup s != some .function)
        pure (if ends && known then some s else none)
      | _ => pure none
    let e ← match bare with
      | some s => do
        advance
        match ← param? s with
        | some i => pure (Expr.var (.own i))
        | none => pure (Expr.var (.shared s))
      | none => expr fuel true
    if ← acceptMark "," then return e :: (← arguments fuel)
    else
      expectMark ")"
      return [e]

def fieldIndex (fuel : Nat) : Read Expr :=
  match fuel with
  | 0 => misfit
  | fuel + 1 => do
    if ← acceptMark "-" then return .negative (← fieldIndex fuel)
    else if ← acceptMark "+" then return .positive (← fieldIndex fuel)
    else if ← acceptMark "!" then return .not (← fieldIndex fuel)
    else
      let e ← primary fuel
      match e with
      | .var (.shared n) =>
        if ["NF", "FS", "RS", "CONVFMT", "OFMT"].contains n then
          if ← acceptMark "++" then return .step 1 false e
          else if ← acceptMark "--" then return .step (-1) false e
          else return e
        else return e
      | e => return e

def primary (fuel : Nat) : Read Expr :=
  match fuel with
  | 0 => misfit
  | fuel + 1 => do
    let here ← peek
    match here.token with
    | .number x _ =>
      advance
      return .number x
    | .text s =>
      advance
      return .text s
    | .regex s =>
      advance
      pattern s
    | .mark "$" =>
      advance
      return .field (← fieldIndex fuel)
    | .mark "++" =>
      advance
      let e ← primary fuel
      if e.isTarget then return .step 1 true e else misfit
    | .mark "--" =>
      advance
      let e ← primary fuel
      if e.isTarget then return .step (-1) true e else misfit
    | .mark "(" =>
      advance
      let e ← expr fuel true
      if ← acceptMark "," then
        let es ← list fuel ")"
        if !(← atKeyword "in") then misfit
        advance
        match (← peek).token with
        | .name s _ =>
          advance
          return .member (e :: es) (← useAs s .array)
        | _ => misfit
      else
        expectMark ")"
        return .group e
    | .mark "-" | .mark "+" | .mark "!" => signed fuel
    | .keyword "getline" =>
      advance
      let target ← target? fuel
      if ← acceptMark "<" then
        return .getline (some (false, ← power fuel)) target
      else return .getline none target
    | .builtin s =>
      advance
      builtin fuel s
    | .name s calls =>
      let local_ := (← param? s).isSome
      let kind := (← get).kinds.lookup s
      if !local_ && (kind == some .function || (kind.isNone && calls)) then
        advance
        if kind.isNone then modify fun st => { st with kinds := (s, .function) :: st.kinds }
        modify fun st => { st with called := if st.called.contains s then st.called else
          s :: st.called }
        expectMark "("
        let args ← if ← acceptMark ")" then pure [] else arguments fuel
        let bare := args.map fun a => match a with
          | .var v => some v
          | _ => none
        modify fun st => { st with calls := (st.inside, s, bare, here.line) :: st.calls }
        return .call s args
      else
        advance
        if ← acceptMark "[" then
          let v ← useAs s .array
          return .element v (← list fuel "]")
        else return .var (← useAs s .scalar)
    | _ => misfit

/-- Reads the call of a function that is there from the start. -/
def builtin (fuel : Nat) (name : String) : Read Expr :=
  match fuel with
  | 0 => misfit
  | fuel + 1 => do
    let check (n : Nat) : Read Unit := do
      match Token.builtins.lookup name with
      | some (least, most) =>
        if n < least || most < n then note ("wrong number of arguments in call to " ++ name)
      | none => pure ()
    match name with
    | "length" =>
      if ← acceptMark "(" then
        if ← acceptMark ")" then return .builtin name []
        let isArray ← match (← peek).token, ← peekSecond with
          | .name s _, .mark ")" =>
            match ← param? s with
            | some i => pure (((← get).params[i]?).bind Prod.snd != some .scalar)
            | none => pure (((← get).kinds.lookup s).all (· == .array))
          | _, _ => pure false
        if isArray then
          match (← peek).token with
          | .name s _ =>
            advance
            advance
            match ← param? s with
            | some i => return .builtin name [.var (.own i)]
            | none => return .builtin name [.var (.shared s)]
          | _ => misfit
        else
          let e ← expr fuel true
          expectMark ")"
          return .builtin name [e]
      else return .builtin name []
    | "split" =>
      expectMark "("
      let s ← expr fuel true
      expectMark ","
      match (← peek).token with
      | .name a _ =>
        advance
        let v ← useAs a .array
        if ← acceptMark ")" then return .builtin name [s, .var v]
        expectMark ","
        let sep ← expr fuel true
        expectMark ")"
        return .builtin name [s, .var v, sep]
      | _ => misfit
    | "match" =>
      expectMark "("
      let s ← expr fuel true
      expectMark ","
      let r ← asPattern (← expr fuel true)
      expectMark ")"
      return .builtin name [s, r]
    | "sub" | "gsub" =>
      expectMark "("
      let r ← asPattern (← expr fuel true)
      expectMark ","
      let t ← expr fuel true
      if ← acceptMark ")" then return .builtin name [r, t]
      expectMark ","
      let here ← peek
      let e ← primary fuel
      if !e.isTarget then throw here
      expectMark ")"
      return .builtin name [r, t, e]
    | _ =>
      expectMark "("
      let args ← if ← acceptMark ")" then pure [] else list fuel ")"
      check args.length
      return .builtin name args

end

/-- Whether a statement is over here. -/
def atEnd : Token → Bool
  | .newline | .finished => true
  | .mark m => m == ";" || m == "\x7d"
  | _ => false

/-- Reads the end of a statement. A closing brace ends it as well and is left. -/
def terminator : Read Unit := do
  match (← peek).token with
  | .newline => advance
  | .mark ";" => advance
  | .mark "\x7d" => pure ()
  | .mark "|" =>
    advance
    misfit
  | _ => misfit

def sink (fuel : Nat) : Read (Option (Sink × Expr)) := do
  if ← acceptMark ">" then return some (.file, ← expr fuel true)
  else if ← acceptMark ">>" then return some (.append, ← expr fuel true)
  else if ← acceptMark "|" then return some (.command, ← expr fuel true)
  else return none

/-- Reads expressions between commas. -/
def plainList (fuel : Nat) : Nat → Read (List Expr)
  | 0 => misfit
  | n + 1 => do
    let e ← expr fuel false
    if ← acceptMark "," then return e :: (← plainList fuel n) else return [e]

/-- Reads what is printed. All of it may stand in parentheses. -/
def printed (fuel : Nat) : Read (List Expr) := do
  let atEnd : Token → Bool
    | .mark m => m == ">" || m == ">>" || m == "|" || m == ";" || m == "\x7d"
    | .newline | .finished => true
    | _ => false
  if atEnd (← peek).token then return []
  let whole : Option (List Expr) ← if ← atMark "(" then
      let saved ← get
      let found : Option (List Expr) ← try
          advance
          let es ← list fuel ")"
          if atEnd (← peek).token then pure (some es) else pure none
        catch _ => pure none
      if found.isNone then set saved
      pure found
    else pure none
  match whole with
  | some es => return es
  | none => plainList fuel ((← get).tokens.length + 1)

mutual

def statement (fuel : Nat) : Read Stmt :=
  match fuel with
  | 0 => misfit
  | fuel + 1 => do
    let loopBody : Read Stmt := do
      modify fun s => { s with loops := s.loops + 1 }
      let b ← statement fuel
      modify fun s => { s with loops := s.loops - 1 }
      return b
    let condition : Read Expr := do
      expectMark "("
      let c ← expr fuel true
      expectMark ")"
      return c
    let optional : Read (Option Expr) := do
      if atEnd (← peek).token then return none else return some (← expr fuel true)
    match (← peek).token with
    | .mark "\x7b" => return .block (← block fuel)
    | .mark ";" | .newline =>
      advance
      return .block []
    | .mark "\x7d" => return .block []
    | .keyword "if" =>
      advance
      let c ← condition
      skipNewlines
      let yes ← statement fuel
      if ← atKeyword "else" then
        advance
        return .branch c yes (← statement fuel)
      else return .branch c yes (.block [])
    | .keyword "while" =>
      advance
      let c ← condition
      skipNewlines
      return .while_ c (← loopBody)
    | .keyword "do" =>
      advance
      let b ← loopBody
      if !(← atKeyword "while") then misfit
      advance
      let c ← condition
      terminator
      return .until_ b c
    | .keyword "for" =>
      advance
      expectMark "("
      let loopNames : Option (String × String) := match (← get).tokens with
        | ⟨.name k _, _, _, _⟩ :: ⟨.keyword "in", _, _, _⟩ :: ⟨.name a _, _, _, _⟩ ::
          ⟨.mark ")", _, _, _⟩ :: _ =>
          some (k, a)
        | _ => none
      match loopNames with
      | some (k, a) =>
        for _ in [0:4] do advance
        let v ← useAs k .scalar
        let w ← useAs a .array
        skipNewlines
        return .each v w (← loopBody)
      | none =>
        let first ← if ← atMark ";" then pure none else pure (some (← expr fuel true))
        expectMark ";"
        let c ← if ← atMark ";" then pure none else pure (some (← expr fuel true))
        expectMark ";"
        let n ← if ← atMark ")" then pure none else pure (some (← expr fuel true))
        expectMark ")"
        skipNewlines
        return .for_ first c n (← loopBody)
    | .keyword "break" =>
      advance
      terminator
      if (← get).loops == 0 then note "break statement outside of loop"
      return .break_
    | .keyword "continue" =>
      advance
      terminator
      if (← get).loops == 0 then note "continue statement outside of loop"
      return .continue_
    | .keyword "next" =>
      advance
      if (← get).scope != .main then note "improper use of next"
      terminator
      return .next
    | .keyword "nextfile" =>
      advance
      if (← get).scope != .main then note "improper use of nextfile"
      terminator
      return .nextFile
    | .keyword "exit" =>
      advance
      let e ← optional
      terminator
      return .exit e
    | .keyword "return" =>
      advance
      if (← get).scope != .function then note "return outside function body"
      let e ← optional
      terminator
      return .return_ e
    | .keyword "delete" =>
      advance
      match (← peek).token with
      | .name s _ =>
        advance
        if ← acceptMark "[" then
          let v ← useAs s .array
          let index ← list fuel "]"
          terminator
          return .delete v (some index)
        else
          let v ← useAs s .array
          terminator
          return .delete v none
      | _ => misfit
    | .keyword "print" =>
      advance
      let es ← printed fuel
      let out ← sink fuel
      terminator
      return .print es out
    | .keyword "printf" =>
      advance
      let es ← printed fuel
      if es.isEmpty then note "no arguments in call to printf"
      let out ← sink fuel
      terminator
      return .printf es out
    | _ =>
      let e ← expr fuel true
      terminator
      return .expr e

/-- Reads statements between braces. -/
def block (fuel : Nat) : Read (List Stmt) :=
  match fuel with
  | 0 => misfit
  | fuel + 1 => do
    expectMark "\x7b"
    let mut out := #[]
    let bound := (← get).tokens.length
    for _ in [0:bound + 1] do
      if ← acceptMark "\x7d" then return out.toList
      if let .finished := (← peek).token then misfit
      out := out.push (← statement fuel)
    misfit

end

/-- The complaint about a word that does not fit. -/
def complaint (forgiven : Nat) (p : Placed) : String :=
  let closes : Bool := match p.token with
    | .finished | .newline => true
    | .mark m => m == ";" || m == "\x7d"
    | _ => false
  let leaves : Bool := match p.token with
    | .finished => true
    | .keyword k => k == "BEGIN" || k == "END"
    | _ => false
  if forgiven < p.parens && closes then "missing ) near " ++ p.token.shown
  else if p.braces > 0 && leaves then "missing \x7d near " ++ p.token.shown
  else "syntax error at or near " ++ p.token.shown

/-- Reads statements between braces at the outermost level; a fault in them leaves them out. -/
def body (fuel : Nat) : Read Stmt := do
  let saved ← get
  let found ← try
      pure (Except.ok (← block fuel))
    catch p => pure (Except.error p)
  match found with
  | .ok b => return .block b
  | .error p =>
    match p.token with
    | .broken _ _ => throw p
    | _ => pure ()
    -- What was read stays read up to the fault; the rest of the braces is left out.
    let after := saved.tokens.dropWhile fun q => !(q.line == p.line && q.parens == p.parens &&
      q.braces == p.braces && q.token.shown == p.token.shown)
    let ended : Placed → Bool := fun q => match q.token with
      | .mark "\x7d" => q.braces == 0
      | .finished | .broken _ _ => true
      | _ => false
    let opens : Bool := match p.token with
      | .keyword k => k == "BEGIN" || k == "END"
      | _ => false
    let rest := if opens then after else after.dropWhile fun q => !ended q
    let text := complaint saved.forgiven p
    modify fun s => { s with
      tokens := match rest with
        | q :: more => match q.token with
          | .mark _ => more
          | _ => q :: more
        | [] => []
      wrong := s.wrong ++ [(p.line, text)]
      forgiven := p.parens }
    match rest with
    | q :: _ =>
      match q.token, p.token with
      | .finished, .finished => pure ()
      | .finished, _ =>
        if q.braces > 0 then
          modify fun s => { s with wrong := s.wrong ++ [(q.line, "missing \x7d near end of file")] }
      | .broken _ _, _ => throw q
      | _, _ => pure ()
    | [] => pure ()
    return .block []

def parameters : Nat → Read (List String)
  | 0 => misfit
  | n + 1 => do
    match (← peek).token with
    | .name s _ =>
      advance
      if ← acceptMark "," then return s :: (← parameters n)
      else
        expectMark ")"
        return [s]
    | _ => misfit

def func (fuel : Nat) : Read Unit := do
  advance
  match (← peek).token with
  | .name s _ =>
    advance
    match (← get).kinds.lookup s with
    | none => modify fun st => { st with kinds := (s, .function) :: st.kinds }
    | some .function =>
      if (← get).defined.any fun f => f.name == s then note ("redefinition of " ++ s)
    | some .scalar => note ("illegal reference to variable " ++ s)
    | some .array => note ("illegal reference to array " ++ s)
    expectMark "("
    let params ← if ← acceptMark ")" then pure [] else parameters ((← get).tokens.length + 1)
    skipNewlines
    let twice := ((List.range params.length).zip params).find? fun p =>
      (params.take p.1).contains p.2
    match twice with
    | some (_, p) => note (p ++ " is duplicated in argument list")
    | none => pure ()
    modify fun st =>
      { st with params := params.map (·, none), scope := .function, inside := s, loops := 0 }
    let b ← body fuel
    let st ← get
    let arrays := ((List.range params.length).zip st.params).filterMap fun p =>
      if p.2.2 == some .array then some p.1 else none
    modify fun st => { st with
      params := [], scope := .main, inside := "", loops := 0
      defined := st.defined ++ [{ name := s, params := params, arrays := arrays, body := b }] }
  | _ => misfit

/-- Reads a whole program. -/
def program (fuel : Nat) : Nat → Program → Read Program
  | 0, p => return p
  | n + 1, p => do
    let enter (s : Scope) : Read Unit := modify fun st => { st with scope := s, loops := 0 }
    match (← peek).token with
    | .finished => return p
    | .keyword "BEGIN" =>
      advance
      if !(← atMark "\x7b") then misfit
      enter .first
      let b ← body fuel
      program fuel n { p with begins := p.begins ++ [b] }
    | .keyword "END" =>
      advance
      if !(← atMark "\x7b") then misfit
      enter .last
      let b ← body fuel
      program fuel n { p with ends := p.ends ++ [b] }
    | .keyword "function" =>
      func fuel
      program fuel n p
    | .mark "\x7b" =>
      enter .main
      let b ← body fuel
      program fuel n { p with rules := p.rules ++ [⟨.all, b⟩] }
    | _ =>
      enter .main
      let e ← expr fuel true
      let choice ← if ← acceptMark "," then pure (Choice.range e (← expr fuel true)) else
        pure (Choice.when e)
      if ← atMark "\x7b" then
        let b ← body fuel
        program fuel n { p with rules := p.rules ++ [⟨choice, b⟩] }
      else
        match (← peek).token with
        | .newline | .mark ";" => advance
        | _ => misfit
        program fuel n { p with rules := p.rules ++ [⟨choice, .print [] none⟩] }

end Read

/-- Which parameters are arrays because they are handed on as such. -/
def spreadArrays (calls : List (String × String × List (Option Variable) × Nat)) :
    Nat → List Func → List Func
  | 0, fs => fs
  | n + 1, fs =>
    let next := fs.map fun f =>
      let more : List Nat := calls.flatMap fun (caller, callee, args, _) =>
        if caller != f.name then []
        else
          let wanted := ((fs.find? fun g => g.name == callee).map Func.arrays).getD []
          wanted.filterMap fun i => match args[i]? with
            | some (some (Variable.own j)) => if f.arrays.contains j then none else some j
            | _ => none
      { f with arrays := (f.arrays ++ more).eraseDups }
    spreadArrays calls n next

def givenNames : List (String × NameKind) :=
  (["NF", "NR", "FNR", "FS", "OFS", "RS", "ORS", "SUBSEP", "FILENAME", "RSTART", "RLENGTH",
      "CONVFMT", "OFMT", "ARGC"].map (·, .scalar)) ++ [("ARGV", .array), ("ENVIRON", .array)]

/-- Faults in a program, as they are complained about: the line, if it is told, and the text. -/
abbrev ProgramFault := List (Option Nat × String)

def Program.parse (text : String) : Except ProgramFault Program :=
  let (tokens, extra) := Token.scan text
  let start : ReadState := { tokens := tokens.toList, kinds := givenNames, wrong := extra }
  let fuel := 24 * tokens.size + 64
  let broken (notes : List (Nat × String)) (p : Placed) : ProgramFault :=
    notes.map (fun n => (some n.1, n.2)) ++ [match p.token with
      | .broken text tells => (if tells then some p.line else none,
          if tells then text else p.line.repr ++ ": " ++ text)
      | _ => (some p.line, Read.complaint 0 p)]
  match (Read.program fuel (tokens.size + 1) {}).run start with
  | .error p => .error (broken extra p)
  | .ok (p, st) =>
    let last := ((tokens.back?).map Placed.line).getD 1
    let undefined := st.called.filter fun f => !(st.defined.any fun g => g.name == f)
    let functions := spreadArrays st.calls (st.defined.length + 1) st.defined
    let kindOf (caller : String) (v : Variable) : Option NameKind := match v with
      | .shared n => st.kinds.lookup n
      | .own i => ((functions.find? fun f => f.name == caller).map fun f =>
          if f.arrays.contains i then NameKind.array else .scalar)
    let illTyped := st.calls.reverse.filterMap fun (caller, callee, args, line) =>
      match functions.find? fun f => f.name == callee with
      | none => none
      | some f =>
        if f.params.length < args.length then
          some (line, "too many arguments in call to " ++ callee)
        else ((List.range args.length).zip args).findSome? fun (i, a) =>
          let text (actual wanted : String) : Option (Nat × String) :=
            some (line, "type error in arg(" ++ (i + 1).repr ++ ") in call to " ++ callee ++
              " (actual local " ++ actual ++ " vs local " ++ wanted ++ ")")
          let actual : Option NameKind := match a with
            | none => some .scalar
            | some v => kindOf caller v
          match f.arrays.contains i, a, actual with
          | true, some (.own _), _ => none
          | true, _, some .scalar => text "variable" "array"
          | false, some (.shared _), some .array => text "array" "variable"
          | _, _, _ => none
    let faults := st.wrong ++ illTyped
    let wrong :=
      if faults.isEmpty then
        undefined.map fun f => (last, "function " ++ f ++ " never defined")
      else faults
    if wrong.isEmpty then .ok { p with functions := functions }
    else .error (wrong.map fun n => (some n.1, n.2))

end StudyFlow.Shell.Awk
