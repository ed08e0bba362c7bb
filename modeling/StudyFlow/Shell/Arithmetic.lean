import StudyFlow.Shell.Format
import StudyFlow.Shell.Machine

/-!
Arithmetic expressions on signed words of 64 bits. They are read into a tree first, and then
evaluated with the variables of the process.
-/

namespace StudyFlow.Shell

/-- Why an expression is none, or has no value. -/
inductive SumFlaw where
  | operand
  | trailing
  | unclosed
  | colon
  | emptyBranch
  | division
  | base
  | digit
  | exponent
  | target
  deriving DecidableEq, Inhabited

/-- A flaw and the text of the expression from where it was met. -/
structure SumFault where
  flaw : SumFlaw
  token : String
  deriving Inhabited

inductive SumTokenKind where
  | number (n : Int)
  | name (name : String) (index : Option String)
  | operator (text : String)
  | flawed (flaw : SumFlaw)
  deriving Inhabited, DecidableEq

/-- A token of an expression, the text from it on, and the text after it. -/
structure SumToken where
  kind : SumTokenKind
  text : String
  after : String
  deriving Inhabited

/-- An expression. -/
inductive Sum where
  | number (n : Int)
  | name (name : String) (index : Option String)
  | unary (operator : Char) (body : Sum)
  /-- The text is where the right operand starts. -/
  | binary (operator : String) (left right : Sum) (token : String)
  | choose (condition first second : Sum)
  | assign (name : String) (index : Option String) (operator : String) (value : Sum)
    (token : String)
  /-- Changes a variable by one; the value is that before or that after. -/
  | step (name : String) (index : Option String) (earlier : Bool) (amount : Int)
  deriving Inhabited

namespace Sum

attribute [local instance (high)] instPowNat

/-- The operators of two or more characters, the longer ones first. -/
def longOperators : Dialect → List String
  | .dash => ["<<=", ">>=", "<<", ">>", "<=", ">=", "==", "!=", "&&", "||", "+=", "-=", "*=", "/=",
      "%=", "&=", "^=", "|="]
  | .bash => ["<<=", ">>=", "<<", ">>", "<=", ">=", "==", "!=", "&&", "||", "**", "+=", "-=", "*=",
      "/=", "%=", "&=", "^=", "|="]

def digitOf (base : Nat) (c : Char) : Nat :=
  if c.isDigit then c.toNat - 48
  else if 'a' ≤ c && c ≤ 'z' then c.toNat - 87
  else if 'A' ≤ c && c ≤ 'Z' then if base ≤ 36 then c.toNat - 55 else c.toNat - 29
  else if c == '@' then 62
  else if c == '_' then 63
  else 99

/-- A numeral by the rules of the larger shell. -/
def bashNumeral (text : List Char) : SumTokenKind :=
  let inBase (base : Nat) (ds : List Char) : SumTokenKind :=
    if ds.all fun c => digitOf base c < base then
      .number (wrapWord ((ds.foldl (fun (n : Nat) c => n * base + digitOf base c) 0 : Nat) : Int))
    else .flawed .digit
  match text with
  | '0' :: x :: ds =>
    if x == 'x' || x == 'X' then inBase 16 ds
    else if text.contains '#' then .flawed .base
    else inBase 8 (x :: ds)
  | ds =>
    match indexOf? ['#'] ds with
    | some i =>
      let base := decimalOf (String.ofList (ds.take i))
      if base < 2 || 64 < base then .flawed .base
      else if (ds.drop (i + 1)).isEmpty then .flawed .base
      else inBase base (ds.drop (i + 1))
    | none => inBase 10 ds

/-- The index in brackets at the front of a text, and what follows. -/
def indexAhead (cs : List Char) : Nat → List Char → Option (List Char × List Char)
  | depth, acc => match cs with
    | [] => none
    | c :: rest =>
      if c == '[' then indexAhead rest (depth + 1) (c :: acc)
      else if c == ']' then
        if depth == 0 then some (acc.reverse, rest) else indexAhead rest (depth - 1) (c :: acc)
      else indexAhead rest depth (c :: acc)
termination_by structural cs

def tokens (d : Dialect) : Nat → Option SumTokenKind → List Char → List SumToken
  | 0, _, _ => []
  | fuel + 1, last, cs =>
    let cs := cs.dropWhile isBlankOctet
    let add (kind : SumTokenKind) (rest : List Char) : List SumToken :=
      ⟨kind, String.ofList cs, String.ofList (rest.dropWhile isBlankOctet)⟩ ::
        tokens d fuel (some kind) rest
    match cs with
    | [] => []
    | c :: rest =>
      if c.isDigit then
        if d == .bash then
          let ds := cs.takeWhile fun c => c.isAlphanum || c == '_' || c == '@' || c == '#'
          add (bashNumeral ds) (cs.drop ds.length)
        else match readInteger cs with
          | some (n, rest) => add (.number (min n maxWord)) rest
          | none => add (.number 0) rest
      else if isNameStart c then
        let name := cs.takeWhile isNameChar
        let rest := cs.drop name.length
        match d, rest with
        | .bash, '[' :: inner =>
          match indexAhead inner 0 [] with
          | some (index, rest) => add (.name (String.ofList name) (some (String.ofList index))) rest
          | none => add (.name (String.ofList name) none) rest
        | _, _ => add (.name (String.ofList name) none) rest
      else
        let isName := match last with
          | some (.name _ _) => true
          | _ => false
        let double := d == .bash && (c == '+' || c == '-') && rest.head? == some c &&
          (isName || ((rest.drop 1).dropWhile isBlankOctet).head?.map isNameStart == some true)
        if double then add (.operator (String.ofList [c, c])) (rest.drop 1)
        else match (longOperators d).find? fun o => o.toList.isPrefixOf cs with
          | some o => add (.operator o) (cs.drop o.length)
          | none =>
            if "+-*/%<>=!~&|^?:()".toList.contains c || (d == .bash && c == ',') then
              add (.operator (String.singleton c)) rest
            else add (.flawed .operand) rest

/-- The state of reading: the tokens left and the last one that was taken. -/
structure Reading where
  rest : List SumToken
  last : String := ""
  deriving Inhabited

/-- A step of reading an expression. -/
abbrev Read := StateT Reading (Except SumFault)

/-- Complains about the token where reading stands. -/
def refuse {α : Type} (flaw : SumFlaw) : Read α := do
  let s ← get
  match s.rest with
  | t :: _ => throw ⟨flaw, t.text⟩
  | [] => throw ⟨flaw, s.last⟩

def current : Read (Option SumToken) := return (← get).rest.head?

/-- The operator that comes next, or nothing. -/
def currentOperator : Read String := do
  match ← current with
  | some t => match t.kind with
    | .operator o => return o
    | _ => return ""
  | none => return ""

def take : Read Unit := modify fun s => match s.rest with
  | t :: rest => { rest := rest, last := t.text }
  | [] => s

def assigning : List String := ["=", "+=", "-=", "*=", "/=", "%=", "<<=", ">>=", "&=", "^=", "|="]

/-- The operators of each level, the loosest first. -/
def levels : List (List String) :=
  [["||"], ["&&"], ["|"], ["^"], ["&"], ["==", "!="], ["<=", ">=", "<", ">"], ["<<", ">>"],
   ["+", "-"], ["*", "/", "%"]]

def readLevels (operand : Read Sum) : List (List String) → Read Sum
  | [] => operand
  | ops :: tighter => do
    let mut left ← readLevels operand tighter
    for _ in [0:(← get).rest.length + 1] do
      let o ← currentOperator
      if ops.contains o then
        let token := ((← current).map SumToken.after).getD ""
        take
        left := .binary o left (← readLevels operand tighter) token
      else break
    return left

def readUnary (whole : Read Sum) : Nat → Read Sum
  | 0 => refuse .operand
  | fuel + 1 => do
    match ← current with
    | some t =>
      match t.kind with
      | .number n =>
        take
        return .number n
      | .name v index =>
        take
        let o ← currentOperator
        if o == "++" || o == "--" then
          take
          return .step v index true (if o == "++" then 1 else -1)
        else return .name v index
      | .operator "(" =>
        take
        let e ← whole
        if (← currentOperator) == ")" then
          take
          return e
        else refuse .unclosed
      | .operator o =>
        if o == "++" || o == "--" then
          take
          match ← current with
          | some ⟨.name v index, _, _⟩ =>
            take
            return .step v index false (if o == "++" then 1 else -1)
          | _ => refuse .operand
        else if o == "!" || o == "~" || o == "-" || o == "+" then
          take
          return .unary (o.toList.head?.getD '+') (← readUnary whole fuel)
        else refuse .operand
      | .flawed f => refuse f
    | none => refuse .operand

/-- Reads an operand with its powers, which group to the right. -/
def readPower (whole : Read Sum) : Nat → Read Sum
  | 0 => refuse .operand
  | fuel + 1 => do
    let base ← readUnary whole ((← get).rest.length + 1)
    if (← currentOperator) == "**" then
      take
      let e ← readPower whole fuel
      return .binary "**" base e (← get).last
    else return base

def readAssignment (d : Dialect) (whole : Read Sum) : Nat → Read Sum
  | 0 => refuse .operand
  | fuel + 1 => do
    let operand := readPower whole ((← get).rest.length + 1)
    let assigned? : Option (String × Option String × String) := match (← get).rest with
      | ⟨.name v index, _, _⟩ :: ⟨.operator o, _, _⟩ :: _ =>
        if assigning.contains o then some (v, index, o) else none
      | _ => none
    match assigned? with
    | some (v, index, o) =>
      take
      let token := ((← current).map SumToken.after).getD ""
      take
      return .assign v index o (← readAssignment d whole fuel) token
    | none =>
      let c ← readLevels operand levels
      let o ← currentOperator
      if o == "?" then
        take
        if d == .bash && (← currentOperator) == ":" then refuse .emptyBranch
        let first ← if d == .bash then whole else readAssignment d whole fuel
        if (← currentOperator) == ":" then
          take
          return .choose c first (← readAssignment d whole fuel)
        else refuse .colon
      else if d == .bash && assigning.contains o then refuse .target
      else return c

/-- Reads an expression with at most so many nested parentheses. -/
def readWhole (d : Dialect) : Nat → Read Sum
  | 0 => refuse .operand
  | fuel + 1 => do
    let item := do readAssignment d (readWhole d fuel) ((← get).rest.length + 1)
    let mut e ← item
    for _ in [0:(← get).rest.length + 1] do
      if (← currentOperator) == "," then
        take
        e := .binary "," e (← item) ""
      else break
    return e

/-- Reads an expression. -/
def parse (d : Dialect) (text : String) : Except SumFault Sum :=
  let ts := tokens d (text.length + 1) none text.toList
  if ts.isEmpty && d == .bash then .ok (.number 0)
  else match (readWhole d 200).run { rest := ts } with
    | .ok (e, s) => match s.rest with
      | [] => .ok e
      | t :: _ => match t.kind with
        | .flawed f => .error ⟨if f == .operand then .operand else f, t.text⟩
        | _ => .error ⟨.trailing, t.text⟩
    | .error f => .error f

/-- How the small shell words a flaw. -/
def plainMessage (flaw : SumFlaw) : String :=
  match flaw with
  | .operand => "expecting primary"
  | .unclosed => "expecting ')'"
  | .colon | .emptyBranch => "expecting ':'"
  | .division => "division by zero"
  | _ => "expecting EOF"

/-- How the larger shell words a flaw. -/
def fullMessage (flaw : SumFlaw) : String :=
  match flaw with
  | .operand => "syntax error: operand expected"
  | .trailing => "syntax error in expression"
  | .unclosed => "missing `)'"
  | .colon => "`:' expected for conditional expression"
  | .emptyBranch => "expression expected"
  | .division => "division by 0"
  | .base => "invalid arithmetic base"
  | .digit => "value too great for base"
  | .exponent => "exponent less than 0"
  | .target => "attempted assignment to non-variable"

/-- What evaluation needs to know about variables. -/
structure Store where
  get : String → Option String → Action Int
  put : String → Option String → Int → Action Unit
  fault : SumFault → Action Int

def truth (b : Bool) : Int := if b then 1 else 0

/-- A word shifted by the low six bits of another. -/
def shifted (left : Bool) (a b : Int) : Int :=
  let n := unsignedWord b % 64
  if left then wrapWord (a * 2 ^ n) else Int.fdiv a (2 ^ n)

def power (a : Int) (n : Nat) : Int := Id.run do
  -- The result wraps at each step, so that it stays small.
  let mut r : Int := 1
  let mut b := a
  let mut k := n
  for _ in [0:64] do
    if k % 2 == 1 then r := wrapWord (r * b)
    b := wrapWord (b * b)
    k := k / 2
  return r

/-- The bits of two words combined. -/
def bitwise (f : Nat → Nat → Nat) (a b : Int) : Int :=
  wrapWord (f (unsignedWord a) (unsignedWord b))

/-- The value of an operator on two words; none if it has none. -/
def combine (operator : String) (a b : Int) : Except SumFlaw Int :=
  match operator with
  | "+" => .ok (wrapWord (a + b))
  | "-" => .ok (wrapWord (a - b))
  | "*" => .ok (wrapWord (a * b))
  | "/" => if b == 0 then .error .division else .ok (wrapWord (Int.tdiv a b))
  | "%" => if b == 0 then .error .division else .ok (wrapWord (Int.tmod a b))
  | "**" => if b < 0 then .error .exponent else .ok (power a b.toNat)
  | "<<" => .ok (shifted true a b)
  | ">>" => .ok (shifted false a b)
  | "<" => .ok (truth (a < b))
  | ">" => .ok (truth (b < a))
  | "<=" => .ok (truth (a ≤ b))
  | ">=" => .ok (truth (b ≤ a))
  | "==" => .ok (truth (a == b))
  | "!=" => .ok (truth (a != b))
  | "&" => .ok (bitwise (· &&& ·) a b)
  | "|" => .ok (bitwise (· ||| ·) a b)
  | "^" => .ok (bitwise (· ^^^ ·) a b)
  | _ => .ok b

/-- The value of an expression. -/
def eval (store : Store) : Sum → Action Int
  | .number n => return n
  | .name v index => store.get v index
  | .unary o e => do
    let n ← eval store e
    return match o with
    | '-' => wrapWord (-n)
    | '!' => truth (n == 0)
    | '~' => wrapWord (-n - 1)
    | _ => n
  | .binary "&&" a b _ => do
    if (← eval store a) == 0 then return 0 else return truth ((← eval store b) != 0)
  | .binary "||" a b _ => do
    if (← eval store a) != 0 then return 1 else return truth ((← eval store b) != 0)
  | .binary o a b token => do
    let x ← eval store a
    let y ← eval store b
    match combine o x y with
    | .ok n => return n
    | .error f => store.fault ⟨f, token⟩
  | .choose c a b => do
    if (← eval store c) != 0 then eval store a else eval store b
  | .assign v index o e token => do
    let old ← if o == "=" then pure 0 else store.get v index
    let n ← eval store e
    match combine (if o == "=" then "," else takeFront (o.length - 1) o) old n with
    | .ok n =>
      store.put v index n
      return n
    | .error f => store.fault ⟨f, token⟩
  | .step v index earlier amount => do
    let old ← store.get v index
    let new := wrapWord (old + amount)
    store.put v index new
    return if earlier then old else new

end Sum

end StudyFlow.Shell
