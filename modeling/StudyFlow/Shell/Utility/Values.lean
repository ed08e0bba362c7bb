import StudyFlow.Shell.Builtin.Names
import StudyFlow.Shell.Command
import StudyFlow.Shell.Utility.Lines

/-!
Programs that print values: texts, numbers, expressions, the date and the environment. Also programs
that run other programs.
-/

namespace StudyFlow.Shell

namespace Utility

open StudyFlow.Shell.Action

attribute [local instance (high)] instPowNat

/-- A decimal number: a numeral divided by a power of ten, and how it is written. -/
structure Decimal where
  numerator : Int
  /-- The digits after the point. -/
  places : Nat
  width : Nat

def Decimal.read (text : String) : Option Decimal :=
  let cs := text.toList.dropWhile isBlankOctet
  let (negative, body) := match cs with
    | '-' :: r => (true, r)
    | '+' :: r => (false, r)
    | r => (false, r)
  let whole := body.takeWhile Char.isDigit
  let rest := body.drop whole.length
  let (part, rest, dotted) := match rest with
    | '.' :: r =>
      let ds := r.takeWhile Char.isDigit
      (ds, r.drop ds.length, true)
    | r => ([], r, false)
  if whole.isEmpty && part.isEmpty then none
  else
    let digits := decimalOf (String.ofList (whole ++ part))
    let signed : Int := if negative then -(digits : Int) else digits
    let size := (if cs.head? == some '+' then cs.length - 1 else cs.length)
    match rest with
    | [] =>
      some ⟨signed, part.length, if dotted && part.isEmpty then size - 1 else
        if whole.isEmpty then size + 1 else size⟩
    | e :: exponent =>
      if e != 'e' && e != 'E' then none
      else
        let (down, ds) := match exponent with
          | '-' :: r => (true, r)
          | '+' :: r => (false, r)
          | r => (false, r)
        if ds.isEmpty || !ds.all Char.isDigit then none
        else
          let n := min 400 (decimalOf (String.ofList ds))
          if down then some ⟨signed, part.length + n, part.length + n + whole.length + 1⟩
          else
            let places := part.length - n
            some ⟨signed * 10 ^ (n - part.length), places, whole.length + n⟩

/-- A number of units of a power of ten, with its point. -/
def decimalText (n : Int) (places : Nat) : String :=
  let ds := n.natAbs.repr
  let ds := repeated (places + 1 - ds.length) '0' ++ ds
  let whole := takeFront (ds.length - places) ds
  (if n < 0 then "-" else "") ++ whole ++
    (if places == 0 then "" else "." ++ dropFront (ds.length - places) ds)

/-- Whether an argument is a negative number and so no option. -/
def isNegativeNumber (a : String) : Bool :=
  match a.toList with
  | '-' :: c :: _ => c.isDigit || c == '.'
  | _ => false

def seqUtility : Utility := fun _ name args => do
  let optionCount := (args.findIdx? isNegativeNumber).getD args.length
  let g ← readArguments name
    { letters := "f:s:w", names := [("format", 'f'), ("separator", 's'), ("equal-width", 'w')],
      anywhere := false }
    (args.take optionCount)
  let operands := g.operands.toList ++ args.drop optionCount
  if operands.isEmpty then misuse name 1 "missing operand"
  if operands.length > 3 then
    misuse name 1 ("extra operand " ++ Utility.quoted (operands.getD 3 ""))
  let mut numbers : Array (Option Decimal) := #[]
  for o in operands do
    match Decimal.read o with
    | some d => numbers := numbers.push (some d)
    | none =>
      let t := o.toLower
      if t == "inf" || t == "infinity" || t == "-inf" then numbers := numbers.push none
      else misuse name 1 ("invalid floating point argument: " ++ Utility.quoted o)
  let one : Decimal := ⟨1, 0, 1⟩
  let get (k : Nat) : Option Decimal := (numbers[k]?).getD none
  let (first?, step?, last?) := match operands.length with
    | 1 => (some one, some one, get 0)
    | 2 => (get 0, some one, get 1)
    | _ => (get 0, get 1, get 2)
  match first?, step? with
  | some first, some step =>
    if step.numerator == 0 then
      misuse name 1 ("invalid Zero increment value: " ++ Utility.quoted (operands.getD 1 ""))
    let places := max first.places step.places
    let last := last?.getD ⟨10 ^ (300 : Nat), 0, 1⟩
    let scale := max places last.places
    let at_ (d : Decimal) : Int := d.numerator * 10 ^ (scale - d.places)
    let widen (d : Decimal) : Nat :=
      d.width + (places - d.places) + (if d.places == 0 && places != 0 then 1 else 0)
    let lastWidth := if last.places != 0 && places == 0 then last.width - last.places - 1
      else if places < last.places then last.width - (last.places - places)
      else widen last
    let width := if g.has 'w' then max (widen first) lastWidth else 0
    let format ← match g.last? 'f' with
      | none => pure none
      | some f => do
        let (before, rest) := (f.toList.takeWhile (· != '%'), f.toList.dropWhile (· != '%'))
        if rest.isEmpty then
          die 1 (name ++ ": format " ++ Utility.quoted f ++ " has no % directive")
        let (c, after) := readConversion (rest.drop 1)
        match c.letter with
        | some l =>
          if !"efgaEFGA".toList.contains l then
            die 1 (name ++ ": format " ++ Utility.quoted f ++ " has unknown %" ++
              String.singleton l ++ " directive")
          pure (some (String.ofList before, c, String.ofList after))
        | none => die 1 (name ++ ": format " ++ Utility.quoted f ++ " ends in %")
    let show_ (n : Int) : String :=
      match format with
      | some (before, c, after) =>
        let x := Real.ofRatio 64 (n < 0) n.natAbs (10 ^ scale)
        before ++ c.spec.real (c.letter.getD 'g') x ++ after
      | none =>
        let t := decimalText (n / 10 ^ (scale - places)) places
        if t.startsWith "-" then "-" ++ repeated (width - t.length) '0' ++ dropFront 1 t
        else repeated (width - t.length) '0' ++ t
    let separator := (g.last? 's').getD "\n"
    let mut out : String := ""
    let mut n := at_ first
    let mut count := 0
    for _ in [0:20000000] do
      let goes := if 0 < at_ step then n ≤ at_ last else at_ last ≤ n
      if !goes then break
      if count != 0 then out := out ++ separator
      out := out ++ show_ n
      count := count + 1
      n := n + at_ step
      if out.length > 65536 then
        put name 1 out
        out := ""
    put name 1 (if count == 0 then out else out ++ "\n")
    return 0
  | _, _ => return 0

/-- Stops an expression with a complaint. -/
def exprFault {α : Type} (name text : String) : Action α := die 2 (name ++ ": " ++ text)

/-- The integer that a value of an expression denotes. -/
def exprNumber? (s : String) : Option Int := if s.startsWith "+" then none else signed? s

/-- Whether a value of an expression counts as nothing: the empty text or zero. -/
def isNull (s : String) : Bool :=
  s.isEmpty || (match exprNumber? s with
    | some n => n == 0
    | none => false)

/-- What is left of an expression, and what came last. -/
structure ExprState where
  rest : List String
  before : String := ""

abbrev ExprStep := StateT ExprState Action

/-- Takes the next argument if it is one of some. -/
def acceptAny (words : List String) : ExprStep (Option String) := do
  let s ← get
  match s.rest with
  | w :: more =>
    if words.contains w then
      set ({ rest := more, before := w } : ExprState)
      return some w
    else return none
  | [] => return none

def takeArgument (name : String) : ExprStep String := do
  let s ← get
  match s.rest with
  | w :: more =>
    set ({ rest := more, before := w } : ExprState)
    return w
  | [] => exprFault name ("syntax error: missing argument after " ++ Utility.quoted s.before)

/-- The part of a text that a regular expression matches from the start: its group if it has one, or
else its length. -/
def exprMatch (name text pattern : String) : Action String := do
  match Regex.read { extended := false } pattern with
  | .error f => exprFault name f.message
  | .ok r =>
    let cs := text.toList.toArray
    let groups := r.groupCount
    match r.matchAt? { text := cs } 0 with
    | some st =>
      if groups > 0 then
        return match st.groups.lookup 1 with
          | some (a, b) => sliceOf cs a b
          | none => ""
      else return st.pos.repr
    | none => return if groups > 0 then "" else "0"

mutual

/-- Evaluates with the operators of a level, the weakest first. The flag says whether the value
counts. -/
def exprLevel (name : String) (counts : Bool) : Nat → Nat → ExprStep String
  | 0, _ => exprFault name "expression nested too deep"
  | fuel + 1, level => do
    match level with
    | 6 => exprTerm name counts fuel
    | level =>
      let operators := match level with
        | 0 => ["|"]
        | 1 => ["&"]
        | 2 => ["<", "<=", "=", "==", "!=", ">=", ">"]
        | 3 => ["+", "-"]
        | 4 => ["*", "/", "%"]
        | _ => [":"]
      let mut left ← exprLevel name counts fuel (level + 1)
      for _ in [0:(← get).rest.length + 1] do
        match ← acceptAny operators with
        | none => break
        | some o =>
          let skips := match o with
            | "|" => !isNull left
            | "&" => isNull left
            | _ => false
          let right ← exprLevel name (counts && !skips) fuel (level + 1)
          if !counts then continue
          match o with
          | "|" => left := if !isNull left then left else if isNull right then "0" else right
          | "&" => left := if isNull left || isNull right then "0" else left
          | ":" => left ← exprMatch name left right
          | "+" | "-" | "*" | "/" | "%" =>
            match exprNumber? left, exprNumber? right with
            | some a, some b =>
              match o with
              | "+" => left := toString (a + b)
              | "-" => left := toString (a - b)
              | "*" => left := toString (a * b)
              | _ =>
                if b == 0 then exprFault name "division by zero"
                left := toString (if o == "/" then Int.tdiv a b else Int.tmod a b)
            | _, _ => exprFault name "non-integer argument"
          | o =>
            let order := match exprNumber? left, exprNumber? right with
              | some a, some b => compare a b
              | _, _ => compare left right
            let holds : Bool := match o with
              | "<" => order == .lt
              | "<=" => order != .gt
              | "=" | "==" => order == .eq
              | "!=" => order != .eq
              | ">=" => order != .lt
              | _ => order == .gt
            left := if holds then "1" else "0"
      return left

/-- Evaluates a function, a group or a single argument. -/
def exprTerm (name : String) (counts : Bool) : Nat → ExprStep String
  | 0 => exprFault name "expression nested too deep"
  | fuel + 1 => do
    match ← acceptAny ["+", "length", "match", "index", "substr", "("] with
    | some "+" => takeArgument name
    | some "length" =>
      let s ← exprLevel name counts fuel 6
      return s.length.repr
    | some "match" =>
      let s ← exprLevel name counts fuel 6
      let p ← exprLevel name counts fuel 6
      if counts then exprMatch name s p else return ""
    | some "index" =>
      let s ← exprLevel name counts fuel 6
      let cs ← exprLevel name counts fuel 6
      return (match s.toList.findIdx? fun c => cs.toList.contains c with
        | some i => i + 1
        | none => 0).repr
    | some "substr" =>
      let s ← exprLevel name counts fuel 6
      let p ← exprLevel name counts fuel 6
      let n ← exprLevel name counts fuel 6
      match exprNumber? p, exprNumber? n with
      | some i, some k =>
        return if i ≤ 0 || k ≤ 0 then "" else takeFront k.toNat (dropFront (i.toNat - 1) s)
      | _, _ => return ""
    | some "(" =>
      let v ← exprLevel name counts fuel 0
      let s ← get
      match s.rest with
      | ")" :: more =>
        set ({ rest := more, before := ")" } : ExprState)
        return v
      | w :: _ => exprFault name ("syntax error: expecting ')' instead of " ++ Utility.quoted w)
      | [] => exprFault name ("syntax error: expecting ')' after " ++ Utility.quoted s.before)
    | _ =>
      let s ← get
      if s.rest.head? == some ")" then exprFault name "syntax error: unexpected ')'"
      takeArgument name

end

def exprUtility : Utility := fun _ name args => do
  let args := if args.head? == some "--" then args.drop 1 else args
  if args.isEmpty then misuse name 2 "missing operand"
  let (value, s) ← (exprLevel name true (8 * args.length + 20) 0).run { rest := args }
  match s.rest with
  | w :: _ => exprFault name ("syntax error: unexpected argument " ++ Utility.quoted w)
  | [] =>
    put name 3 (value ++ "\n")
    return if isNull value then 1 else 0

def echoUtility : Utility := fun _ name args => do
  put name 1 (echoText .program args)
  return 0

def printfUtility : Utility := fun _ name args => do
  let args := if args.head? == some "--" then args.drop 1 else args
  match args with
  | [] => misuse name 1 "missing operand"
  | format :: rest =>
    let r ← printFormatted .program (fun t => complain (name ++ ": " ++ t))
      (fun _ _ => return "") format rest
    put name 1 r.out
    return r.status

def testUtility : Utility := fun _ name args => do
  setProcess fun p => { p with dialect := .bash }
  let command := (splitAtEach '/' name).getLast?.getD name
  let (result, errors) ← do
    let n ← newStream (.memory ByteArray.empty 0)
    let before ← channel? 2
    setChannel 2 (some ⟨n, false, true⟩)
    let r ← try testCommand command args
      catch _ => pure 2
    setChannel 2 before
    pure (r, octetsOfBytes (← remaining n))
  if !errors.isEmpty then
    let parts := errors.splitOn (command ++ ": ")
    complain (name ++ ": " ++ ((parts.getLast?.getD "").replace "\n" ""))
  return result

def trueUtility : Utility := fun _ _ _ => return 0

def falseUtility : Utility := fun _ _ _ => return 1

/-- The milliseconds that times of a `sleep` come to. -/
def napsOfArguments (name : String) (args : List String) : Action Nat := do
  let mut total := 0
  let mut wrong : Option String := none
  for a in args do
    match napOf a with
    | some n => total := total + n
    | none =>
      if a != "infinity" && a != "inf" then
        complain (name ++ ": invalid time interval " ++ Utility.quoted a)
        wrong := some a
  match wrong with
  | some _ =>
    complain ("Try '" ++ name ++ " --help' for more information.")
    exit 1
  | none => return total

/-- Lets time pass. What is to run by then runs. -/
def letPass (e : Engine) (duration : Nat) : Action Unit := do
  let until_ := (← world).clock + duration
  runJobs e (some until_) fun _ => true
  setWorld fun w => { w with clock := until_ }

def sleepUtility : Utility := fun e name args => do
  let g ← readArguments name { letters := "" } args
  if g.operands.isEmpty then misuse name 1 "missing operand"
  letPass e (← napsOfArguments name g.operands.toList)
  return 0

/-- A date that is written as year, month and day, perhaps with a time, or as seconds after an at
sign. -/
def readDate (text : String) (now : Int) : Option Int :=
  let t := String.ofList (text.toList.dropWhile isBlankOctet)
  if t.startsWith "@" then signed? (dropFront 1 t)
  else
    let words := (splitAtEach ' ' (t.map fun c => if c == 'T' then ' ' else c)).filter
      fun w => !w.isEmpty
    let words := words.filter fun w => w != "UTC" && w != "Z"
    let day (w : String) : Option Int :=
      match w.splitOn "-" with
      | [y, m, d] =>
        if isDigits y && isDigits m && isDigits d then
          let (y, m, d) := (decimalOf y, decimalOf m, decimalOf d)
          let days := [31, if Date.isLeap y then 29 else 28, 31, 30, 31, 30, 31, 31, 30, 31, 30, 31]
          if 1 ≤ m && m ≤ 12 && 1 ≤ d && d ≤ days.getD (m - 1) 0 then
            some (Date.daysFrom y m d * 86400)
          else none
        else none
      | _ => none
    let time (w : String) : Option Int :=
      let w := if w.endsWith "Z" then takeFront (w.length - 1) w else w
      let parts := w.splitOn ":"
      if parts.all isDigits && (parts.length == 2 || parts.length == 3) then
        let n := parts.map decimalOf
        if n.getD 0 0 < 24 && n.getD 1 0 < 60 && n.getD 2 0 < 61 then
          some ((n.getD 0 0 * 3600 + n.getD 1 0 * 60 + n.getD 2 0 : Nat) : Int)
        else none
      else none
    match words with
    | [] => some (now / 86400 * 86400)
    | ["now"] | ["today"] => some now
    | ["tomorrow"] => some (now + 86400)
    | ["yesterday"] => some (now - 86400)
    | [w] => (day w).orElse fun _ => (time w).map fun s => now / 86400 * 86400 + s
    | [w, v] => do
      let d ← day w
      let s ← time v
      some (d + s)
    | _ => none

def dateUtility : Utility := fun _ name args => do
  let g ← readArguments name
    { letters := "d:uRr:s:I", names := [("date", 'd'), ("utc", 'u'), ("universal", 'u'),
        ("rfc-email", 'R'), ("iso-8601", 'I'), ("reference", 'r')], optional := "I" } args
  let now : Int := (← world).clock / 1000
  let seconds ← match g.last? 'd' with
    | none => pure now
    | some t =>
      match readDate t now with
      | some n => pure n
      | none => die 1 (name ++ ": invalid date " ++ Utility.quoted t)
  match g.operands.toList with
  | _ :: b :: _ => misuse name 1 ("extra operand " ++ Utility.quoted b)
  | [o] =>
    if !o.startsWith "+" then die 1 (name ++ ": invalid date " ++ Utility.quoted o)
    put name 1 (Date.format (dropFront 1 o) (Date.ofSeconds seconds) seconds 0 ++ "\n")
    return 0
  | [] =>
    let format := match g.lastOf? "RI" with
      | some 'R' => "%a, %d %b %Y %H:%M:%S +0000"
      | some _ =>
        match g.last? 'I' with
        | some "hours" => "%Y-%m-%dT%H+00:00"
        | some "minutes" => "%Y-%m-%dT%H:%M+00:00"
        | some "seconds" | some "s" => "%Y-%m-%dT%H:%M:%S+00:00"
        | _ => "%Y-%m-%d"
      | none => "%a %b %e %H:%M:%S UTC %Y"
    put name 1 (Date.format format (Date.ofSeconds seconds) seconds 0 ++ "\n")
    return 0

/-- Why a program cannot be run, with the status for it. -/
def missingProgram : Found → Option (String × Nat)
  | .program _ => none
  | .missing => some ("No such file or directory", 127)
  | .tooLong => some ("File name too long", 126)
  | .refused _ | .directory _ => some ("Permission denied", 126)

/-- Runs another program in the place of this one. -/
def becomes (e : Engine) (complaint : String → String → String) (words : List String) :
    Action Nat := do
  let command := words.head?.getD ""
  let found ← findProgram command
  match found, missingProgram found with
  | .program path, _ =>
    match ← e.launch path words with
    | .ok (.exited n) => return n
    | .ok (.signalled s) => throw (.killed s)
    | .error f =>
      complain (complaint command (faultText f))
      return 127
  | _, some (cause, n) =>
    complain (complaint command cause)
    return n
  | _, none => return 127

def envUtility : Utility := fun e name args => do
  let mut rest := args
  let mut dir : Option String := none
  let mut ending : String := "\n"
  for _ in [0:args.length] do
    match rest with
    | "-" :: more | "-i" :: more | "--ignore-environment" :: more =>
      setProcess fun p => { p with vars := [] }
      rest := more
    | "-u" :: v :: more | "--unset" :: v :: more =>
      dropVariable v
      rest := more
    | "-C" :: d :: more | "--chdir" :: d :: more =>
      dir := some d
      rest := more
    | "-0" :: more | "--null" :: more =>
      ending := "\x00"
      rest := more
    | "--" :: more =>
      rest := more
      break
    | "-S" :: t :: more =>
      rest := ((splitAtEach ' ' t).filter fun w => !w.isEmpty) ++ more
    | a :: more =>
      if a.startsWith "--unset=" then
        dropVariable (dropFront 8 a)
        rest := more
      else if a.startsWith "--chdir=" then
        dir := some (dropFront 8 a)
        rest := more
      else if a.startsWith "-u" then
        dropVariable (dropFront 2 a)
        rest := more
      else if a.startsWith "-S" then
        rest := ((splitAtEach ' ' (dropFront 2 a)).filter fun w => !w.isEmpty) ++ more
      else if a.startsWith "--" then misuse name 125 ("unrecognized option " ++ Utility.quoted a)
      else if a.startsWith "-" then
        misuse name 125 ("invalid option -- '" ++ takeFront 1 (dropFront 1 a) ++ "'")
      else break
    | [] => break
  for _ in [0:args.length] do
    match rest with
    | a :: more =>
      if a.toList.contains '=' then
        let (n, v) := splitAssignment a
        putVariable { name := n, value := .scalar (v.getD ""), exported := true }
        rest := more
      else break
    | [] => break
  match dir with
  | some d =>
    match ← enterDirectory d with
    | some f =>
      die 125 (name ++ ": cannot change directory to " ++ Utility.quoted d ++ ": " ++ faultText f)
    | none => pure ()
  | none => pure ()
  match rest with
  | [] =>
    for (n, v) in (← environment).reverse do
      print (n ++ "=" ++ v ++ ending)
    return 0
  | words => becomes e (fun c cause => name ++ ": " ++ Utility.quoted c ++ ": " ++ cause) words

def printenvUtility : Utility := fun _ name args => do
  let g ← readArguments name { letters := "0", names := [("null", '0')], wrong := 2 } args
  if g.operands.isEmpty then
    for (n, v) in (← environment).reverse do
      printLine (n ++ "=" ++ v)
    return 0
  let mut status := 0
  for n in g.operands do
    match (← environment).lookup n with
    | some v => printLine v
    | none => status := 1
  return status

def timeoutUtility : Utility := fun e name args => do
  let g ← readArguments name
    { letters := "s:k:vfp", names := [("signal", 's'), ("kill-after", 'k'), ("verbose", 'v'),
        ("foreground", 'f'), ("preserve-status", 'p')], wrong := 125, anywhere := false } args
  match g.operands.toList with
  | [] | [_] =>
    complain ("Try '" ++ name ++ " --help' for more information.")
    return 125
  | limit :: words =>
    match napOf limit with
    | none => misuse name 125 ("invalid time interval " ++ Utility.quoted limit)
    | some n =>
      let start := (← world).clock
      let status ← try
          becomes e (fun c cause => name ++ ": failed to run command " ++ Utility.quoted c ++
            ": " ++ cause) words
        catch j => match j with
          | .killed s => pure (128 + s)
          | j => throw j
      if n != 0 && start + n < (← world).clock then
        setWorld fun w => { w with clock := start + n }
        let signal := ((g.last? 's').bind signalNumber?).getD 15
        return if signal == 9 then 137 else if g.has 'p' then 128 + signal else 124
      return status

def nohupUtility : Utility := fun e name args => do
  let args := if args.head? == some "--" then args.drop 1 else args
  if args.isEmpty then misuse name 125 "missing operand"
  becomes e (fun c cause => name ++ ": failed to run command " ++ Utility.quoted c ++
    ": " ++ cause) args

def niceUtility : Utility := fun e name args => do
  let g ← readArguments name
    { letters := "n:", names := [("adjustment", 'n')], wrong := 125, anywhere := false } args
  if g.operands.isEmpty then
    printLine "0"
    return 0
  becomes e (fun c cause => name ++ ": " ++ Utility.quoted c ++ ": " ++ cause) g.operands.toList

/-- A program that only changes how another one is run. -/
def wrapper (letters : String) : Utility := fun e name args => do
  let g ← readArguments name { letters := letters, anywhere := false, wrong := 125 } args
  if g.operands.isEmpty then misuse name 125 "missing operand"
  becomes e (fun c cause => name ++ ": failed to run command " ++ Utility.quoted c ++ ": " ++ cause)
    g.operands.toList

/-- The words of a text: quotes and backslashes keep blanks in a word. Gives what is wrong as
well. -/
def quotedWords (text : String) : List (List String) × Option String := Id.run do
  let mut lines : List (List String) := []
  let mut words : List String := []
  let mut current : Option (List Char) := none
  let mut quote : Option Char := none
  let mut escaped := false
  for c in text.toList do
    if escaped then
      current := some (c :: current.getD [])
      escaped := false
    else match quote with
      | some q =>
        if c == q then quote := none
        else if c == '\n' then
          return ((words.reverse :: lines).reverse, some (if q == '\'' then "single" else "double"))
        else current := some (c :: current.getD [])
      | none =>
        if c == '\'' || c == '"' then
          quote := some c
          current := some (current.getD [])
        else if c == '\\' then
          escaped := true
          current := some (current.getD [])
        else if isBlankOctet c then
          match current with
          | some w =>
            words := String.ofList w.reverse :: words
            current := none
          | none => pure ()
          if c == '\n' && !words.isEmpty then
            lines := words.reverse :: lines
            words := []
        else current := some (c :: current.getD [])
  match quote with
  | some q =>
    return ((words.reverse :: lines).reverse, some (if q == '\'' then "single" else "double"))
  | none => pure ()
  match current with
  | some w => words := String.ofList w.reverse :: words
  | none => pure ()
  if !words.isEmpty then lines := words.reverse :: lines
  return (lines.reverse, none)

def xargsUtility : Utility := fun e name args => do
  let g ← readArguments name
    { letters := "n:I:0d:L:rtpP:a:s:xE:e:i:l:", names :=
      [("max-args", 'n'), ("replace", 'I'), ("null", '0'), ("delimiter", 'd'), ("max-lines", 'L'),
       ("no-run-if-empty", 'r'), ("verbose", 't'), ("max-procs", 'P'), ("arg-file", 'a'),
       ("max-chars", 's'), ("exit", 'x')], anywhere := false } args
  let words := if g.operands.isEmpty then ["echo"] else g.operands.toList
  for (c, v) in g.options do
    if c == 'n' || c == 'L' then
      if !isDigits v then die 1 (name ++ ": invalid number \"" ++ v ++ "\" for -" ++
        String.singleton c ++ " option")
      if decimalOf v == 0 then
        misuse name 1 ("value " ++ v ++ " for -" ++ String.singleton c ++ " option should be >= 1")
  let text ← match ← contentOf ((g.last? 'a').getD "-") with
    | .ok text => pure text
    | .error cause =>
      match g.last? 'a' with
      | some f => die 1 (name ++ ": Cannot open input file " ++ Utility.quoted f ++ ": " ++ cause)
      | none => pure ""
  let replaced := g.last? 'I'
  let delimiter := if g.has '0' then some '\x00' else (g.last? 'd').map fun d =>
    match d with
    | "\\n" => '\n'
    | "\\0" => '\x00'
    | "\\t" => '\t'
    | d => d.toList.head?.getD '\n'
  let (lines, fault) : List (List String) × Option String := match delimiter, replaced with
    | some d, _ => ((cleanLines text d).map fun w => [w], none)
    | none, some _ =>
      let ls := (cleanLines text '\n').map fun l =>
        String.ofList (l.toList.dropWhile fun c => c == ' ' || c == '\t')
      -- Quotes are taken away, but blanks stay in the line.
      ((ls.filter fun l => !l.isEmpty).map fun l =>
        [String.ofList (l.toList.filter fun c => c != '\'' && c != '"' && c != '\\')], none)
    | none, none => quotedWords text
  let found := lines.flatten
  let batches : List (List String) :=
    match replaced, g.last? 'L', g.last? 'n' with
    | some _, _, _ => lines
    | none, some k, _ =>
      let k := decimalOf k
      (List.range ((lines.length + k - 1) / k)).map fun i => ((lines.drop (i * k)).take k).flatten
    | none, none, some k =>
      let k := decimalOf k
      (List.range ((found.length + k - 1) / k)).map fun i => (found.drop (i * k)).take k
    | none, none, none => if found.isEmpty then [] else [found]
  let batches :=
    if batches.isEmpty && replaced.isNone && !g.has 'r' && fault.isNone then [[]] else batches
  let mut status := 0
  let empty ← newStream .null
  let before ← channel? 0
  match fault with
  | some q =>
    complain (name ++ ": unmatched " ++ q ++
      " quote; by default quotes are special to xargs unless you use the -0 option")
  | none => pure ()
  for batch in batches do
    let command := match replaced with
      | some mark => words.map fun w => w.replace mark (batch.head?.getD "")
      | none => words ++ batch
    if g.has 't' then complain (" ".intercalate command)
    if (g.last? 'a').isNone then setChannel 0 (some ⟨empty, true, false⟩)
    let first := command.head?.getD ""
    let place ← findProgram first
    match place, missingProgram place with
    | .program path, _ =>
      match ← e.launch path command with
      | .ok (.exited 0) => pure ()
      | .ok (.exited 255) => die 124 (name ++ ": " ++ first ++ ": exited with status 255; aborting")
      | .ok (.exited _) => status := 123
      | .ok (.signalled s) => die 125 (name ++ ": " ++ first ++ ": terminated by signal " ++ s.repr)
      | .error f => die 127 (name ++ ": " ++ first ++ ": " ++ faultText f)
    | _, some (cause, n) => die n (name ++ ": " ++ first ++ ": " ++ cause)
    | _, none => pure ()
    setChannel 0 before
  return if fault.isSome then 1 else status

def whichUtility : Utility := fun _ _ args => do
  let all := args.contains "-a"
  let names := args.filter fun a => a != "-a" && a != "-s"
  let mut status := if names.isEmpty then 1 else 0
  for n in names do
    if n.toList.contains '/' then
      if ← isProgramFile n then printLine n else status := 1
    else
      let mut found := false
      for dir in ← searchPath do
        if !found || all then
          if ← isProgramFile (Action.below dir n) then
            printLine (Action.below dir n)
            found := true
      if !found then status := 1
  return status

def pwdUtility : Utility := fun _ _ _ => do
  printLine (← process).dir
  return 0

def factorUtility : Utility := fun _ name args => do
  let g ← readArguments name { letters := "h", names := [("exponents", 'h')] } args
  let numbers ← if g.operands.isEmpty then do
      match ← contentOf "-" with
      | .ok text =>
        pure ((splitAtEach ' ' (text.map fun c => if isBlankOctet c then ' ' else c)).filter
          fun w => !w.isEmpty)
      | .error _ => pure []
    else pure g.operands.toList
  let mut status := 0
  for t in numbers do
    if isDigits t then
      let n := decimalOf t
      let mut left := n
      let mut out : String := n.repr ++ ":"
      let mut p := 2
      for _ in [0:3000000] do
        if p * p > left then break
        if left % p == 0 then
          out := out ++ " " ++ p.repr
          left := left / p
        else p := if p == 2 then 3 else p + 2
      if left > 1 then out := out ++ " " ++ left.repr
      printLine out
    else
      complain (name ++ ": " ++ Utility.quoted t ++ " is not a valid positive integer")
      status := 1
  return status

def idUtility : Utility := fun _ name args => do
  let g ← readArguments name
    { letters := "ugnGr", names := [("user", 'u'), ("group", 'g'), ("name", 'n'), ("groups", 'G'),
        ("real", 'r')] } args
  if g.has 'u' || g.has 'g' || g.has 'G' then printLine (if g.has 'n' then "root" else "0")
  else printLine "uid=0(root) gid=0(root) groups=0(root)"
  return 0

def unameUtility : Utility := fun _ name args => do
  let g ← readArguments name
    { letters := "asnrvmpio", names := [("all", 'a'), ("kernel-name", 's'), ("nodename", 'n'),
        ("kernel-release", 'r'), ("kernel-version", 'v'), ("machine", 'm'),
        ("operating-system", 'o')] } args
  let all := g.has 'a'
  let parts := (if all || g.has 's' || g.options.isEmpty then ["Linux"] else []) ++
    (if all || g.has 'n' then ["localhost"] else []) ++
      (if all || g.has 'r' then ["6.1.0"] else []) ++
    (if all || g.has 'v' then ["#1 SMP"] else []) ++
      (if all || g.has 'm' then ["x86_64"] else []) ++
    (if g.has 'p' then ["x86_64"] else []) ++ (if g.has 'i' then ["x86_64"] else []) ++
    (if all || g.has 'o' then ["GNU/Linux"] else [])
  printLine (" ".intercalate parts)
  return 0

/-- A program that prints one line whatever its arguments are. -/
def printing (line : String) (status : Nat) : Utility := fun _ _ _ => do
  printLine line
  return status

def killUtility : Utility := fun _ name args => do
  match args with
  | "-l" :: _ =>
    printLine (" ".intercalate (signalNames.map Prod.fst))
    return 0
  | _ =>
    let (spec, targets) := match args with
      | "-s" :: s :: rest => (s, rest)
      | a :: rest =>
        if a.startsWith "-" && a.length > 1 then (dropFront 1 a, rest) else ("TERM", args)
      | [] => ("TERM", [])
    match signalNumber? spec with
    | none =>
      complain (name ++ ": unknown signal " ++ spec)
      return 1
    | some signal =>
      let mut status := 0
      for t in targets do
        if isDigits t then
          if !(← sendSignal signal (decimalOf t)) then
            complain (name ++ ": (" ++ t ++ "): No such process")
            status := 1
        else
          complain (name ++ ": failed to parse argument: " ++ Utility.quoted t)
          status := 1
      return status

def valuePrograms : List (String × Utility) :=
  [("seq", seqUtility), ("expr", exprUtility), ("echo", echoUtility), ("printf", printfUtility),
   ("test", testUtility), ("[", testUtility), ("true", trueUtility), ("false", falseUtility),
   ("sleep", sleepUtility), ("date", dateUtility), ("env", envUtility),
   ("printenv", printenvUtility), ("timeout", timeoutUtility), ("nohup", nohupUtility),
   ("nice", niceUtility), ("setsid", wrapper "cfw"), ("stdbuf", wrapper "i:o:e:"),
   ("ionice", wrapper "c:n:t"), ("xargs", xargsUtility), ("which", whichUtility),
   ("pwd", pwdUtility), ("factor", factorUtility), ("id", idUtility), ("whoami", printing "root" 0),
   ("uname", unameUtility), ("arch", printing "x86_64" 0), ("nproc", printing "4" 0),
   ("hostname", printing "localhost" 0), ("tty", printing "not a tty" 1),
   ("groups", printing "root" 0), ("sync", trueUtility), ("kill", killUtility)]

end Utility

end StudyFlow.Shell
