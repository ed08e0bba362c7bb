import StudyFlow.Shell.Builtin.Variables

/-!
Builtins that read: lines into variables or arrays, and the options among the arguments.
-/

namespace StudyFlow.Shell

namespace Action

/-- Reads a line up to a delimiter: its characters, and whether each was escaped. The flag says
whether the delimiter was met. -/
def readMarked (channel : Nat) (delimiter : Char) (raw : Bool) (limit : Option Nat) :
    Action (List Regex.Marked × Bool) := do
  let mut acc : List Regex.Marked := []
  let mut escaped := false
  let mut ended := false
  for _ in [0:10000000] do
    if limit == some acc.length && !escaped then
      ended := true
      break
    match ← readOctet channel with
    | none =>
      break
    | some c =>
      if escaped then
        escaped := false
        if c == '\n' then pure () else acc := (c, true) :: acc
      else if c == '\\' && !raw then escaped := true
      else if c == delimiter then
        ended := true
        break
      else if c == '\x00' then pure ()
      else acc := (c, false) :: acc
  return (acc.reverse, ended)

def isSeparator (ifs : List Char) (m : Regex.Marked) : Bool := !m.2 && ifs.contains m.1

/-- Whether a character is a blank that separates words of a line. -/
def isBlankSeparator (ifs : List Char) (m : Regex.Marked) : Bool :=
  isSeparator ifs m && (m.1 == ' ' || m.1 == '\t' || m.1 == '\n')

/-- The first word of a line, and what follows its separator. -/
def cutWord (ifs : List Char) (line : List Regex.Marked) : List Regex.Marked × List Regex.Marked :=
  let word := line.takeWhile fun m => !isSeparator ifs m
  let rest := (line.drop word.length).dropWhile (isBlankSeparator ifs)
  -- One separator that is no blank belongs to the end of the word, with the blanks around it.
  let blanks := (line.drop word.length).length - rest.length
  match rest with
  | m :: more =>
    if isSeparator ifs m && (blanks == 0 || !isBlankSeparator ifs m) then
      (word, more.dropWhile (isBlankSeparator ifs))
    else (word, rest)
  | [] => (word, [])

def plainOf (ms : List Regex.Marked) : String := String.ofList (ms.map Prod.fst)

/-- Splits a line into so many words; the last one is all that is left. -/
def splitLine (ifs : List Char) : Nat → List Regex.Marked → List String
  | 0, _ => []
  | 1, line =>
    let (word, rest) := cutWord ifs line
    if rest.isEmpty then [plainOf word]
    else [plainOf ((line.reverse.dropWhile (isBlankSeparator ifs)).reverse)]
  | n + 1, line =>
    let (word, rest) := cutWord ifs line
    plainOf word :: splitLine ifs n rest

def allWords (ifs : List Char) : Nat → List Regex.Marked → List String
  | 0, _ => []
  | fuel + 1, line =>
    if line.isEmpty then []
    else
      let (word, rest) := cutWord ifs line
      plainOf word :: allWords ifs fuel rest

def readBuiltin (args : List String) : Action Nat := do
  let bash ← isBash
  let some (options, names) ← readOptions "read"
    (if bash then "ersp:d:n:N:t:u:a:i:" else "rp:") args
    | return ← usage "read: usage: read [-ers] [-a array] [-d delim] [-i text] [-n nchars] [-N nchars] [-p prompt] [-t timeout] [-u fd] [name ...]"
  let has (c : Char) : Bool := options.any fun o => o.1 == c
  let arg? (c : Char) : Option String := (options.find? fun o => o.1 == c).map Prod.snd
  if !bash && names.isEmpty then fail "arg count"
  for name in names do
    if !isName (splitReference name).1 then
      if bash then
        warn ("read: `" ++ name ++ "': not a valid identifier")
        return 1
      else fail (name ++ ": bad variable name")
  let channel := ((arg? 'u').map decimalOf).getD 0
  match ← readFault? channel with
  | some cause =>
    if bash then
      if (arg? 'u').isSome then
        warn ("read: " ++ channel.repr ++ ": invalid file descriptor: " ++ cause)
      else warn ("read: read error: " ++ channel.repr ++ ": " ++ cause)
    for name in names do
      if !bash then assign name ""
    return 1
  | none => pure ()
  let delimiter := match arg? 'd' with
    | some d => d.toList.head?.getD '\x00'
    | none => '\n'
  let exact := (arg? 'N').map decimalOf
  let limit := exact.orElse fun _ => (arg? 'n').map decimalOf
  let (line, ended) ← if exact.isSome then readMarked channel (Char.ofNat 0x100) (has 'r') limit
    else readMarked channel delimiter (has 'r') limit
  let ifs := (← separators).toList
  let status := if ended then 0 else 1
  if exact.isSome then
    match names with
    | n :: rest =>
      assign n (plainOf line)
      for m in rest do
        assign m ""
    | [] => assign "REPLY" (plainOf line)
    return status
  match arg? 'a' with
  | some array =>
    let start := line.dropWhile (isBlankSeparator ifs)
    let words := allWords ifs (line.length + 1) start
    assignValue array (.indexed ((List.range words.length).zip words))
    return status
  | none =>
    if names.isEmpty then
      assign "REPLY" (plainOf line)
      return status
    let start := line.dropWhile (isBlankSeparator ifs)
    let words := splitLine ifs names.length start
    for (n, w) in names.zip words do
      assign n w
    return status

def mapfileBuiltin (args : List String) : Action Nat := do
  let some (options, names) ← readOptions "mapfile" "d:n:O:s:tu:C:c:" args
    | return ← usage "mapfile: usage: mapfile [-d delim] [-n count] [-O origin] [-s count] [-t] [-u fd] [-C callback] [-c quantum] [array]"
  let arg? (c : Char) : Option String := (options.find? fun o => o.1 == c).map Prod.snd
  let strip := options.any fun o => o.1 == 't'
  let channel := ((arg? 'u').map decimalOf).getD 0
  let delimiter := match arg? 'd' with
    | some d => d.toList.head?.getD '\x00'
    | none => '\n'
  let text ← readAll channel
  let parts := splitAtEach delimiter text
  let closed := parts.dropLast.map fun l => if strip then l else l.push delimiter
  let last := parts.getLast?.getD ""
  let lines := if last.isEmpty then closed else closed ++ [last]
  let lines := lines.drop (((arg? 's').map decimalOf).getD 0)
  let lines := match (arg? 'n').map decimalOf with
    | some n => if n == 0 then lines else lines.take n
    | none => lines
  let origin := ((arg? 'O').map decimalOf).getD 0
  let name := names.head?.getD "MAPFILE"
  let held := ((← binding? name).map Variable.value).getD .unset
  let old := if (arg? 'O').isSome then asIndexed held else []
  let items := (List.range lines.length).zip lines
  assignValue name (.indexed (items.foldl (fun acc i => insertMember (origin + i.1) i.2 acc) old))
  return 0

/-- Reads the next option among arguments. -/
def getoptsBuiltin (args : List String) : Action Nat := do
  let bash ← isBash
  match args with
  | optstring :: name :: more =>
    let p ← process
    let words := if more.isEmpty then p.arguments else more
    let quiet := optstring.startsWith ":"
    let letters := if quiet then optstring.toList.drop 1 else optstring.toList
    let index := if p.optionIndex == 0 then 1 else p.optionIndex
    let finish (i offset : Nat) : Action Unit := do
      setProcess fun p => { p with optionIndex := i, optionOffset := offset }
      let old := (← binding? "OPTIND").getD { name := "OPTIND" }
      putVariable { old with value := .scalar i.repr }
    let setName (value : String) : Action Unit := assign name value
    let stop_ (i : Nat) : Action Nat := do
      finish i 0
      setName "?"
      if bash then let _ ← unassign "OPTARG"
      return 1
    match words[index - 1]? with
    | none => stop_ index
    | some w =>
      if p.optionOffset == 0 && (w == "-" || !w.startsWith "-") then stop_ index
      else if p.optionOffset == 0 && w == "--" then stop_ (index + 1)
      else
        let offset := if p.optionOffset == 0 then 1 else p.optionOffset
        let c := w.toList.getD offset '?'
        let isLast := w.length ≤ offset + 1
        let spec := letters.dropWhile (· != c)
        let onward : Action Unit :=
          if isLast then finish (index + 1) 0 else finish index (offset + 1)
        if c == ':' || spec.isEmpty then
          onward
          setName "?"
          if quiet then assign "OPTARG" (String.singleton c)
          else
            let _ ← unassign "OPTARG"
            if bash then complain (p.name ++ ": illegal option -- " ++ String.singleton c)
            else complain ("Illegal option -" ++ String.singleton c)
          return 0
        else if (spec.drop 1).head? == some ':' then
          if !isLast then
            finish (index + 1) 0
            setName (String.singleton c)
            assign "OPTARG" (dropFront (offset + 1) w)
            return 0
          else match words[index]? with
            | some v =>
              finish (index + 2) 0
              setName (String.singleton c)
              assign "OPTARG" v
              return 0
            | none =>
              finish (index + 1) 0
              if quiet then
                setName ":"
                assign "OPTARG" (String.singleton c)
              else
                setName "?"
                let _ ← unassign "OPTARG"
                if bash then complain (p.name ++ ": option requires an argument -- " ++
                  String.singleton c)
                else complain ("No arg for -" ++ String.singleton c ++ " option")
              return 0
        else
          onward
          setName (String.singleton c)
          if bash then let _ ← unassign "OPTARG" else assign "OPTARG" ""
          return 0
  | _ =>
    if bash then return ← usage "getopts: usage: getopts optstring name [arg ...]"
    else fail "Usage: getopts optstring var [arg]"

end Action

end StudyFlow.Shell
