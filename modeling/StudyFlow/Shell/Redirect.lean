import StudyFlow.Shell.Expand

/-!
Redirections: opening files, copying channels, and giving documents as input, for one command or for
good.
-/

namespace StudyFlow.Shell

namespace Action

/-- What is said about a file that cannot be opened. -/
def openFault (mode : OpenMode) (name : String) (f : Fault) : Action String := do
  if ← isBash then return name ++ ": " ++ faultText f
  let creates := mode != .read
  let cause := match f with
    | .notFound | .notDirectory => if creates then "Directory nonexistent" else "No such file"
    | f => faultText f
  return "cannot " ++ (if creates then "create " else "open ") ++ name ++ ": " ++ cause

/-- Whether a file may not be overwritten. -/
def isProtected (mode : OpenMode) (name : String) : Action Bool := do
  if mode != .write || !(← hasOption 'C') then return false
  match ← entry? name with
  | some (.file _ _) => return (device? name).isNone
  | _ => return false

def freeChannel : Action Nat := do
  let used := (← process).channels.map Prod.fst
  return ((List.range 200).map (· + 10)).find? (fun n => !used.contains n) |>.getD 10

/-- The file name that a redirection gives; none if there are several. -/
def fileNameOf (e : Engine) (w : Word) : Action (Option String) := do
  if ← isBash then
    match ← expandWord e w with
    | [name] => return some name
    | _ => return none
  else return some (← textOf e w)

/-- How a word is written, as far as that is known. -/
def writtenForm (w : Word) : String :=
  w.foldl (fun acc p => acc ++ match p with
    | .text _ t => t
    | .parameter _ (.mk name _ _) .plain => "$" ++ name
    | .script _ t => "$(" ++ t ++ ")"
    | _ => "") ""

/-- Carries out a redirection. What is wrong is given as a text. -/
def applyRedirect (e : Engine) : Redirect → Action (Option String)
  | .mk channel target => do
    let number : Action Nat := do
      match channel with
      | .number n => return n
      | .both => return 1
      | .named v =>
        let n ← freeChannel
        assign v n.repr
        return n
    match target with
    | .file mode w =>
      match ← fileNameOf e w with
      | none => return some (writtenForm w ++ ": ambiguous redirect")
      | some name =>
        if ← isProtected mode name then
          return some (if ← isBash then name ++ ": cannot overwrite existing file"
            else "cannot create " ++ name ++ ": File exists")
        match ← openFile name mode with
        | .ok d =>
          setChannel (← number) (some d)
          if channel == .both then setChannel 2 (some d)
          return none
        | .error f => return some (← openFault mode name f)
    | .copy _ w =>
      let text ← textOf e w
      let moves := text.endsWith "-" && text != "-" && (← isBash)
      let text := if moves then takeFront (text.length - 1) text else text
      if text == "-" then
        match channel with
        | .named v => setChannel (decimalOf (← valueOf v)) none
        | _ => setChannel (← number) none
        return none
      else if isDigits text then
        match ← channel? (decimalOf text) with
        | some d =>
          setChannel (← number) (some d)
          if moves then setChannel (decimalOf text) none
          return none
        | none => return some (text ++ ": Bad file descriptor")
      else if ← isBash then return some (writtenForm w ++ ": ambiguous redirect")
      else
        setProcess fun p => { p with line := p.line + 1 }
        fail "Syntax error: Bad fd number"
    | .document id =>
      let text ← match (← process).documents.lookup id with
        | some w => textOf e w
        | none => pure ""
      setChannel (← number) (some (← sourceOf text))
      return none
    | .line w =>
      let text ← textOf e w
      setChannel (← number) (some (← sourceOf (text ++ "\n")))
      return none

/-- Carries out redirections up to the first that fails. -/
def applyRedirects (e : Engine) (redirects : List Redirect) : Action Bool := do
  for r in redirects do
    match ← applyRedirect e r with
    | some message =>
      warn message
      return false
    | none => pure ()
  return true

/-- Runs what waited for the input that a command has written. -/
def feedConduits (e : Engine) (before : List (Nat × String)) : Action Unit := do
  let waiting := (← process).conduits
  if waiting.length != before.length then
    setProcess fun p => { p with conduits := before }
    for (n, text) in waiting.take (waiting.length - before.length) do
      let line := (← process).line
      let _ ← inSubshell e do
        setChannel 0 (some ⟨n, true, false⟩)
        e.script text line
      setStream n .null

/-- The channels that redirections change until they end. -/
def changedChannels (redirects : List Redirect) : List Nat :=
  redirects.flatMap fun r => match r with
    | .mk (.number n) _ => [n]
    | .mk .both _ => [1, 2]
    | .mk (.named _) _ => []

/-- Runs an action with redirections, which end with it. The status is set if one fails. -/
def withRedirects (e : Engine) (redirects : List Redirect) (body : Action Unit) : Action Unit := do
  if redirects.isEmpty then body
  else
    let before := (← process).channels
    let changed := (changedChannels redirects).eraseDups
    let conduits := (← process).conduits
    finally_ (do
      if ← applyRedirects e redirects then
        body
        feedConduits e conduits
      else setStatus (if ← isBash then 1 else 2))
      (do
        for n in changed do
          setChannel n (before.lookup n))

end Action

end StudyFlow.Shell
