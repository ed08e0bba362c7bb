import StudyFlow.Shell.Builtin.Variables

/-!
Assignments, with the arrays and attributes of the larger shell, and the builtins that declare
variables.
-/

namespace StudyFlow.Shell

namespace Action

/-- The number that a text denotes to a variable that holds numbers. -/
def asNumber (e : Engine) (text : String) : Action String := do
  return toString (← e.value text)

/-- The text that is assigned to a variable, once its attributes are taken into account. -/
def adapted (e : Engine) (name text : String) : Action String := do
  match ← binding? name with
  | some v => if v.integer then asNumber e text else return text
  | none => return text

/-- Assigns a text, perhaps behind what the variable holds. -/
def assignText (e : Engine) (name : String) (append : Bool) (text : String) : Action Unit := do
  let name ← resolveName name
  let (name, index) := splitReference name
  match index with
  | some i => assignMember e name i text
  | none =>
    let integer := match ← binding? name with
      | some v => v.integer
      | none => false
    let text ← adapted e name text
    if append then
      let old ← valueOf name
      if integer then assign name (toString (← e.value (old ++ "+" ++ text)))
      else assign name (old ++ text)
    else assign name text

/-- The members that an array is given, in order: none for the next number. -/
def memberTexts (e : Engine) (keyed : Bool) (items : List Member) :
    Action (List (Option String × Bool × String)) := do
  let mut out := #[]
  for m in items do
    match m with
    | .mk (some i) append w =>
      let index ← textOf e i
      out := out.push (some index, append, ← expandValue e w)
    | .mk none _ w =>
      if keyed then
        for t in ← expandWord e w do
          out := out.push (none, false, t)
      else
        for t in ← expandWord e w do
          out := out.push (none, false, t)
  return out.toList

def assignMembers (e : Engine) (name : String) (append : Bool) (items : List Member) :
    Action Unit := do
  let name ← resolveName name
  let old := (← binding? name).getD { name := name }
  let keyed := match old.value with
    | .keyed _ => true
    | _ => false
  let texts ← memberTexts e keyed items
  if old.readonly then refuseChange name
  if keyed then
    if !append then putVariable { old with value := .keyed [] }
    -- Members without an index are keys and values in turn.
    let mut pending : Option String := none
    for (index, more, t) in texts do
      match index, pending with
      | some k, _ =>
        let before ← if more then pure (((← memberValue? e name k)).getD "") else pure ""
        assignKeyed name k (before ++ (← adapted e name t))
      | none, none => pending := some t
      | none, some k =>
        assignKeyed name k t
        pending := none
    match pending with
    | some k => assignKeyed name k ""
    | none => pure ()
  else
    let start := if append then asIndexed old.value else []
    putVariable { old with value := .indexed start }
    let mut next := (start.getLast?.map fun i => i.1 + 1).getD 0
    for (index, more, t) in texts do
      let i ← match index with
        | some text => do
          let n ← e.value text
          match ← memberNumber name n with
          | some k => pure k
          | none => do
            warn ("[" ++ text ++ "]=" ++ t ++ ": bad array subscript")
            pure next
        | none => pure next
      let current := ((← binding? name).map Variable.value).getD .unset
      let before := if more then ((asIndexed current).lookup i).getD "" else ""
      assignIndexed name i (before ++ (← adapted e name t))
      next := i + 1

/-- Carries out an assignment and gives what it looks like when it is traced. -/
def runAssignment (e : Engine) : Assignment → Action String
  | .mk name index append value => do
    let mark := if append then "+=" else "="
    match value, index with
    | [.members items], _ =>
      assignMembers e name append items
      return name ++ mark ++ "()"
    | w, .none =>
      let text ← expandValue e w
      assignText e name append text
      return name ++ mark ++ text
    | w, index =>
      let i := (← indexText e index).getD ""
      let text ← expandValue e w
      let name ← resolveName name
      let text ← adapted e name text
      let before ← if append then pure ((← memberValue? e name i).getD "") else pure ""
      assignMember e name i (before ++ text)
      return name ++ "[" ++ i ++ "]" ++ mark ++ text

/-- An argument of a declaring builtin: a plain text, or an assignment to an array. -/
inductive DeclareArg where
  | text (t : String)
  | members (name : String) (append : Bool) (items : List Member)
  deriving Inhabited

/-- The array assignment that a word is. -/
def memberWord? : Word → Option (String × Bool × List Member)
  | [.text false t, .members items] =>
    if t.endsWith "+=" then some (takeFront (t.length - 2) t, true, items)
    else some (takeFront (t.length - 1) t, false, items)
  | _ => none

def declareArguments (e : Engine) (ws : List Word) : Action (List DeclareArg) := do
  let dialect := (← process).dialect
  let mut out := #[]
  for w in ws do
    match memberWord? w with
    | some (n, append, items) => out := out.push (.members n append items)
    | none =>
      let isAssignment : Bool := match w with
        | .text false t :: _ =>
          let name := t.toList.takeWhile fun c => isNameChar c || c == '[' || c == ']' ||
            c == '@' || c == '*'
          (Reader.assignmentOf? dialect w).isSome ||
            (dialect == .bash && !name.isEmpty && name.contains '[' &&
            (t.toList.drop name.length).head? == some '=')
        | _ => false
      if isAssignment then out := out.push (.text (← expandValue e w))
      else
        for t in ← expandWord e w do
          out := out.push (.text t)
  return out.toList

/-- The plain texts among the arguments of a declaring builtin. -/
def textsOf (args : List DeclareArg) : List String :=
  args.filterMap fun a => match a with
    | .text t => some t
    | .members _ _ _ => none

/-- Declares variables of the larger shell. -/
def declareBuiltin (e : Engine) (command : String) (args : List DeclareArg) : Action Nat := do
  let isLocal := command == "local"
  let inFunction := !(← process).calls.isEmpty
  if isLocal && !inFunction then
    warn "local: can only be used in a function"
    return 1
  -- Options come first, and a plus sign takes an attribute away.
  let mut on : List Char := []
  let mut off : List Char := []
  let mut rest := args
  for _ in [0:args.length] do
    match rest with
    | .text "--" :: more =>
      rest := more
      break
    | .text t :: more =>
      if (t.startsWith "-" || t.startsWith "+") && t.length > 1 then
        for c in t.toList.drop 1 do
          if !("aAilnrtuxpfFgI".toList.contains c) then
            warn (command ++ ": " ++ takeFront 1 t ++ String.singleton c ++ ": invalid option")
            complain (if isLocal then "local: usage: local [option] name[=value] ..."
              else command ++ ": usage: " ++ command ++
                " [-aAfFgiIlnrtux] [name[=value] ...] or " ++ command ++
                " -p [-aAfFilnrtux] [name ...]")
            return 2
        if t.startsWith "-" then on := on ++ t.toList.drop 1 else off := off ++ t.toList.drop 1
        rest := more
      else break
    | _ => break
  if command == "readonly" then on := 'r' :: on
  if command == "export" then on := 'x' :: on
  let has (c : Char) : Bool := on.contains c
  let change (v : Variable) : Variable :=
    { v with
      integer := (v.integer || has 'i') && !off.contains 'i'
      exported := (v.exported || has 'x') && !off.contains 'x'
      lower := ((v.lower && !has 'u') || has 'l') && !off.contains 'l'
      upper := ((v.upper && !has 'l') || has 'u') && !off.contains 'u'
      reference := (v.reference || has 'n') && !off.contains 'n'
      value := match v.value with
        | .scalar s =>
          if has 'a' then .indexed [(0, s)] else if has 'A' then .keyed [("0", s)] else .scalar s
        | .unset => if has 'A' then .keyed [] else if has 'a' then .indexed [] else .unset
        | x => x }
  if has 'f' || has 'F' then
    let mut status := 0
    for a in textsOf rest do
      if (← process).functions.any fun f => f.1 == a then
        if has 'F' then printLine a
      else status := 1
    if rest.isEmpty then
      for (n, _) in (← process).functions.mergeSort fun a b => a.1 ≤ b.1 do
        printLine ("declare -f " ++ n)
    return status
  if rest.isEmpty then
    for v in ← sortedVariables do
      let shown := (on.filter (· != 'p')).all fun c => (attributesOf v).toList.contains c
      if shown && !isLocal then
        if has 'p' || !(on.filter (· != 'p')).isEmpty then printLine (declarationOf v)
        else match v.value with
          | .unset => pure ()
          | .scalar s => printLine (v.name ++ "=" ++ (if needsQuotes s then readableQuote s else s))
          | _ => pure ()
    return 0
  let mut status := 0
  for a in rest do
    let (target, append, value) := match a with
      | .text t =>
        let (n, v) := splitAssignment t
        if v.isSome && n.endsWith "+" then (takeFront (n.length - 1) n, true, v) else (n, false, v)
      | .members n append _ => (n, append, none)
    let (target, index) := splitReference target
    if has 'p' then
      match ← binding? target with
      | some v => printLine (declarationOf v)
      | none =>
        warn (command ++ ": " ++ target ++ ": not found")
        status := 1
      continue
    if !isName target then
      let shown := match a with
        | .text t => t
        | .members n _ _ => n
      warn (command ++ ": `" ++ shown ++ "': not a valid identifier")
      status := 1
      continue
    if (isLocal || (inFunction && command != "readonly" && command != "export" && !has 'g')) then
      let isSaved := match (← process).scopes with
        | s :: _ => s.any fun x => x.1 == target
        | [] => false
      saveVariable target
      if !isSaved then
        match ← binding? target with
        | some v =>
          if v.readonly then
            warn (command ++ ": " ++ target ++ ": readonly variable")
            status := 1
            continue
        | none => pure ()
        dropVariable target
        putVariable { name := target }
    match ← binding? target with
    | some v =>
      if v.readonly && (value.isSome || (match a with
          | .members _ _ _ => true
          | _ => false)) then
        warn (target ++ ": readonly variable")
        status := 1
        continue
    | none => pure ()
    changeVariable target change
    match a, value, index with
    | .members _ _ items, _, _ => assignMembers e target append items
    | _, some v, some i => assignMember e target i v
    | _, some v, none =>
      if has 'n' then changeVariable target fun x => { x with value := .scalar v }
      else
        match (← binding? target).map Variable.value with
        | some (.indexed _) | some (.keyed _) => assignText e target append v
        | _ => assignText e target append v
    | _, none, _ => pure ()
    if has 'r' then changeVariable target fun v => { v with readonly := true }
  return status

end Action

end StudyFlow.Shell
