import StudyFlow.Shell.Builtin.Names
import StudyFlow.Shell.Redirect

/-!
Builtins that change variables, options and arguments.
-/

namespace StudyFlow.Shell

namespace Action

attribute [local instance (high)] instPowNat

/-- Options of a builtin: letters with their arguments, and what follows. A colon after a letter
says that it takes an argument. The builtin complains about others. -/
def readOptions (name allowed : String) (args : List String) :
    Action (Option (List (Char × String) × List String)) := do
  let bash ← isBash
  let mut options := #[]
  let mut rest := args
  for _ in [0:args.length + 1] do
    match rest with
    | "--" :: more => return some (options.toList, more)
    | a :: more =>
      if a.startsWith "-" && a != "-" then
        rest := more
        let mut letters := a.toList.drop 1
        for _ in [0:a.length] do
          match letters with
          | [] => break
          | c :: cs =>
            letters := cs
            let spec := allowed.toList.dropWhile (· != c)
            if spec.isEmpty || c == ':' then
              if bash then
                warn (name ++ ": -" ++ String.singleton c ++ ": invalid option")
                return none
              else fail ("Illegal option -" ++ String.singleton c)
            if (spec.drop 1).head? == some ':' then
              if !cs.isEmpty then
                options := options.push (c, String.ofList cs)
                letters := []
              else match rest with
                | v :: more =>
                  options := options.push (c, v)
                  rest := more
                | [] =>
                  if bash then
                    warn (name ++ ": -" ++ String.singleton c ++ ": option requires an argument")
                    return none
                  else fail ("No arg for -" ++ String.singleton c ++ " option")
            else options := options.push (c, "")
      else break
    | [] => break
  return some (options.toList, rest)

/-- Complains about the usage of a builtin of the larger shell. -/
def usage (text : String) : Action Nat := do
  complain text
  return 2

/-- The number that an argument of a builtin denotes in the small shell. -/
def plainCount (text : String) : Action Nat := do
  let cs := text.toList.dropWhile isBlankOctet
  if !cs.isEmpty && cs.all Char.isDigit && decimalOf (String.ofList cs) < 2 ^ (31 : Nat) then
    return decimalOf (String.ofList cs)
  else fail ("Illegal number: " ++ text)

/-- The name and the value in an argument that is an assignment. -/
def splitAssignment (arg : String) : String × Option String :=
  match indexOf? ['='] arg.toList with
  | some i => (takeFront i arg, some (dropFront (i + 1) arg))
  | none => (arg, none)

/-- The variables in the order of their names. -/
def sortedVariables : Action (List Variable) := do
  return (← process).vars.mergeSort fun a b => a.name ≤ b.name

/-- The declaration that gives a variable its value, for the larger shell. -/
def declarationOf (v : Variable) : String :=
  let attributes := attributesOf v
  let front := "declare " ++ (if attributes.isEmpty then "--" else "-" ++ attributes) ++
    " " ++ v.name
  match v.value with
  | .unset => front
  | .scalar s => front ++ "=" ++ declaredQuote s
  | .indexed items =>
    front ++ "=(" ++ " ".intercalate (items.map fun i =>
      "[" ++ i.1.repr ++ "]=" ++ declaredQuote i.2) ++ ")"
  | .keyed items =>
    front ++ "=(" ++ String.join ((orderedMembers items).map fun i =>
      "[" ++ (if needsQuotes i.1 then declaredQuote i.1 else i.1) ++ "]=" ++
        declaredQuote i.2 ++ " ") ++ ")"

/-- Exports variables or makes them readonly. -/
def attributeBuiltin (name : String) (isExport : Bool) (args : List String) : Action Nat := do
  let bash ← isBash
  let some (options, args) ← readOptions name (if bash then "npfaA" else "p") args
    | return ← usage (if isExport then "export: usage: export [-fn] [name[=value] ...] or export -p"
        else "readonly: usage: readonly [-aAf] [name[=value] ...] or readonly -p")
  let has (c : Char) : Bool := options.any fun o => o.1 == c
  if args.isEmpty || (has 'p' && !bash) then
    for v in ← sortedVariables do
      if (if isExport then v.exported else v.readonly) then
        if bash then printLine (declarationOf v)
        else match Value.text? v.value with
          | some s => printLine (name ++ " " ++ v.name ++ "=" ++ plainQuote s)
          | none => printLine (name ++ " " ++ v.name)
    return 0
  let mut status := 0
  for arg in args do
    let (target, value) := splitAssignment arg
    let append := bash && target.endsWith "+" && value.isSome
    let target := if append then takeFront (target.length - 1) target else target
    if !isName target then
      if bash then
        warn (name ++ ": `" ++ arg ++ "': not a valid identifier")
        status := 1
      else fail (target ++ ": bad variable name")
    else
      match value with
      | some v =>
        match ← binding? target with
        | some old =>
          if old.readonly then
            if bash then
              warn (target ++ ": readonly variable")
              status := 1
              continue
            else fail (target ++ ": is read only")
        | none => pure ()
        let front ← if append then valueOf target else pure ""
        assign target (front ++ v)
      | none => pure ()
      if has 'f' then pure ()
      else if isExport then changeVariable target fun v => { v with exported := !has 'n' }
      else changeVariable target fun v => { v with readonly := true }
  return status

/-- Makes variables local to the running function, by the rules of the small shell. -/
def localPlain (args : List String) : Action Nat := do
  if (← process).scopes.isEmpty || (← process).calls.isEmpty then fail "not in a function"
  for arg in args do
    let (target, value) := splitAssignment arg
    if arg == "-" then pure ()
    else if !isName target then fail (target ++ ": bad variable name")
    else
      saveVariable target
      match value with
      | some v => assign target v
      | none => pure ()
  return 0

/-- Forgets variables or functions. -/
def unsetBuiltin (e : Engine) (args : List String) : Action Nat := do
  let bash ← isBash
  let some (options, args) ← readOptions "unset" (if bash then "fvn" else "fv") args
    | return ← usage "unset: usage: unset [-f] [-v] [-n] [name ...]"
  let functions := options.any fun o => o.1 == 'f'
  let mut status := 0
  for arg in args do
    if functions then setProcess fun p =>
      { p with functions := p.functions.filter fun f => f.1 != arg }
    else
      let (target, index) := splitReference arg
      match bash, index with
      | true, some i =>
        match (← binding? target).map Variable.value with
        | some (.keyed items) =>
          changeVariable target fun v => { v with value := .keyed (items.filter fun m => m.1 != i) }
        | some (.indexed items) =>
          if i == "@" || i == "*" then let _ ← unassign target
          else
            let n ← e.value i
            match ← memberNumber target n with
            | some k =>
              changeVariable target fun v =>
                { v with value := .indexed (items.filter fun m => m.1 != k) }
            | none => warn ("unset: [" ++ i ++ "]: bad array subscript")
        | some _ => let _ ← unassign target
        | none => pure ()
      | _, _ =>
        if !isName arg then
          if bash then
            warn ("unset: `" ++ arg ++ "': not a valid identifier")
            status := 1
          else fail (arg ++ ": bad variable name")
        else
          let isFunction := (← process).functions.any fun f => f.1 == arg
          if bash && (← binding? arg).isNone && isFunction &&
            !(options.any fun o => o.1 == 'v') then
            setProcess fun p => { p with functions := p.functions.filter fun f => f.1 != arg }
          else
            let target ← if options.any fun o => o.1 == 'n' then pure arg else resolveName arg
            if !(← unassign target) then
              if bash then
                warn ("unset: " ++ target ++ ": cannot unset: readonly variable")
                status := 1
              else fail (target ++ ": is read only")
  return status

def longOptions (dialect : Dialect) : List (String × Char) :=
  match dialect with
  | .dash => [("errexit", 'e'), ("noglob", 'f'), ("ignoreeof", 'I'), ("interactive", 'i'),
      ("monitor", 'm'), ("noexec", 'n'), ("stdin", 's'), ("xtrace", 'x'), ("verbose", 'v'),
      ("vi", 'V'), ("emacs", 'E'), ("noclobber", 'C'), ("allexport", 'a'), ("notify", 'b'),
      ("nounset", 'u')]
  | .bash => [("allexport", 'a'), ("braceexpand", 'B'), ("errexit", 'e'), ("errtrace", 'E'),
      ("functrace", 'T'), ("hashall", 'h'), ("histexpand", 'H'), ("keyword", 'k'), ("monitor", 'm'),
      ("noclobber", 'C'), ("noexec", 'n'), ("noglob", 'f'), ("notify", 'b'), ("nounset", 'u'),
      ("onecmd", 't'), ("physical", 'P'), ("privileged", 'p'), ("verbose", 'v'), ("xtrace", 'x')]

/-- Options of the larger shell that have no letter. -/
def unletteredOptions : List String := ["emacs", "history", "ignoreeof", "interactive-comments",
  "nolog", "pipefail", "posix", "vi"]

def setOption (c : Char) (on : Bool) : Action Unit :=
  setProcess fun p =>
    let rest := p.options.filter (· != c)
    { p with options := if on then c :: rest else rest }

def setFeature (name : String) (on : Bool) : Action Unit :=
  setProcess fun p =>
    let rest := p.features.filter (· != name)
    { p with features := if on then name :: rest else rest }

def listOptions (commands : Bool) : Action Unit := do
  let p ← process
  let lettered := (longOptions p.dialect).map fun o => (o.1, p.options.contains o.2)
  let all := if p.dialect == .bash then
      (lettered ++ unletteredOptions.map fun o =>
        (o, p.features.contains o || o == "interactive-comments"))
        |>.mergeSort fun a b => a.1 ≤ b.1
    else lettered
  if p.dialect == .dash && !commands then printLine "Current option settings"
  for (name, on) in all do
    if commands then printLine ("set " ++ (if on then "-o " else "+o ") ++ name)
    else if p.dialect == .bash then printLine (padBack 15 name ++ "\t" ++
      (if on then "on" else "off"))
    else printLine (padBack 16 name ++ (if on then "on" else "off"))

def setBuiltin (args : List String) : Action Nat := do
  let p ← process
  let bash := p.dialect == .bash
  if args.isEmpty then
    for v in ← sortedVariables do
      match v.value with
      | .unset => pure ()
      | .scalar s =>
        if bash then printLine (v.name ++ "=" ++ (if needsQuotes s then readableQuote s else s))
        else printLine (v.name ++ "=" ++ plainQuote s)
      | value =>
        let d := declarationOf { name := v.name, value := value }
        printLine (v.name ++ "=" ++ String.join ((d.splitOn "=").drop 1 |>.intersperse "="))
    return 0
  let letters := (longOptions p.dialect).map Prod.snd
  let mut rest := args
  let mut newArguments : Option (List String) := none
  for _ in [0:args.length + 1] do
    match rest with
    | [] => break
    | "--" :: more =>
      newArguments := some more
      break
    | a :: more =>
      if a == "-" then
        if bash then
          setOption 'x' false
          setOption 'v' false
        else setOption 'x' false
        if !more.isEmpty then newArguments := some more
        break
      else if (a.startsWith "-" || a.startsWith "+") && a.length > 1 then
        let on := a.startsWith "-"
        rest := more
        for c in a.toList.drop 1 do
          if c == 'o' then
            match rest with
            | [] => listOptions (!on)
            | name :: more =>
              rest := more
              match (longOptions p.dialect).lookup name with
              | some c => setOption c on
              | none =>
                if bash && unletteredOptions.contains name then setFeature name on
                else if bash then
                  warn ("set: " ++ name ++ ": invalid option name")
                  return 2
                else fail ("Illegal option " ++ (if on then "-" else "+") ++ "o " ++ name)
          else if letters.contains c then setOption c on
          else if bash then
            warn ("set: " ++ takeFront 1 a ++ String.singleton c ++ ": invalid option")
            complain "set: usage: set [-abefhkmnptuvxBCEHPT] [-o option-name] [--] [-] [arg ...]"
            return 2
          else fail ("Illegal option " ++ takeFront 1 a ++ String.singleton c)
      else
        newArguments := some rest
        break
  match newArguments with
  | some args => setProcess fun p => { p with arguments := args }
  | none => pure ()
  return 0

/-- Drops arguments at the front. -/
def shiftBuiltin (args : List String) : Action Nat := do
  let count := (← process).arguments.length
  let drop (n : Nat) : Action Nat := do
    setProcess fun p => { p with arguments := p.arguments.drop n }
    return 0
  if ← isBash then
    match args with
    | [] => if count == 0 then return 1 else drop 1
    | a :: _ =>
      match signed? a with
      | some n =>
        if n < 0 then
          warn ("shift: " ++ a ++ ": shift count out of range")
          return 1
        else if (count : Int) < n then return 1
        else drop n.toNat
      | none =>
        warn ("shift: " ++ a ++ ": numeric argument required")
        return 1
  else
    let n ← match args with
      | [] => pure 1
      | a :: _ => plainCount a
    if count < n then fail "can't shift that many" else drop n

/-- The options of the larger shell that are set by name, and whether they are so from the start. -/
def featureNames : List (String × Bool) :=
  [("autocd", false), ("assoc_expand_once", false), ("cdable_vars", false), ("cdspell", false),
   ("checkhash", false), ("checkjobs", false), ("checkwinsize", true), ("cmdhist", true),
   ("compat31", false), ("compat32", false), ("compat40", false), ("compat41", false),
   ("compat42", false), ("compat43", false), ("compat44", false), ("complete_fullquote", true),
   ("direxpand", false), ("dirspell", false), ("dotglob", false), ("execfail", false),
   ("expand_aliases", false), ("extdebug", false), ("extglob", false), ("extquote", true),
   ("failglob", false), ("force_fignore", true), ("globasciiranges", true), ("globskipdots", true),
   ("globstar", false), ("gnu_errfmt", false), ("histappend", false), ("histreedit", false),
   ("histverify", false), ("hostcomplete", true), ("huponexit", false), ("inherit_errexit", false),
   ("interactive_comments", true), ("lastpipe", false), ("lithist", false),
   ("localvar_inherit", false), ("localvar_unset", false), ("login_shell", false),
   ("mailwarn", false), ("no_empty_cmd_completion", false), ("nocaseglob", false),
   ("nocasematch", false), ("noexpand_translation", false), ("nullglob", false),
   ("patsub_replacement", true), ("progcomp", true), ("progcomp_alias", false),
   ("promptvars", true), ("restricted_shell", false), ("shift_verbose", false),
   ("sourcepath", true), ("varredir_close", false), ("xpg_echo", false)]

/-- Sets options of the larger shell by name. -/
def shoptBuiltin (args : List String) : Action Nat := do
  let some (options, names) ← readOptions "shopt" "suqpo" args
    | return ← usage "shopt: usage: shopt [-pqsu] [-o] [optname ...]"
  let has (c : Char) : Bool := options.any fun o => o.1 == c
  let isOn (name : String) (start : Bool) : Action Bool := do
    let p ← process
    return if p.features.contains ("no " ++ name) then false else p.features.contains name || start
  let mut status := 0
  if names.isEmpty then
    for (name, start) in featureNames do
      let on ← isOn name start
      if (has 's' && !on) || (has 'u' && on) then continue
      if has 'p' then printLine ("shopt " ++ (if on then "-s " else "-u ") ++ name)
      else printLine (padBack 20 name ++ "\t" ++ (if on then "on" else "off"))
    return 0
  for name in names do
    if has 'o' then
      match (longOptions .bash).lookup name with
      | some c =>
        if has 's' then setOption c true
        else if has 'u' then setOption c false
        else if !(← hasOption c) then status := 1
      | none =>
        if unletteredOptions.contains name then
          if has 's' then setFeature name true
          else if has 'u' then setFeature name false
          else if !(← hasFeature name) then status := 1
        else
          warn ("shopt: " ++ name ++ ": invalid option name")
          status := 1
    else
      match featureNames.lookup name with
      | none =>
        warn ("shopt: " ++ name ++ ": invalid shell option name")
        status := 1
      | some start =>
        if has 's' then
          setFeature name true
          setFeature ("no " ++ name) false
        else if has 'u' then
          setFeature name false
          setFeature ("no " ++ name) true
        else
          let on ← isOn name start
          if !on then status := 1
          if !has 'q' then
            if has 'p' then printLine ("shopt " ++ (if on then "-s " else "-u ") ++ name)
            else printLine (padBack 20 name ++ "\t" ++ (if on then "on" else "off"))
  return status

/-- Sets or lists names that stand for other text. -/
def aliasBuiltin (args : List String) : Action Nat := do
  let bash ← isBash
  let args := if bash && args.head? == some "-p" then args.drop 1 else args
  let show_ (name value : String) : Action Unit := do
    if bash then printLine ("alias " ++ name ++ "=" ++ singleQuote value)
    else printLine (name ++ "=" ++ plainQuote value)
  if args.isEmpty then
    let sorted := (← process).aliases.mergeSort fun a b => a.1 ≤ b.1
    for (n, v) in sorted do
      show_ n v
    return 0
  let mut status := 0
  for arg in args do
    let (name, value) := splitAssignment arg
    match value with
    | some v =>
      setProcess fun p => { p with aliases := (name, v) :: p.aliases.filter fun a => a.1 != name }
    | none =>
      match (← process).aliases.lookup name with
      | some v => show_ name v
      | none =>
        if bash then
          warn ("alias: " ++ name ++ ": not found")
        else complain ("alias: " ++ name ++ " not found")
        status := 1
  return status

/-- Forgets names that stand for other text. -/
def unaliasBuiltin (args : List String) : Action Nat := do
  let bash ← isBash
  let some (options, names) ← readOptions "unalias" "a" args
    | return ← usage "unalias: usage: unalias [-a] name [name ...]"
  if !options.isEmpty then
    setProcess fun p => { p with aliases := [] }
    return 0
  if names.isEmpty && bash then return ← usage "unalias: usage: unalias [-a] name [name ...]"
  let mut status := 0
  for name in names do
    if (← process).aliases.any fun a => a.1 == name then
      setProcess fun p => { p with aliases := p.aliases.filter fun a => a.1 != name }
    else
      if bash then
        warn ("unalias: " ++ name ++ ": not found")
      else complain ("unalias: " ++ name ++ " not found")
      status := 1
  return status

end Action

end StudyFlow.Shell
