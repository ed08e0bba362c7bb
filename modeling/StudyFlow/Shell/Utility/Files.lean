import StudyFlow.Shell.Builtin.Process
import StudyFlow.Shell.Utility.Basic

/-!
Programs that make, copy, move and remove files and directories.
-/

namespace StudyFlow.Shell

namespace Utility

open StudyFlow.Shell.Action

/-- A path without the slashes at its end. -/
def trimSlashes (path : String) : String :=
  let cs := (path.toList.reverse.dropWhile (· == '/')).reverse
  if cs.isEmpty && !path.isEmpty then "/" else String.ofList cs

def baseName (path : String) : String :=
  let t := trimSlashes path
  if t == "/" then "/" else String.ofList (t.toList.reverse.takeWhile (· != '/')).reverse

def directoryName (path : String) : String :=
  let t := (trimSlashes path).toList.reverse.dropWhile (· != '/')
  if t.isEmpty then "."
  else trimSlashes (String.ofList t.reverse)

/-- A path below a directory. -/
def inside (dir name : String) : String :=
  if dir.endsWith "/" then dir ++ name else dir ++ "/" ++ name

/-- The names in a directory with their entries, sorted. Names outside of ASCII are octets here. -/
def listing (path : String) : Action (List (String × Entry)) := do
  let files := (← world).files
  match files.list (← locate path) with
  | .ok entries => return entries.map fun x => (octetsOfText x.1, x.2)
  | .error _ => return []

/-- What is wrong with a path that does not lead to anything. -/
def pathFault (path : String) : Action (Option Fault) := do
  match ← entryAt path with
  | .ok _ => return none
  | .error f => return some f

/-- The place in the file tree for a new entry of that path. -/
def placeOf (path : String) : Action (Except Fault Location) := do
  let files := (← world).files
  match files.place (← locate path) with
  | .ok (some l, slashed) =>
    if slashed && !(files.isDir l) then
      return if (files.get? l).isSome then .error .notDirectory else .ok l
    else return .ok l
  | .ok (none, _) => return .error .alreadyExists
  | .error f => return .error f

def putEntry (l : Location) (e : Entry) : Action Unit :=
  setWorld fun w => { w with files := w.files.put l e }

/-- Removes an entry from the file tree with all that is below it. -/
def dropEntry (l : Location) : Action Unit := do
  detach l
  setWorld fun w => { w with files := w.files.erase l }

def mkdirUtility : Utility := fun _ name args => do
  let g ← readArguments name
    { letters := "pvm:Z", names := [("parents", 'p'), ("verbose", 'v'), ("mode", 'm'),
      ("context", 'Z')] } args
  if g.operands.isEmpty then misuse name 1 "missing operand"
  let mut status := 0
  for path in g.operands do
    let make (p : String) : Action (Option Fault) := do
      let at_ ← locate p
      changeFiles fun t => t.createDir at_
    let refuse (p : String) (f : Fault) : Action Unit :=
      complain (name ++ ": cannot create directory " ++ Utility.quoted p ++ ": " ++ faultText f)
    let say (p : String) : Action Unit := do
      if g.has 'v' then printLine (name ++ ": created directory " ++ Utility.quoted p)
    if g.has 'p' then
      let parts := splitAtEach '/' path
      let mut current : String := ""
      for (part, k) in parts.zip (List.range parts.length) do
        current := if k == 0 then part else current ++ "/" ++ part
        if part.isEmpty then continue
        if ← isDirectory current then continue
        match ← make current with
        | none => say current
        | some .alreadyExists =>
          let isLast := (parts.drop (k + 1)).all String.isEmpty
          refuse current (if isLast then .alreadyExists else .notDirectory)
          status := 1
          break
        | some f =>
          refuse current f
          status := 1
          break
    else match ← make path with
      | none => say path
      | some f =>
        refuse path f
        status := 1
  return status

def rmdirUtility : Utility := fun _ name args => do
  let g ← readArguments name
    { letters := "pvI", names := [("parents", 'p'), ("verbose", 'v'),
      ("ignore-fail-on-non-empty", 'I')] } args
  if g.operands.isEmpty then misuse name 1 "missing operand"
  let mut status := 0
  for path in g.operands do
    let parts := splitAtEach '/' (trimSlashes path)
    let steps := if g.has 'p' then
        (List.range parts.length).reverse.map fun k => "/".intercalate (parts.take (k + 1))
      else [path]
    for p in steps do
      if g.has 'v' then printLine (name ++ ": removing directory, " ++ Utility.quoted p)
      let fault : Option String ← match ← entryAt p with
        | .ok (l, .directory) => do
          if !(← listing p).isEmpty then pure (some "Directory not empty")
          else if baseName p == "." then pure (some "Invalid argument")
          else do
            dropEntry l
            pure none
        | .ok _ => pure (some "Not a directory")
        | .error f => pure (some (faultText f))
      match fault with
      | some cause =>
        if !(g.has 'I' && cause == "Directory not empty") then
          complain (name ++ ": failed to remove " ++ (if p == path then "" else "directory ") ++
            Utility.quoted p ++ ": " ++ cause)
          status := 1
        break
      | none => pure ()
  return status

def below (fuel : Nat) (path : String) : Action (List (String × Bool)) := do
  match fuel with
  | 0 => return []
  | fuel + 1 =>
    let mut out := #[]
    for (n, e) in ← listing path do
      let p := inside path n
      match e with
      | .directory =>
        out := out ++ (← below fuel p).toArray
        out := out.push (p, true)
      | _ => out := out.push (p, false)
    return out.toList

def rmUtility : Utility := fun _ name args => do
  let g ← readArguments name
    { letters := "rRfivdI", names := [("recursive", 'r'), ("force", 'f'), ("verbose", 'v'),
        ("dir", 'd'), ("interactive", 'i'), ("no-preserve-root", 'I'), ("preserve-root", 'I'),
        ("one-file-system", 'I')], optional := "" } args
  let force := g.lastOf? "fi" == some 'f'
  if g.operands.isEmpty then
    if force then return 0
    misuse name 1 "missing operand"
  let recursive := g.has 'r' || g.has 'R'
  let mut status := 0
  for path in g.operands do
    let refuse (cause : String) : Action Unit :=
      complain (name ++ ": cannot remove " ++ Utility.quoted path ++ ": " ++ cause)
    let last := baseName path
    match ← entryAt path with
    | .error f =>
      if !(force && (f == .notFound || f == .notDirectory)) then
        refuse (faultText f)
        status := 1
    | .ok (l, .directory) =>
      if recursive && (last == "." || last == "..") then
        complain (name ++ ": refusing to remove '.' or '..' directory: skipping " ++
          Utility.quoted path)
        status := 1
      else if recursive && trimSlashes path == "/" then
        complain (name ++ ": it is dangerous to operate recursively on '/'")
        complain (name ++ ": use --no-preserve-root to override this failsafe")
        status := 1
      else if recursive then
        if g.has 'v' then
          for (p, isDir) in ← below 100 path do
            printLine ((if isDir then "removed directory " else "removed ") ++ Utility.quoted p)
          printLine ("removed directory " ++ Utility.quoted path)
        dropEntry l
      else if g.has 'd' then
        if (← listing path).isEmpty then
          dropEntry l
          if g.has 'v' then printLine ("removed directory " ++ Utility.quoted path)
        else
          refuse "Directory not empty"
          status := 1
      else
        refuse "Is a directory"
        status := 1
    | .ok (l, _) =>
      dropEntry l
      if g.has 'v' then printLine ("removed " ++ Utility.quoted path)
  return status

def unlinkUtility : Utility := fun _ name args => do
  let g ← readArguments name { letters := "" } args
  match g.operands.toList with
  | [] => misuse name 1 "missing operand"
  | [p] =>
    match ← entryAt p with
    | .ok (_, .directory) =>
      complain (name ++ ": cannot unlink " ++ Utility.quoted p ++ ": Is a directory")
      return 1
    | .ok (l, _) =>
      dropEntry l
      return 0
    | .error f =>
      complain (name ++ ": cannot unlink " ++ Utility.quoted p ++ ": " ++ faultText f)
      return 1
  | _ :: q :: _ => misuse name 1 ("extra operand " ++ Utility.quoted q)

def touchUtility : Utility := fun _ name args => do
  let g ← readArguments name
    { letters := "acmfht:d:r:", names := [("no-create", 'c'), ("date", 'd'), ("reference", 'r'),
        ("time", 'a'), ("no-dereference", 'h')] } args
  if g.operands.isEmpty then misuse name 1 "missing file operand"
  let mut status := 0
  for path in g.operands do
    if path == "-" then continue
    match ← entryAt path with
    | .ok (l, e) =>
      if !FileTree.isBase l && !g.has 'd' && !g.has 't' && !g.has 'r' then putEntry l e
    | .error f =>
      if f == .notFound && g.has 'c' then continue
      let refuse (cause : String) : Action Unit :=
        complain (name ++ ": cannot touch " ++ Utility.quoted path ++ ": " ++ cause)
      match ← openFile path .append with
      | .ok _ => pure ()
      | .error f =>
        if path.endsWith "/" && f == .isDirectory then
          complain (name ++ ": setting times of " ++ Utility.quoted path ++
            ": No such file or directory")
        else refuse (faultText f)
        status := 1
  return status

/-- Copies a file or a directory to a place. -/
def copyEntry (fuel : Nat) (name source target : String) (verbose : Bool) : Action Nat := do
  match fuel with
  | 0 => return 1
  | fuel + 1 =>
    match ← entryAt source with
    | .error f =>
      complain (name ++ ": cannot stat " ++ Utility.quoted source ++ ": " ++ faultText f)
      return 1
    | .ok (_, .directory) =>
      match ← entry? target with
      | some (.file _ _) =>
        complain (name ++ ": cannot overwrite non-directory " ++ Utility.quoted target ++
          " with directory " ++ Utility.quoted source)
        return 1
      | some .directory => pure ()
      | none =>
        let at_ ← locate target
        match ← changeFiles fun t => t.createDir at_ with
        | some f =>
          complain (name ++ ": cannot create directory " ++ Utility.quoted target ++
            ": " ++ faultText f)
          return 1
        | none =>
          if verbose then printLine (Utility.quoted source ++ " -> " ++ Utility.quoted target)
      let mut status := 0
      for (n, _) in ← listing source do
        let s ← copyEntry fuel name (inside source n) (inside target n) verbose
        if s != 0 then status := s
      return status
    | .ok (l, .file content executable) =>
      match ← entryAt target with
      | .ok (m, .file _ kept) =>
        if l == m then
          complain (name ++ ": " ++ Utility.quoted source ++ " and " ++ Utility.quoted target ++
            " are the same file")
          return 1
        putEntry m (.file content kept)
        if verbose then printLine (Utility.quoted source ++ " -> " ++ Utility.quoted target)
        return 0
      | .ok (_, .directory) =>
        complain (name ++ ": cannot overwrite directory " ++ Utility.quoted target ++
          " with non-directory")
        return 1
      | .error f =>
        match device? target, channelOfPath? target with
        | none, none =>
          match ← placeOf target with
          | .ok m =>
            if target.endsWith "/" then
              complain (name ++ ": cannot create regular file " ++ Utility.quoted target ++
                ": Not a directory")
              return 1
            putEntry m (.file content executable)
            if verbose then printLine (Utility.quoted source ++ " -> " ++ Utility.quoted target)
            return 0
          | .error g =>
            let cause := if f == .notFound then g else f
            complain (name ++ ": cannot create regular file " ++ Utility.quoted target ++ ": " ++
              faultText cause)
            return 1
        | _, _ =>
          let _ ← writeFile target .write (octetsOfBytes content)
          return 0

/-- The sources and the target among the operands of a program that copies or moves. -/
structure Transfer where
  sources : List String
  target : String
  /-- Whether the target is a directory to put the sources into. -/
  into : Bool

/-- Reads the sources and the target of a program that copies or moves. -/
def readTransfer (name : String) (g : Given) : Action Transfer := do
  let operands := g.operands.toList
  if operands.isEmpty then misuse name 1 "missing file operand"
  match g.last? 't' with
  | some d =>
    if !(← isDirectory d) then
      let cause := if ← fileExists d then "Not a directory" else "No such file or directory"
      die 1 (name ++ ": target directory " ++ Utility.quoted d ++ ": " ++ cause)
    return ⟨operands, d, true⟩
  | none =>
    match operands.reverse with
    | [] => misuse name 1 "missing file operand"
    | [only] => misuse name 1 ("missing destination file operand after " ++ Utility.quoted only)
    | target :: sources =>
      if g.has 'T' then
        match sources.reverse with
        | [s] => return ⟨[s], target, false⟩
        | _ => misuse name 1 ("extra operand " ++ Utility.quoted ((operands.drop 2).head?.getD ""))
      let isDir ← isDirectory target
      if !isDir && sources.length > 1 then
        let cause := if ← fileExists target then "Not a directory" else "No such file or directory"
        die 1 (name ++ ": target " ++ Utility.quoted target ++ ": " ++ cause)
      return ⟨sources.reverse, target, isDir⟩

def cpUtility : Utility := fun _ name args => do
  let g ← readArguments name
    { letters := "rRaft:pvniuTlsdLPHbS:x", names := [("recursive", 'r'), ("archive", 'a'),
        ("force", 'f'), ("target-directory", 't'), ("verbose", 'v'), ("no-clobber", 'n'),
        ("update", 'u'), ("no-target-directory", 'T'), ("preserve", 'p'), ("interactive", 'i'),
        ("parents", 'x')], optional := "p" } args
  let t ← readTransfer name g
  let recursive := g.has 'r' || g.has 'R' || g.has 'a'
  let mut status := 0
  for s in t.sources do
    let target := if t.into then inside t.target (baseName s) else t.target
    match ← entryAt s with
    | .ok (l, .directory) =>
      if !recursive then
        complain (name ++ ": -r not specified; omitting directory " ++ Utility.quoted s)
        status := 1
        continue
      let isWithin ← match ← placeOf target with
        | .ok m => pure (m.take l.length == l && m != l)
        | .error _ => pure false
      let isSame ← match ← entryAt target with
        | .ok (m, _) => pure (m == l)
        | .error _ => pure false
      if isSame || isWithin then
        complain (name ++ ": cannot copy a directory, " ++ Utility.quoted s ++ ", into itself, " ++
          Utility.quoted target)
        status := 1
        continue
    | _ =>
      if s.startsWith "/dev/" && (device? s).isSome then
        let _ ← writeFile target .write ""
        continue
    if g.has 'n' && (← fileExists target) then continue
    let r ← copyEntry 100 name s target (g.has 'v')
    if r != 0 then status := r
  return status

def mvUtility : Utility := fun _ name args => do
  let g ← readArguments name
    { letters := "ft:vniuTbS:", names := [("force", 'f'), ("target-directory", 't'),
        ("verbose", 'v'), ("no-clobber", 'n'), ("update", 'u'), ("no-target-directory", 'T'),
        ("interactive", 'i')] } args
  let t ← readTransfer name g
  let mut status := 0
  for s in t.sources do
    let target := if t.into then inside t.target (baseName s) else t.target
    let refuse (text : String) : Action Unit := complain (name ++ ": " ++ text)
    let q := Utility.quoted s
    let r := Utility.quoted target
    if g.lastOf? "nf" == some 'n' && (← fileExists target) then continue
    match ← entryAt s, ← entryAt target with
    | .error f, _ =>
      refuse ("cannot stat " ++ q ++ ": " ++ faultText f)
      status := 1
    | .ok (l, e), found =>
      let place : Except Fault Location ← match found with
        | .ok (m, _) => pure (.ok m)
        | .error _ => placeOf target
      let isDir := e == .directory
      match place, found with
      | .error f, _ =>
        refuse ("cannot move " ++ q ++ " to " ++ r ++ ": " ++ faultText f)
        status := 1
      | .ok m, found =>
        let there : Option Entry := match found with
          | .ok (_, x) => some x
          | .error _ => none
        if l == m then
          refuse (q ++ " and " ++ r ++ " are the same file")
          status := 1
        else if isDir && m.take l.length == l then
          refuse ("cannot move " ++ q ++ " to a subdirectory of itself, " ++ r)
          status := 1
        else if isDir && (there.any fun x => x != .directory) then
          refuse ("cannot overwrite non-directory " ++ r ++ " with directory " ++ q)
          status := 1
        else if !isDir && there == some .directory then
          refuse ("cannot overwrite directory " ++ r ++ " with non-directory")
          status := 1
        else if isDir && there == some .directory && !(← listing target).isEmpty then
          refuse ("cannot move " ++ q ++ " to " ++ r ++ ": Directory not empty")
          status := 1
        else if !isDir && there.isNone && target.endsWith "/" then
          refuse ("cannot move " ++ q ++ " to " ++ r ++ ": Not a directory")
          status := 1
        else
          detach m
          let moved (w : World) : World :=
            let files := w.files.erase m
            let entries := files.entries.map fun x =>
              if x.1.take l.length == l then (m ++ x.1.drop l.length, x.2) else x
            let streams := w.streams.map fun st => match st with
              | .file p o a => if p.take l.length == l then .file (m ++ p.drop l.length) o a else st
              | st => st
            { w with files := ⟨entries⟩, streams := streams }
          setWorld moved
          if g.has 'v' then printLine ("renamed " ++ q ++ " -> " ++ r)
  return status

def lnUtility : Utility := fun _ name args => do
  let g ← readArguments name
    { letters := "sfnvt:Tbri", names := [("symbolic", 's'), ("force", 'f'), ("verbose", 'v'),
        ("no-dereference", 'n'), ("target-directory", 't'), ("no-target-directory", 'T'),
        ("relative", 'r')] } args
  let operands := g.operands.toList
  if operands.isEmpty then misuse name 1 "missing file operand"
  let (sources, target, isInto) ← match operands with
    | [only] => pure ([only], baseName only, false)
    | _ => do
      let t ← readTransfer name g
      pure (t.sources, t.target, t.into)
  let mut status := 0
  for s in sources do
    let link := if isInto then inside target (baseName s) else target
    let kind := if g.has 's' then "symbolic link " else "hard link "
    -- What a symbolic link names is seen from the directory of the link.
    let original := if g.has 's' && !s.startsWith "/" && directoryName link != "." then
      inside (directoryName link) s else s
    match ← entryAt original with
    | .ok (_, e) =>
      if e == .directory && !g.has 's' then
        complain (name ++ ": " ++ shown s ++ ": hard link not allowed for directory")
        status := 1
        continue
      if ← fileExists link then
        if g.has 'f' then
          match ← entryAt link with
          | .ok (l, .file _ _) => dropEntry l
          | _ => pure ()
        else
          complain (name ++ ": failed to create " ++ kind ++ Utility.quoted link ++
            (if g.has 's' then "" else " => " ++ Utility.quoted s) ++ ": File exists")
          status := 1
          continue
      match e with
      | .directory =>
        let n ← copyEntry 100 name original link false
        if n != 0 then status := n
      | e => match ← placeOf link with
        | .ok l => putEntry l e
        | .error f =>
          complain (name ++ ": failed to create " ++ kind ++ Utility.quoted link ++
            (if g.has 's' then "" else " => " ++ Utility.quoted s) ++ ": " ++ faultText f)
          status := 1
    | .error f =>
      if !g.has 's' then
        complain (name ++ ": failed to access " ++ Utility.quoted s ++ ": " ++ faultText f)
        status := 1
  return status

/-- The permissions of an entry, as far as they are kept. -/
def modeOf : Entry → Nat
  | .directory => 493
  | .file _ true => 493
  | .file _ false => 420

def chmodUtility : Utility := fun _ name args => do
  -- A mode that takes permissions away looks like an option.
  let isMode (a : String) : Bool :=
    a.startsWith "-" && a.length > 1 && (a.toList.drop 1).all fun c =>
      "rwxXst,+-=ugoa".toList.contains c
  let given := args.filter isMode
  let g ← readArguments name
    { letters := "Rvcf", names := [("recursive", 'R'), ("verbose", 'v'), ("changes", 'c'),
        ("quiet", 'f'), ("silent", 'f'), ("reference", 'r')] } (args.filter fun a => !isMode a)
  let operands := given ++ g.operands.toList
  match operands with
  | [] => misuse name 1 "missing operand"
  | mode :: files =>
    if files.isEmpty then misuse name 1 ("missing operand after " ++ Utility.quoted mode)
    if (applyMode 0 mode).isNone then misuse name 1 ("invalid mode: " ++ Utility.quoted mode)
    let mut status := 0
    for f in files do
      match ← entryAt f with
      | .error fault =>
        if !g.has 'f' then
          complain (name ++ ": cannot access " ++ Utility.quoted f ++ ": " ++ faultText fault)
        status := 1
      | .ok (l, e) =>
        let change (l : Location) (e : Entry) : Action Unit := do
          match e with
          | .file content x =>
            let m := (applyMode (modeOf e) mode).getD 0
            let now := m &&& 73 != 0
            -- Changing the mode leaves the file as old as it was.
            if now != x then
              setWorld fun w => { w with files :=
                ⟨w.files.entries.map fun y => if y.1 == l then (l, .file content now) else y⟩ }
          | .directory => pure ()
        change l e
        if g.has 'R' then
          for (p, _) in ← below 100 f do
            match ← entryAt p with
            | .ok (l, e) => change l e
            | .error _ => pure ()
    return status

def basenameUtility : Utility := fun _ name args => do
  let g ← readArguments name
    { letters := "as:z", names := [("multiple", 'a'), ("suffix", 's'), ("zero", 'z')],
      anywhere := false } args
  let operands := g.operands.toList
  if operands.isEmpty then misuse name 1 "missing operand"
  let several := g.has 'a' || g.has 's'
  let ending := if g.has 'z' then "\x00" else "\n"
  let cut (path suffix : String) : String :=
    let b := baseName path
    if !suffix.isEmpty && b.endsWith suffix && b != suffix then
      takeFront (b.length - suffix.length) b
    else b
  if several then
    for p in operands do
      print (cut p ((g.last? 's').getD "") ++ ending)
  else match operands with
    | [p] => print (cut p "" ++ ending)
    | [p, s] => print (cut p s ++ ending)
    | _ => misuse name 1 ("extra operand " ++ Utility.quoted (operands.getD 2 ""))
  return 0

def dirnameUtility : Utility := fun _ name args => do
  let g ← readArguments name { letters := "z", names := [("zero", 'z')] } args
  if g.operands.isEmpty then misuse name 1 "missing operand"
  for p in g.operands do
    print (directoryName p ++ (if g.has 'z' then "\x00" else "\n"))
  return 0

structure Listing where
  name : String
  path : String
  entry : Entry

def shortSize (n : Nat) : String :=
  if n < 1024 then n.repr
  else
    let rec go : Nat → List String → String
      | _, [] => n.repr
      | unit, s :: rest =>
        let tenths := (n * 10 + unit - 1) / unit
        if tenths < 100 then (tenths / 10).repr ++ "." ++ (tenths % 10).repr ++ s
        else
          let whole := (n + unit - 1) / unit
          if whole < 1024 || rest.isEmpty then whole.repr ++ s else go (unit * 1024) rest
    go 1024 ["K", "M", "G", "T"]

def listingLine (g : Given) (widths : Nat × Nat) (x : Listing) : String :=
  let isDir := x.entry == .directory
  let executable := match x.entry with
    | .file _ true => true
    | _ => false
  let size := match x.entry with
    | .file c _ => c.size
    | .directory => 4096
  let sizeText := if g.has 'h' then shortSize size else size.repr
  let marked := x.name ++ (match g.lastOf? "Fp" with
    | some 'F' => if isDir then "/" else if executable then "*" else ""
    | some _ => if isDir then "/" else ""
    | none => "")
  let blocks := if isDir then "4" else if size == 0 then "0" else ((size + 4095) / 4096 * 4).repr
  let front := (if g.has 'i' then "1 " else "") ++
    (if g.has 's' then padFront widths.2 blocks ++ " " else "")
  if g.has 'l' || g.has 'n' || g.has 'o' || g.has 'g' then
    let mode := if isDir then "drwxr-xr-x" else if executable then "-rwxr-xr-x" else "-rw-r--r--"
    let links := if isDir then "2" else "1"
    let owner := if g.has 'n' then "0 0" else if g.has 'o' && g.has 'g' then "" else
      if g.has 'o' || g.has 'g' then "root" else "root root"
    front ++ mode ++ " " ++ links ++ " " ++ owner ++ " " ++ padFront widths.1 sizeText ++
      " Jan  1 00:00 " ++ marked
  else front ++ marked

def printListing (g : Given) (xs : List Listing) : Action Unit := do
  let sizeOf (x : Listing) : Nat := match x.entry with
    | .file c _ => c.size
    | .directory => 4096
  let texts := xs.map fun x => if g.has 'h' then shortSize (sizeOf x) else (sizeOf x).repr
  let width := texts.foldl (fun m t => max m t.length) 0
  let lines := xs.map (listingLine g (width, 1))
  if g.has 'm' then
    if !lines.isEmpty then printLine (", ".intercalate lines)
  else
    let ending := if g.has '0' then "\x00" else "\n"
    print (String.join (lines.map (· ++ ending)))

/-- The order in which entries are listed. -/
def orderListing (g : Given) (xs : List Listing) : Action (List Listing) := do
  if g.has 'U' || g.has 'f' then return xs
  let files := (← world).files
  let mut aged := #[]
  for x in xs do
    let age ← match ← entryAt x.path with
      | .ok (l, _) => pure ((files.entries.findIdx? fun y => y.1 == l).getD 0)
      | .error _ => pure 0
    aged := aged.push (age, x)
  let sizeOf (x : Listing) : Nat := match x.entry with
    | .file c _ => c.size
    | .directory => 4096
  let named := xs.mergeSort fun a b => a.name ≤ b.name
  let extension (n : String) : String :=
    let t := n.toList.reverse.takeWhile (· != '.')
    if t.length == n.length then "" else String.ofList t.reverse
  let sorted := if g.has 't' then (aged.toList.mergeSort fun a b => a.1 ≤ b.1).map Prod.snd
    else if g.has 'S' then named.mergeSort fun a b => sizeOf b ≤ sizeOf a
    else if g.has 'X' then named.mergeSort fun a b => extension a.name ≤ extension b.name
    else named
  return if g.has 'r' then sorted.reverse else sorted

def listDirectory (fuel : Nat) (g : Given) (path : String) (titled : Bool) : Action Unit := do
  match fuel with
  | 0 => pure ()
  | fuel + 1 =>
    if titled then printLine (shown path ++ ":")
    let own := (← listing path).map fun x =>
      ({ name := x.1, path := inside path x.1, entry := x.2 } : Listing)
    let dots : List Listing := [⟨".", path, .directory⟩, ⟨"..", inside path "..", .directory⟩]
    let visible := if g.has 'a' || g.has 'f' then dots ++ own
      else if g.has 'A' then own
      else own.filter fun x => !x.name.startsWith "." && !(g.has 'B' && x.name.endsWith "~")
    let hidden := g.last? 'I'
    let visible := match hidden with
      | some p => visible.filter fun x =>
          !(matchesWhole (regexOfPattern { alternatives := false, caret := true }
            (p.toList.map fun c => (c, false))) false x.name)
      | none => visible
    let sorted ← orderListing g visible
    if g.has 'l' || g.has 's' || g.has 'n' || g.has 'o' || g.has 'g' then
      let blocks := sorted.foldl (fun t x => t + match x.entry with
        | .directory => 4
        | .file c _ => (c.size + 4095) / 4096 * 4) 0
      printLine ("total " ++ blocks.repr)
    printListing g sorted
    if g.has 'R' then
      for x in sorted do
        if x.entry == .directory && x.name != "." && x.name != ".." then
          printLine ""
          listDirectory fuel g x.path true

def lsUtility : Utility := fun _ name args => do
  let g ← readArguments name
    { letters := "1aAlhdrRtSFpCxmisngoBbQNUXfIkqucLZGvIw:T:", names :=
        [("all", 'a'), ("almost-all", 'A'), ("recursive", 'R'), ("reverse", 'r'),
         ("directory", 'd'), ("human-readable", 'h'), ("classify", 'F'), ("size", 's'),
         ("inode", 'i'), ("color", 'N'), ("group-directories-first", 'v'), ("ignore-backups", 'B'),
         ("zero", '0'), ("full-time", 'l'), ("file-type", 'p'), ("sort", 'w'), ("time", 'w'),
         ("format", 'w'), ("ignore", 'I'), ("width", 'T'), ("no-group", 'G'), ("literal", 'N'),
         ("quote-name", 'Q')], optional := "N", wrong := 2 } args
  let operands := if g.operands.isEmpty then ["."] else g.operands.toList
  let mut status := 0
  let mut files : List Listing := []
  let mut dirs : List Listing := []
  for p in operands do
    match ← entryAt p with
    | .error f =>
      if (device? p).isSome then files := files ++ [⟨p, p, .file ByteArray.empty false⟩]
      else
        complain (name ++ ": cannot access " ++ Utility.quoted p ++ ": " ++ faultText f)
        status := 2
    | .ok (_, e) =>
      if e == .directory && !g.has 'd' then
        dirs := dirs ++ [⟨p, p, e⟩]
      else files := files ++ [⟨p, p, e⟩]
  let sortedFiles ← orderListing g files
  let sortedDirs ← orderListing g dirs
  setProcess fun p => { p with unwritten := none }
  if !files.isEmpty then printListing g sortedFiles
  let titled := operands.length > 1 || g.has 'R'
  let mut first := files.isEmpty
  for d in sortedDirs do
    if !first then printLine ""
    first := false
    listDirectory 100 g d.path titled
  match (← process).unwritten with
  | some cause =>
    complain (name ++ ": write error: " ++ cause)
    return 2
  | none => return status

def readlinkUtility : Utility := fun _ name args => do
  let g ← readArguments name
    { letters := "femnqsvz", names := [("canonicalize", 'f'), ("canonicalize-existing", 'e'),
        ("canonicalize-missing", 'm'), ("no-newline", 'n'), ("quiet", 'q'), ("silent", 's'),
        ("zero", 'z')] } args
  if g.operands.isEmpty then misuse name 1 "missing operand"
  let mut status := 0
  for p in g.operands do
    if g.has 'f' || g.has 'e' || g.has 'm' then
      let known ← if g.has 'm' then pure true
        else if g.has 'e' then fileExists p
        else isDirectory (directoryName p)
      if known && !p.isEmpty then print ((← absolutePath p) ++ (if g.has 'n' then "" else "\n"))
      else status := 1
    else status := 1
  return status

def realpathUtility : Utility := fun _ name args => do
  let g ← readArguments name
    { letters := "emqszLPr:b:", names := [("canonicalize-existing", 'e'),
        ("canonicalize-missing", 'm'), ("quiet", 'q'), ("no-symlinks", 's'), ("strip", 's'),
        ("relative-to", 'r'), ("relative-base", 'b')] } args
  if g.operands.isEmpty then misuse name 1 "missing operand"
  let mut status := 0
  for p in g.operands do
    let fault : Option Fault ← if g.has 'm' then pure none
      else if g.has 'e' then pathFault p
      else if p.isEmpty then pure (some .notFound)
      else match ← pathFault (directoryName p) with
        | some f => pure (some f)
        | none => pure none
    match fault with
    | some f =>
      if !g.has 'q' then fileFault name p (faultText f)
      status := 1
    | none =>
      let full ← absolutePath p
      match g.last? 'r' with
      | some base =>
        let from_ := (splitAtEach '/' (← absolutePath base)).filter fun c => !c.isEmpty
        let target := (splitAtEach '/' full).filter fun c => !c.isEmpty
        let common := ((from_.zip target).takeWhile fun x => x.1 == x.2).length
        let parts := List.replicate (from_.length - common) ".." ++ target.drop common
        printLine (if parts.isEmpty then "." else "/".intercalate parts)
      | none => printLine full
  return status

/-- What a letter of a format says about an entry. -/
def statField (path : String) (e : Entry) (c : Char) : String :=
  let isDir := e == .directory
  let executable := match e with
    | .file _ true => true
    | _ => false
  let size := match e with
    | .file b _ => b.size
    | .directory => 4096
  match c with
  | 'n' => path
  | 'N' => Utility.quoted path
  | 's' => size.repr
  | 'F' => if isDir then "directory" else if size == 0 then "regular empty file" else "regular file"
  | 'a' => if isDir || executable then "755" else "644"
  | 'A' => if isDir then "drwxr-xr-x" else if executable then "-rwxr-xr-x" else "-rw-r--r--"
  | 'f' => if isDir then "41ed" else if executable then "81ed" else "81a4"
  | 'U' | 'G' => "root"
  | 'u' | 'g' => "0"
  | 'h' => if isDir then "2" else "1"
  | 'b' => ((size + 4095) / 4096 * 8).repr
  | 'B' => "512"
  | 'o' => "4096"
  | '%' => "%"
  | _ => "0"

def statUtility : Utility := fun _ name args => do
  let g ← readArguments name
    { letters := "c:p:Lft", names := [("format", 'c'), ("printf", 'p'), ("dereference", 'L'),
      ("terse", 't')] } args
  if g.operands.isEmpty then misuse name 1 "missing operand"
  let mut status := 0
  for p in g.operands do
    match ← entryAt p with
    | .error f =>
      complain (name ++ ": cannot statx " ++ Utility.quoted p ++ ": " ++ faultText f)
      status := 1
    | .ok (_, e) =>
      let rec fill : List Char → String → String
        | '%' :: c :: rest, acc => fill rest (acc ++ statField p e c)
        | '\\' :: 'n' :: rest, acc => fill rest (if g.has 'p' then acc.push '\n' else acc ++ "\\n")
        | '\\' :: 't' :: rest, acc => fill rest (if g.has 'p' then acc.push '\t' else acc ++ "\\t")
        | c :: rest, acc => fill rest (acc.push c)
        | [], acc => acc
      match g.last? 'p', g.last? 'c' with
      | some f, _ => print (fill f.toList "")
      | none, some f => printLine (fill f.toList "")
      | none, none => printLine ("  File: " ++ p)
  return status

def mktempUtility : Utility := fun _ name args => do
  let g ← readArguments name
    { letters := "dqutp:", names := [("directory", 'd'), ("dry-run", 'u'), ("quiet", 'q'),
        ("tmpdir", 'p'), ("suffix", 's')], optional := "" } args
  let template := (g.operands[0]?).getD "tmp.XXXXXXXXXX"
  let marks := (template.toList.reverse.dropWhile (· != 'X')).takeWhile (· == 'X')
  if marks.length < 3 then die 1 (name ++ ": too few X's in template " ++ Utility.quoted template)
  let id ← freshId
  let digits := id.repr
  let chosen := repeated (marks.length - digits.length) 'a' ++
    String.ofList (digits.toList.reverse.take marks.length).reverse
  let tail := (template.toList.reverse.takeWhile (· != 'X')).reverse
  let front := template.toList.take (template.length - tail.length - marks.length)
  let file := String.ofList front ++ chosen ++ String.ofList tail
  let dir := (g.last? 'p').getD ((← valueOf? "TMPDIR").getD "/tmp")
  let path := if g.operands.isEmpty || g.has 'p' || g.has 't' then inside dir file else file
  let at_ ← locate path
  let fault ← if g.has 'u' then pure none
    else if g.has 'd' then changeFiles fun t => t.createDir at_
    else changeFiles fun t => t.write at_ ByteArray.empty
  match fault with
  | some f =>
    if !g.has 'q' then
      complain (name ++ ": failed to create " ++ (if g.has 'd' then "directory" else "file") ++
        " via template " ++ Utility.quoted (if g.operands.isEmpty || g.has 'p' ||
          g.has 't' then inside dir template else template) ++ ": " ++ faultText f)
    return 1
  | none =>
    printLine path
    return 0

def truncateUtility : Utility := fun _ name args => do
  let g ← readArguments name
    { letters := "s:cor:", names := [("size", 's'), ("no-create", 'c'), ("reference", 'r')] } args
  match g.last? 's' with
  | none => misuse name 1 "you must specify either '--size' or '--reference'"
  | some text =>
    if g.operands.isEmpty then misuse name 1 "missing file operand"
    let mark := text.toList.head?.filter fun c => "+-<>/%".toList.contains c
    let body := if mark.isSome then dropFront 1 text else text
    let digits := body.toList.takeWhile Char.isDigit
    let unit := match body.toList.drop digits.length with
      | [] => some 1
      | ['K'] | ['k'] => some 1024
      | ['M'] => some (1024 * 1024)
      | ['k', 'B'] | ['K', 'B'] => some 1000
      | _ => none
    match digits.isEmpty, unit with
    | false, some u =>
      let n := decimalOf (String.ofList digits) * u
      let mut status := 0
      for p in g.operands do
        match ← entryAt p with
        | .ok (_, .directory) =>
          complain (name ++ ": cannot open " ++ Utility.quoted p ++ " for writing: Is a directory")
          status := 1
        | .ok (l, .file content x) =>
          let old := content.size
          let size := match mark with
            | some '+' => old + n
            | some '-' => old - n
            | some '<' => min old n
            | some '>' => max old n
            | some '/' => if n == 0 then old else old / n * n
            | some '%' => if n == 0 then old else (old + n - 1) / n * n
            | _ => n
          let new := content.extract 0 size ++ ByteArray.mk (Array.replicate (size - old) 0)
          putEntry l (.file new x)
        | .error f =>
          if f == .notFound && g.has 'c' then continue
          match ← writeFile p .write
            (repeated (if mark.isNone || mark == some '+' ||
              mark == some '>' then n else 0) '\x00') with
          | some f =>
            complain (name ++ ": cannot open " ++ Utility.quoted p ++
              " for writing: " ++ faultText f)
            status := 1
          | none => pure ()
      return status
    | _, _ => die 1 (name ++ ": Invalid number: " ++ Utility.quoted text)

def filePrograms : List (String × Utility) :=
  [("mkdir", mkdirUtility), ("rmdir", rmdirUtility), ("rm", rmUtility), ("unlink", unlinkUtility),
   ("touch", touchUtility), ("cp", cpUtility), ("mv", mvUtility), ("ln", lnUtility),
   ("chmod", chmodUtility), ("basename", basenameUtility), ("dirname", dirnameUtility),
   ("ls", lsUtility), ("readlink", readlinkUtility), ("realpath", realpathUtility),
   ("stat", statUtility), ("mktemp", mktempUtility), ("truncate", truncateUtility)]

end Utility

end StudyFlow.Shell
