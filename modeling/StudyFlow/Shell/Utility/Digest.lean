import StudyFlow.Shell.Digest
import StudyFlow.Shell.Utility.Basic

/-!
Programs that print digests of files and check lists of them, and those that write octets in
letters.
-/

namespace StudyFlow.Shell

namespace Utility

open StudyFlow.Shell.Action

attribute [local instance (high)] instPowNat

/-- A digest with the name that stands in front of tagged lines. -/
structure Method where
  tag : String
  /-- How many digits it has. -/
  digits : Nat
  compute : ByteArray → String

/-- The methods by the names of their programs without the ending. -/
def methods : List (String × Method) :=
  [("md5", ⟨"MD5", 32, Digest.md5⟩), ("sha1", ⟨"SHA1", 40, Digest.sha1⟩),
    ("sha224", ⟨"SHA224", 56, Digest.sha224⟩), ("sha256", ⟨"SHA256", 64, Digest.sha256⟩),
    ("sha384", ⟨"SHA384", 96, Digest.sha384⟩), ("sha512", ⟨"SHA512", 128, Digest.sha512⟩)]

/-- The front of a line for a name that has to be escaped, and the escaped name. -/
def escapedName (name : String) : String × String :=
  if name.any fun c => c == '\\' || c == '\n' || c == '\r' then
    ("\\", String.join (name.toList.map fun c =>
      if c == '\\' then
        "\\\\"
      else if c == '\n' then "\\n" else if c == '\r' then "\\r" else String.singleton c))
  else ("", name)

def digestLine (m : Method) (binary tagged zero : Bool) (name digest : String) : String :=
  let (front, shown) := if zero then ("", name) else escapedName name
  let ending := if zero then "\x00" else "\n"
  if tagged then front ++ m.tag ++ " (" ++ shown ++ ") = " ++ digest ++ ending
  else front ++ digest ++ (if binary then " *" else "  ") ++ shown ++ ending

def plainName : List Char → List Char
  | '\\' :: '\\' :: rest => '\\' :: plainName rest
  | '\\' :: 'n' :: rest => '\n' :: plainName rest
  | '\\' :: 'r' :: rest => '\r' :: plainName rest
  | c :: rest => c :: plainName rest
  | [] => []

def isHexDigit (c : Char) : Bool := c.isDigit || ('a' ≤ c && c ≤ 'f') || ('A' ≤ c && c ≤ 'F')

/-- The digest and the file that a line of a list tells of. -/
def readDigestLine (m : Method) (line : String) : Option (String × String) :=
  let (escaped, cs) := match line.toList with
    | '\\' :: rest => (true, rest)
    | rest => (false, rest)
  let name (cs : List Char) : String := String.ofList (if escaped then plainName cs else cs)
  let front := (m.tag ++ " (").toList
  if front.isPrefixOf cs then
    let rest := cs.drop front.length
    let tail := rest.reverse.takeWhile isHexDigit
    let more := rest.reverse.drop tail.length
    match more with
    | ' ' :: '=' :: ' ' :: ')' :: file =>
      if tail.length == m.digits then some (String.ofList tail.reverse, name file.reverse) else none
    | _ => none
  else
    let digits := cs.takeWhile isHexDigit
    if digits.length != m.digits then none
    else match cs.drop digits.length with
      | ' ' :: ' ' :: file | ' ' :: '*' :: file =>
        if file.isEmpty then none else some (String.ofList digits, name file)
      | ' ' :: file => if file.isEmpty then none else some (String.ofList digits, name file)
      | _ => none

def counted (n : Nat) (one many : String) : String :=
  n.repr ++ " " ++ (if n == 1 then one else many)

def smallLetters (s : String) : String := s.map Char.toLower

def checkList (name : String) (m : Method) (g : Given) (file : String) : Action Bool := do
  match ← contentOf file with
  | .error cause =>
    fileFault name file cause
    return false
  | .ok text =>
    let mut proper := 0
    let mut improper := 0
    let mut unread := 0
    let mut wrong := 0
    let mut right := 0
    let lines := linesOf text
    for (line, k) in lines.zip (List.range lines.length) do
      if line.startsWith "#" then continue
      match readDigestLine m line with
      | none =>
        improper := improper + 1
        if g.has 'w' then
          complain (name ++ ": " ++ shown file ++ ": " ++ (k + 1).repr ++
            ": improperly formatted " ++ m.tag ++ " checksum line")
      | some (digest, f) =>
        proper := proper + 1
        let (front, title) := escapedName f
        match ← contentOf f with
        | .error cause =>
          if !(g.has 'I' && cause == "No such file or directory") then
            fileFault name f cause
            unread := unread + 1
            if !g.has 'S' then put name 1 (front ++ title ++ ": FAILED open or read\n")
        | .ok content =>
          if m.compute (bytesOfOctets content) == smallLetters digest then
            right := right + 1
            if !g.has 'S' && !g.has 'q' then put name 1 (front ++ title ++ ": OK\n")
          else
            wrong := wrong + 1
            if !g.has 'S' then put name 1 (front ++ title ++ ": FAILED\n")
    if proper == 0 then
      complain (name ++ ": " ++ shown file ++ ": no properly formatted checksum lines found")
      return false
    if !g.has 'S' then
      if improper != 0 then
        complain (name ++ ": WARNING: " ++ counted improper "line is" "lines are" ++
          " improperly formatted")
      if unread != 0 then
        complain (name ++ ": WARNING: " ++ counted unread "listed file" "listed files" ++
          " could not be read")
      if wrong != 0 then
        complain (name ++ ": WARNING: " ++ counted wrong "computed checksum" "computed checksums" ++
          " did NOT match")
      if g.has 'I' && right == 0 && wrong == 0 then
        complain (name ++ ": " ++ shown file ++ ": no file was verified")
    return unread == 0 && wrong == 0 && !(g.has 'I' && right + wrong == 0) &&
      !(g.has 'X' && improper != 0)

def digestOptions : List (String × Char) :=
  [("binary", 'b'), ("check", 'c'), ("text", 't'), ("warn", 'w'), ("zero", 'z'), ("tag", 'T'),
   ("quiet", 'q'), ("status", 'S'), ("strict", 'X'), ("ignore-missing", 'I')]

def runDigest (name : String) (m : Method) (tagged : Bool) (g : Given) : Action Nat := do
  let files := if g.operands.isEmpty then ["-"] else g.operands.toList
  let mut status := 0
  for f in files do
    if g.has 'c' then
      if !(← checkList name m g f) then status := 1
    else match ← contentOf f with
      | .error cause =>
        fileFault name f cause
        status := 1
      | .ok text =>
        put name 1 (digestLine m (g.has 'b') tagged (g.has 'z') f (m.compute (bytesOfOctets text)))
  return status

def digestUtility (m : Method) : Utility := fun _ name args => do
  let g ← readArguments name { letters := "bctwz", names := digestOptions } args
  if g.has 'c' && g.has 'T' then
    misuse name 1 "the --tag option is meaningless when verifying checksums"
  for (c, text) in [('I', "ignore-missing"), ('S', "status"), ('w', "warn"), ('q', "quiet"),
    ('X', "strict")] do
    if g.has c && !g.has 'c' then
      misuse name 1 ("the --" ++ text ++ " option is meaningful only when verifying checksums")
  runDigest name m (g.has 'T') g

/-- Prints sums of files by one of the older methods. -/
def runSum (name : String) (line : ByteArray → String) (files : List String) : Action Nat := do
  let mut status := 0
  for f in if files.isEmpty then ["-"] else files do
    match ← contentOf f with
    | .error cause =>
      fileFault name f cause
      status := 1
    | .ok text =>
      put name 1 (line (bytesOfOctets text) ++ (if files.isEmpty then "" else " " ++ f) ++ "\n")
  return status

/-- A sum with as many blocks as a file takes. -/
def blocksText (size : Nat) (b : ByteArray) : String := ((b.size + size - 1) / size).repr

def turningLine (b : ByteArray) : String :=
  let s := (Digest.turning b).repr
  repeated (5 - s.length) '0' ++ s ++ " " ++ padFront 5 (blocksText 1024 b)

def foldedLine (b : ByteArray) : String := (Digest.folded b).repr ++ " " ++ blocksText 512 b

def cyclicLine (b : ByteArray) : String := (Digest.cyclic b).repr ++ " " ++ b.size.repr

def sumUtility : Utility := fun _ name args => do
  let g ← readArguments name { letters := "rs", names := [("sysv", 's')] } args
  runSum name (if g.lastOf? "rs" == some 's' then foldedLine else turningLine) g.operands.toList

def cksumUtility : Utility := fun _ name args => do
  let g ← readArguments name
    { letters := "a:bctwz", names := [("algorithm", 'a'), ("untagged", 'U')] ++ digestOptions } args
  match (g.last? 'a').getD "crc" with
  | "crc" => runSum name cyclicLine g.operands.toList
  | "bsd" => runSum name turningLine g.operands.toList
  | "sysv" => runSum name foldedLine g.operands.toList
  | other =>
    match methods.lookup other with
    | some m => runDigest name m (!g.has 'U') g
    | none =>
      complain (name ++ ": invalid argument " ++ Utility.quoted other ++ " for '--algorithm'")
      complain "Valid arguments are:"
      for a in ["bsd", "sysv", "crc"] ++ methods.map Prod.fst ++ ["blake2b", "sm3"] do
        complain ("  - '" ++ a ++ "'")
      complain ("Try '" ++ name ++ " --help' for more information.")
      exit 1

/-- Letters that stand for a few bits each. -/
structure Lettering where
  letters : List Char
  bits : Nat
  /-- How many letters make whole octets. -/
  group : Nat

def sixBits : Lettering :=
  ⟨"ABCDEFGHIJKLMNOPQRSTUVWXYZabcdefghijklmnopqrstuvwxyz0123456789+/".toList, 6, 4⟩

def fiveBits : Lettering := ⟨"ABCDEFGHIJKLMNOPQRSTUVWXYZ234567".toList, 5, 8⟩

def Lettering.encodeGroup (l : Lettering) (bytes : List Nat) : List Char :=
  let whole := l.group * l.bits / 8
  let n := (bytes ++ List.replicate (whole - bytes.length) 0).foldl (fun n b => n * 256 + b) 0
  let used := (bytes.length * 8 + l.bits - 1) / l.bits
  (List.range l.group).map fun i =>
    if i < used then l.letters.getD ((n >>> (l.bits * (l.group - 1 - i))) % 2 ^ l.bits) '=' else '='

def Lettering.encode (l : Lettering) : Nat → List Nat → List Char
  | 0, _ => []
  | _, [] => []
  | fuel + 1, bytes =>
    let whole := l.group * l.bits / 8
    l.encodeGroup (bytes.take whole) ++ l.encode fuel (bytes.drop whole)

/-- The octets that a group of letters stands for, and whether it is in order. -/
def Lettering.decodeGroup (l : Lettering) (cs : List Char) : List Nat × Bool :=
  let good := cs.takeWhile l.letters.contains
  let whole := l.group * l.bits / 8
  let n := (good ++ List.replicate (l.group - good.length) 'A').foldl (fun n c =>
    n * 2 ^ l.bits + (l.letters.takeWhile (· != c)).length) 0
  let count := good.length * l.bits / 8
  -- In groups of eight nothing is said before the group is whole.
  let bytes := if l.group == 8 && cs.length < 8 then [] else (Digest.octets whole n).take count
  let rest := cs.drop good.length
  let fits := (count * 8 + l.bits - 1) / l.bits == good.length
  (bytes, cs.length == l.group && rest.all (· == '=') && count != 0 && fits)

/-- The octets that letters stand for, and whether all groups were in order. -/
def Lettering.decode (l : Lettering) : Nat → List Char → List Nat × Bool
  | 0, _ => ([], true)
  | _, [] => ([], true)
  | fuel + 1, cs =>
    let (bytes, good) := l.decodeGroup (cs.take l.group)
    if good then
      let (more, good) := l.decode fuel (cs.drop l.group)
      (bytes ++ more, good)
    else (bytes, false)

def inLines (width : Nat) : Nat → List Char → List Char
  | 0, _ => []
  | _, [] => []
  | fuel + 1, cs => cs.take width ++ '\n' :: inLines width fuel (cs.drop width)

/-- A program that writes octets in letters, or letters in octets. -/
def letteringUtility (l : Lettering) : Utility := fun _ name args => do
  let g ← readArguments name
    { letters := "diw:", names := [("decode", 'd'), ("ignore-garbage", 'i'), ("wrap", 'w')] } args
  let width ← match g.last? 'w' with
    | some w =>
      if isDigits w then
        pure (decimalOf w)
      else die 1 (name ++ ": invalid wrap size: " ++ Utility.quoted w)
    | none => pure 76
  if g.operands.size > 1 then
    misuse name 1 ("extra operand " ++ Utility.quoted ((g.operands[1]?).getD ""))
  let file := (g.operands[0]?).getD "-"
  match ← contentOf file with
  | .error cause =>
    if cause == "Is a directory" then die 1 (name ++ ": read error: " ++ cause)
    fileFault name file cause
    return 1
  | .ok text =>
    if g.has 'd' then
      let cs := text.toList.filter fun c =>
        c != '\n' && (!g.has 'i' || c == '=' || l.letters.contains c)
      let (bytes, good) := l.decode (cs.length + 1) cs
      put name 1 (String.ofList (bytes.map Char.ofNat))
      if !good then die 1 (name ++ ": invalid input")
      return 0
    else
      let cs := l.encode (text.length + 1) (text.toList.map Char.toNat)
      put name 1 (String.ofList (if width == 0 then cs else inLines width (cs.length + 1) cs))
      return 0

/-- The programs of this module by their names. -/
def digestPrograms : List (String × Utility) :=
  methods.map (fun m => (m.1 ++ "sum", digestUtility m.2)) ++
    [("sum", sumUtility), ("cksum", cksumUtility), ("base64", letteringUtility sixBits),
      ("base32", letteringUtility fiveBits)]

end Utility

end StudyFlow.Shell
