import StudyFlow.Shell.Regex

/-!
Patterns of scripts: a star stands for any text, a question mark for any character, and brackets for
a choice of characters; the larger shell has alternatives in parentheses too. Quoted characters
stand for themselves.
-/

namespace StudyFlow.Shell

open Regex (Marked)

/-- Cuts the alternatives of a pattern at the bars outside of inner parentheses; the opening
parenthesis has been read. None if it is not closed. -/
def cutAlternatives : Nat → List Marked → List Marked → Option (List (List Marked) × List Marked)
  | _, _, [] => none
  | depth, acc, (c, q) :: rest =>
    if q then cutAlternatives depth ((c, q) :: acc) rest
    else if c == '(' then cutAlternatives (depth + 1) ((c, q) :: acc) rest
    else if c == ')' then
      if depth == 0 then
        some ([acc.reverse], rest)
      else cutAlternatives (depth - 1) ((c, q) :: acc) rest
    else if c == '|' && depth == 0 then
      (cutAlternatives depth [] rest).map fun r => (acc.reverse :: r.1, r.2)
    else cutAlternatives depth ((c, q) :: acc) rest

/-- The rules for patterns that differ between shells. -/
structure PatternRules where
  /-- Whether alternatives may stand in parentheses. -/
  alternatives : Bool := false
  /-- Whether a caret makes a choice negative as an exclamation mark does. -/
  caret : Bool := false
  deriving Inhabited

/-- The expression that a pattern stands for. -/
def patternRegex (rules : PatternRules) : Nat → List Marked → Regex
  | 0, _ => .empty
  | _, [] => .empty
  | fuel + 1, (c, quoted) :: rest =>
    let onward (r : Regex) (rest : List Marked) : Regex :=
      if rest.isEmpty then r else .seq r (patternRegex rules fuel rest)
    let choices (rest : List Marked) : Option (Regex × List Marked) :=
      match rest with
      | ('(', false) :: inner =>
        (cutAlternatives 0 [] inner).map fun r =>
          let options := r.1.map (patternRegex rules fuel)
          (options.tail.foldl .alt (options.head?.getD .empty), r.2)
      | _ => none
    if quoted then onward (.one c) rest
    else match rules.alternatives && (c == '?' || c == '*' || c == '+' || c == '@' || c == '!'),
      choices rest with
      | true, some (r, rest) =>
        match c with
        | '?' => onward (.repeated r 0 (some 1)) rest
        | '*' => onward (.repeated r 0 none) rest
        | '+' => onward (.repeated r 1 none) rest
        | '!' => onward (.without r) rest
        | _ => onward r rest
      | _, _ =>
        match c with
        | '*' => onward (.repeated .any 0 none) (rest.dropWhile (· == ('*', false)))
        | '?' => onward .any rest
        | '[' =>
          let (negated, inner) := match rest with
            | ('!', false) :: inner => (true, inner)
            | ('^', false) :: inner => if rules.caret then (true, inner) else (false, rest)
            | inner => (false, inner)
          match Regex.readSet (inner.length + 1) true [] inner with
          | .ok (ranges, rest) => onward (.set negated ranges) rest
          | .error _ => onward (.one '[') rest
        | '\\' => match rest with
          | (d, _) :: rest => onward (.one d) rest
          | [] => .one '\\'
        | c => onward (.one c) rest

/-- The expression that a pattern stands for. -/
def regexOfPattern (rules : PatternRules) (pattern : List Marked) : Regex :=
  patternRegex rules (pattern.length + 1) pattern

/-- Whether a text matches a pattern as a whole. -/
def matchesWhole (r : Regex) (folded : Bool) (text : String) : Bool :=
  let s : Regex.Subject := { text := text.toList.toArray, folded := folded }
  (r.endsAt s 0).contains s.text.size

/-- Whether some character of the pattern stands for more than itself. -/
def hasWildcards (alternatives : Bool) (pattern : List Marked) : Bool :=
  pattern.any (fun p => !p.2 && (p.1 == '*' || p.1 == '?' || p.1 == '[')) ||
  (alternatives && pattern.any fun p => !p.2 && p.1 == '(')

/-- A text without what a pattern matches at its front or at its back. -/
def trimMatch (r : Regex) (front longest : Bool) (text : String) : String :=
  let cs := text.toList.toArray
  let s : Regex.Subject := { text := cs }
  if front then
    let ends := (r.endsAt s 0).mergeSort (· ≤ ·)
    match (if longest then ends.getLast? else ends.head?) with
    | some e => sliceOf cs e cs.size
    | none => text
  else
    let starts := (List.range (cs.size + 1)).filter fun i => (r.endsAt s i).contains cs.size
    match (if longest then starts.head? else starts.getLast?) with
    | some i => sliceOf cs 0 i
    | none => text

end StudyFlow.Shell
