/-!
The journal: what a program says about its work while it goes on.
-/

namespace StudyFlow

/-- How grave a message is. -/
inductive Level where
  | info
  | warn
  | error
  deriving DecidableEq, Inhabited, Repr

/-- A message of the journal. -/
structure Notice where
  level : Level
  text : String
  deriving DecidableEq, Inhabited, Repr

/-- The line of a message; what is more than news has its level in front. -/
def Notice.line (n : Notice) : String :=
  match n.level with
  | .info => n.text
  | .warn => "[WARN] " ++ n.text
  | .error => "[ERROR] " ++ n.text

/-- Messages, oldest first. -/
abbrev Journal := List Notice

end StudyFlow
