/-!
The syntax of scripts: words with what is to be expanded in them, redirections, and commands. Two
dialects share it; the larger one has arrays, conditions, arithmetic commands and further
expansions.
-/

namespace StudyFlow.Shell

/-- The shell whose rules hold for a script. -/
inductive Dialect where
  /-- The small shell, which is the standard one. -/
  | dash
  | bash
  deriving DecidableEq, Inhabited

/-- What an expansion does if its parameter is not set. -/
inductive Fallback where
  /-- Use the word instead. -/
  | default
  /-- Use the word instead and assign it. -/
  | assign
  /-- Use the word if the parameter is set. -/
  | alternative
  /-- Complain with the word. -/
  | complain
  deriving DecidableEq, Inhabited

/-- Where in a value a pattern is replaced. -/
inductive Place where
  | first
  | every
  | front
  | back
  deriving DecidableEq, Inhabited

/-- How a branch of a case goes on. -/
inductive ArmEnd where
  | leave
  /-- Go on with the body of the next branch. -/
  | fall
  /-- Go on with the patterns of the next branch. -/
  | resume
  deriving DecidableEq, Inhabited

/-- How a file is opened by a redirection. -/
inductive OpenMode where
  | read
  | write
  /-- Write even if existing files are protected. -/
  | clobber
  | append
  | readWrite
  deriving DecidableEq, Inhabited

/-- The channel of a process that a redirection concerns. -/
inductive Channel where
  | number (n : Nat)
  /-- A free channel, whose number goes into a variable. -/
  | named (variable_ : String)
  /-- Output and errors. -/
  | both
  deriving DecidableEq, Inhabited

mutual

/-- A part of a word. The flag says whether it is quoted, so that it is neither split nor
matched. -/
inductive Part where
  | text (quoted : Bool) (text : String)
  | parameter (quoted : Bool) (subject : Subject) (modifier : Modifier)
  /-- The output of commands. -/
  | output (quoted : Bool) (body : List Command)
  /-- The output of a script that is read when it is expanded. -/
  | script (quoted : Bool) (text : String)
  | arithmetic (quoted : Bool) (expression : List Part)
  /-- The name of a channel that commands read from or write to. -/
  | conduit (writes : Bool) (script : String)
  /-- The members of an array. -/
  | members (items : List Member)

/-- A member of an array that is written down, with its index if it has one. -/
inductive Member where
  | mk (index : Option (List Part)) (append : Bool) (value : List Part)

/-- The parameter that is expanded. -/
inductive Subject where
  | mk (name : String) (index : Index) (indirect : Bool)

/-- Which members of an array are meant. -/
inductive Index where
  | none
  /-- All members, either as one text or each on its own. -/
  | all (joined : Bool)
  | at (expression : List Part)

/-- What is done with the value of a parameter. -/
inductive Modifier where
  | plain
  | length
  | fallback (kind : Fallback) (emptyToo : Bool) (word : List Part)
  /-- Drop what matches a pattern at an end. -/
  | trim (front : Bool) (longest : Bool) (pattern : List Part)
  | slice (offset : List Part) (length : Option (List Part))
  | substitute (place : Place) (pattern : List Part) (replacement : List Part)
  | casing (upper : Bool) (every : Bool) (pattern : List Part)
  | transform (operator : Char)
  /-- The indices of an array. -/
  | keys
  /-- The names of variables that start so. -/
  | names (joined : Bool)
  /-- No expansion at all, which shows when it is expanded. -/
  | bad (text : String)

/-- An assignment to a variable or to a member of an array. -/
inductive Assignment where
  | mk (name : String) (index : Index) (append : Bool) (value : List Part)

/-- Where a redirection leads. -/
inductive Target where
  | file (mode : OpenMode) (name : List Part)
  /-- The same place as another channel. -/
  | copy (input : Bool) (channel : List Part)
  /-- The text given in the script, by its number. -/
  | document (id : Nat)
  /-- The text of a word. -/
  | line (word : List Part)

inductive Redirect where
  | mk (channel : Channel) (target : Target)

/-- A branch of a case. -/
inductive Arm where
  | mk (patterns : List (List Part)) (body : List Command) (ending : ArmEnd)

/-- A condition that is asked without expanding words into several. -/
inductive Condition where
  | word (word : List Part)
  | unary (operator : String) (word : List Part)
  | binary (operator : String) (left right : List Part)
  | not (condition : Condition)
  | both (first second : Condition)
  | either (first second : Condition)

/-- A command of a script. -/
inductive Command where
  | simple (line : Nat) (assignments : List Assignment) (words : List (List Part))
      (redirects : List Redirect)
  | pipeline (negated : Bool) (timed : Bool) (stages : List Command)
  | both (first second : Command)
  | either (first second : Command)
  | background (body : Command)
  | sequence (commands : List Command)
  | branch (condition : List Command) (body : List Command) (other : List Command)
  | loop (negated : Bool) (condition : List Command) (body : List Command)
  | each (line : Nat) (name : String) (items : List (List Part)) (body : List Command)
  | count (line : Nat) (start test step : List Part) (body : List Command)
  | menu (line : Nat) (name : String) (items : List (List Part)) (body : List Command)
  | select (line : Nat) (subject : List Part) (arms : List Arm)
  | subshell (line : Nat) (body : List Command)
  | group (body : List Command)
  | redirected (line : Nat) (body : Command) (redirects : List Redirect)
  | define (line : Nat) (name : String) (body : Command)
  | arithmetic (line : Nat) (expression : List Part)
  | test (line : Nat) (condition : Condition)

end

/-- A word of a command. -/
abbrev Word := List Part

instance : Inhabited Part := ⟨.text false ""⟩
instance : Inhabited Subject := ⟨.mk "" .none false⟩
instance : Inhabited Command := ⟨.sequence []⟩
instance : Inhabited Redirect := ⟨.mk .both (.document 0)⟩
instance : Inhabited Assignment := ⟨.mk "" .none false []⟩
instance : Inhabited Arm := ⟨.mk [] [] .leave⟩
instance : Inhabited Condition := ⟨.word []⟩

/-- The text of a word in which nothing is quoted or expanded. -/
def plainText? (w : Word) : Option String :=
  w.foldl (fun acc p => match acc, p with
    | some s, .text false t => some (s ++ t)
    | _, _ => none) (some "")

/-- The text of a word in which nothing is expanded; quoting does not matter. -/
def fixedText? (w : Word) : Option String :=
  w.foldl (fun acc p => match acc, p with
    | some s, .text _ t => some (s ++ t)
    | _, _ => none) (some "")

def hasQuotes (w : Word) : Bool :=
  w.any fun p => match p with
    | .text q _ | .parameter q _ _ | .output q _ | .script q _ | .arithmetic q _ => q
    | _ => false

end StudyFlow.Shell
