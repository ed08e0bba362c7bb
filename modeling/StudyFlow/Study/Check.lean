import StudyFlow.Expansion
import StudyFlow.Site
import StudyFlow.Study.Sections

/-!
Checks of a study before anything of it runs: `Study.check` finds the first fault in its steps, its
parameters and its queues. `Study.load` reads a study from a file.
-/

namespace StudyFlow

/-- Why a study cannot be used. -/
inductive LoadError where
  | read (path : Path) (cause : Fault)
  | parse (cause : Yaml.DecodeError)
  | noSteps (study : String)
  | emptyStepName (number : Nat)
  | whitespaceInStepName (name : String)
  | duplicateStep (name : String)
  | emptyCommand (step : String)
  | parameters (cause : ExpansionError)
  | queue (cause : QueueError)
  deriving DecidableEq, Inhabited

namespace LoadError

def message : LoadError → String
  | read path cause => "failed to read study file '" ++ path.text ++ "': " ++ cause.message
  | parse cause => "failed to parse study YAML: " ++ cause.detail?.getD "invalid document"
  | noSteps study => "study '" ++ study ++ "' defines no steps"
  | emptyStepName number => "step #" ++ number.repr ++ " has an empty name"
  | whitespaceInStepName name => "step name '" ++ name ++ "' must not contain whitespace"
  | duplicateStep name => "step '" ++ name ++ "' is defined more than once"
  | emptyCommand step => "step '" ++ step ++ "' has an empty command"
  | parameters cause => cause.message
  | queue cause => cause.message

end LoadError

namespace Study

/-- Checks steps one after the other. The number counts them from one; `seen` are the names before.
Blanks around a name do not count. -/
def checkSteps : Nat → List String → List Template → Except LoadError Unit
  | _, _, [] => .ok ()
  | number, seen, t :: ts =>
    let name := Text.trim t.name
    if name.isEmpty then .error (.emptyStepName number)
    else if Text.hasBlank name then .error (.whitespaceInStepName name)
    else if seen.contains name then .error (.duplicateStep name)
    else if Text.isBlankText t.run.cmd then .error (.emptyCommand name)
    else checkSteps (number + 1) (name :: seen) ts

/-- Expands each step and drops the instances. -/
def checkExpansion (ps : ParameterSet) (root : Path) : List Template → Except ExpansionError Unit
  | [] => .ok ()
  | t :: ts => do
    let _ ← t.instances ps root 0
    checkExpansion ps root ts

def checkParameters (s : Study) : Except ExpansionError Unit :=
  if s.parameters.isEmpty then .ok ()
  else do
    let _ ← s.parameters.validate
    checkExpansion s.parameters s.root s.steps

def check (s : Study) : Except LoadError Unit :=
  if s.steps.isEmpty then .error (.noSteps s.name)
  else do
    checkSteps 1 [] s.steps
    (checkParameters s).mapError .parameters
    let _ ← s.queueNames.mapError .queue

/-- What the journal says while steps are expanded, up to the first one that cannot be. -/
def expansionNotices (ps : ParameterSet) (root : Path) (steps : List Template) : List String :=
  (steps.takeWhile fun t => (t.instances ps root 0).isOk).filterMap fun t =>
    t.expansionNotice? ps root

/-- What the journal says while a study is checked. -/
def checkNotices (s : Study) : List String :=
  if s.parameters.isEmpty || !(checkSteps 1 [] s.steps).isOk || !s.parameters.validate.isOk then []
  else expansionNotices s.parameters s.root s.steps

/-- Reads a study from a text; the given shell runs its scripts unless it sets one. -/
def read (shell text : String) : Except LoadError Study :=
  (Yaml.decodeText? text (Sections.decodeStudy shell)).mapError .parse

def parse (shell text : String) : Except LoadError Study := do
  let s ← read shell text
  s.check
  pure s

/-- The study with its root taken relative to the directory of its file, unless it is absolute. -/
def relocate (s : Study) (file : Path) : Study :=
  if s.root.isAbsolute then s
  else match file.parent? with
    | some dir => { s with workspace := some (dir.join s.root) }
    | none => s

/-- What the journal says about a study that was loaded. -/
def loadedNotice (s : Study) : String :=
  "Parsed study '" ++ s.name ++ "': " ++ s.steps.length.repr ++ " step(s), " ++
    s.parameters.length.repr ++ " parameter(s)"

def load (shell : String) (file : Path) (site : Site) : Except LoadError Study × Site :=
  let site := site.info ("Loading study from: " ++ file.text)
  match site.files.readText file with
  | .error f => (.error (.read file f), site)
  | .ok text => match read shell text with
    | .error e => (.error e, site)
    | .ok s =>
      let site := s.checkNotices.foldl Site.info site
      match s.check with
      | .error e => (.error e, site)
      | .ok () => (.ok (s.relocate file), site.info s.loadedNotice)

end Study

end StudyFlow
