import StudyFlow.Adapter

/-!
Driving an instance: it is submitted until a submission asks for no further attempt, or until the
restart limit is reached.

A drive goes through phases. `Drive.step` makes one move, which is one transition of the instance or
one submission, so that the moves of several drives may be interleaved; `Drive.run` makes moves
until the end.
-/

namespace StudyFlow

/-- How a drive ends: with a code, with an error, or with the adapter gone. -/
inductive Ending where
  | code (code : ReturnCode)
  | failed (cause : ExecutionError)
  | crashed
  deriving DecidableEq, Inhabited

/-- What a drive does next. -/
inductive Phase where
  /-- Mark the instance as running. -/
  | start
  /-- Submit it. -/
  | submit
  /-- Count the restart that a submission asked for. -/
  | count (code : ReturnCode)
  /-- Record that the restart limit is reached. -/
  | exhaust
  /-- Record the code of the last submission. -/
  | close (code : ReturnCode)
  /-- Record that a submission failed. -/
  | abandon (cause : ExecutionError)
  | done (ending : Ending)
  deriving DecidableEq, Inhabited

/-- An instance on its way to a terminal state. -/
structure Drive where
  item : Instance
  phase : Phase
  deriving Inhabited

namespace Drive

variable {σ : Type}

def begin (i : Instance) : Drive := ⟨i, .start⟩

/-- How the drive ended, if it did. -/
def ending? (d : Drive) : Option Ending :=
  match d.phase with
  | .done e => some e
  | _ => none

/-- Records a failure in the status file as far as that is possible. -/
def recordFailure (i : Instance) (s : Site) : Instance × Site :=
  let t := i.markEnd .hardFail false s
  match t.result with
  | .ok () => (t.item, t.site)
  | .error e =>
    (t.item, t.site.warn ("Could not record failure of '" ++ i.name ++ "': " ++ e.message))

/-- The next phase after a transition: the given one, or the end if the status file was not
written. -/
def after {α : Type} (t : Transition α) (next : α → Phase) : Drive :=
  match t.result with
  | .ok a => ⟨t.item, next a⟩
  | .error e => ⟨t.item, .done (.failed (.status e))⟩

/-- What the journal says before a further attempt. -/
def attemptNotice (i : Instance) (code : ReturnCode) : String :=
  "Resubmitting '" ++ i.name ++ "' in " ++ i.run.retryDelay.toNat.repr ++ "s (" ++
    code.name ++ " " ++
    i.restarts.toNat.repr ++ "/" ++ i.restartLimit.toNat.repr ++ ")"

/-- What the journal says when the restart limit is reached. -/
def limitNotice (i : Instance) : String :=
  "Step '" ++ i.name ++ "' hit its retry limit (" ++ i.restartLimit.toNat.repr ++ ")"

/-- One move of a drive. -/
def step (b : Bridge σ) (d : Drive) (state : σ) (s : Site) : Drive × σ × Site :=
  let i := d.item
  match d.phase with
  | .start =>
    let t := i.markRunning s
    (after t fun () => .submit, state, t.site)
  | .submit =>
    match b.submit i state s with
    | (.submitted submission, state, s) =>
      let code := submission.code
      let s := s.info ("Step '" ++ i.name ++ "' (job " ++ submission.job ++
        ") returned " ++ code.name)
      if code.wantsAttempt then (⟨i.withRestart (code == .restart), .count code⟩, state, s)
      else (⟨i, .close code⟩, state, s)
    | (.failed e, state, s) =>
      (⟨i, .abandon e⟩, state, s.error ("Submission of '" ++ i.name ++ "' failed: " ++ e.message))
    | (.crashed, state, s) => (⟨i, .done .crashed⟩, state, s)
  | .count code =>
    let t := i.markRestart s
    let d := after t fun counted => if counted then .start else .exhaust
    let s := match d.phase with
      | .start => t.site.warn (attemptNotice t.item code)
      | .exhaust => t.site.warn (limitNotice t.item)
      | _ => t.site
    (d, state, s)
  | .exhaust =>
    let t := i.markEnd .softFail true s
    (after t fun () => .done (.code .softFail), state, t.site)
  | .close code =>
    let t := i.markEnd code false s
    (after t fun () => .done (.code code), state, t.site)
  | .abandon e =>
    let (i, s) := recordFailure i s
    (⟨i, .done (.failed e)⟩, state, s)
  | .done _ => (d, state, s)

/-- Makes at most the given number of moves, and none once the drive has ended. -/
def moves (b : Bridge σ) : Nat → Drive → σ → Site → Drive × σ × Site
  | 0, d, state, s => (d, state, s)
  | n + 1, d, state, s =>
    match d.phase with
    | .done _ => (d, state, s)
    | _ =>
      let (d, state, s) := d.step b state s
      moves b n d state s

/-- More moves than any drive makes before its restart counter is used up: three for each attempt,
and the counter has 32 bits. -/
def moveBound : Nat := 3 * UInt32.size + 3

/-- Drives an instance to its end. A drive whose counter is used up counts as lost. -/
def run (b : Bridge σ) (i : Instance) (state : σ) (s : Site) : Ending × Instance × σ × Site :=
  let (d, state, s) := moves b moveBound (begin i) state s
  (d.ending?.getD .crashed, d.item, state, s)

end Drive

end StudyFlow
