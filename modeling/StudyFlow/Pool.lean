import StudyFlow.Runner

/-!
The pool of workers: how the main loop of a run and its workers take turns.

The main loop dispatches instances while there is room for one more, lets go of its own sender once
nothing is left to dispatch, and waits for a message. A worker makes the moves of its drive and
sends one message, with which it ends. `Pool.Step` says what may happen next; any order that it
leaves open is possible, and the one that `Runner.runInstances` follows is among them.
-/

namespace StudyFlow

/-- Where the main loop stands. -/
inductive Control where
  | dispatching
  | receiving
  /-- All is done. -/
  | finished
  /-- The channel was found closed. -/
  | closed
  deriving DecidableEq, Inhabited

/-- What happens in a pool. Instances go by their place among those that are run. -/
inductive Event where
  | dispatched (ticket : Nat)
  | moved (ticket : Nat)
  | sent (ticket : Nat) (message : Message)
  | received (ticket : Nat) (message : Message)
  /-- The main loop goes on to wait for a message. -/
  | waited
  | ended
  | disconnected

/-- The main loop, its workers and the channel between them. -/
structure Pool (σ : Type) where
  pending : List (Nat × Instance)
  workers : List (Nat × Drive)
  channel : List (Nat × Message) := []
  /-- Instances that were dispatched and not heard of. -/
  running : Nat := 0
  /-- Whether the main loop has a sender of its own. -/
  holdsSender : Bool := true
  control : Control := .dispatching
  inbox : Runner.Inbox := {}
  state : σ
  site : Site

namespace Pool

variable {σ : Type}

/-- The pool before anything is dispatched. -/
def start (instances : List Instance) (state : σ) (s : Site) : Pool σ where
  pending := instances.zipIdx.map Prod.swap
  workers := []
  state := state
  site := s

/-- Whether the main loop dispatches an instance next. -/
def canDispatch (r : Runner σ) (p : Pool σ) : Bool :=
  p.running < r.maxParallel && p.holdsSender && !p.pending.isEmpty

/-- The pool after the main loop has dispatched what it can. -/
def turn (p : Pool σ) (next : Control) : Pool σ :=
  { p with holdsSender := p.holdsSender && !p.pending.isEmpty, control := next }

/-- What may happen next, and what the pool is then. -/
inductive Step (r : Runner σ) : Pool σ → Event → Pool σ → Prop
  | dispatch {p : Pool σ} {k : Nat} {i : Instance} {rest : List (Nat × Instance)} :
    p.control = .dispatching → p.canDispatch r = true → p.pending = (k, i) :: rest →
    Step r p (.dispatched k)
      { p with
        pending := rest
        workers := p.workers ++ [(k, Drive.begin i)]
        running := p.running + 1 }
  | wait {p : Pool σ} :
    p.control = .dispatching → p.canDispatch r = false → p.running ≠ 0 →
    Step r p .waited (p.turn .receiving)
  | finish {p : Pool σ} :
    p.control = .dispatching → p.canDispatch r = false → p.running = 0 →
    Step r p .ended (p.turn .finished)
  | move {p : Pool σ} {before after : List (Nat × Drive)} {k : Nat} {d d' : Drive}
    {state : σ} {s : Site} :
    p.workers = before ++ (k, d) :: after → d.ending? = none →
    d.step r.bridge p.state p.site = (d', state, s) →
    Step r p (.moved k) { p with workers := before ++ (k, d') :: after, state := state, site := s }
  | send {p : Pool σ} {before after : List (Nat × Drive)} {k : Nat} {d : Drive} {ending : Ending}
      {m : Message} {s : Site} :
    p.workers = before ++ (k, d) :: after → d.ending? = some ending →
    Runner.settle d.item ending p.site = (m, s) →
    Step r p (.sent k m)
      { p with workers := before ++ after, channel := p.channel ++ [(k, m)], site := s }
  | receive {p : Pool σ} {k : Nat} {m : Message} {rest : List (Nat × Message)} :
    p.control = .receiving → p.channel = (k, m) :: rest →
    Step r p (.received k m)
      { p with
        channel := rest
        running := p.running - 1
        control := .dispatching
        inbox := p.inbox.receive m
        site := Runner.receiptNotice m p.site }
  /-- No one is left who might send a message. -/
  | close {p : Pool σ} :
    p.control = .receiving → p.channel = [] → p.holdsSender = false → p.workers = [] →
    Step r p .disconnected { p with control := .closed }

/-- What happens from one pool to another, in order. -/
inductive Run (r : Runner σ) (p : Pool σ) : List Event → Pool σ → Prop
  | nil : Run r p [] p
  | snoc {q q' : Pool σ} {es : List Event} {e : Event} :
    Run r p es q → Step r q e q' → Run r p (es ++ [e]) q'

end Pool

end StudyFlow
