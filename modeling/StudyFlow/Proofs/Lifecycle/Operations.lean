import StudyFlow.Lifecycle

/-!
# Operations on an instance

What a caller may do with an instance, as data. An operation changes the instance in memory, and
those that persist then write its status file; whether the write succeeds has no influence on the
change.
-/

namespace StudyFlow

inductive Operation where
  | setUp
  | start
  | finish (code : ReturnCode) (hitLimit : Bool)
  | finishNumber (number : Int) (hitLimit : Bool)
  | countRestart
  | setRestart (restart : Bool)
  | setRuntime (queue worker : String)
  | clone (pairs : List (String × String)) (workspace : Option Path)

namespace Instance

def ended (i : Instance) (code : Option ReturnCode) (hitLimit : Bool) (now : Millis) : Instance :=
  { i with
    state := (outcome code hitLimit).1
    result := some (outcome code hitLimit).2
    endedAt := some now }

/-- The instance shows what a code leads to. -/
def Shows (i : Instance) (code : ReturnCode) (hitLimit : Bool) : Prop :=
  i.state = (outcome (some code) hitLimit).1 ∧ i.result = some (outcome (some code) hitLimit).2

def started (i : Instance) (now : Millis) : Instance :=
  { i with state := .running, endedAt := none, startedAt := some (i.startedAt.getD now) }

/-- The instance with one more restart, if the limit allows one. -/
def recounted (i : Instance) : Instance :=
  if i.canRestart then { i with restarts := i.restarts + 1 } else i

theorem isTerminal_outcome (code : Option ReturnCode) (hitLimit : Bool) :
    (outcome code hitLimit).1.isTerminal = true := by
  cases hitLimit <;> rcases code with _ | code <;> try cases code
  all_goals rfl

theorem shows_ended (i : Instance) (code : ReturnCode) (hitLimit : Bool) (now : Millis) :
    (i.ended (some code) hitLimit now).Shows code hitLimit := ⟨rfl, rfl⟩

theorem save_eq (i : Instance) (s : Site) : i.save s = ⟨(i.persist s).1, i, (i.persist s).2⟩ := rfl

theorem markRunning_eq (i : Instance) (s : Site) :
    i.markRunning s = (i.started s.clock).save s := rfl

/-- Ending an instance notes the outcome and writes it. -/
theorem finish_eq (i : Instance) (code : Option ReturnCode) (hitLimit : Bool) (s : Site) :
    ∃ text, i.finish code hitLimit s = (i.ended code hitLimit s.clock).save (s.info text) :=
  ⟨_, rfl⟩

theorem markRestart_eq (i : Instance) (s : Site) :
    i.markRestart s =
      ⟨(i.recounted.save s).result.map fun _ => i.canRestart, i.recounted,
        (i.recounted.save s).site⟩ := rfl

end Instance

namespace Operation

def persists : Operation → Bool
  | setRestart _ => false
  | setRuntime _ _ => false
  | clone _ _ => false
  | _ => true

/-- The operation is asked of the instance itself and makes no copy of it. -/
def IsDirect : Operation → Prop
  | clone _ _ => False
  | _ => True

def change (now : Millis) (i : Instance) : Operation → Instance
  | setUp => i
  | start => i.started now
  | finish code hitLimit => i.ended (some code) hitLimit now
  | finishNumber number hitLimit => i.ended (ReturnCode.ofNumber? number) hitLimit now
  | countRestart => i.recounted
  | setRestart restart => i.withRestart restart
  | setRuntime queue worker => i.withRuntime queue worker
  | clone pairs workspace => i.cloneWith pairs workspace now

def run (i : Instance) (s : Site) : Operation → Transition Unit
  | setUp => i.save s
  | start => i.markRunning s
  | finish code hitLimit => i.markEnd code hitLimit s
  | finishNumber number hitLimit => i.markEndNumber number hitLimit s
  | countRestart =>
    let t := i.markRestart s
    ⟨t.result.map fun _ => (), t.item, t.site⟩
  | setRestart restart => ⟨.ok (), i.withRestart restart, s⟩
  | setRuntime queue worker => ⟨.ok (), i.withRuntime queue worker, s⟩
  | clone pairs workspace => ⟨.ok (), i.cloneWith pairs workspace s.clock, s⟩

theorem run_item (i : Instance) (s : Site) (o : Operation) :
    (o.run i s).item = o.change s.clock i := by
  cases o with
  | finishNumber number hitLimit =>
    simp only [run, change, Instance.markEndNumber]
    split <;> rfl
  | _ => rfl

/-- An operation that persists saves what it made of the instance, at the same time and to the same
files. -/
theorem run_eq_save {i : Instance} {s : Site} {o : Operation} (h : o.persists = true) :
    ∃ s₁ : Site, s₁.files = s.files ∧ s₁.clock = s.clock ∧
      o.run i s = (o.change s.clock i).save s₁ := by
  cases o with
  | setUp => exact ⟨s, rfl, rfl, rfl⟩
  | start => exact ⟨s, rfl, rfl, i.markRunning_eq s⟩
  | finish code hitLimit =>
    obtain ⟨text, ht⟩ := i.finish_eq (some code) hitLimit s
    exact ⟨s.info text, rfl, rfl, ht⟩
  | finishNumber number hitLimit =>
    simp only [run, change, Instance.markEndNumber]
    split
    · obtain ⟨text, ht⟩ := i.finish_eq (ReturnCode.ofNumber? number) hitLimit s
      exact ⟨s.info text, rfl, rfl, ht⟩
    · obtain ⟨text, ht⟩ := i.finish_eq (ReturnCode.ofNumber? number) hitLimit (s.warn _)
      exact ⟨(s.warn _).info text, rfl, rfl, ht⟩
  | countRestart =>
    refine ⟨s, rfl, rfl, ?_⟩
    simp only [run, change, Instance.markRestart_eq, Instance.save_eq]
    cases (i.recounted.persist s).1 <;> rfl
  | setRestart => cases h
  | setRuntime => cases h
  | clone => cases h

end Operation

/-- The second instance comes about from the first by admitted operations, whatever the site is like
at each of them and whether or not its writes succeed. -/
inductive Descends (admitted : Operation → Prop) (i : Instance) : Instance → Prop
  | refl : Descends admitted i i
  | step {j : Instance} (o : Operation) (s : Site) : Descends admitted i j → admitted o →
    Descends admitted i (o.run j s).item

/-- What each admitted operation keeps holds of all descendants. -/
theorem Descends.keeps {admitted : Operation → Prop} {P : Instance → Prop}
    (hstep : ∀ i o now, admitted o → P i → P (o.change now i)) {i j : Instance}
    (h : Descends admitted i j) (hi : P i) : P j := by
  induction h with
  | refl => exact hi
  | step o s _ ho ih =>
    rw [Operation.run_item]
    exact hstep _ o s.clock ho ih

end StudyFlow
