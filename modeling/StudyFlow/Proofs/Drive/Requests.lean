import StudyFlow.Proofs.Drive.Moves

/-!
# What a drive asks of its instance

Each move of a drive asks operations of its instance, which its phase and the answer of a submission
settle. The instance after the move is what these operations make of the one before it, whether or
not its status file could be written.
-/

namespace StudyFlow

variable {σ : Type}

namespace Drive

/-- What a drive asks of its instance once a submission has ended. -/
def asksAnswered : SubmitResult → List Operation
  | .submitted submission =>
    if submission.code.wantsAttempt then [.setRestart (submission.code == .restart)] else []
  | _ => []

/-- What the next move of a drive asks of its instance. -/
def asks (b : Bridge σ) (d : Drive) (st : σ) (s : Site) : List Operation :=
  match d.phase with
  | .start => [.start]
  | .submit => .setUp :: asksAnswered (b.submit d.item st s).1
  | .count _ => [.countRestart]
  | .exhaust => [.finish .softFail true]
  | .close code => [.finish code false]
  | .abandon _ => [.finish .hardFail false]
  | .done _ => []

/-- What a number of moves ask of the instance. -/
def asksWithin (b : Bridge σ) : Nat → Drive → σ → Site → List Operation
  | 0, _, _, _ => []
  | n + 1, d, st, s =>
    d.asks b st s ++ asksWithin b n (d.step b st s).1 (d.step b st s).2.1 (d.step b st s).2.2

theorem direct_of_mem_asksAnswered {r : SubmitResult} {o : Operation} (ho : o ∈ asksAnswered r) :
    o.IsDirect := by
  unfold asksAnswered at ho
  split at ho
  · split at ho
    · rw [List.mem_singleton.mp ho]
      trivial
    · cases ho
  · cases ho

theorem direct_of_mem_asks {b : Bridge σ} {d : Drive} {st : σ} {s : Site} {o : Operation}
    (ho : o ∈ d.asks b st s) : o.IsDirect := by
  obtain ⟨i, phase⟩ := d
  cases phase with
  | submit =>
    rcases List.mem_cons.mp ho with rfl | ho
    · trivial
    · exact direct_of_mem_asksAnswered ho
  | done ending => cases ho
  | _ =>
    rw [List.mem_singleton.mp ho]
    trivial

theorem item_answered (i : Instance) (r : SubmitResult) (now : Millis) :
    (answered i r).item = (asksAnswered r).foldl (Operation.change now) i := by
  cases r with
  | submitted submission =>
    simp only [answered, asksAnswered]
    split <;> rfl
  | failed e => rfl
  | crashed => rfl

/-- A move makes of the instance what the operations make that it asks. -/
theorem item_step (b : Bridge σ) (d : Drive) (st : σ) (s : Site) :
    (d.step b st s).1.item = (d.asks b st s).foldl (Operation.change s.clock) d.item := by
  obtain ⟨i, phase⟩ := d
  cases phase with
  | start => rw [step_start]; rfl
  | submit =>
    obtain ⟨s₁, -, -, hs⟩ := step_submit b i st s
    rw [hs]
    exact item_answered i _ s.clock
  | count code =>
    obtain ⟨s₁, -, -, hs⟩ := step_count b i code st s
    rw [hs]
    rfl
  | exhaust =>
    obtain ⟨s₁, -, -, hs⟩ := step_end b i st s (Or.inr ⟨rfl, rfl, rfl⟩)
    rw [hs]
    rfl
  | close code =>
    obtain ⟨s₁, -, -, hs⟩ := step_end b i st s (Or.inl ⟨rfl, rfl⟩)
    rw [hs]
    rfl
  | abandon e =>
    obtain ⟨s₁, s₂, -, -, -, -, hs⟩ := recordFailure_eq i s
    rw [step_abandon, hs]
    rfl
  | done ending => rfl

end Drive

end StudyFlow
