import StudyFlow.Proofs.Drive.Moves
import StudyFlow.Runner

/-!
# Why a run of instances fails

Instances that are there fail for reasons that lie in the files, in the adapter or in a lost worker.
Faults in how a study is written come up before, when its steps are prepared.
-/

namespace StudyFlow

variable {σ : Type} {b : Bridge σ} {r : Runner σ} {i : Instance} {st : σ} {s : Site}

/-- Whether the error is about how a study is written, and not about how it runs. -/
def ExecutionError.isConfiguration : ExecutionError → Bool
  | queue _ => true
  | expansion _ => true
  | _ => false

/-- Not a fault in how a study is written. -/
def ExecutionError.AtRun (e : ExecutionError) : Prop := e.isConfiguration = false

namespace Bridge

theorem prepare_atRun {e : ExecutionError} {s' : Site} (h : b.prepare i s = (.error e, s')) :
    e.AtRun := by
  rcases prepare_eq_error h with ⟨cause, rfl, -⟩ | ⟨s₁, fault, t, rfl, -⟩
  · rfl
  · rfl

theorem submit_atRun {e : ExecutionError} (h : (b.submit i st s).1 = .failed e) : e.AtRun := by
  cases hp : b.prepare i s with
  | mk result s' =>
    cases result with
    | error cause =>
      rw [submit_of_error hp] at h
      obtain rfl := SubmitResult.failed.inj h
      exact prepare_atRun hp
    | ok script =>
      cases hd : (b.settings.effectiveFor i.run).dryRun with
      | true =>
        rw [submit_of_dry hd hp] at h
        cases h
      | false =>
        obtain ⟨reply, st', s'', ha⟩ : ∃ reply st' s'', b.adapter.submit script
            (b.settings.effectiveFor i.run) st (s'.info i.executionNotice) = (reply, st', s'') :=
          ⟨_, _, _, rfl⟩
        rw [submit_of_reply hd hp ha] at h
        cases reply with
        | refused cause =>
          obtain rfl := SubmitResult.failed.inj h
          rfl
        | submitted submission => cases h
        | crashed => cases h

end Bridge

namespace Drive

def cause? (d : Drive) : Option ExecutionError :=
  match d.phase with
  | .abandon e => some e
  | .done (.failed e) => some e
  | _ => none

theorem cause?_written {j : Instance} {result : Except StatusError Unit} {next : Phase}
    (h : ∀ e ∈ cause? ⟨j, next⟩, e.AtRun) : ∀ e ∈ cause? ⟨j, written result next⟩, e.AtRun := by
  cases result with
  | ok u => exact h
  | error cause =>
    intro e he
    obtain rfl := Option.some.inj he
    rfl

theorem cause?_answered (j : Instance) (result : SubmitResult)
    (h : ∀ e, result = .failed e → e.AtRun) :
    ∀ e ∈ (answered j result).cause?, e.AtRun := by
  cases result with
  | submitted submission =>
    intro e he
    simp only [answered] at he
    split at he <;> cases he
  | failed cause =>
    intro e he
    obtain rfl := Option.some.inj he
    exact h cause rfl
  | crashed =>
    intro e he
    cases he

/-- No move meets a fault in how a study is written. -/
theorem cause?_step {d : Drive} (h : ∀ e ∈ d.cause?, e.AtRun) (b : Bridge σ) (st : σ) (s : Site) :
    ∀ e ∈ (d.step b st s).1.cause?, e.AtRun := by
  obtain ⟨j, phase⟩ := d
  cases phase with
  | start =>
    rw [step_start]
    exact cause?_written nofun
  | submit =>
    obtain ⟨s₁, -, -, hs⟩ := step_submit b j st s
    rw [hs]
    exact cause?_answered j _ fun e he => Bridge.submit_atRun he
  | count code =>
    obtain ⟨s₁, -, -, hs⟩ := step_count b j code st s
    rw [hs]
    refine cause?_written ?_
    split <;> nofun
  | exhaust =>
    obtain ⟨s₁, -, -, hs⟩ := step_end b j st s (Or.inr ⟨rfl, rfl, rfl⟩)
    rw [hs]
    exact cause?_written nofun
  | close code =>
    obtain ⟨s₁, -, -, hs⟩ := step_end b j st s (Or.inl ⟨rfl, rfl⟩)
    rw [hs]
    exact cause?_written nofun
  | abandon e =>
    rw [step_abandon]
    exact h
  | done ending => exact h

theorem cause?_moves {d : Drive} (h : ∀ e ∈ d.cause?, e.AtRun) (n : Nat) :
    ∀ e ∈ (d.moves b n st s).1.cause?, e.AtRun := by
  induction n generalizing d st s with
  | zero => exact h
  | succ n ih =>
    rw [moves_succ]
    exact ih (cause?_step h b st s)

theorem run_atRun {e : ExecutionError} (h : (run b i st s).1 = .failed e) : e.AtRun := by
  have hbegin : ∀ e ∈ (begin i).cause?, e.AtRun := nofun
  have hcause : ∀ e ∈ (moves b moveBound (begin i) st s).1.cause?, e.AtRun :=
    cause?_moves hbegin moveBound
  generalize hm : moves b moveBound (begin i) st s = result at hcause
  obtain ⟨⟨j, phase⟩, st', s'⟩ := result
  unfold run at h
  rw [hm] at h
  cases phase with
  | done ending =>
    obtain rfl : ending = .failed e := h
    exact hcause e rfl
  | _ => cases h

end Drive

namespace Runner

/-- What a worker reports is no fault in how the study is written. -/
theorem work_atRun {e : ExecutionError} (h : (r.work i st s).1.result = .error e) : e.AtRun := by
  unfold work at h
  obtain ⟨ending, j, st', s', hrun⟩ : ∃ ending j st' s',
    Drive.run r.bridge i st s = (ending, j, st', s') :=
    ⟨_, _, _, _, rfl⟩
  rw [hrun] at h
  cases ending with
  | code code => cases h
  | failed cause =>
    obtain rfl := Except.error.inj h
    exact Drive.run_atRun (congrArg Prod.fst hrun)
  | crashed =>
    obtain rfl := Except.error.inj h
    rfl

theorem gather_atRun {is : List Instance} {inbox : Inbox} (h : ∀ e ∈ inbox.firstError, e.AtRun) :
    ∀ e ∈ (r.gather is inbox st s).1.firstError, e.AtRun := by
  induction is generalizing inbox st s with
  | nil => exact h
  | cons i is ih =>
    have hnext : ∀ e ∈ (inbox.receive (r.work i st s).1).firstError, e.AtRun := by
      unfold Inbox.receive
      split
      · exact h
      · next cause hm =>
        intro e he
        cases hf : inbox.firstError with
        | none =>
          rw [hf] at he
          obtain rfl := Option.some.inj he
          exact work_atRun hm
        | some first =>
          rw [hf] at he
          obtain rfl := Option.some.inj he
          exact h _ hf
    exact ih hnext

theorem runInstances_atRun {is : List Instance} {e : ExecutionError}
    (h : (r.runInstances is st s).1 = .error e) : e.AtRun := by
  have hfirst : ∀ e ∈ (r.gather is {} st s).1.firstError, e.AtRun := gather_atRun nofun
  unfold runInstances Inbox.result at h
  dsimp only at h
  split at h
  · next first hf =>
    obtain rfl := Except.error.inj h
    exact hfirst _ hf
  · cases h

/-- Templates that are prepared fail for no fault in how the study is written. -/
theorem runFrom_atRun {ps : ParameterSet} {ts : List Template} {done : Summary} {e : ExecutionError}
    (hp : ∀ t ∈ ts, ∀ s, ∃ is, (r.prepare t ps s).1 = .ok is)
    (h : (r.runFrom ps ts done st s).1 = .error e) : e.AtRun := by
  induction ts generalizing done st s with
  | nil => cases h
  | cons t ts ih =>
    obtain ⟨is, his⟩ := hp t List.mem_cons_self s
    have hrun : r.runTemplate t ps st s = r.runInstances is st (r.prepare t ps s).2 := by
      unfold runTemplate
      rw [show r.prepare t ps s = (.ok is, (r.prepare t ps s).2) from Prod.ext his rfl]
    unfold runFrom at h
    rw [hrun] at h
    split at h
    · next cause st' s' he =>
      obtain rfl := Except.error.inj h
      exact runInstances_atRun (congrArg Prod.fst he)
    · next summary st' s' he =>
      dsimp only at h
      split at h
      · cases h
      · exact ih (fun t ht => hp t (List.mem_cons_of_mem _ ht)) h

end Runner

end StudyFlow
