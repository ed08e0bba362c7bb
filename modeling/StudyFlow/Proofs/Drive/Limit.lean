import StudyFlow.Proofs.Drive.Moves

/-!
# A drive with a restart limit ends

Whatever the adapter answers and whether or not files can be written: the restarts that are left
bound the moves of a drive, since three moves use up one of them.
-/

namespace StudyFlow.Drive

variable {σ : Type} {b : Bridge σ} {i : Instance} {st : σ} {s : Site} {d : Drive}

/-- The moves that are left at most to an instance with a restart limit. -/
def movesLeft (d : Drive) : Nat :=
  let left := d.item.restartLimit.toNat - d.item.restarts.toNat
  match d.phase with
  | .start => 3 * left + 4
  | .submit => 3 * left + 3
  | .count _ => 3 * left + 2
  | .done _ => 0
  | _ => 1

theorem movesLeft_written (j : Instance) (result : Except StatusError Unit) (next : Phase) :
    movesLeft ⟨j, written result next⟩ ≤ movesLeft ⟨j, next⟩ := by
  cases result with
  | ok u => exact Nat.le_refl _
  | error e => exact Nat.zero_le _

theorem movesLeft_answered (j : Instance) (r : SubmitResult) :
    (answered j r).movesLeft < movesLeft ⟨j, .submit⟩ := by
  cases r with
  | submitted submission =>
    simp only [answered]
    split
    · change 3 * _ + 2 < 3 * _ + 3
      exact Nat.lt_succ_self _
    · simp only [movesLeft]
      omega
  | failed e =>
    simp only [answered, movesLeft]
    omega
  | crashed =>
    simp only [answered, movesLeft]
    omega

/-- A restart that was counted is one less to come. -/
theorem left_recounted {j : Instance} (hl : j.restartLimit ≠ 0) (hc : j.canRestart = true) :
    j.recounted.restartLimit.toNat - j.recounted.restarts.toNat + 1 =
      j.restartLimit.toNat - j.restarts.toNat := by
  have hlt : j.restarts.toNat < j.restartLimit.toNat := by
    rcases j.canRestart_iff.mp hc with hz | hlt
    · exact absurd hz hl
    · exact hlt
  have hlimit : j.restartLimit.toNat < UInt32.size := UInt32.toNat_lt_size _
  have hsame := ((Instance.Resumes.refl j).recounted).restartLimit
  rw [hsame, Instance.restarts_recounted hc (by omega)]
  omega

/-- Each move of a drive that has not ended leaves fewer moves. -/
theorem movesLeft_step (hl : d.item.restartLimit ≠ 0) (hd : d.ending? = none)
    (b : Bridge σ) (st : σ) (s : Site) : (d.step b st s).1.movesLeft < d.movesLeft := by
  obtain ⟨j, phase⟩ := d
  have hl : j.restartLimit ≠ 0 := hl
  cases phase with
  | start =>
    rw [step_start]
    refine Nat.lt_of_le_of_lt (movesLeft_written _ _ _) ?_
    change 3 * _ + 3 < 3 * _ + 4
    exact Nat.lt_succ_self _
  | submit =>
    obtain ⟨s₁, -, -, hs⟩ := step_submit b j st s
    rw [hs]
    exact movesLeft_answered j _
  | count code =>
    obtain ⟨s₁, -, -, hs⟩ := step_count b j code st s
    rw [hs]
    refine Nat.lt_of_le_of_lt (movesLeft_written _ _ _) ?_
    cases hc : j.canRestart with
    | true =>
      have hleft : j.recounted.restartLimit.toNat - j.recounted.restarts.toNat + 1 =
          j.restartLimit.toNat - j.restarts.toNat := left_recounted hl hc
      rw [if_pos rfl]
      change 3 * (j.recounted.restartLimit.toNat - j.recounted.restarts.toNat) + 4 <
        3 * (j.restartLimit.toNat - j.restarts.toNat) + 2
      omega
    | false =>
      simp only [movesLeft, Bool.false_eq_true, ↓reduceIte]
      omega
  | exhaust =>
    obtain ⟨s₁, -, -, hs⟩ := step_end b j st s (Or.inr ⟨rfl, rfl, rfl⟩)
    rw [hs]
    exact Nat.lt_of_le_of_lt (movesLeft_written _ _ _) Nat.zero_lt_one
  | close code =>
    obtain ⟨s₁, -, -, hs⟩ := step_end b j st s (Or.inl ⟨rfl, rfl⟩)
    rw [hs]
    exact Nat.lt_of_le_of_lt (movesLeft_written _ _ _) Nat.zero_lt_one
  | abandon e =>
    rw [step_abandon]
    exact Nat.zero_lt_one
  | done ending => cases hd

/-- After as many moves as are left a drive has ended. -/
theorem moves_ends {n : Nat} (hl : d.item.restartLimit ≠ 0) (hn : d.movesLeft ≤ n) :
    ∃ ending, (d.moves b n st s).1.phase = .done ending := by
  induction n generalizing d st s with
  | zero =>
    cases hd : d.ending? with
    | none =>
      have hlt := movesLeft_step hl hd b st s
      omega
    | some ending => exact ⟨ending, phase_of_ending? hd⟩
  | succ n ih =>
    cases hd : d.ending? with
    | none =>
      have hlt := movesLeft_step hl hd b st s
      have hlimit := (step_resumes (Instance.Resumes.refl d.item) b st s).restartLimit
      rw [moves_succ]
      exact ih (by rwa [hlimit]) (by omega)
    | some ending =>
      have hdone := phase_of_ending? hd
      rw [moves_of_done hdone]
      exact ⟨ending, hdone⟩

/-- A run takes an instance with a restart limit to its end. -/
theorem run_ends (hl : i.restartLimit ≠ 0) (b : Bridge σ) (st : σ) (s : Site) :
    ∃ ending, (moves b moveBound (begin i) st s).1.phase = .done ending := by
  have hlimit : i.restartLimit.toNat < UInt32.size := UInt32.toNat_lt_size _
  refine moves_ends hl ?_
  change 3 * (i.restartLimit.toNat - i.restarts.toNat) + 4 ≤ moveBound
  unfold moveBound
  omega

end StudyFlow.Drive
