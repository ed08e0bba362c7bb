import StudyFlow.Drive
import StudyFlow.Proofs.Lifecycle.Operations

/-!
# The moves of a drive

One equation for each phase says what a move leads to; the rest of the development does not open
`Drive.step`. Whatever moves are made, the instance stays the one that was submitted: `Resumes`
lists what they may change.
-/

namespace StudyFlow

/-- The second instance is the first one at another point of its lifecycle. -/
def Instance.Resumes (i j : Instance) : Prop :=
  { j with
    state := i.state
    result := i.result
    startedAt := i.startedAt
    endedAt := i.endedAt
    restart := i.restart
    restarts := i.restarts } = i

namespace Instance.Resumes

variable {i j : Instance}

theorem refl (i : Instance) : i.Resumes i := rfl

theorem started (h : i.Resumes j) (now : Millis) : i.Resumes (j.started now) := h

theorem ended (h : i.Resumes j) (code : Option ReturnCode) (hitLimit : Bool) (now : Millis) :
    i.Resumes (j.ended code hitLimit now) := h

theorem withRestart (h : i.Resumes j) (restart : Bool) : i.Resumes (j.withRestart restart) := h

theorem recounted (h : i.Resumes j) : i.Resumes j.recounted := by
  unfold Instance.recounted
  split
  · exact h
  · exact h

theorem name (h : i.Resumes j) : j.name = i.name := (congrArg Instance.name h :)

theorem cmd (h : i.Resumes j) : j.cmd = i.cmd := (congrArg Instance.cmd h :)

theorem restartCmd (h : i.Resumes j) : j.restartCmd = i.restartCmd :=
  (congrArg Instance.restartCmd h :)

theorem run (h : i.Resumes j) : j.run = i.run := (congrArg Instance.run h :)

theorem workspace (h : i.Resumes j) : j.workspace = i.workspace := (congrArg Instance.workspace h :)

theorem restartLimit (h : i.Resumes j) : j.restartLimit = i.restartLimit :=
  (congrArg Instance.restartLimit h :)

theorem script (h : i.Resumes j) : j.script = { i.script with command := j.activeCommand } := by
  have ht : j.templateName = i.templateName := (congrArg Instance.templateName h :)
  rw [Instance.script, Instance.script, h.name, h.workspace, ht]

end Instance.Resumes

theorem Instance.canRestart_iff (i : Instance) :
    i.canRestart = true ↔ i.restartLimit = 0 ∨ i.restarts.toNat < i.restartLimit.toNat := by
  simp [canRestart, UInt32.lt_iff_toNat_lt]

/-- A restart that the limit allows is counted, unless the counter overflows. -/
theorem Instance.restarts_recounted {i : Instance} (hc : i.canRestart = true)
    (hfit : i.restarts.toNat + 1 < UInt32.size) :
    i.recounted.restarts.toNat = i.restarts.toNat + 1 := by
  have hs : (2 : Nat) ^ 32 = UInt32.size := rfl
  rw [Instance.recounted, if_pos hc]
  change (i.restarts + 1).toNat = _
  rw [UInt32.toNat_add, UInt32.toNat_one, hs, Nat.mod_eq_of_lt hfit]

/-- Whether the answer asks for another attempt. -/
def Reply.wantsAttempt : Reply → Bool
  | .submitted submission => submission.code.wantsAttempt
  | _ => false

/-- The adapter that gives the answers and leaves the site alone. -/
def Adapter.replay (answers : Nat → Reply) : Adapter (List Script) where
  submit script _ log s := (answers log.length, log ++ [script], s)

/-- How a submission ends that the adapter answers. -/
def SubmitResult.ofReply : Reply → SubmitResult
  | .submitted submission => .submitted submission
  | .refused cause => .failed (.adapter cause)
  | .crashed => .crashed

namespace Bridge

variable {σ : Type} {b : Bridge σ} {i : Instance} {st : σ} {s s' : Site}

theorem prepare_eq_ok {script : Script} (h : b.prepare i s = (.ok script, s')) :
    script = i.script ∧ ∃ s₁ t, i.persist s = (.ok (), s₁) ∧
      i.script.write (b.settings.effectiveFor i.run).shell s₁.files = (.ok (), t) ∧
      s' = { s₁ with files := t } := by
  unfold prepare at h
  split at h
  · cases h
  · next s₁ hp =>
    split at h
    · cases h
    · next t hw =>
      cases h
      exact ⟨rfl, s₁, t, hp, hw, rfl⟩

theorem prepare_eq_error {e : ExecutionError} (h : b.prepare i s = (.error e, s')) :
    (∃ cause, e = .status cause ∧ i.persist s = (.error cause, s')) ∨
      ∃ s₁ fault t, e = .script i.script.path fault ∧ i.persist s = (.ok (), s₁) ∧
        i.script.write (b.settings.effectiveFor i.run).shell s₁.files = (.error fault, t) ∧
        s' = { s₁ with files := t } := by
  unfold prepare at h
  split at h
  · next cause s₁ hp =>
    cases h
    exact Or.inl ⟨cause, rfl, hp⟩
  · next s₁ hp =>
    split at h
    · next fault t hw =>
      cases h
      exact Or.inr ⟨s₁, fault, t, rfl, hp, hw, rfl⟩
    · cases h

theorem submit_of_error {e : ExecutionError} (h : b.prepare i s = (.error e, s')) :
    b.submit i st s = (.failed e, st, s') := by
  simp only [submit, h]

theorem submit_of_dry {script : Script} (hd : (b.settings.effectiveFor i.run).dryRun = true)
    (h : b.prepare i s = (.ok script, s')) :
    b.submit i st s = (.submitted ⟨.dryOk, "dry-run"⟩, st, s'.info i.dryRunNotice) := by
  simp only [submit, h, hd, ↓reduceIte]

theorem submit_of_reply {script : Script} {reply : Reply} {st' : σ} {s'' : Site}
    (hd : (b.settings.effectiveFor i.run).dryRun = false) (h : b.prepare i s = (.ok script, s'))
    (ha : b.adapter.submit script (b.settings.effectiveFor i.run) st (s'.info i.executionNotice) =
      (reply, st', s'')) :
    b.submit i st s = (SubmitResult.ofReply reply, st', s'') := by
  simp only [submit, h, hd, ha, Bool.false_eq_true, ↓reduceIte]
  cases reply <;> rfl

end Bridge

namespace Drive

variable {σ : Type} {b : Bridge σ} {i : Instance} {st st' : σ} {s s' : Site}

/-- The phase after a write: the given one, or the end with an error. -/
def written (result : Except StatusError Unit) (next : Phase) : Phase :=
  match result with
  | .ok () => next
  | .error e => .done (.failed (.status e))

/-- What a drive does next once a submission has ended. -/
def answered (i : Instance) : SubmitResult → Drive
  | .submitted submission =>
    if submission.code.wantsAttempt then
      ⟨i.withRestart (submission.code == .restart), .count submission.code⟩
    else ⟨i, .close submission.code⟩
  | .failed e => ⟨i, .abandon e⟩
  | .crashed => ⟨i, .done .crashed⟩

theorem answered_resumes {j : Instance} (h : i.Resumes j) (r : SubmitResult) :
    i.Resumes (answered j r).item := by
  cases r with
  | submitted submission =>
    simp only [answered]
    split
    · exact h.withRestart _
    · exact h
  | failed e => exact h
  | crashed => exact h

theorem restarts_answered (i : Instance) (r : SubmitResult) :
    (answered i r).item.restarts = i.restarts := by
  cases r with
  | submitted submission =>
    simp only [answered]
    split <;> rfl
  | failed e => rfl
  | crashed => rfl

theorem after_save (i : Instance) (s : Site) (next : Unit → Phase) :
    after (i.save s) next = ⟨i, written (i.persist s).1 (next ())⟩ := by
  unfold after Instance.save
  rcases i.persist s with ⟨_ | _, s'⟩ <;> rfl

theorem phase_of_ending? {d : Drive} {ending : Ending} (h : d.ending? = some ending) :
    d.phase = .done ending := by
  unfold ending? at h
  split at h
  · next e hd => rw [hd, Option.some.inj h]
  · cases h

/-! ## One move -/

theorem step_start (b : Bridge σ) (i : Instance) (st : σ) (s : Site) :
    step b ⟨i, .start⟩ st s =
      (⟨i.started s.clock, written ((i.started s.clock).persist s).1 .submit⟩, st,
        ((i.started s.clock).persist s).2) := by
  simp only [step, Instance.markRunning_eq, after_save]
  rfl

theorem step_submit (b : Bridge σ) (i : Instance) (st : σ) (s : Site) :
    ∃ s₁, s₁.files = (b.submit i st s).2.2.files ∧ s₁.clock = (b.submit i st s).2.2.clock ∧
      step b ⟨i, .submit⟩ st s = (answered i (b.submit i st s).1, (b.submit i st s).2.1, s₁) := by
  obtain ⟨r, st', s', h⟩ : ∃ r st' s', b.submit i st s = (r, st', s') := ⟨_, _, _, rfl⟩
  simp only [step, h]
  cases r with
  | submitted submission =>
    refine ⟨s'.info ("Step '" ++ i.name ++ "' (job " ++ submission.job ++ ") returned " ++
      submission.code.name), rfl, rfl, ?_⟩
    simp only [answered]
    split <;> rfl
  | failed e => exact ⟨s'.error _, rfl, rfl, rfl⟩
  | crashed => exact ⟨s', rfl, rfl, rfl⟩

theorem step_count (b : Bridge σ) (i : Instance) (code : ReturnCode) (st : σ) (s : Site) :
    ∃ s₁, s₁.files = (i.recounted.persist s).2.files ∧ s₁.clock = (i.recounted.persist s).2.clock ∧
      step b ⟨i, .count code⟩ st s =
        (⟨i.recounted, written (i.recounted.persist s).1
          (if i.canRestart then .start else .exhaust)⟩, st,
          s₁) := by
  have hd : (after (i.markRestart s) fun counted => if counted then Phase.start else .exhaust) =
      ⟨i.recounted, written (i.recounted.persist s).1
        (if i.canRestart then .start else .exhaust)⟩ := by
    rw [Instance.markRestart_eq]
    unfold after Instance.save
    rcases i.recounted.persist s with ⟨_ | _, s'⟩ <;> rfl
  have hsite : (i.markRestart s).site = (i.recounted.persist s).2 := by
    rw [Instance.markRestart_eq, Instance.save_eq]
  simp only [step, hd, hsite]
  generalize i.recounted.persist s = outcome
  refine ⟨_, ?_, ?_, rfl⟩
  · split <;> rfl
  · split <;> rfl

/-- Ending with a code, from either of the phases that do so. -/
theorem step_end (b : Bridge σ) (i : Instance) (st : σ) (s : Site) {phase : Phase}
    {code : ReturnCode} {hitLimit : Bool}
    (h : phase = .close code ∧ hitLimit = false ∨ phase = .exhaust ∧ code = .softFail ∧
      hitLimit = true) :
    ∃ s₁, s₁.files = s.files ∧ s₁.clock = s.clock ∧
      step b ⟨i, phase⟩ st s =
        (⟨i.ended (some code) hitLimit s.clock,
          written ((i.ended (some code) hitLimit s.clock).persist s₁).1 (.done (.code code))⟩, st,
          ((i.ended (some code) hitLimit s.clock).persist s₁).2) := by
  obtain ⟨text, ht⟩ := i.finish_eq (some code) hitLimit s
  refine ⟨s.info text, rfl, rfl, ?_⟩
  rcases h with ⟨rfl, rfl⟩ | ⟨rfl, rfl, rfl⟩
  · simp only [step, Instance.markEnd, ht, after_save]
    rfl
  · simp only [step, Instance.markEnd, ht, after_save]
    rfl

theorem recordFailure_eq (i : Instance) (s : Site) :
    ∃ s₁ s₂ : Site, s₁.files = s.files ∧ s₁.clock = s.clock ∧
      s₂.files = ((i.ended (some .hardFail) false s.clock).persist s₁).2.files ∧
      s₂.clock = ((i.ended (some .hardFail) false s.clock).persist s₁).2.clock ∧
      recordFailure i s = (i.ended (some .hardFail) false s.clock, s₂) := by
  obtain ⟨text, ht⟩ := i.finish_eq (some .hardFail) false s
  simp only [recordFailure, Instance.markEnd, ht]
  split
  · exact ⟨s.info text, ((i.ended (some .hardFail) false s.clock).save (s.info text)).site,
      rfl, rfl, rfl, rfl, rfl⟩
  · next e _ =>
    exact ⟨s.info text, ((i.ended (some .hardFail) false s.clock).save (s.info text)).site.warn
      ("Could not record failure of '" ++ i.name ++ "': " ++ e.message), rfl, rfl, rfl, rfl, rfl⟩

theorem step_abandon (b : Bridge σ) (i : Instance) (e : ExecutionError) (st : σ) (s : Site) :
    step b ⟨i, .abandon e⟩ st s =
      (⟨(recordFailure i s).1, .done (.failed e)⟩, st, (recordFailure i s).2) := rfl

theorem step_done {d : Drive} {ending : Ending} (h : d.phase = .done ending) :
    d.step b st s = (d, st, s) := by
  obtain ⟨i, phase⟩ := d
  obtain rfl : phase = .done ending := h
  rfl

/-- No move makes another instance of the one that is driven. -/
theorem step_resumes {d : Drive} (h : i.Resumes d.item) (b : Bridge σ) (st : σ) (s : Site) :
    i.Resumes (d.step b st s).1.item := by
  obtain ⟨j, phase⟩ := d
  cases phase with
  | start =>
    rw [step_start]
    exact h.started s.clock
  | submit =>
    obtain ⟨s₁, -, -, hs⟩ := step_submit b j st s
    rw [hs]
    exact answered_resumes h _
  | count code =>
    obtain ⟨s₁, -, -, hs⟩ := step_count b j code st s
    rw [hs]
    exact h.recounted
  | exhaust =>
    obtain ⟨s₁, -, -, hs⟩ := step_end b j st s (Or.inr ⟨rfl, rfl, rfl⟩)
    rw [hs]
    exact h.ended _ _ _
  | close code =>
    obtain ⟨s₁, -, -, hs⟩ := step_end b j st s (Or.inl ⟨rfl, rfl⟩)
    rw [hs]
    exact h.ended _ _ _
  | abandon e =>
    obtain ⟨s₁, s₂, -, -, -, -, hs⟩ := recordFailure_eq j s
    rw [step_abandon, hs]
    exact h.ended _ _ _
  | done ending => exact h

/-- What the drive of an instance may be, whatever the adapter and the site are like at each
move. -/
inductive Reaches (b : Bridge σ) (i : Instance) : Drive → Prop
  | begin : Reaches b i (begin i)
  | step {d : Drive} (st : σ) (s : Site) : Reaches b i d → Reaches b i (d.step b st s).1

theorem Reaches.resumes {d : Drive} (h : Reaches b i d) : i.Resumes d.item := by
  induction h with
  | begin => exact Instance.Resumes.refl i
  | step st s _ ih => exact step_resumes ih b st s

theorem written_eq_code {result : Except StatusError Unit} {next : Phase} {code : ReturnCode}
    (h : written result next = .done (.code code)) : next = .done (.code code) := by
  cases result with
  | ok _ => exact h
  | error e => cases h

/-- An instance whose drive comes to its end with a code shows what this code leads to. -/
theorem step_shows {d : Drive} {code : ReturnCode}
    (h : d.phase = .done (.code code) → ∃ hitLimit, d.item.Shows code hitLimit)
    (hd : (d.step b st s).1.phase = .done (.code code)) :
    ∃ hitLimit, (d.step b st s).1.item.Shows code hitLimit := by
  obtain ⟨j, phase⟩ := d
  cases phase with
  | start =>
    rw [step_start] at hd
    cases written_eq_code hd
  | submit =>
    obtain ⟨s₁, -, -, hs⟩ := step_submit b j st s
    rw [hs] at hd
    cases hr : (b.submit j st s).1 with
    | submitted submission =>
      rw [hr] at hd
      dsimp only [answered] at hd
      split at hd <;> cases hd
    | failed e => rw [hr] at hd; cases hd
    | crashed => rw [hr] at hd; cases hd
  | count asked =>
    obtain ⟨s₁, -, -, hs⟩ := step_count b j asked st s
    rw [hs] at hd
    have hnext := written_eq_code hd
    split at hnext <;> cases hnext
  | exhaust =>
    obtain ⟨s₁, -, -, hs⟩ := step_end b j st s (Or.inr ⟨rfl, rfl, rfl⟩)
    rw [hs] at hd ⊢
    obtain rfl := Ending.code.inj (Phase.done.inj (written_eq_code hd))
    exact ⟨true, j.shows_ended _ _ _⟩
  | close given =>
    obtain ⟨s₁, -, -, hs⟩ := step_end b j st s (Or.inl ⟨rfl, rfl⟩)
    rw [hs] at hd ⊢
    obtain rfl := Ending.code.inj (Phase.done.inj (written_eq_code hd))
    exact ⟨false, j.shows_ended _ _ _⟩
  | abandon e =>
    rw [step_abandon] at hd
    cases hd
  | done ending => exact h hd

theorem Reaches.shows {d : Drive} {code : ReturnCode} (h : Reaches b i d)
    (hd : d.phase = .done (.code code)) :
    ∃ hitLimit, d.item.Shows code hitLimit := by
  induction h with
  | begin => cases hd
  | step st s _ ih => exact step_shows ih hd

/-! ## Many moves -/

theorem moves_of_done {d : Drive} {ending : Ending} (h : d.phase = .done ending) (n : Nat) :
    d.moves b n st s = (d, st, s) := by
  cases n with
  | zero => rfl
  | succ n => simp only [moves, h]

theorem moves_succ (n : Nat) (d : Drive) (st : σ) (s : Site) :
    moves b (n + 1) d st s =
      moves b n (d.step b st s).1 (d.step b st s).2.1 (d.step b st s).2.2 := by
  cases h : d.phase with
  | done ending => rw [step_done h, moves_of_done h, moves_of_done h]
  | _ => simp only [moves, h]

theorem moves_add (m n : Nat) (d : Drive) (st : σ) (s : Site) :
    moves b (m + n) d st s =
      moves b n (moves b m d st s).1 (moves b m d st s).2.1 (moves b m d st s).2.2 := by
  induction m generalizing d st s with
  | zero => rw [Nat.zero_add]; rfl
  | succ m ih => rw [Nat.add_right_comm, moves_succ, moves_succ, ih]

/-- One more move after some. -/
theorem moves_succ' (n : Nat) (d : Drive) (st : σ) (s : Site) :
    moves b (n + 1) d st s =
      (moves b n d st s).1.step b (moves b n d st s).2.1 (moves b n d st s).2.2 := by
  rw [moves_add, moves_succ]
  rfl

/-- A drive that has ended within the bound of its moves is where a run leaves it. -/
theorem moves_moveBound {n : Nat} {d : Drive} {ending : Ending} (hn : n ≤ moveBound)
    (h : moves b n (begin i) st s = (d, st', s')) (hd : d.phase = .done ending) :
    moves b moveBound (begin i) st s = (d, st', s') := by
  rw [← Nat.add_sub_cancel' hn, moves_add, h, moves_of_done hd]

theorem run_eq {j : Instance} {ending : Ending}
    (h : moves b moveBound (begin i) st s = (⟨j, .done ending⟩, st', s')) :
    run b i st s = (ending, j, st', s') := by
  unfold run
  rw [h]
  rfl

/-- A run that ends with a code is a drive that ended with it. -/
theorem moves_of_run {j : Instance} {code : ReturnCode}
    (h : run b i st s = (.code code, j, st', s')) :
    moves b moveBound (begin i) st s = (⟨j, .done (.code code)⟩, st', s') := by
  obtain ⟨⟨k, phase⟩, st₁, s₁, hm⟩ : ∃ d st₁ s₁, moves b moveBound (begin i) st s = (d, st₁, s₁) :=
    ⟨_, _, _, rfl⟩
  rw [run, hm, Prod.mk.injEq, Prod.mk.injEq, Prod.mk.injEq] at h
  obtain ⟨hending, rfl, rfl, rfl⟩ := h
  cases phase with
  | done ending => rw [hm, show ending = .code code from hending]
  | _ => cases hending

end Drive

end StudyFlow
