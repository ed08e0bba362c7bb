import StudyFlow.Proofs.Drive.Footprint

/-!
# Drives that hand nothing over

With a dry run in its settings the drive of an instance makes three moves at most: it starts, makes
workspace and script, and records the code of a dry run. Neither the adapter nor its state has a
part in any of them.
-/

namespace StudyFlow

open FileTree

variable {σ τ : Type}

/-- No script of the instance is handed over. -/
def Instance.IsDry (a : AdapterSettings) (i : Instance) : Prop :=
  (a.effectiveFor i.run).dryRun = true

/-- What is reported of an instance that was made ready at the given time. -/
def Instance.dryReport (i : Instance) (now : Millis) : Report :=
  ⟨i.name, .dryOk, ((i.started now).ended (some .dryOk) false now).status now⟩

/-- The report shows a dry run, and the restarts that the instance came with. -/
theorem Instance.dryReport_shows (i : Instance) (now : Millis) :
    (i.dryReport now).code = .dryOk ∧ (i.dryReport now).status.state = .dryRun ∧
      (i.dryReport now).status.result = "DRY_SUCCESS" ∧
      (i.dryReport now).status.restarts = i.restarts :=
  ⟨rfl, rfl, rfl, rfl⟩

namespace Bridge

variable {b : Bridge σ} {i : Instance}

/-- The same settings with another adapter. -/
def withAdapter (b : Bridge σ) (a : Adapter τ) : Bridge τ := ⟨b.settings, a⟩

/-- What is made for an instance does not depend on the adapter, and a dry submission ends there. -/
theorem submit_withAdapter (hi : i.IsDry b.settings) (a : Adapter τ) (z : τ) (st : σ) (s : Site) :
    (b.withAdapter a).submit i z s = ((b.submit i st s).1, z, (b.submit i st s).2.2) ∧
      (b.submit i st s).2.1 = st := by
  obtain ⟨result, s', hp⟩ : ∃ result s', b.prepare i s = (result, s') := ⟨_, _, rfl⟩
  have hp' : (b.withAdapter a).prepare i s = (result, s') := hp
  cases result with
  | error e => simp only [submit_of_error hp, submit_of_error hp', and_self]
  | ok script =>
    have hi' : ((b.withAdapter a).settings.effectiveFor i.run).dryRun = true := hi
    simp only [submit_of_dry hi hp, submit_of_dry hi' hp', and_self]

/-- A dry submission ends with the code of a dry run or with a failure, and time does not pass. -/
theorem submit_dry_cases (hi : i.IsDry b.settings) (st : σ) (s : Site) :
    ((b.submit i st s).1 = .submitted ⟨.dryOk, "dry-run"⟩ ∨ ∃ e, (b.submit i st s).1 = .failed e) ∧
      (b.submit i st s).2.2.files = (b.prepare i s).2.files ∧
      (b.submit i st s).2.2.clock = (b.prepare i s).2.clock := by
  obtain ⟨result, s', hp⟩ : ∃ result s', b.prepare i s = (result, s') := ⟨_, _, rfl⟩
  rw [hp]
  cases result with
  | error e =>
    rw [submit_of_error hp]
    exact ⟨.inr ⟨e, rfl⟩, rfl, rfl⟩
  | ok script =>
    rw [submit_of_dry hi hp]
    exact ⟨.inl rfl, rfl, rfl⟩

end Bridge

theorem Instance.persist_clock (i : Instance) (s : Site) : (i.persist s).2.clock = s.clock := by
  unfold persist
  split <;> rfl

theorem Bridge.prepare_clock (b : Bridge σ) (i : Instance) (s : Site) :
    (b.prepare i s).2.clock = s.clock := by
  have hclock := i.persist_clock s
  unfold prepare
  generalize i.persist s = saved at hclock
  obtain ⟨_ | _, s₁⟩ := saved
  · exact hclock
  · dsimp only
    split <;> exact hclock

namespace Drive

variable {b : Bridge σ} {i : Instance} {d : Drive} {n : Nat} {now : Millis}

/-- A move of a dry instance is the same with any adapter in any state. -/
theorem step_withAdapter (hi : d.item.IsDry b.settings) (a : Adapter τ) (z : τ)
    (st : σ) (s : Site) :
    d.step (b.withAdapter a) z s = ((d.step b st s).1, z, (d.step b st s).2.2) ∧
    (d.step b st s).2.1 = st := by
  obtain ⟨j, phase⟩ := d
  cases phase with
  | submit =>
    obtain ⟨hsubmit, hstate⟩ := Bridge.submit_withAdapter hi a z st s
    simp only [step, hsubmit]
    generalize b.submit j st s = submitted at hstate
    obtain ⟨result, st', s'⟩ := submitted
    cases result with
    | submitted submission =>
      dsimp only
      split <;> exact ⟨rfl, hstate⟩
    | failed e => exact ⟨rfl, hstate⟩
    | crashed => exact ⟨rfl, hstate⟩
  | _ => exact ⟨rfl, rfl⟩

/-- The drive of a dry instance after some moves at the given time. -/
inductive Rehearses (i : Instance) (now : Millis) : Nat → Drive → Prop
  | start : Rehearses i now 0 ⟨i, .start⟩
  | submit : Rehearses i now 1 ⟨i.started now, .submit⟩
  | close : Rehearses i now 2 ⟨i.started now, .close .dryOk⟩
  | abandon (e : ExecutionError) : Rehearses i now 2 ⟨i.started now, .abandon e⟩
  | ended : Rehearses i now 3 ⟨(i.started now).ended (some .dryOk) false now, .done (.code .dryOk)⟩
  | failed {n : Nat} (j : Instance) (e : ExecutionError) : n ≤ 3 →
    Rehearses i now n ⟨j, .done (.failed e)⟩

theorem Rehearses.le (h : Rehearses i now n d) : n ≤ 3 := by
  cases h with
  | failed j e hn => exact hn
  | _ => decide

/-- A move that was to be recorded goes on, or the drive has failed. -/
theorem Rehearses.written {j : Instance} {result : Except StatusError Unit} {next : Phase}
    (h : Rehearses i now n ⟨j, next⟩) : Rehearses i now n ⟨j, written result next⟩ := by
  cases result with
  | ok _ => exact h
  | error e => exact .failed j _ h.le

/-- A dry instance makes one of its moves, in which no time passes. -/
theorem Rehearses.step (h : Rehearses i now n d) (hd : d.ending? = none)
    (hi : i.IsDry b.settings) (st : σ) {s : Site} (hs : s.clock = now) :
    Rehearses i now (n + 1) (d.step b st s).1 ∧ (d.step b st s).2.2.clock = now := by
  subst hs
  cases h with
  | start =>
    rw [step_start]
    exact ⟨Rehearses.submit.written, Instance.persist_clock _ s⟩
  | submit =>
    obtain ⟨s₁, -, hclock, hstep⟩ := step_submit b (i.started s.clock) st s
    obtain ⟨hresult, -, hclock'⟩ :=
      Bridge.submit_dry_cases (b := b) (i := i.started s.clock) hi st s
    rw [hstep]
    refine ⟨?_, hclock.trans (hclock'.trans (Bridge.prepare_clock b _ s))⟩
    rcases hresult with hr | ⟨e, hr⟩
    · rw [hr]
      exact .close
    · rw [hr]
      exact .abandon e
  | close =>
    obtain ⟨s₁, -, hclock, hstep⟩ := step_end b (i.started s.clock) st s (.inl ⟨rfl, rfl⟩)
    rw [hstep]
    exact ⟨Rehearses.ended.written, (Instance.persist_clock _ s₁).trans hclock⟩
  | abandon e =>
    obtain ⟨s₁, s₂, -, hclock, -, hclock', hrecorded⟩ := recordFailure_eq (i.started s.clock) s
    rw [step_abandon, hrecorded]
    exact ⟨.failed _ e (Nat.le_refl 3), hclock'.trans ((Instance.persist_clock _ s₁).trans hclock)⟩
  | ended => cases hd
  | failed j e hn => cases hd

/-- A dry instance comes to its end in the moves that are left to it. -/
theorem Rehearses.moves_end (h : Rehearses i now n d) (hi : i.IsDry b.settings) {m : Nat}
    (hm : 3 ≤ n + m) (st : σ) {s : Site} (hs : s.clock = now) :
    ∃ ending, (d.moves b m st s).1.phase = .done ending := by
  induction m generalizing n d st s with
  | zero =>
    -- after the third move there is no other phase left than the last one
    obtain rfl : n = 3 := Nat.le_antisymm h.le hm
    cases h with
    | ended => exact ⟨_, rfl⟩
    | failed j e hn => exact ⟨_, rfl⟩
  | succ m ih =>
    cases hd : d.ending? with
    | some ending =>
      rw [moves_of_done (phase_of_ending? hd)]
      exact ⟨ending, phase_of_ending? hd⟩
    | none =>
      obtain ⟨hnext, hclock⟩ := h.step hd hi st hs
      rw [moves_succ]
      exact ih hnext (by omega) _ hclock

/-- What a dry instance reports at its end. -/
theorem Rehearses.settle {ending : Ending} (h : Rehearses i now n d)
    (hd : d.phase = .done ending) {s : Site} (hs : s.clock = now) :
    ((Runner.settle d.item ending s).1.result = .ok (i.dryReport now) ∨
        ∃ e, (Runner.settle d.item ending s).1.result = .error e) ∧
      (Runner.settle d.item ending s).2 = s := by
  subst hs
  cases h with
  | ended =>
    obtain rfl := Phase.done.inj hd
    exact ⟨.inl rfl, rfl⟩
  | failed j e hn =>
    obtain rfl := Phase.done.inj hd
    exact ⟨.inr ⟨e, rfl⟩, rfl⟩
  | _ => cases hd

/-- A move of a dry instance writes its status file and its script. -/
theorem step_confined {who : Instance → Prop} (hi : who i) (hr : i.Resumes d.item)
    (hdry : i.IsDry b.settings) (st : σ) {s : Site} (hg : s.files.Grounded) :
    Confined who s.files (d.step b st s).2.2.files := by
  obtain ⟨j, phase⟩ := d
  have hw : j.workspace = i.workspace := hr.workspace
  have hj : j.IsDry b.settings := by
    have hrun : j.run = i.run := hr.run
    rw [Instance.IsDry, hrun]
    exact hdry
  cases phase with
  | start =>
    rw [step_start]
    exact Instance.persist_confined hi hw hg
  | submit =>
    obtain ⟨s₁, hf, -, hstep⟩ := step_submit b j st s
    rw [hstep, hf, (Bridge.submit_dry_cases hj st s).2.1]
    exact Bridge.prepare_confined hi hr hg
  | count code =>
    obtain ⟨s₁, hf, -, hstep⟩ := step_count b j code st s
    rw [hstep, hf]
    exact Instance.persist_confined hi hr.recounted.workspace hg
  | exhaust =>
    obtain ⟨s₁, hf, -, hstep⟩ := step_end b j st s (.inr ⟨rfl, rfl, rfl⟩)
    rw [hstep, ← hf]
    exact Instance.persist_confined hi hw (hf ▸ hg)
  | close code =>
    obtain ⟨s₁, hf, -, hstep⟩ := step_end b j st s (.inl ⟨rfl, rfl⟩)
    rw [hstep, ← hf]
    exact Instance.persist_confined hi hw (hf ▸ hg)
  | abandon e =>
    rw [step_abandon]
    exact recordFailure_confined hi hw hg
  | done ending => exact .refl hg

end Drive

end StudyFlow
