import StudyFlow.Proofs.Drive.Moves

/-!
# A drive follows the answers of its adapter

The answers of an adapter to one submission after the other decide a drive: how many submissions
there are, which command each of them carries, and how the drive ends. `AtAttempt` is what holds
when an attempt begins; three moves lead from one attempt to the next. What else the adapter does to
the site is left open, as long as status files and scripts can be written.
-/

namespace StudyFlow

variable {σ : Type}

namespace Reply

def asksRestart : Reply → Bool
  | .submitted submission => submission.code == .restart
  | _ => false

/-- How a drive ends with the answer, if it asks for no other attempt. -/
def ending : Reply → Ending
  | .submitted submission => .code submission.code
  | .refused cause => .failed (.adapter cause)
  | .crashed => .crashed

end Reply

/-- The adapter gives the answers in turn. Its state tells the scripts it was handed so far. -/
structure Adapter.Plays (a : Adapter σ) (answers : Nat → Reply) (log : σ → List Script) : Prop where
  reply : ∀ script settings st s, (a.submit script settings st s).1 = answers (log st).length
  record : ∀ script settings st s, log (a.submit script settings st s).2.1 = log st ++ [script]

theorem Adapter.replay_plays (answers : Nat → Reply) : (replay answers).Plays answers id :=
  ⟨fun _ _ _ _ => rfl, fun _ _ _ _ => rfl⟩

namespace Instance

/-- So many restarts stay within the limit, or within the counter where there is no limit. -/
def Affords (i : Instance) (n : Nat) : Prop :=
  if i.restartLimit = 0 then i.restarts.toNat + n < UInt32.size
  else i.restarts.toNat + n ≤ i.restartLimit.toNat

instance (i : Instance) (n : Nat) : Decidable (i.Affords n) :=
  inferInstanceAs (Decidable (if i.restartLimit = 0 then _ < _ else _ ≤ _))

theorem activeCommand_eq (i : Instance) :
    i.activeCommand = if i.restart then i.restartCmd.getD i.cmd else i.cmd := by
  unfold activeCommand
  cases i.restartCmd <;> cases i.restart <;> rfl

theorem Affords.of_succ {i : Instance} {n : Nat} (h : i.Affords (n + 1)) : i.Affords n := by
  unfold Affords at h ⊢
  split
  · next hl => rw [if_pos hl] at h; omega
  · next hl => rw [if_neg hl] at h; omega

/-- Below what the instance affords a restart is counted, and the counter does not overflow. -/
theorem recounted_of_affords {i j : Instance} {n : Nat} (hl : j.restartLimit = i.restartLimit)
    (hn : j.restarts.toNat = i.restarts.toNat + n) (h : i.Affords (n + 1)) :
    j.canRestart = true ∧ j.recounted.restarts.toNat = i.restarts.toNat + (n + 1) := by
  have hlimit : j.restartLimit.toNat < UInt32.size := UInt32.toNat_lt_size _
  have hc : j.canRestart = true := by
    rw [canRestart_iff, hl]
    unfold Affords at h
    split at h
    · next hz => exact Or.inl hz
    · exact Or.inr (by omega)
  have hfit : j.restarts.toNat + 1 < UInt32.size := by
    unfold Affords at h
    rw [← hl] at h
    split at h <;> omega
  refine ⟨hc, ?_⟩
  rw [restarts_recounted hc hfit, hn, Nat.add_assoc]

end Instance

/-- What an instance shows at the end of its drive: what the last answer leads to. The loss of the
adapter is not recorded by the drive. -/
def Reply.Leaves : Reply → Instance → Prop
  | .submitted submission, i => i.Shows submission.code false
  | .refused _, i => i.Shows .hardFail false
  | .crashed, i => i.state = .running

/-- The move before met a status file or a script that could not be written. -/
def Phase.isWriteFault : Phase → Bool
  | .abandon (.status _) => true
  | .abandon (.script _ _) => true
  | .done (.failed (.status _)) => true
  | .done (.failed (.script _ _)) => true
  | _ => false

namespace Drive

variable {b : Bridge σ} {d : Drive} {i j : Instance} {st : σ} {s : Site} {answers : Nat → Reply}
  {log : σ → List Script} {n : Nat}

/-- All status files and scripts that the drive writes from here on are written. -/
def WritesSucceed (b : Bridge σ) (d : Drive) (st : σ) (s : Site) : Prop :=
  ∀ n, (d.moves b n st s).1.phase.isWriteFault = false

theorem WritesSucceed.moves (h : WritesSucceed b d st s) (n : Nat) :
    WritesSucceed b (d.moves b n st s).1 (d.moves b n st s).2.1 (d.moves b n st s).2.2 := by
  intro m
  rw [← moves_add]
  exact h (n + m)

theorem WritesSucceed.step (h : WritesSucceed b d st s) :
    WritesSucceed b (d.step b st s).1 (d.step b st s).2.1 (d.step b st s).2.2 := by
  have hm := h.moves 1
  rwa [moves_succ] at hm

theorem WritesSucceed.phase (h : WritesSucceed b d st s) : d.phase.isWriteFault = false := h 0

/-- A write that failed ends the drive with an error that says so. -/
theorem isWriteFault_step (h : d.phase.isWriteFault = true) :
    (d.step b st s).1.phase.isWriteFault = true := by
  obtain ⟨i, phase⟩ := d
  cases phase with
  | abandon e =>
    cases e with
    | status cause => exact h
    | script path fault => exact h
    | _ => cases h
  | done ending => exact h
  | _ => cases h

theorem isWriteFault_moves (h : d.phase.isWriteFault = true) (n : Nat) :
    (d.moves b n st s).1.phase.isWriteFault = true := by
  induction n with
  | zero => exact h
  | succ n ih =>
    rw [moves_succ']
    exact isWriteFault_step ih

/-- So the end of a drive tells whether all was written. -/
theorem writesSucceed_of_done (m : Nat) (ending : Ending)
    (hd : (d.moves b m st s).1.phase = .done ending)
    (h : (Phase.done ending).isWriteFault = false) : WritesSucceed b d st s := by
  intro n
  rw [Bool.eq_false_iff]
  intro hf
  have hend : (d.moves b (n + m) st s).1.phase = .done ending := by
    rw [Nat.add_comm, moves_add, moves_of_done hd]
    exact hd
  have hlate : (d.moves b (n + m) st s).1.phase.isWriteFault = true := by
    rw [moves_add]
    exact isWriteFault_moves hf m
  rw [hend, h] at hlate
  cases hlate

theorem written_eq {result : Except StatusError Unit} {next : Phase}
    (h : (written result next).isWriteFault = false) : written result next = next := by
  cases result with
  | ok u => rfl
  | error e => cases h

/-! ## Attempts -/

/-- Whether an attempt is a restart: the first one as the instance says, each other one as the
answer before it says. -/
def restartsAt (i : Instance) (answers : Nat → Reply) : Nat → Bool
  | 0 => i.restart
  | n + 1 => (answers n).asksRestart

/-- The script of an attempt: it holds the restart command if the attempt is a restart and there is
such a command. -/
def scriptAt (i : Instance) (answers : Nat → Reply) (n : Nat) : Script :=
  { i.script with command := if restartsAt i answers n then i.restartCmd.getD i.cmd else i.cmd }

/-- The scripts of the first attempts. -/
def scriptsBefore (i : Instance) (answers : Nat → Reply) (n : Nat) : List Script :=
  (List.range n).map (scriptAt i answers)

theorem length_scriptsBefore (i : Instance) (answers : Nat → Reply) (n : Nat) :
    (scriptsBefore i answers n).length = n := by
  rw [scriptsBefore, List.length_map, List.length_range]

/-- The drive of `i` has had `n` answers, each of which asked for an attempt, and begins the next
attempt. -/
structure AtAttempt (i : Instance) (answers : Nat → Reply) (log : σ → List Script) (n : Nat)
    (j : Instance) (st : σ) : Prop where
  resumes : i.Resumes j
  restart : j.restart = restartsAt i answers n
  restarts : j.restarts.toNat = i.restarts.toNat + n
  log : log st = scriptsBefore i answers n

theorem AtAttempt.script (h : AtAttempt i answers log n j st) :
    j.script = scriptAt i answers n := by
  rw [h.resumes.script, Instance.activeCommand_eq, h.restart, h.resumes.restartCmd, h.resumes.cmd]
  rfl

theorem AtAttempt.length_log (h : AtAttempt i answers log n j st) : (log st).length = n := by
  rw [h.log, length_scriptsBefore]

/-- A submission whose files are written is answered by the adapter. -/
theorem step_submit_of_plays (hp : b.adapter.Plays answers log)
    (hd : (b.settings.effectiveFor j.run).dryRun = false) (hw : WritesSucceed b ⟨j, .submit⟩ st s) :
    ∃ st' s', Drive.step b ⟨j, .submit⟩ st s =
        (answered j (.ofReply (answers (log st).length)), st', s') ∧
      log st' = log st ++ [j.script] := by
  cases h : b.prepare j s with
  | mk result s₁ =>
    cases result with
    | error e =>
      -- the files were not written, which is what is excluded
      obtain ⟨s₂, -, -, hs⟩ := step_submit b j st s
      rw [Bridge.submit_of_error h] at hs
      have hf := hw.step.phase
      rw [hs] at hf
      rcases Bridge.prepare_eq_error h with ⟨cause, rfl, -⟩ | ⟨_, fault, _, rfl, -⟩
      · cases hf
      · cases hf
    | ok script =>
      obtain ⟨rfl, -⟩ := Bridge.prepare_eq_ok h
      cases ha : b.adapter.submit j.script (b.settings.effectiveFor j.run) st
          (s₁.info j.executionNotice) with
      | mk reply rest =>
        obtain ⟨st', s₂⟩ := rest
        obtain ⟨s', -, -, hs⟩ := step_submit b j st s
        rw [Bridge.submit_of_reply hd h ha] at hs
        have hr := hp.reply j.script (b.settings.effectiveFor j.run) st (s₁.info j.executionNotice)
        have hl := hp.record j.script (b.settings.effectiveFor j.run) st (s₁.info j.executionNotice)
        rw [ha] at hr hl
        obtain rfl : reply = answers (log st).length := hr
        exact ⟨st', s', hs, hl⟩

/-- An attempt is handed the script of its number, and the drive goes on as it is answered. -/
theorem AtAttempt.attempt (h : AtAttempt i answers log n j st) (hp : b.adapter.Plays answers log)
    (hd : (b.settings.effectiveFor i.run).dryRun = false) (hw : WritesSucceed b ⟨j, .start⟩ st s) :
    ∃ now st' s', Drive.moves b 2 ⟨j, .start⟩ st s =
        (answered (j.started now) (.ofReply (answers n)), st', s') ∧
      log st' = scriptsBefore i answers (n + 1) ∧
      WritesSucceed b (answered (j.started now) (.ofReply (answers n))) st' s' := by
  have hstart := hw.step
  rw [step_start] at hstart
  have hphase := written_eq hstart.phase
  rw [hphase] at hstart
  have hdry : (b.settings.effectiveFor (j.started s.clock).run).dryRun = false := by
    rw [(h.resumes.started s.clock).run]
    exact hd
  obtain ⟨st', s', hstep, hlog⟩ := step_submit_of_plays hp hdry hstart
  rw [h.length_log] at hstep
  have hmoves : Drive.moves b 2 ⟨j, .start⟩ st s =
      (answered (j.started s.clock) (.ofReply (answers n)), st', s') := by
    rw [moves_succ, moves_succ, step_start, hphase, hstep]
    rfl
  refine ⟨s.clock, st', s', hmoves, ?_, ?_⟩
  · have hscript : (j.started s.clock).script = scriptAt i answers n := h.script
    rw [hlog, h.log, hscript, scriptsBefore, scriptsBefore, List.range_succ, List.map_append]
    rfl
  · have hafter := hw.moves 2
    rwa [hmoves] at hafter

theorem answered_of_wants {r : Reply} (h : r.wantsAttempt = true) (j : Instance) :
    ∃ code, answered j (.ofReply r) = ⟨j.withRestart r.asksRestart, .count code⟩ := by
  cases r with
  | submitted submission => exact ⟨submission.code, if_pos h⟩
  | refused cause => cases h
  | crashed => cases h

theorem step_count_of_writes {code : ReturnCode} (hw : WritesSucceed b ⟨j, .count code⟩ st s) :
    ∃ s', Drive.step b ⟨j, .count code⟩ st s =
      (⟨j.recounted, if j.canRestart then .start else .exhaust⟩, st, s') := by
  obtain ⟨s', -, -, hs⟩ := step_count b j code st s
  have hf := hw.step.phase
  rw [hs] at hf
  exact ⟨s', by rw [hs, written_eq hf]⟩

theorem step_end_of_writes {phase : Phase} {code : ReturnCode} {hitLimit : Bool}
    (h : phase = .close code ∧ hitLimit = false ∨ phase = .exhaust ∧ code = .softFail ∧
    hitLimit = true) (hw : WritesSucceed b ⟨j, phase⟩ st s) :
    ∃ s', Drive.step b ⟨j, phase⟩ st s =
      (⟨j.ended (some code) hitLimit s.clock, .done (.code code)⟩, st, s') := by
  obtain ⟨s₁, -, -, hs⟩ := step_end b j st s h
  have hf := hw.step.phase
  rw [hs] at hf
  exact ⟨_, by rw [hs, written_eq hf]⟩

/-- Where no restart is left, asking for one ends the drive. -/
theorem moves_count_of_spent {code : ReturnCode} (hw : WritesSucceed b ⟨j, .count code⟩ st s)
    (hc : j.canRestart = false) :
    ∃ j' s', Drive.moves b 2 ⟨j, .count code⟩ st s = (⟨j', .done (.code .softFail)⟩, st, s') ∧
      j'.Shows .softFail true ∧ j'.restarts = j.restarts := by
  obtain ⟨s₁, hstep⟩ := step_count_of_writes hw
  have hsame : j.recounted = j := if_neg (by simp [hc])
  rw [hc, hsame, if_neg Bool.false_ne_true] at hstep
  have hexhaust := hw.step
  rw [hstep] at hexhaust
  obtain ⟨s₂, hend⟩ := step_end_of_writes (Or.inr ⟨rfl, rfl, rfl⟩) hexhaust
  refine ⟨j.ended (some .softFail) true s₁.clock, s₂, ?_, j.shows_ended _ _ _, rfl⟩
  rw [moves_succ, hstep, moves_succ, hend]
  rfl

/-- An answer that asks for an attempt the instance affords leads to the next attempt. -/
theorem AtAttempt.next (h : AtAttempt i answers log n j st) (hp : b.adapter.Plays answers log)
    (hd : (b.settings.effectiveFor i.run).dryRun = false) (hw : WritesSucceed b ⟨j, .start⟩ st s)
    (ha : (answers n).wantsAttempt = true) (hn : i.Affords (n + 1)) :
    ∃ j' st' s', Drive.moves b 3 ⟨j, .start⟩ st s = (⟨j', .start⟩, st', s') ∧
      AtAttempt i answers log (n + 1) j' st' := by
  obtain ⟨now, st', s', hmoves, hlog, hafter⟩ := h.attempt hp hd hw
  obtain ⟨code, hcode⟩ := answered_of_wants ha (j.started now)
  rw [hcode] at hmoves hafter
  obtain ⟨s'', hstep⟩ := step_count_of_writes hafter
  have hresumes := (h.resumes.started now).withRestart (answers n).asksRestart
  obtain ⟨hc, hcount⟩ := Instance.recounted_of_affords hresumes.restartLimit h.restarts hn
  rw [hc, if_pos rfl] at hstep
  refine ⟨_, st', s'', ?_, hresumes.recounted, ?_, hcount, hlog⟩
  · rw [moves_succ', hmoves]
    exact hstep
  · rw [Instance.recounted, if_pos hc]
    rfl

/-- As long as the answers ask for attempts which the instance affords, one follows on the other. -/
theorem reaches_attempt (hp : b.adapter.Plays answers log) (hlog : log st = [])
    (hd : (b.settings.effectiveFor i.run).dryRun = false)
    (hw : WritesSucceed b (begin i) st s) (n : Nat) (ha : ∀ m < n, (answers m).wantsAttempt = true)
    (hn : i.Affords n) :
    ∃ j st' s', moves b (3 * n) (begin i) st s = (⟨j, .start⟩, st', s') ∧
      AtAttempt i answers log n j st' := by
  induction n with
  | zero => exact ⟨i, st, s, rfl, Instance.Resumes.refl i, rfl, rfl, hlog⟩
  | succ n ih =>
    obtain ⟨j, st', s', hmoves, hat⟩ := ih (fun m hm => ha m (by omega)) hn.of_succ
    have hwj := hw.moves (3 * n)
    rw [hmoves] at hwj
    obtain ⟨j', st'', s'', hnext, hat'⟩ := hat.next hp hd hwj (ha n (by omega)) hn
    refine ⟨j', st'', s'', ?_, hat'⟩
    rw [Nat.mul_succ, moves_add, hmoves]
    exact hnext

/-- An answer that asks for no other attempt ends the drive. -/
theorem AtAttempt.last (h : AtAttempt i answers log n j st) (hp : b.adapter.Plays answers log)
    (hd : (b.settings.effectiveFor i.run).dryRun = false) (hw : WritesSucceed b ⟨j, .start⟩ st s)
    (ha : (answers n).wantsAttempt = false) :
    ∃ j' st' s', Drive.moves b 3 ⟨j, .start⟩ st s = (⟨j', .done (answers n).ending⟩, st', s') ∧
      (answers n).Leaves j' ∧ j'.restarts.toNat = i.restarts.toNat + n ∧
      log st' = scriptsBefore i answers (n + 1) := by
  obtain ⟨now, st', s', hmoves, hlog, hafter⟩ := h.attempt hp hd hw
  rw [moves_succ', hmoves]
  cases hr : answers n with
  | submitted submission =>
    rw [hr] at ha hafter
    have hclose : answered (j.started now) (.ofReply (.submitted submission)) =
        ⟨j.started now, .close submission.code⟩ := if_neg (Bool.eq_false_iff.mp ha)
    rw [hclose] at hafter ⊢
    obtain ⟨s'', hend⟩ := step_end_of_writes (Or.inl ⟨rfl, rfl⟩) hafter
    exact ⟨_, st', s'', hend, Instance.shows_ended _ _ _ _, h.restarts, hlog⟩
  | refused cause =>
    obtain ⟨s₁, s₂, -, -, -, -, hs⟩ := recordFailure_eq (j.started now) s'
    refine ⟨(j.started now).ended (some .hardFail) false s'.clock, st', s₂, ?_,
      Instance.shows_ended _ _ _ _, h.restarts, hlog⟩
    simp only [SubmitResult.ofReply, answered, step_abandon, hs]
    rfl
  | crashed => exact ⟨j.started now, st', s', rfl, rfl, h.restarts, hlog⟩

/-- An answer that asks for an attempt beyond the limit ends the drive as well. -/
theorem AtAttempt.exhausted (h : AtAttempt i answers log n j st) (hp : b.adapter.Plays answers log)
    (hd : (b.settings.effectiveFor i.run).dryRun = false) (hw : WritesSucceed b ⟨j, .start⟩ st s)
    (ha : (answers n).wantsAttempt = true) (hl : i.restartLimit ≠ 0)
    (hn : i.restarts.toNat + n = i.restartLimit.toNat) :
    ∃ j' st' s', Drive.moves b 4 ⟨j, .start⟩ st s = (⟨j', .done (.code .softFail)⟩, st', s') ∧
      j'.Shows .softFail true ∧ j'.restarts = i.restartLimit ∧
      log st' = scriptsBefore i answers (n + 1) := by
  obtain ⟨now, st', s', hmoves, hlog, hafter⟩ := h.attempt hp hd hw
  obtain ⟨code, hcode⟩ := answered_of_wants ha (j.started now)
  rw [hcode] at hmoves hafter
  have hresumes := (h.resumes.started now).withRestart (answers n).asksRestart
  have hrestarts : ((j.started now).withRestart (answers n).asksRestart).restarts.toNat =
      i.restarts.toNat + n := h.restarts
  have hspent : ((j.started now).withRestart (answers n).asksRestart).canRestart = false := by
    rw [Bool.eq_false_iff, ne_eq, Instance.canRestart_iff, hresumes.restartLimit]
    rintro (hz | hlt)
    · exact hl hz
    · omega
  obtain ⟨j', s'', hend, hshows, hsame⟩ := moves_count_of_spent hafter hspent
  refine ⟨j', st', s'', ?_, hshows, ?_, hlog⟩
  · rw [moves_add 2 2, hmoves]
    exact hend
  · rw [hsame]
    exact UInt32.toNat_inj.mp (hrestarts.trans hn)

/-- A drive that ends so few moves after the beginning of an attempt is run to its end. -/
theorem moves_moveBound_of_attempt {m : Nat} {j' : Instance} {st₁ st' : σ} {s₁ s' : Site}
    {ending : Ending} (hn : i.Affords n) (hm : m ≤ 4)
    (h : moves b (3 * n) (begin i) st s = (⟨j, .start⟩, st₁, s₁))
    (h' : Drive.moves b m ⟨j, .start⟩ st₁ s₁ = (⟨j', .done ending⟩, st', s')) :
    moves b moveBound (begin i) st s = (⟨j', .done ending⟩, st', s') := by
  have hbound : 3 * n + m ≤ moveBound := by
    have hl : i.restartLimit.toNat < UInt32.size := UInt32.toNat_lt_size _
    unfold Instance.Affords at hn
    unfold moveBound
    split at hn <;> omega
  refine moves_moveBound hbound ?_ rfl
  rw [moves_add, h, h']

/-- The first answer that asks for no other attempt, within the limit, decides the drive. -/
theorem moves_of_last (hp : b.adapter.Plays answers log) (hlog : log st = [])
    (hd : (b.settings.effectiveFor i.run).dryRun = false) (hw : WritesSucceed b (begin i) st s)
    (ha : ∀ m < n, (answers m).wantsAttempt = true) (hlast : (answers n).wantsAttempt = false)
    (hn : i.Affords n) :
    ∃ j st' s', moves b moveBound (begin i) st s = (⟨j, .done (answers n).ending⟩, st', s') ∧
      (answers n).Leaves j ∧ j.restarts.toNat = i.restarts.toNat + n ∧
      log st' = scriptsBefore i answers (n + 1) := by
  obtain ⟨j, st₁, s₁, hmoves, hat⟩ := reaches_attempt hp hlog hd hw n ha hn
  have hwj := hw.moves (3 * n)
  rw [hmoves] at hwj
  obtain ⟨j', st', s', hend, hleaves, hrestarts, hscripts⟩ := hat.last hp hd hwj hlast
  exact ⟨j', st', s', moves_moveBound_of_attempt hn (by omega) hmoves hend, hleaves,
    hrestarts, hscripts⟩

/-- Without such an answer the limit ends the drive. -/
theorem moves_of_exhausted (hp : b.adapter.Plays answers log) (hlog : log st = [])
    (hd : (b.settings.effectiveFor i.run).dryRun = false) (hw : WritesSucceed b (begin i) st s)
    (hl : i.restartLimit ≠ 0) (hr : i.restarts ≤ i.restartLimit)
    (ha : ∀ m ≤ i.restartLimit.toNat - i.restarts.toNat, (answers m).wantsAttempt = true) :
    ∃ j st' s', moves b moveBound (begin i) st s = (⟨j, .done (.code .softFail)⟩, st', s') ∧
      j.Shows .softFail true ∧ j.restarts = i.restartLimit ∧
      log st' = scriptsBefore i answers (i.restartLimit.toNat - i.restarts.toNat + 1) := by
  have hle : i.restarts.toNat ≤ i.restartLimit.toNat := UInt32.le_iff_toNat_le.mp hr
  have hn : i.Affords (i.restartLimit.toNat - i.restarts.toNat) := by
    rw [Instance.Affords, if_neg hl]
    omega
  obtain ⟨j, st₁, s₁, hmoves, hat⟩ :=
    reaches_attempt hp hlog hd hw _ (fun m hm => ha m (Nat.le_of_lt hm)) hn
  have hwj := hw.moves (3 * (i.restartLimit.toNat - i.restarts.toNat))
  rw [hmoves] at hwj
  obtain ⟨j', st', s', hend, hshows, hrestarts, hscripts⟩ :=
    hat.exhausted hp hd hwj (ha _ (Nat.le_refl _)) hl (by omega)
  exact ⟨j', st', s', moves_moveBound_of_attempt hn (by omega) hmoves hend, hshows,
    hrestarts, hscripts⟩

/-- Up to any number, all answers ask for an attempt or there is a first one that does not. -/
theorem first_last (answers : Nat → Reply) (n : Nat) :
    (∀ m ≤ n, (answers m).wantsAttempt = true) ∨
      ∃ k ≤ n, (∀ m < k, (answers m).wantsAttempt = true) ∧ (answers k).wantsAttempt = false := by
  induction n with
  | zero =>
    cases h : (answers 0).wantsAttempt with
    | true => exact Or.inl fun m hm => by rwa [Nat.le_zero.mp hm]
    | false => exact Or.inr ⟨0, Nat.le_refl 0, by omega, h⟩
  | succ n ih =>
    rcases ih with hall | ⟨k, hk, hfirst⟩
    · cases h : (answers (n + 1)).wantsAttempt with
      | true =>
        refine Or.inl fun m hm => ?_
        rcases Nat.lt_or_eq_of_le hm with hlt | rfl
        · exact hall m (by omega)
        · exact h
      | false => exact Or.inr ⟨n + 1, Nat.le_refl _, fun m hm => hall m (by omega), h⟩
    · exact Or.inr ⟨k, by omega, hfirst⟩

/-- The answers of the adapter decide a drive: its submissions and their commands, its restarts, its
end and what the instance shows then. With a limit a drive always ends, after at most one submission
more than the restarts that were left. -/
theorem run_eq_reference (hp : b.adapter.Plays answers log) (hlog : log st = [])
    (hd : (b.settings.effectiveFor i.run).dryRun = false) (hw : WritesSucceed b (begin i) st s)
    (hr : i.restartLimit ≠ 0 → i.restarts ≤ i.restartLimit) :
    (∀ k, (∀ m < k, (answers m).wantsAttempt = true) → (answers k).wantsAttempt = false →
      i.Affords k →
      ∃ j st' s', run b i st s = ((answers k).ending, j, st', s') ∧ (answers k).Leaves j ∧
        j.restarts.toNat = i.restarts.toNat + k ∧ log st' = scriptsBefore i answers (k + 1)) ∧
    (i.restartLimit ≠ 0 →
      (∀ m ≤ i.restartLimit.toNat - i.restarts.toNat, (answers m).wantsAttempt = true) →
      ∃ j st' s', run b i st s = (.code .softFail, j, st', s') ∧ j.state = .failed ∧
        j.result = some "SOFT_FAIL_MAX_RETRIES_REACHED" ∧ j.restarts = i.restartLimit ∧
        log st' = scriptsBefore i answers (i.restartLimit.toNat - i.restarts.toNat + 1)) ∧
    (i.restartLimit ≠ 0 →
      ∃ j ending st' s', moves b moveBound (begin i) st s = (⟨j, .done ending⟩, st', s') ∧
        (log st').length ≤ i.restartLimit.toNat - i.restarts.toNat + 1) := by
  refine ⟨?_, ?_, ?_⟩
  · intro k ha hlast hk
    obtain ⟨j, st', s', hmoves, hleaves, hrestarts, hscripts⟩ :=
      moves_of_last hp hlog hd hw ha hlast hk
    exact ⟨j, st', s', run_eq hmoves, hleaves, hrestarts, hscripts⟩
  · intro hl ha
    obtain ⟨j, st', s', hmoves, hshows, hrestarts, hscripts⟩ :=
      moves_of_exhausted hp hlog hd hw hl (hr hl) ha
    exact ⟨j, st', s', run_eq hmoves, hshows.1, hshows.2, hrestarts, hscripts⟩
  · intro hl
    rcases first_last answers (i.restartLimit.toNat - i.restarts.toNat) with ha | ⟨k, hk, ha, hlast⟩
    · obtain ⟨j, st', s', hmoves, -, -, hscripts⟩ := moves_of_exhausted hp hlog hd hw hl (hr hl) ha
      refine ⟨j, _, st', s', hmoves, Nat.le_of_eq ?_⟩
      rw [hscripts, length_scriptsBefore]
    · have hle : i.restarts.toNat ≤ i.restartLimit.toNat := UInt32.le_iff_toNat_le.mp (hr hl)
      have hn : i.Affords k := by
        rw [Instance.Affords, if_neg hl]
        omega
      obtain ⟨j, st', s', hmoves, -, -, hscripts⟩ := moves_of_last hp hlog hd hw ha hlast hn
      refine ⟨j, _, st', s', hmoves, ?_⟩
      rw [hscripts, length_scriptsBefore]
      omega

/-- A restart, a retry, and then success. -/
def restartRetryOk : Nat → Reply
  | 0 => .submitted ⟨.restart, "1"⟩
  | 1 => .submitted ⟨.retry, "2"⟩
  | _ => .submitted ⟨.ok, "3"⟩

/-- An instance with a restart command that has used up one of its four restarts. -/
def onceRestarted : Instance :=
  { Instance.ofTemplate (((Template.new "sim" "run").withRestart "rerun").withMaxRetries 4)
    ⟨"ws"⟩ 0 with
    restarts := 1 }

theorem run_eq_reference_restartRetryOk :
    let b : Bridge (List Script) := ⟨{ shell := "/bin/sh" }, .replay restartRetryOk⟩
    b.adapter.Plays restartRetryOk id ∧ (b.settings.effectiveFor onceRestarted.run).dryRun = false ∧
      WritesSucceed b (begin onceRestarted) [] {} ∧
      onceRestarted.restarts ≤ onceRestarted.restartLimit ∧
      onceRestarted.Affords 2 ∧
      ∃ j scripts s, run b onceRestarted [] {} = (.code .ok, j, scripts, s) ∧ j.Shows .ok false ∧
        j.restarts.toNat = 3 ∧ scripts.map Script.command = ["run", "rerun", "run"] := by
  intro b
  have hp : b.adapter.Plays restartRetryOk id := Adapter.replay_plays restartRetryOk
  have hw : WritesSucceed b (begin onceRestarted) [] {} :=
    writesSucceed_of_done 9 (.code .ok) (by decide +kernel) rfl
  have hn : onceRestarted.Affords 2 := by decide +kernel
  obtain ⟨hlast, -, -⟩ := run_eq_reference hp rfl rfl hw (by decide)
  obtain ⟨j, scripts, s, hrun, hshows, hrestarts, hscripts⟩ := hlast 2 (by decide) rfl hn
  refine ⟨hp, rfl, hw, by decide, hn, j, scripts, s, hrun, hshows, hrestarts, ?_⟩
  rw [show scripts = _ from hscripts]
  rfl

end Drive

end StudyFlow
