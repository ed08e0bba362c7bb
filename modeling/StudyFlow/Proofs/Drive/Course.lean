import StudyFlow.Runner
import StudyFlow.Proofs.Drive.Moves
import StudyFlow.Proofs.Drive.Scripts

/-!
# The course of a worker

A worker drives one instance and reports. A `Course` keeps what it has done so far beside where it
stands: the calls of the adapter, with the files at that moment, and what the status file held after
each write. Between two moves others may change the site, as long as they leave the status file
alone.
-/

namespace StudyFlow

variable {σ : Type}

/-- A call of an adapter: what it was handed, the files at that moment, and what it answered. -/
structure Call where
  script : Script
  files : FileTree
  reply : Reply

/-- The adapter, which keeps its calls. -/
def Adapter.logged (a : Adapter σ) : Adapter (σ × List Call) where
  submit script settings st s :=
    let (reply, st', s') := a.submit script settings st.1 s
    (reply, (st', st.2 ++ [⟨script, s.files, reply⟩]), s')

def Bridge.logged (b : Bridge σ) : Bridge (σ × List Call) := ⟨b.settings, b.adapter.logged⟩

/-- The adapter was handed the script of the instance, after any attempts before. -/
def Call.IsFor (c : Call) (i : Instance) : Prop := ∃ j, i.Resumes j ∧ c.script = j.script

/-- The adapter leaves the status file beside a script alone. -/
def Adapter.LeavesStatus (a : Adapter σ) : Prop :=
  ∀ script settings st s, (a.submit script settings st s).2.2.files.readText
    (statusPath script.workspace) =
    s.files.readText (statusPath script.workspace)

/-- A restart that is counted next does not make the counter overflow. -/
def Drive.HasRoom (d : Drive) : Prop :=
  ∀ code, d.phase = .count code → d.item.canRestart = true → d.item.restarts.toNat + 1 < UInt32.size

/-- Where a worker stands, and what it has done so far. -/
structure Course (σ : Type) where
  drive : Drive
  state : σ
  site : Site
  calls : List Call := []
  /-- What the status file held after each write. -/
  shown : List (Except Fault String) := []
  message : Option Message := none

namespace Course

/-- What the status file of the instance holds. -/
def status (c : Course σ) : Except Fault String :=
  c.site.files.readText (statusPath c.drive.item.workspace)

/-- The course after one move of the drive, which writes the status file. -/
def moved (b : Bridge σ) (c : Course σ) : Course σ :=
  let (d, (st, calls), s) := c.drive.step b.logged (c.state, []) c.site
  let next := { c with drive := d, state := st, site := s, calls := c.calls ++ calls }
  { next with shown := c.shown ++ [next.status] }

/-- The course after the report. The status file is written then if the adapter was lost. -/
def reported (c : Course σ) (ending : Ending) : Course σ :=
  let (m, s) := Runner.settle c.drive.item ending c.site
  let next := { c with site := s, message := some m }
  match ending with
  | .crashed => { next with shown := c.shown ++ [next.status] }
  | _ => next

/-- The courses of a worker with the instance, where the status file can be written whenever the
worker does so and the restart counter does not overflow. -/
inductive Follows (b : Bridge σ) (i : Instance) : Course σ → Prop
  | begin (st : σ) (s : Site) : Follows b i { drive := Drive.begin i, state := st, site := s }
  | move {c : Course σ} : Follows b i c → c.drive.ending? = none →
    c.site.files.TakesStatus i.workspace → c.drive.HasRoom → Follows b i (c.moved b)
  | others {c : Course σ} (st : σ) (s : Site) : Follows b i c →
    s.files.readText (statusPath i.workspace) = c.site.files.readText (statusPath i.workspace) →
    Follows b i { c with state := st, site := s }
  | report {c : Course σ} {ending : Ending} : Follows b i c → c.message = none →
    c.drive.ending? = some ending → c.site.files.TakesStatus i.workspace →
    Follows b i (c.reported ending)

end Course

/-! ## Keeping the calls changes nothing else -/

theorem Bridge.submit_logged (b : Bridge σ) (i : Instance) (st : σ) (s : Site) :
    ∃ new : List Call, (∀ c ∈ new, c.script = i.script) ∧ ∀ calls, b.logged.submit i (st, calls) s =
      ((b.submit i st s).1, ((b.submit i st s).2.1, calls ++ new), (b.submit i st s).2.2) := by
  cases hp : b.prepare i s with
  | mk result s' =>
    have hl : b.logged.prepare i s = (result, s') := hp
    have hnone : ∀ c ∈ ([] : List Call), c.script = i.script :=
      fun _ hc => absurd hc List.not_mem_nil
    cases result with
    | error e =>
      refine ⟨[], hnone, fun calls => ?_⟩
      rw [submit_of_error hp, submit_of_error hl, List.append_nil]
    | ok script =>
      cases hd : (b.settings.effectiveFor i.run).dryRun with
      | true =>
        refine ⟨[], hnone, fun calls => ?_⟩
        rw [submit_of_dry hd hp, submit_of_dry (b := b.logged) hd hl, List.append_nil]
      | false =>
        obtain ⟨reply, st', s'', ha⟩ : ∃ reply st' s'', b.adapter.submit script
            (b.settings.effectiveFor i.run) st (s'.info i.executionNotice) = (reply, st', s'') :=
          ⟨_, _, _, rfl⟩
        refine ⟨[⟨script, s'.files, reply⟩], ?_, fun calls => ?_⟩
        · intro c hc
          rw [List.mem_singleton.mp hc]
          exact (prepare_eq_ok hp).1
        · have hlogged : b.logged.adapter.submit script (b.settings.effectiveFor i.run) (st, calls)
              (s'.info i.executionNotice) =
                  (reply, (st', calls ++ [⟨script, s'.files, reply⟩]), s'') := by
            simp only [Bridge.logged, Adapter.logged, ha]
            rfl
          rw [submit_of_reply hd hp ha, submit_of_reply (b := b.logged) hd hl hlogged]

theorem Drive.step_logged (b : Bridge σ) (d : Drive) (st : σ) (s : Site) :
    ∃ new : List Call, (∀ c ∈ new, c.script = d.item.script) ∧
      ∀ calls, d.step b.logged (st, calls) s =
      ((d.step b st s).1, ((d.step b st s).2.1, calls ++ new), (d.step b st s).2.2) := by
  obtain ⟨i, phase⟩ := d
  cases phase with
  | submit =>
    obtain ⟨new, hnew, hm⟩ := b.submit_logged i st s
    refine ⟨new, hnew, fun calls => ?_⟩
    simp only [step, hm calls]
    rcases b.submit i st s with ⟨submission | e | _, st', s'⟩
    · dsimp only
      split <;> rfl
    · rfl
    · rfl
  | _ =>
    refine ⟨[], fun _ hc => absurd hc List.not_mem_nil, fun calls => ?_⟩
    rw [List.append_nil]
    rfl

namespace Course

variable {b : Bridge σ} {i : Instance}

/-- The moves of a drive by itself are a course. -/
theorem follows_moves (st : σ) (s : Site) (n : Nat)
    (h : ∀ m < n, (Drive.moves b m (Drive.begin i) st s).1.ending? = none ∧
      (Drive.moves b m (Drive.begin i) st s).2.2.files.TakesStatus i.workspace ∧
      (Drive.moves b m (Drive.begin i) st s).1.HasRoom) :
    ∃ c, Follows b i c ∧ c.message = none ∧
      Drive.moves b n (Drive.begin i) st s = (c.drive, c.state, c.site) := by
  induction n with
  | zero => exact ⟨_, Follows.begin st s, rfl, rfl⟩
  | succ n ih =>
    obtain ⟨c, hc, hm, hmoves⟩ := ih fun m hm => h m (by omega)
    obtain ⟨hending, htakes, hroom⟩ := h n (by omega)
    rw [hmoves] at hending htakes hroom
    obtain ⟨new, -, hlogged⟩ := c.drive.step_logged b c.state c.site
    have hstep := hlogged []
    refine ⟨c.moved b, hc.move hending htakes hroom, ?_, ?_⟩
    · simp only [moved, hstep, hm]
    · rw [Drive.moves_succ', hmoves]
      simp only [moved, hstep]

/-- The work of a worker by itself is a course. -/
theorem follows_work (r : Runner σ) (st : σ) (s : Site) {n : Nat} {ending : Ending}
    (hn : n ≤ Drive.moveBound)
    (h : ∀ m < n, (Drive.moves r.bridge m (Drive.begin i) st s).1.ending? = none ∧
      (Drive.moves r.bridge m (Drive.begin i) st s).2.2.files.TakesStatus i.workspace ∧
      (Drive.moves r.bridge m (Drive.begin i) st s).1.HasRoom)
    (hend : (Drive.moves r.bridge n (Drive.begin i) st s).1.phase = .done ending)
    (htakes : (Drive.moves r.bridge n (Drive.begin i) st s).2.2.files.TakesStatus i.workspace) :
    ∃ c, Follows r.bridge i c ∧ c.message = some (r.work i st s).1 ∧
      c.state = (r.work i st s).2.1 ∧ c.site = (r.work i st s).2.2 := by
  obtain ⟨c, hc, hm, hmoves⟩ := follows_moves st s n h
  rw [hmoves] at hend htakes
  have hrun : Drive.run r.bridge i st s = (ending, c.drive.item, c.state, c.site) := by
    refine Drive.run_eq ?_
    rw [Drive.moves_moveBound hn hmoves hend, ← hend]
  have hdone : c.drive.ending? = some ending := by rw [Drive.ending?, hend]
  refine ⟨c.reported ending, hc.report hm hdone htakes, ?_⟩
  unfold Runner.work reported
  rw [hrun]
  cases ending <;> exact ⟨rfl, rfl, rfl⟩

end Course

/-! ## What a submission writes -/

/-- The call was made when status file and script of the instance were written. -/
structure Call.Prepared (call : Call) (b : Bridge σ) (i : Instance) (line : String) : Prop where
  script : call.script = i.script
  status : call.files.readText (statusPath i.workspace) = .ok line
  text : call.files.readText i.script.path =
    .ok (i.script.text (b.settings.effectiveFor i.run).shell)

/-- A submission writes the status file. Then it fails for the script or is a dry run, or the
adapter is called and answers. -/
theorem Bridge.submit_cases {b : Bridge σ} (ha : b.adapter.LeavesStatus) {i : Instance} {s : Site}
    (ht : s.files.TakesStatus i.workspace) (st : σ) :
    ∃ result st' calls s', b.logged.submit i (st, []) s = (result, (st', calls), s') ∧
      s'.files.readText (statusPath i.workspace) = .ok ((i.status s.clock).line ++ "\n") ∧
      (calls = [] ∧ (∃ e, result = .failed e) ∨
        calls = [] ∧ (b.settings.effectiveFor i.run).dryRun = true ∧
          (∃ job, result = .submitted ⟨.dryOk, job⟩) ∨
        (b.settings.effectiveFor i.run).dryRun = false ∧
          ∃ call, calls = [call] ∧ result = .ofReply call.reply ∧
            call.Prepared b i ((i.status s.clock).line ++ "\n")) := by
  obtain ⟨t, hpersist, hholds⟩ := Instance.persist_of_takesStatus ht
  cases hw : i.script.write (b.settings.effectiveFor i.run).shell t with
  | mk result t' =>
    have hstatus := (Instance.holdsStatus_write hw hholds).readText
    cases result with
    | error f =>
      have hp : b.logged.prepare i s = (.error (.script i.script.path f),
          { s with files := t' }) := by
        simp only [prepare, hpersist, Bridge.logged, hw]
      exact ⟨_, st, [], _, submit_of_error hp, hstatus, Or.inl ⟨rfl, _, rfl⟩⟩
    | ok u =>
      have hp : b.logged.prepare i s = (.ok i.script, { s with files := t' }) := by
        simp only [prepare, hpersist, Bridge.logged, hw]
      cases hd : (b.settings.effectiveFor i.run).dryRun with
      | true => exact ⟨_, st, [], _, submit_of_dry hd hp, hstatus,
        Or.inr (Or.inl ⟨rfl, rfl, _, rfl⟩)⟩
      | false =>
        obtain ⟨reply, st', s', hs⟩ : ∃ reply st' s', b.adapter.submit i.script
            (b.settings.effectiveFor i.run) st ({ s with files := t' }.info i.executionNotice) =
            (reply, st', s') := ⟨_, _, _, rfl⟩
        have hlogged : b.logged.adapter.submit i.script (b.settings.effectiveFor i.run) (st, [])
            ({ s with files := t' }.info i.executionNotice) =
              (reply, (st', [⟨i.script, t', reply⟩]), s') := by
          simp only [Bridge.logged, Adapter.logged, hs]
          rfl
        have hleft := ha i.script (b.settings.effectiveFor i.run) st
          ({ s with files := t' }.info i.executionNotice)
        rw [hs] at hleft
        refine ⟨_, st', _, s', submit_of_reply hd hp hlogged, hleft.trans hstatus,
          Or.inr (Or.inr ⟨rfl, ?_⟩)⟩
        exact ⟨_, rfl, rfl, rfl, hstatus, Script.readText_of_write hw⟩

end StudyFlow
