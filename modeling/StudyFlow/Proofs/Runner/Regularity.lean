import StudyFlow.LocalAdapter
import StudyFlow.Proofs.Drive.Scripts
import StudyFlow.Proofs.FileTree.Regularity
import StudyFlow.Proofs.Runner.Sequence
import StudyFlow.Proofs.Status.Collection
import StudyFlow.Proofs.Status.Replacement

/-!
# The trees of a run

All that a run does to files it does by single operations, so a regular tree stays one as long as
the adapter keeps it so, whatever the schedule. The local adapter does, as far as the programs that
it starts do. Afterwards a status collection finds all records that the run left.
-/

namespace StudyFlow

open FileTree

variable {σ : Type} {b : Bridge σ} {r : Runner σ} {t u : FileTree} {i : Instance}
  {s : Site} {st : σ}

/-- What the adapter does to files leaves a regular tree regular. -/
def Adapter.KeepsRegular (a : Adapter σ) : Prop :=
  ∀ script settings st s, s.files.Regular → (a.submit script settings st s).2.2.files.Regular

/-- So does a launcher, if the programs that it runs keep to what a file system takes. -/
def Launcher.KeepsRegular (launch : Launcher) : Prop :=
  ∀ shell arguments dir t f, FileTree.Regular t → launch shell arguments dir t = .ok f →
    f.files.Regular

/-! ## Local submissions -/

/-- The output, the errors and the marker are written one after the other, as far as it goes. -/
theorem LocalAdapter.regular_capture (ws : Path) (stem : String) {f : Finished}
    (h : f.files.Regular) : (capture ws stem f).2.Regular := by
  unfold capture
  cases hout : f.files.write (ws.child (stem ++ ".out")) f.output with
  | error e => exact h
  | ok t =>
    have ht : t.Regular := regular_write hout h
    dsimp only
    cases herr : t.write (ws.child (stem ++ ".err")) f.errors with
    | error e => exact ht
    | ok u =>
      have hu : u.Regular := regular_write herr ht
      dsimp only
      split
      · cases hmark : u.write (ws.child finishedMarker) ByteArray.empty with
        | error e => exact hu
        | ok v => exact regular_write hmark hu
      · exact hu

theorem localAdapter_keepsRegular (σ : Type) {launch : Launcher} (hl : launch.KeepsRegular) :
    (localAdapter σ launch).KeepsRegular := by
  intro script settings st s h
  show (LocalAdapter.submit launch script settings s).2.files.Regular
  unfold LocalAdapter.submit
  dsimp only
  cases hx : launch settings.shell [script.path.fileName?.getD script.path.text]
      script.workspace s.files with
  | error f => exact h
  | ok finished =>
    have hcaptured := LocalAdapter.regular_capture script.workspace
      (script.path.fileStem?.getD "step") (hl _ _ _ _ _ h hx)
    dsimp only
    cases hc : LocalAdapter.capture script.workspace (script.path.fileStem?.getD "step")
        finished with
    | mk result t =>
      rw [hc] at hcaptured
      cases result with
      | error f => exact hcaptured
      | ok _ =>
        dsimp only
        split <;> exact hcaptured

/-! ## One worker -/

theorem Instance.regular_persist (i : Instance) (h : s.files.Regular) :
    (i.persist s).2.files.Regular := by
  have hmade := (s.files.createDirs_makes i.workspace).traces.regular h
  unfold persist
  cases hc : s.files.createDirs i.workspace with
  | mk made u =>
    rw [hc] at hmade
    cases made with
    | error f => exact hmade
    | ok _ =>
      have hreplaced := (u.replaceStatus_traces i.workspace (i.status s.clock)).regular hmade
      simp only [writeStatus]
      cases hr : u.replaceStatus i.workspace (i.status s.clock) with
      | mk written v =>
        rw [hr] at hreplaced
        cases written <;> exact hreplaced

theorem Script.regular_write (sc : Script) (shell : String) (h : t.Regular) :
    (sc.write shell t).2.Regular := by
  unfold write
  cases hw : t.writeText sc.path (sc.text shell) with
  | error f => exact h
  | ok u =>
    have hwritten : u.Regular := (Act.write hw).regular h
    dsimp only
    cases hx : u.makeExecutable sc.path with
    | error f => exact hwritten
    | ok v => exact regular_makeExecutable hx hwritten

theorem Bridge.regular_prepare (b : Bridge σ) (i : Instance) (h : s.files.Regular) :
    (b.prepare i s).2.files.Regular := by
  have hsaved := i.regular_persist h
  unfold prepare
  cases hp : i.persist s with
  | mk result s₁ =>
    rw [hp] at hsaved
    cases result with
    | error e => exact hsaved
    | ok _ =>
      have hwrote := i.script.regular_write (b.settings.effectiveFor i.run).shell hsaved
      dsimp only
      cases hw : i.script.write (b.settings.effectiveFor i.run).shell s₁.files with
      | mk result u =>
        rw [hw] at hwrote
        cases result <;> exact hwrote

theorem Bridge.regular_submit (ha : b.adapter.KeepsRegular) (i : Instance) (st : σ)
    (h : s.files.Regular) : (b.submit i st s).2.2.files.Regular := by
  have hprepared := b.regular_prepare i h
  cases hp : b.prepare i s with
  | mk result s₁ =>
    rw [hp] at hprepared
    cases result with
    | error e =>
      rw [submit_of_error hp]
      exact hprepared
    | ok script =>
      cases hd : (b.settings.effectiveFor i.run).dryRun with
      | true =>
        rw [submit_of_dry hd hp]
        exact hprepared
      | false =>
        have hkept := ha script (b.settings.effectiveFor i.run) st
          (s₁.info i.executionNotice) hprepared
        rw [submit_of_reply hd hp rfl]
        exact hkept

theorem Drive.regular_recordFailure (i : Instance) (h : s.files.Regular) :
    (recordFailure i s).2.files.Regular := by
  obtain ⟨s₁, s₂, hfiles, -, hwritten, -, hrecord⟩ := recordFailure_eq i s
  rw [hrecord, hwritten]
  exact Instance.regular_persist _ (hfiles ▸ h)

/-- One move of a drive, phase by phase. -/
theorem Drive.regular_step (ha : b.adapter.KeepsRegular) (d : Drive) (st : σ)
    (h : s.files.Regular) : (d.step b st s).2.2.files.Regular := by
  obtain ⟨i, phase⟩ := d
  cases phase with
  | start =>
    rw [step_start]
    exact Instance.regular_persist _ h
  | submit =>
    obtain ⟨s₁, hfiles, -, hstep⟩ := step_submit b i st s
    rw [hstep, hfiles]
    exact b.regular_submit ha i st h
  | count code =>
    obtain ⟨s₁, hfiles, -, hstep⟩ := step_count b i code st s
    rw [hstep, hfiles]
    exact Instance.regular_persist _ h
  | exhaust =>
    obtain ⟨s₁, hfiles, -, hstep⟩ := step_end b i st s (.inr ⟨rfl, rfl, rfl⟩)
    rw [hstep]
    exact Instance.regular_persist _ (hfiles ▸ h)
  | close code =>
    obtain ⟨s₁, hfiles, -, hstep⟩ := step_end b i st s (.inl ⟨rfl, rfl⟩)
    rw [hstep]
    exact Instance.regular_persist _ (hfiles ▸ h)
  | abandon e => exact Drive.regular_recordFailure i h
  | done ending => exact h

theorem Runner.regular_settle (i : Instance) (ending : Ending) (h : s.files.Regular) :
    (settle i ending s).2.files.Regular := by
  cases ending with
  | code code => exact h
  | failed e => exact h
  | crashed => exact Drive.regular_recordFailure i h

/-! ## Runs -/

theorem Runner.files_receiptNotice (m : Message) (s : Site) :
    (receiptNotice m s).files = s.files := by
  unfold receiptNotice
  split <;> rfl

theorem Pool.Step.regular {p q : Pool σ} {e : Event} (h : Step r p e q)
    (ha : r.bridge.adapter.KeepsRegular) (hp : p.site.files.Regular) : q.site.files.Regular := by
  cases h with
  | dispatch => exact hp
  | wait => exact hp
  | finish => exact hp
  | @move before after k d d' st s hworkers hopen hstep =>
    have hmoved := d.regular_step ha p.state hp
    rwa [hstep] at hmoved
  | @send before after k d ending m s hworkers hended hsettle =>
    have hsettled := Runner.regular_settle d.item ending hp
    rwa [hsettle] at hsettled
  | receive =>
    rw [Runner.files_receiptNotice]
    exact hp
  | close => exact hp

theorem Pool.Run.regular {p q : Pool σ} {es : List Event} (h : Run r p es q)
    (ha : r.bridge.adapter.KeepsRegular) (hp : p.site.files.Regular) : q.site.files.Regular := by
  induction h with
  | nil => exact hp
  | snoc _ hstep ih => exact hstep.regular ha ih

namespace Runner

variable {tmpl : Template} {ts : List Template} {ps : ParameterSet} {done : Summary}
  {es : List Event} {ess : List (List Event)} {o : Outcome σ}

theorem TemplateRuns.regular (h : r.TemplateRuns tmpl ps st s es o)
    (ha : r.bridge.adapter.KeepsRegular) (hs : s.files.Regular) : o.2.2.files.Regular := by
  have hprepare : (r.prepare tmpl ps s).2.files = s.files := by
    unfold prepare
    cases r.prepared tmpl ps s.clock with
    | error e => rfl
    | ok found =>
      dsimp only
      split <;> rfl
  cases h with
  | unprepared hp =>
    rw [hp] at hprepare
    exact hprepare ▸ hs
  | finished hp hrun =>
    rw [hp] at hprepare
    exact hrun.regular ha (hprepare ▸ hs)

/-- Every tree that a run leads to is regular. -/
theorem Runs.regular (h : r.Runs ps ts done st s ess o) (ha : r.bridge.adapter.KeepsRegular)
    (hs : s.files.Regular) : o.2.2.files.Regular := by
  induction h with
  | nil => exact hs
  | failed hone => exact hone.regular ha hs
  | stopped hone => exact hone.regular ha hs
  | next hone _ _ ih => exact ih (hone.regular ha hs)

/-- After any run in a regular tree the records below the root are collected, all of them and each
once, if paths there are short enough. -/
theorem Runs.collectsAll (h : r.Runs ps ts done st s ess o) (ha : r.bridge.adapter.KeepsRegular)
    (hs : s.files.Regular) {l : Location} (hroot : o.2.2.files.find r.root = .ok l)
    (hdir : o.2.2.files.isDir l = true) (hread : o.2.2.files.Readable r.root) :
    o.2.2.files.CollectsAll r.root l :=
  collectsAll_of_readable (h.regular ha hs) hroot hdir hread

end Runner

end StudyFlow
