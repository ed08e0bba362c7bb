import Mathlib.Data.List.Chain
import StudyFlow.Proofs.Drive.Course
import StudyFlow.Proofs.Lifecycle.StatusLine

/-!
# What the status file shows of a drive

Each move of a drive writes one record. `Stage` says for each phase what the records so far are
like, and `Sound` what holds of a course as a whole: records that show the instance as running, with
a restart counter that follows the calls of the adapter, and one more record once the drive is over.
`WrittenAs` and `endTexts` say which text the file has in it then, without a record.
-/

namespace StudyFlow

open FileTree

variable {σ : Type} {b : Bridge σ} {i j : Instance} {c : Course σ} {rs : List StatusRecord}
  {r : StatusRecord}

/-- The text of the status file of an instance with these texts for its state and its result, and
with so many restarts: the fields between single spaces, and a line break. Each of the two times is
one field. -/
def Instance.WrittenAs (i : Instance) (state result : String) (restarts : Nat)
    (text : String) : Prop :=
  ∃ elapsed run : String, Text.IsWord elapsed ∧ Text.IsWord run ∧
    text = i.name ++ " " ++ state ++ " " ++ result ++ " " ++ elapsed ++ " " ++ run ++ " " ++
      restarts.repr ++ " " ++ i.condensedWorkspace ++
      (i.runtime.elim "" fun c => " " ++ c.queue ++ " " ++ c.worker) ++ "\n"

/-- The texts for the state and the result of an instance that ended with a code, where the flag
tells whether another attempt was asked for. -/
def endTexts : ReturnCode → Bool → String × String
  | .ok, _ => ("FINISHED", "SUCCESS")
  | .dryOk, _ => ("DRYRUN", "DRY_SUCCESS")
  | .retry, _ => ("FINISHED", "RETRY_REQUESTED")
  | .restart, _ => ("FINISHED", "RESTART_REQUESTED")
  | .softFail, false => ("FAILED", "SOFT_FAIL")
  | .softFail, true => ("FAILED", "SOFT_FAIL_MAX_RETRIES_REACHED")
  | .hardFail, _ => ("FAILED", "HARD_FAIL")
  | .stopWorkers, _ => ("CANCELLED", "STOP_WORKERS")

/-- The text of the status file of an instance that ended with a code. -/
def Instance.EndedAs (i : Instance) (code : ReturnCode) (hitLimit : Bool) (restarts : Nat)
    (text : String) : Prop :=
  i.WrittenAs (endTexts code hitLimit).1 (endTexts code hitLimit).2 restarts text

namespace StatusRecord

/-- The record shows the instance as running, and so does its line in the file. -/
structure IsRunning (r : StatusRecord) (i : Instance) : Prop where
  name : r.name = i.name
  state : r.state = .running
  result : r.result = "-------"
  workspace : r.workspace = i.condensedWorkspace
  runtime : r.runtime = i.runtime
  text : i.WrittenAs "RUNNING" "-------" r.restarts.toNat (r.line ++ "\n")

/-- The next record counts as many restarts, or one more. -/
def Grows (r r' : StatusRecord) : Prop :=
  r.restarts.toNat ≤ r'.restarts.toNat ∧ r'.restarts.toNat ≤ r.restarts.toNat + 1

end StatusRecord

/-- At the call of this number the status file shows the instance as running with as many restarts,
and the script is written. -/
structure Call.Meets (call : Call) (b : Bridge σ) (i : Instance) (k : Nat) : Prop where
  script : call.script = { i.script with command := call.script.command }
  status : ∃ text, call.files.readText (statusPath i.workspace) = .ok text ∧
    i.WrittenAs "RUNNING" "-------" k text
  text : call.files.readText call.script.path =
    .ok ("#!" ++ (b.settings.effectiveFor i.run).shell ++ "\n" ++ call.script.command ++ "\n")

theorem Call.Prepared.meets {call : Call} {now : Millis} {k : Nat}
    (h : call.Prepared b j ((j.status now).line ++ "\n")) (hj : i.Resumes j)
    (hr : (j.status now).IsRunning i) (hk : j.restarts.toNat = k) : call.Meets b i k where
  script := by
    rw [h.script]
    exact hj.script
  status := by
    rw [← hj.workspace, ← hk]
    exact ⟨_, h.status, hr.text⟩
  text := by
    rw [h.script, ← hj.run]
    exact h.text

/-- One more call that meets its number. -/
theorem meets_concat {calls : List Call} {call : Call}
    (h : ∀ k (call : Call), calls[k]? = some call → call.Meets b i k)
    (hc : call.Meets b i calls.length) (k : Nat) (call' : Call)
    (hk : (calls ++ [call])[k]? = some call') : call'.Meets b i k := by
  rcases Nat.lt_or_ge k calls.length with hlt | hge
  · rw [List.getElem?_append_left hlt] at hk
    exact h k call' hk
  · rw [List.getElem?_append_right hge, List.getElem?_singleton] at hk
    split at hk
    · next hzero =>
      obtain rfl := Option.some.inj hk
      obtain rfl : k = calls.length := by omega
      exact hc
    · cases hk

/-- Whether the last answer asked for another attempt. -/
def asked (calls : List Call) : Bool := calls.getLast?.any fun call => call.reply.wantsAttempt

theorem asked_concat (calls : List Call) (call : Call) :
    asked (calls ++ [call]) = call.reply.wantsAttempt := by
  simp [asked]

namespace Instance

/-- The record of an instance is written with the texts of its fields. -/
theorem Resumes.writtenAs (h : i.Resumes j) {state result : String} (hs : j.state.name = state)
    (hr : j.result.getD noResult = result) (now : Millis) :
    i.WrittenAs state result j.restarts.toNat ((j.status now).line ++ "\n") := by
  have hworkspace : j.condensedWorkspace = i.condensedWorkspace := (congrArg condensedWorkspace h :)
  have hruntime : j.runtime = i.runtime := (congrArg runtime h :)
  refine ⟨(j.status now).elapsedTime, (j.status now).runTime, isWord_formatDuration _,
    j.isWord_runTime now, ?_⟩
  rw [StatusRecord.line_eq, ← h.name, ← hworkspace, ← hruntime, ← hs, ← hr]
  rfl

theorem Resumes.isRunning (h : i.Resumes j) (hs : j.state = .running) (hr : j.result = none)
    (now : Millis) : (j.status now).IsRunning i where
  name := h.name
  state := hs
  result := by rw [status, hr]; rfl
  workspace := (congrArg condensedWorkspace h :)
  runtime := (congrArg runtime h :)
  text := h.writtenAs (by rw [hs]; rfl) (by rw [hr]; rfl) now

/-- The status of an instance that has ended does not depend on the time. -/
theorem status_ended (j : Instance) (code : Option ReturnCode) (hitLimit : Bool)
    (end_ now now' : Millis) : (j.ended code hitLimit end_).status now =
      (j.ended code hitLimit end_).status now' := rfl

end Instance

/-- The instance runs, and the records so far say so. -/
structure Running (i j : Instance) (rs : List StatusRecord) : Prop where
  state : j.state = .running
  result : j.result = none
  some_ : rs ≠ []
  records : ∀ r ∈ rs, r.IsRunning i

/-- The instance has ended with a code, and the last of the records says so, and only the last. -/
structure Closed (i j : Instance) (code : ReturnCode) (hitLimit : Bool)
    (rs : List StatusRecord) : Prop where
  resumes : i.Resumes j
  shows : j.Shows code hitLimit
  records : ∃ front : List StatusRecord, front ≠ [] ∧ (∀ r ∈ front, r.IsRunning i) ∧
    ∀ now, rs = front ++ [j.status now]

/-- An instance that runs adds a record that says so. -/
theorem running_concat (hj : i.Resumes j) (hs : j.state = .running) (hr : j.result = none)
    (h : ∀ r ∈ rs, r.IsRunning i) (now : Millis) : Running i j (rs ++ [j.status now]) where
  state := hs
  result := hr
  some_ := by simp
  records := by
    intro r hm
    rcases List.mem_append.mp hm with hm | hm
    · exact h r hm
    · obtain rfl := List.mem_singleton.mp hm
      exact hj.isRunning hs hr now

/-- A running instance that ends is closed by the record of its end. -/
theorem Running.closed (h : Running i j rs) (hj : i.Resumes j) (code : ReturnCode) (hitLimit : Bool)
    (end_ now : Millis) :
    Closed i (j.ended (some code) hitLimit end_) code hitLimit
      (rs ++ [(j.ended (some code) hitLimit end_).status now]) where
  resumes := hj.ended _ _ _
  shows := j.shows_ended _ _ _
  records := ⟨rs, h.some_, h.records, fun now' => by rw [j.status_ended _ _ _ now now']⟩

theorem Closed.status_eq {code : ReturnCode} {hitLimit : Bool} (h : Closed i j code hitLimit rs)
    (now now' : Millis) : j.status now = j.status now' := by
  obtain ⟨front, -, -, hrs⟩ := h.records
  have he := (hrs now).symm.trans (hrs now')
  simpa using he

/-- All records but the last show the instance as running. -/
theorem Closed.running_before {code : ReturnCode} {hitLimit : Bool}
    (h : Closed i j code hitLimit rs) :
    ∀ r ∈ rs.dropLast, r.IsRunning i := by
  obtain ⟨front, -, hrunning, hrs⟩ := h.records
  rw [hrs 0, List.dropLast_concat]
  exact hrunning

/-- The record of the end is written with the texts that belong to the code. -/
theorem Closed.endedAs {code : ReturnCode} {hitLimit : Bool} (h : Closed i j code hitLimit rs)
    (now : Millis) : i.EndedAs code hitLimit j.restarts.toNat ((j.status now).line ++ "\n") := by
  obtain ⟨hstate, hresult⟩ := h.shows
  refine h.resumes.writtenAs ?_ ?_ now
  · rw [hstate]
    cases code <;> cases hitLimit <;> rfl
  · rw [hresult]
    cases code <;> cases hitLimit <;> rfl

theorem Closed.isTerminal {code : ReturnCode} {hitLimit : Bool} (h : Closed i j code hitLimit rs) :
    j.state.isTerminal = true := by
  rw [h.shows.1]
  exact Instance.isTerminal_outcome _ _

/-- What holds before a report, phase by phase. -/
def Stage (i j : Instance) (calls : List Call) (rs : List StatusRecord) : Phase → Prop
  | .start => j.result = none ∧ (∀ r ∈ rs, r.IsRunning i) ∧ j.restarts.toNat = calls.length
  | .submit => Running i j rs ∧ j.restarts.toNat = calls.length
  | .count _ => Running i j rs ∧ j.restarts.toNat + 1 = calls.length ∧ asked calls = true
  | .exhaust => Running i j rs ∧ asked calls = true
  | .close _ => Running i j rs ∧ asked calls = false
  | .abandon _ => Running i j rs
  | .done (.code code) => Closed i j code (asked calls) rs
  | .done (.failed _) => Closed i j .hardFail false rs
  | .done .crashed => Running i j rs

/-- Before the drive is over, all records show the instance as running. -/
theorem Stage.running {calls : List Call} {phase : Phase} (h : Stage i j calls rs phase)
    (hp : ∀ ending, phase ≠ .done ending) : ∀ r ∈ rs, r.IsRunning i := by
  cases phase with
  | start => exact h.2.1
  | submit => exact h.1.records
  | count code => exact h.1.records
  | exhaust => exact h.1.records
  | close code => exact h.1.records
  | abandon e => exact Running.records h
  | done ending => exact absurd rfl (hp ending)

theorem Stage.running_before {calls : List Call} {phase : Phase} (h : Stage i j calls rs phase) :
    ∀ r ∈ rs.dropLast, r.IsRunning i := by
  cases phase with
  | done ending =>
    cases ending with
    | code code => exact Closed.running_before h
    | failed e => exact Closed.running_before h
    | crashed => exact fun r hr => Running.records h r (List.dropLast_subset rs hr)
  | _ => exact fun r hr => Stage.running h nofun r (List.dropLast_subset rs hr)

/-- What a report says is what the last record shows. -/
def Settled (i : Instance) (calls : List Call) (rs : List StatusRecord) (m : Message) : Prop :=
  ∃ j, match m.result with
    | .ok report => Closed i j report.code (asked calls) rs ∧ ∀ now, report.status = j.status now
    | .error _ => Closed i j .hardFail false rs

namespace Course

/-- What holds of a course with the records that its status file has held. -/
structure Sound (b : Bridge σ) (i : Instance) (c : Course σ) (rs : List StatusRecord) : Prop where
  resumes : i.Resumes c.drive.item
  shown : c.shown = rs.map fun r => .ok (r.line ++ "\n")
  last : ∀ r ∈ rs.getLast?, c.site.files.readText (statusPath i.workspace) = .ok (r.line ++ "\n") ∧
    r.restarts = c.drive.item.restarts
  grows : rs.IsChain StatusRecord.Grows
  calls : ∀ k (call : Call), c.calls[k]? = some call → call.Meets b i k
  dry : (b.settings.effectiveFor i.run).dryRun = true → c.calls = []
  unreported : c.drive.ending? = none → c.message = none
  stage : c.message = none → Stage i c.drive.item c.calls rs c.drive.phase
  settled : ∀ m, c.message = some m → Settled i c.calls rs m

theorem sound_begin (b : Bridge σ) (hr : i.restarts = 0) (hn : i.result = none)
    (st : σ) (s : Site) :
    Sound b i { drive := Drive.begin i, state := st, site := s } [] where
  resumes := Instance.Resumes.refl i
  shown := rfl
  last := nofun
  grows := List.IsChain.nil
  calls := nofun
  dry := fun _ => rfl
  unreported := fun _ => rfl
  stage := fun _ => ⟨hn, nofun, by rw [show (Drive.begin i).item.restarts = 0 from hr]; rfl⟩
  settled := fun m hm => by cases hm

/-- One more record after those that were shown. -/
theorem grows_concat (h : rs.IsChain StatusRecord.Grows) (hr : ∀ r' ∈ rs.getLast?, r'.Grows r) :
    (rs ++ [r]).IsChain StatusRecord.Grows := by
  refine h.append (List.IsChain.singleton r) ?_
  intro r' hm r'' hm'
  obtain rfl : r = r'' := by simpa using hm'
  exact hr r' hm

/-- A move that writes the record keeps a course sound, if the stage it leads to holds. -/
theorem Sound.moved (h : Sound b i c rs) (hopen : c.drive.ending? = none) {d : Drive}
    {st : σ} {s : Site} {calls : List Call}
    (hstep : c.drive.step b.logged (c.state, []) c.site = (d, (st, calls), s))
    (hread : s.files.readText (statusPath i.workspace) = .ok (r.line ++ "\n"))
    (hr : r.restarts = d.item.restarts)
    (hgrow : c.drive.item.restarts.toNat ≤ d.item.restarts.toNat ∧
      d.item.restarts.toNat ≤ c.drive.item.restarts.toNat + 1)
    (hcalls : ∀ k (call : Call), (c.calls ++ calls)[k]? = some call → call.Meets b i k)
    (hdry : (b.settings.effectiveFor i.run).dryRun = true → calls = [])
    (hstage : Stage i d.item (c.calls ++ calls) (rs ++ [r]) d.phase) :
    Sound b i (c.moved b) (rs ++ [r]) := by
  have hresumes : i.Resumes d.item := by
    have hkept := Drive.step_resumes h.resumes b.logged (c.state, []) c.site
    rw [hstep] at hkept
    exact hkept
  have hm := h.unreported hopen
  have hmoved : c.moved b = { c with
      drive := d
      state := st
      site := s
      calls := c.calls ++ calls
      shown := c.shown ++ [.ok (r.line ++ "\n")] } := by
    simp only [Course.moved, hstep, status, hresumes.workspace, hread]
  rw [hmoved]
  refine ⟨hresumes, ?_, ?_, ?_, hcalls, ?_, fun _ => hm, fun _ => hstage, ?_⟩
  · rw [List.map_append, ← h.shown]
    rfl
  · intro r' hr'
    obtain rfl : r = r' := by simpa using hr'
    exact ⟨hread, hr⟩
  · refine grows_concat h.grows fun r' hr' => ?_
    rw [StatusRecord.Grows, hr, (h.last r' hr').2]
    exact hgrow
  · intro hd
    rw [h.dry hd, hdry hd]
    rfl
  · intro m hm'
    rw [show c.message = some m from hm'] at hm
    cases hm

/-- A move without a call of the adapter. -/
theorem Sound.moved_alone (h : Sound b i c rs) (hopen : c.drive.ending? = none) {d : Drive} {st : σ}
    {s : Site} (hstep : c.drive.step b.logged (c.state, []) c.site = (d, (st, []), s))
    (hread : s.files.readText (statusPath i.workspace) = .ok (r.line ++ "\n"))
    (hr : r.restarts = d.item.restarts)
    (hgrow : c.drive.item.restarts.toNat ≤ d.item.restarts.toNat ∧
      d.item.restarts.toNat ≤ c.drive.item.restarts.toNat + 1)
    (hstage : Stage i d.item c.calls (rs ++ [r]) d.phase) : Sound b i (c.moved b) (rs ++ [r]) := by
  refine h.moved hopen hstep hread hr hgrow ?_ (fun _ => rfl) ?_
  · rw [List.append_nil]
    exact h.calls
  · rw [List.append_nil]
    exact hstage

/-- As long as status files can be written, the record of the instance is. -/
theorem persist_resumes (hj : i.Resumes j) {s s₁ : Site} (ht : s.files.TakesStatus i.workspace)
    (hs : s₁.files = s.files) :
    (j.persist s₁).1 = .ok () ∧
      (j.persist s₁).2.files.readText (statusPath i.workspace) =
        .ok ((j.status s₁.clock).line ++ "\n") := by
  rw [← hj.workspace, ← hs] at ht
  obtain ⟨t, hpersist, hholds⟩ := Instance.persist_of_takesStatus ht
  rw [hpersist, ← hj.workspace]
  exact ⟨rfl, hholds.readText⟩

theorem Sound.move_start (h : Sound b i c rs) (hp : c.drive.phase = .start)
    (ht : c.site.files.TakesStatus i.workspace) : ∃ r, Sound b i (c.moved b) (rs ++ [r]) := by
  obtain ⟨⟨j, phase⟩, st, s, calls, shown, message⟩ := c
  obtain rfl : phase = .start := hp
  obtain ⟨hresult, hrecords, hcount⟩ := h.stage (h.unreported rfl)
  have hj := h.resumes.started s.clock
  obtain ⟨hok, hread⟩ := persist_resumes hj ht rfl
  have hrunning := running_concat hj rfl hresult hrecords s.clock
  have hstep := Drive.step_start b.logged j (st, []) s
  rw [hok] at hstep
  exact ⟨_, h.moved_alone rfl hstep hread rfl ⟨Nat.le_refl _, Nat.le_succ _⟩ ⟨hrunning, hcount⟩⟩

/-- The stage that an answer of the adapter leads to. -/
theorem stage_answered (h : Running i j rs) {calls : List Call} {call : Call}
    (hcount : j.restarts.toNat = calls.length) :
    Stage i (Drive.answered j (.ofReply call.reply)).item (calls ++ [call]) rs
      (Drive.answered j (.ofReply call.reply)).phase := by
  have hasked := asked_concat calls call
  cases hreply : call.reply with
  | submitted submission =>
    rw [hreply] at hasked
    simp only [SubmitResult.ofReply, Drive.answered]
    split
    · next hw =>
      refine ⟨⟨h.state, h.result, h.some_, h.records⟩, ?_, hasked.trans hw⟩
      rw [List.length_append, ← hcount]
      rfl
    · next hw => exact ⟨h, hasked.trans (Bool.eq_false_iff.mpr hw)⟩
  | refused cause => exact h
  | crashed => exact h

theorem Sound.move_submit (h : Sound b i c rs) (ha : b.adapter.LeavesStatus)
    (hp : c.drive.phase = .submit) (ht : c.site.files.TakesStatus i.workspace) :
    ∃ r, Sound b i (c.moved b) (rs ++ [r]) := by
  obtain ⟨⟨j, phase⟩, st, s, calls, shown, message⟩ := c
  obtain rfl : phase = .submit := hp
  obtain ⟨hrunning, hcount⟩ := h.stage (h.unreported rfl)
  have hj : i.Resumes j := h.resumes
  have hrecord := hj.isRunning hrunning.state hrunning.result s.clock
  have hnext := running_concat hj hrunning.state hrunning.result hrunning.records s.clock
  rw [← hj.workspace] at ht
  obtain ⟨result, st', more, s', hsubmit, hread, hcases⟩ := Bridge.submit_cases ha ht st
  rw [hj.workspace] at hread
  obtain ⟨s₁, hfiles, -, hstep⟩ := Drive.step_submit b.logged j (st, []) s
  rw [hsubmit] at hfiles hstep
  rw [← hfiles] at hread
  rcases hcases with ⟨rfl, e, rfl⟩ | ⟨rfl, hd, job, rfl⟩ | ⟨hd, call, rfl, rfl, hcall⟩
  · exact ⟨_, h.moved_alone rfl hstep hread rfl ⟨Nat.le_refl _, Nat.le_succ _⟩ hnext⟩
  · -- in a dry run there was no call before
    have hnone : calls = [] := h.dry (by rw [← hj.run]; exact hd)
    subst hnone
    exact ⟨_, h.moved_alone rfl hstep hread rfl ⟨Nat.le_refl _, Nat.le_succ _⟩ ⟨hnext, rfl⟩⟩
  · have hsame := Drive.restarts_answered j (.ofReply call.reply)
    refine ⟨_, h.moved rfl hstep hread hsame.symm ?_ ?_ ?_ (stage_answered hnext hcount)⟩
    · rw [hsame]
      exact ⟨Nat.le_refl _, Nat.le_succ _⟩
    · exact meets_concat h.calls (hcall.meets hj hrecord hcount)
    · intro hdry
      rw [← hj.run, hd] at hdry
      cases hdry

theorem Sound.move_count (h : Sound b i c rs) {code : ReturnCode} (hp : c.drive.phase = .count code)
    (ht : c.site.files.TakesStatus i.workspace) (hroom : c.drive.HasRoom) :
    ∃ r, Sound b i (c.moved b) (rs ++ [r]) := by
  obtain ⟨⟨j, phase⟩, st, s, calls, shown, message⟩ := c
  obtain rfl : phase = .count code := hp
  obtain ⟨hrunning, hcount, hasked⟩ := h.stage (h.unreported rfl)
  have hj := h.resumes.recounted
  obtain ⟨hok, hread⟩ := persist_resumes hj ht rfl
  obtain ⟨s₁, hfiles, -, hstep⟩ := Drive.step_count b.logged j code (st, []) s
  rw [hok] at hstep
  rw [← hfiles] at hread
  cases hc : j.canRestart with
  | true =>
    have hmore := Instance.restarts_recounted hc (hroom code rfl hc)
    have hresult : j.recounted.result = none := by
      rw [Instance.recounted, if_pos hc]
      exact hrunning.result
    have hstate : j.recounted.state = .running := by
      rw [Instance.recounted, if_pos hc]
      exact hrunning.state
    have hnext := running_concat hj hstate hresult hrunning.records s.clock
    rw [hc] at hstep
    refine ⟨_, h.moved_alone rfl hstep hread rfl ?_ ⟨hresult, hnext.records, ?_⟩⟩
    · exact ⟨by rw [hmore]; exact Nat.le_succ _, Nat.le_of_eq hmore⟩
    · exact hmore.trans hcount
  | false =>
    have hsame : j.recounted = j := if_neg (by simp [hc])
    rw [hsame, hc] at hstep
    rw [hsame] at hread hj
    have hnext := running_concat hj hrunning.state hrunning.result hrunning.records s.clock
    exact ⟨_, h.moved_alone rfl hstep hread rfl ⟨Nat.le_refl _, Nat.le_succ _⟩ ⟨hnext, hasked⟩⟩

/-- Ending with a code writes what the code leads to. -/
theorem Sound.move_end (h : Sound b i c rs) {phase : Phase} {code : ReturnCode} {hitLimit : Bool}
    (hphase : phase = .close code ∧ hitLimit = false ∨
      phase = .exhaust ∧ code = .softFail ∧ hitLimit = true)
    (hp : c.drive.phase = phase) (hrunning : Running i c.drive.item rs)
    (hasked : asked c.calls = hitLimit) (ht : c.site.files.TakesStatus i.workspace) :
    ∃ r, Sound b i (c.moved b) (rs ++ [r]) := by
  obtain ⟨⟨j, phase⟩, st, s, calls, shown, message⟩ := c
  obtain rfl := hp
  have hopen : Drive.ending? ⟨j, phase⟩ = none := by
    rcases hphase with ⟨he, -⟩ | ⟨he, -, -⟩
    · rw [show phase = _ from he]; rfl
    · rw [show phase = _ from he]; rfl
  obtain ⟨s₁, hfiles, -, hstep⟩ := Drive.step_end b.logged j (st, []) s hphase
  obtain ⟨hok, hread⟩ := persist_resumes (h.resumes.ended (some code) hitLimit s.clock) ht hfiles
  rw [hok] at hstep
  refine ⟨_, h.moved_alone hopen hstep hread rfl ⟨Nat.le_refl _, Nat.le_succ _⟩ ?_⟩
  rw [show hitLimit = asked calls from hasked.symm]
  exact hrunning.closed h.resumes code _ s.clock s₁.clock

theorem Sound.move_abandon (h : Sound b i c rs) {e : ExecutionError}
    (hp : c.drive.phase = .abandon e) (ht : c.site.files.TakesStatus i.workspace) :
    ∃ r, Sound b i (c.moved b) (rs ++ [r]) := by
  obtain ⟨⟨j, phase⟩, st, s, calls, shown, message⟩ := c
  obtain rfl : phase = .abandon e := hp
  have hrunning : Running i j rs := h.stage (h.unreported rfl)
  obtain ⟨s₁, s₂, hfiles, hclock, hwritten, -, hrecord⟩ := Drive.recordFailure_eq j s
  obtain ⟨-, hread⟩ := persist_resumes (h.resumes.ended (some .hardFail) false s.clock) ht hfiles
  rw [← hwritten] at hread
  have hstep := Drive.step_abandon b.logged j e (st, []) s
  rw [hrecord] at hstep
  exact ⟨_, h.moved_alone rfl hstep hread rfl ⟨Nat.le_refl _, Nat.le_succ _⟩
    (hrunning.closed h.resumes .hardFail false s.clock s₁.clock)⟩

/-- Each move writes one record. -/
theorem Sound.move (h : Sound b i c rs) (ha : b.adapter.LeavesStatus)
    (hopen : c.drive.ending? = none) (ht : c.site.files.TakesStatus i.workspace)
    (hroom : c.drive.HasRoom) :
    ∃ r, Sound b i (c.moved b) (rs ++ [r]) := by
  have hstage := h.stage (h.unreported hopen)
  cases hp : c.drive.phase with
  | start => exact h.move_start hp ht
  | submit => exact h.move_submit ha hp ht
  | count code => exact h.move_count hp ht hroom
  | exhaust =>
    rw [hp] at hstage
    exact h.move_end (Or.inr ⟨rfl, rfl, rfl⟩) hp hstage.1 hstage.2 ht
  | close code =>
    rw [hp] at hstage
    exact h.move_end (Or.inl ⟨rfl, rfl⟩) hp hstage.1 hstage.2 ht
  | abandon e => exact h.move_abandon hp ht
  | done ending =>
    rw [Drive.ending?, hp] at hopen
    cases hopen

/-- Others that leave the status file alone do not matter. -/
theorem Sound.others (h : Sound b i c rs) (st : σ) {s : Site}
    (hs : s.files.readText (statusPath i.workspace) =
      c.site.files.readText (statusPath i.workspace)) :
    Sound b i { c with state := st, site := s } rs where
  resumes := h.resumes
  shown := h.shown
  last := by
    intro r hr
    rw [hs]
    exact h.last r hr
  grows := h.grows
  calls := h.calls
  dry := h.dry
  unreported := h.unreported
  stage := h.stage
  settled := h.settled

/-- A report of a drive that was closed writes nothing. -/
theorem Sound.reported (h : Sound b i c rs) {m : Message} (hopen : c.drive.ending? ≠ none)
    (hm : Settled i c.calls rs m) : Sound b i { c with message := some m } rs where
  resumes := h.resumes
  shown := h.shown
  last := h.last
  grows := h.grows
  calls := h.calls
  dry := h.dry
  unreported := fun hd => absurd hd hopen
  stage := nofun
  settled := by
    intro m' hm'
    obtain rfl := Option.some.inj hm'
    exact hm

theorem Sound.report (h : Sound b i c rs) {ending : Ending} (hm : c.message = none)
    (hd : c.drive.ending? = some ending) (ht : c.site.files.TakesStatus i.workspace) :
    ∃ rs', Sound b i (c.reported ending) rs' := by
  have hstage := h.stage hm
  rw [Drive.phase_of_ending? hd] at hstage
  have hopen : c.drive.ending? ≠ none := by rw [hd]; nofun
  cases ending with
  | code code =>
    have hclosed : Closed i c.drive.item code (asked c.calls) rs := hstage
    exact ⟨rs, h.reported hopen ⟨c.drive.item, hclosed, fun now => hclosed.status_eq _ now⟩⟩
  | failed e => exact ⟨rs, h.reported hopen ⟨c.drive.item, hstage⟩⟩
  | crashed =>
    have hrunning : Running i c.drive.item rs := hstage
    obtain ⟨s₁, s₂, hfiles, hclock, hwritten, -, hrecord⟩ := Drive.recordFailure_eq c.drive.item
      (c.site.error ("Worker for '" ++ c.drive.item.name ++ "' panicked"))
    obtain ⟨-, hread⟩ :=
      persist_resumes (h.resumes.ended (some .hardFail) false c.site.clock) ht hfiles
    have hclosed := hrunning.closed h.resumes .hardFail false c.site.clock s₁.clock
    generalize hj : c.drive.item.ended (some .hardFail) false c.site.clock = j at hread hclosed
    have hread : s₂.files.readText (statusPath i.workspace) =
        .ok ((j.status s₁.clock).line ++ "\n") := by
      rw [hwritten, ← hread, ← hj]
      rfl
    have hreported : c.reported .crashed = { c with
        site := s₂
        message := some ⟨c.drive.item.name, .error (.workerLost c.drive.item.name)⟩
        shown := c.shown ++ [.ok ((j.status s₁.clock).line ++ "\n")] } := by
      simp only [Course.reported, Runner.settle, hrecord, status, h.resumes.workspace, hread]
    have hsame : (j.status s₁.clock).restarts = c.drive.item.restarts := by
      rw [← hj]
      rfl
    rw [hreported]
    refine ⟨rs ++ [j.status s₁.clock], h.resumes, ?_, ?_, ?_, h.calls, h.dry,
      fun he => absurd he hopen, nofun, ?_⟩
    · rw [List.map_append, ← h.shown]
      rfl
    · intro r hr
      obtain rfl : j.status s₁.clock = r := by simpa using hr
      exact ⟨hread, hsame⟩
    · refine grows_concat h.grows fun r hr => ?_
      rw [StatusRecord.Grows, hsame, (h.last r hr).2]
      exact ⟨Nat.le_refl _, Nat.le_succ _⟩
    · intro m hm'
      obtain rfl := Option.some.inj hm'
      exact ⟨j, hclosed⟩

/-- What holds of every course of a fresh instance. -/
theorem Follows.sound (h : Follows b i c) (hr : i.restarts = 0) (hn : i.result = none)
    (ha : b.adapter.LeavesStatus) : ∃ rs, Sound b i c rs := by
  induction h with
  | begin st s => exact ⟨[], sound_begin b hr hn st s⟩
  | move _ hopen ht hroom ih =>
    obtain ⟨rs, hs⟩ := ih
    obtain ⟨r, hs'⟩ := hs.move ha hopen ht hroom
    exact ⟨_, hs'⟩
  | others st s _ hs ih =>
    obtain ⟨rs, hsound⟩ := ih
    exact ⟨rs, hsound.others st hs⟩
  | report _ hm hd ht ih =>
    obtain ⟨rs, hs⟩ := ih
    exact hs.report hm hd ht

theorem Sound.running_before (h : Sound b i c rs) : ∀ r ∈ rs.dropLast, r.IsRunning i := by
  cases hm : c.message with
  | none => exact (h.stage hm).running_before
  | some m =>
    obtain ⟨j, hj⟩ := h.settled m hm
    split at hj
    · exact hj.1.running_before
    · exact hj.running_before

/-- A report finds the record of the end in the status file, as the one record that is not of a
running instance. -/
theorem Sound.settlement (h : Sound b i c rs) {code : ReturnCode} {hitLimit : Bool}
    (hj : Closed i j code hitLimit rs) :
    ∃ front : List StatusRecord,
      i.Resumes j ∧ front ≠ [] ∧ (∀ r ∈ front, r.IsRunning i) ∧ j.state.isTerminal = true ∧
      (∀ now, rs = front ++ [j.status now] ∧
        c.site.files.readText (statusPath i.workspace) = .ok ((j.status now).line ++ "\n")) ∧
      ∃ text, c.site.files.readText (statusPath i.workspace) = .ok text ∧
        i.EndedAs code hitLimit j.restarts.toNat text := by
  obtain ⟨front, hfront, hrunning, hrs⟩ := hj.records
  have hread (now : Millis) :
      c.site.files.readText (statusPath i.workspace) = .ok ((j.status now).line ++ "\n") :=
    (h.last (j.status now) (by rw [hrs now]; simp)).1
  exact ⟨front, hj.resumes, hfront, hrunning, hj.isTerminal, fun now => ⟨hrs now, hread now⟩,
    _, hread 0, hj.endedAs 0⟩

/-- The status file of a fresh instance, whatever its adapter does short of touching the file: it
has shown the running instance with a counter that never skips, with as many restarts as there were
calls before at each call, and at the report of the worker one last record, which is the status of
the instance as it ended. Running and ended instances are told by the texts in the file. -/
theorem status_history (hr : i.restarts = 0) (hn : i.result = none) (ha : b.adapter.LeavesStatus)
    (h : Follows b i c) :
    ∃ rs : List StatusRecord, (c.shown = rs.map fun r => .ok (r.line ++ "\n")) ∧
      rs.IsChain StatusRecord.Grows ∧
      (∀ r ∈ rs.getLast?, c.site.files.readText (statusPath i.workspace) = .ok (r.line ++ "\n")) ∧
      (∀ k (call : Call), c.calls[k]? = some call → call.Meets b i k) ∧
      (∀ r ∈ rs.dropLast, r.IsRunning i) ∧ (c.drive.ending? = none → ∀ r ∈ rs, r.IsRunning i) ∧
      ∀ m, c.message = some m → ∃ (j : Instance) (front : List StatusRecord) (text : String),
        i.Resumes j ∧ front ≠ [] ∧ (∀ r ∈ front, r.IsRunning i) ∧ j.state.isTerminal = true ∧
        (∀ now, rs = front ++ [j.status now] ∧
          c.site.files.readText (statusPath i.workspace) = .ok ((j.status now).line ++ "\n")) ∧
        c.site.files.readText (statusPath i.workspace) = .ok text ∧
        match m.result with
        | .ok report => i.EndedAs report.code (asked c.calls) j.restarts.toNat text ∧
          j.Shows report.code (asked c.calls) ∧ ∀ now, report.status = j.status now
        | .error _ => i.EndedAs .hardFail false j.restarts.toNat text ∧
            j.Shows .hardFail false := by
  obtain ⟨rs, hs⟩ := h.sound hr hn ha
  refine ⟨rs, hs.shown, hs.grows, fun r hl => (hs.last r hl).1, hs.calls, hs.running_before, ?_, ?_⟩
  · intro hopen
    refine (hs.stage (hs.unreported hopen)).running fun ending he => ?_
    rw [Drive.ending?, he] at hopen
    cases hopen
  · intro m hm
    obtain ⟨j, hj⟩ := hs.settled m hm
    split at hj
    · next report hreport =>
      obtain ⟨front, hresumes, hfront, hrunning, hterminal, hlast, text, hread, htext⟩ :=
        hs.settlement hj.1
      exact ⟨j, front, text, hresumes, hfront, hrunning, hterminal, hlast, hread, htext,
        hj.1.shows, hj.2⟩
    · obtain ⟨front, hresumes, hfront, hrunning, hterminal, hlast, text, hread, htext⟩ :=
        hs.settlement hj
      exact ⟨j, front, text, hresumes, hfront, hrunning, hterminal, hlast, hread, htext, hj.shows⟩

/-- An adapter that asks for a restart at first, and then is lost. -/
def faltering : Bridge (List Script) :=
  ⟨{ shell := "/bin/sh" }, .replay fun n => if n = 0 then .submitted ⟨.restart, "1"⟩ else .crashed⟩

/-- The course of an instance by itself, after some moves. -/
def course (i : Instance) : Nat → Course (List Script)
  | 0 => { drive := Drive.begin i, state := [], site := {} }
  | n + 1 => (course i n).moved faltering

def unsubmitted : Instance :=
  Instance.ofTemplate ((Template.new "sim" "run").withRestart "again") ⟨"ws"⟩ 0

/-- The course of that instance up to the report that the adapter was lost. -/
def lost : Course (List Script) := (course unsubmitted 5).reported .crashed

/-- The file counts the restart, the second call finds it there beside the script with the other
command, and the report is preceded by the record of a failure. -/
theorem status_history_of_crash :
    unsubmitted.restarts = 0 ∧ unsubmitted.result = none ∧ faltering.adapter.LeavesStatus ∧
      Follows faltering unsubmitted lost ∧
      lost.shown = List.replicate 2
        (.ok "sim RUNNING ------- 0d:00h:00m:00s 0d:00h:00m:00s 0 ws\n") ++
        List.replicate 3 (.ok "sim RUNNING ------- 0d:00h:00m:00s 0d:00h:00m:00s 1 ws\n") ++
        [.ok "sim FAILED HARD_FAIL 0d:00h:00m:00s 0d:00h:00m:00s 1 ws\n"] ∧
      (∃ rs : List StatusRecord, rs.length = 6 ∧ ∀ r ∈ rs.dropLast, r.IsRunning unsubmitted) ∧
      (∃ call, lost.calls[1]? = some call ∧ call.Meets faltering unsubmitted 1 ∧
        unsubmitted.WrittenAs "RUNNING" "-------" 1
          "sim RUNNING ------- 0d:00h:00m:00s 0d:00h:00m:00s 1 ws\n" ∧
        call.files.readText ⟨"ws/STATUS"⟩ =
          .ok "sim RUNNING ------- 0d:00h:00m:00s 0d:00h:00m:00s 1 ws\n" ∧
        call.files.readText ⟨"ws/sim.sh"⟩ = .ok "#!/bin/sh\nagain\n") ∧
      ∃ j : Instance, j.Shows .hardFail false ∧ unsubmitted.EndedAs .hardFail false j.restarts.toNat
        "sim FAILED HARD_FAIL 0d:00h:00m:00s 0d:00h:00m:00s 1 ws\n" := by
  have ha : faltering.adapter.LeavesStatus := fun _ _ _ _ => rfl
  have htakes : ∀ n ≤ 5, (course unsubmitted n).site.files.TakesStatus unsubmitted.workspace := by
    intro n hn
    have hcases : n = 0 ∨ n = 1 ∨ n = 2 ∨ n = 3 ∨ n = 4 ∨ n = 5 := by omega
    rcases hcases with rfl | rfl | rfl | rfl | rfl | rfl
    all_goals exact takesStatus_of_record (r := default) (by rfl) (by rfl)
  have hopen : ∀ n < 5, (course unsubmitted n).drive.ending? = none := by decide +kernel
  have hroom : ∀ n < 5, (course unsubmitted n).drive.item.restarts.toNat + 1 < UInt32.size := by
    decide +kernel
  have hcourse : ∀ n ≤ 5, Follows faltering unsubmitted (course unsubmitted n) := by
    intro n hn
    induction n with
    | zero => exact Follows.begin [] {}
    | succ n ih =>
      exact (ih (by omega)).move (hopen n (by omega)) (htakes n (by omega))
        fun _ _ _ => hroom n (by omega)
  have hreport : Follows faltering unsubmitted lost :=
    (hcourse 5 (Nat.le_refl 5)).report (by rfl) (by rfl) (htakes 5 (Nat.le_refl 5))
  have hlines : lost.shown =
      List.replicate 2 (.ok "sim RUNNING ------- 0d:00h:00m:00s 0d:00h:00m:00s 0 ws\n") ++
        List.replicate 3 (.ok "sim RUNNING ------- 0d:00h:00m:00s 0d:00h:00m:00s 1 ws\n") ++
        [.ok "sim FAILED HARD_FAIL 0d:00h:00m:00s 0d:00h:00m:00s 1 ws\n"] := by rfl
  have hmessage : lost.message = some ⟨"sim", .error (.workerLost "sim")⟩ := by rfl
  have hfile : lost.site.files.readText (statusPath unsubmitted.workspace) =
      .ok "sim FAILED HARD_FAIL 0d:00h:00m:00s 0d:00h:00m:00s 1 ws\n" := by rfl
  obtain ⟨rs, hshown, -, -, hcalls, hbefore, -, hsettled⟩ := status_history rfl rfl ha hreport
  have hlength : rs.length = 6 := by
    rw [← List.length_map, ← hshown, hlines]
    rfl
  have hcall : lost.calls[1]?.map (fun call =>
      (call.files.readText ⟨"ws/STATUS"⟩, call.files.readText ⟨"ws/sim.sh"⟩)) =
      some (.ok "sim RUNNING ------- 0d:00h:00m:00s 0d:00h:00m:00s 1 ws\n",
        .ok "#!/bin/sh\nagain\n") := by
    rfl
  obtain ⟨call, hat, hfiles⟩ := Option.map_eq_some_iff.mp hcall
  obtain ⟨hstatus, hscript⟩ := Prod.mk.inj hfiles
  have hmeets := hcalls 1 call hat
  obtain ⟨text, hread, hwritten⟩ := hmeets.status
  rw [show statusPath unsubmitted.workspace = ⟨"ws/STATUS"⟩ from rfl] at hread
  obtain rfl := Except.ok.inj (hstatus.symm.trans hread)
  obtain ⟨j, front, text, -, -, -, -, -, hend, hended, hshows⟩ := hsettled _ hmessage
  obtain rfl := Except.ok.inj (hfile.symm.trans hend)
  exact ⟨rfl, rfl, ha, hreport, hlines, ⟨rs, hlength, hbefore⟩,
    ⟨call, hat, hmeets, hwritten, hstatus, hscript⟩, j, hshows, hended⟩

end Course

end StudyFlow
