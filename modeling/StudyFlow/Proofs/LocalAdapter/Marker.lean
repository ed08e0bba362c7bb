import StudyFlow.Proofs.LocalAdapter.Capture

/-!
# The marker and the last submission

A clean exit leaves the marker and no submission takes one away. So over the submissions into one
workspace the marker says that some exit was clean, not that the last one was: output and errors
belong to the last submission, the marker may be that of an earlier one.
-/

namespace StudyFlow.LocalAdapter

variable {t u : FileTree} {ws : Path} {exits : List (Option Int)} {f : Finished}

/-- A submission: what is handed over, and the site that it finds. -/
structure Handover where
  launch : Launcher
  script : Script
  settings : EffectiveSettings
  site : Site

namespace Handover

def answer (x : Handover) : Reply := (submit x.launch x.script x.settings x.site).1

def after (x : Handover) : Site := (submit x.launch x.script x.settings x.site).2

/-- The submission ran a process in the workspace; the process left the marker alone, and what it
printed was kept. -/
structure Ends (x : Handover) (ws : Path) (f : Finished) : Prop where
  workspace : x.script.workspace = ws
  launched : x.launch x.settings.shell [x.script.argument] ws x.site.files = .ok f
  untouched : f.files.IsMarked ws ↔ x.site.files.IsMarked ws
  captured : (capture ws x.script.stem f).1 = .ok ()

/-- What a submission answers, and what it leaves. -/
theorem Ends.spec {x : Handover} (h : x.Ends ws f) :
    x.answer = .submitted ⟨ReturnCode.ofExit f.status, "local-" ++ f.process⟩ ∧
      Keeps ws x.script.stem f x.after.files := by
  obtain ⟨rfl, hlaunched, -, hcaptured⟩ := h
  have hcapture : capture x.script.workspace x.script.stem f =
      (.ok (), (capture x.script.workspace x.script.stem f).2) := Prod.ext hcaptured rfl
  obtain ⟨s, hsubmit, hfiles⟩ := submit_of_capture hlaunched hcapture
  refine ⟨congrArg Prod.fst hsubmit, ?_⟩
  rw [after, hsubmit, hfiles]
  exact keeps_of_capture x.script.slash_not_mem_stem hcapture

/-- A clean exit leaves the marker, and every other exit leaves it as it was. -/
theorem Ends.isMarked_iff {x : Handover} (h : x.Ends ws f) :
    x.after.files.IsMarked ws ↔ f.status = some 0 ∨ x.site.files.IsMarked ws := by
  have hkeeps := h.spec.2
  by_cases hstatus : f.status = some 0
  · exact ⟨fun _ => .inl hstatus, fun _ => hkeeps.marked hstatus⟩
  · rw [hkeeps.unmarked hstatus, h.untouched]
    exact ⟨.inr, fun hm => hm.resolve_left hstatus⟩

end Handover

/-- From one tree the submissions into a workspace lead to another one, and their processes ended
like this. In between others may work on the files, as long as they leave the marker alone. -/
inductive History (ws : Path) (t : FileTree) : List (Option Int) → FileTree → Prop
  | start : History ws t [] t
  | others {exits : List (Option Int)} {u v : FileTree} : History ws t exits u →
    (v.IsMarked ws ↔ u.IsMarked ws) → History ws t exits v
  | submission {exits : List (Option Int)} {x : Handover} {f : Finished} :
    History ws t exits x.site.files → x.Ends ws f → History ws t (exits ++ [f.status]) x.after.files

namespace History

/-- Making an instance ready is work of the kind that leaves the marker alone. -/
theorem prepared {σ : Type} {b : Bridge σ} {i : Instance} {s : Site}
    (h : History ws t exits s.files) (hg : s.files.Grounded) :
    History ws t exits (b.prepare i s).2.files := by
  have hconfined : FileTree.Confined (· = i) s.files (b.prepare i s).2.files :=
    Bridge.prepare_confined rfl (Instance.Resumes.refl i) hg
  exact .others h hconfined.isMarked_iff

/-- Submitting an instance makes it ready and hands its script over, so its history goes on by one
submission. -/
theorem submitted {σ : Type} {b : Bridge σ} {launch : Launcher} {i : Instance} {st : σ}
    {s s' : Site} {script : Script} (h : History ws t exits s.files) (hg : s.files.Grounded)
    (hb : b.adapter = localAdapter σ launch) (hd : (b.settings.effectiveFor i.run).dryRun = false)
    (hp : b.prepare i s = (.ok script, s'))
    (hx : Handover.Ends ⟨launch, script, b.settings.effectiveFor i.run,
      s'.info i.executionNotice⟩ ws f) :
    (b.submit i st s).1 = .submitted ⟨ReturnCode.ofExit f.status, "local-" ++ f.process⟩ ∧
      History ws t (exits ++ [f.status]) (b.submit i st s).2.2.files := by
  have hready : History ws t exits s'.files := by
    have hprepared := h.prepared (b := b) (i := i) hg
    rwa [hp] at hprepared
  have hadapter :
      b.adapter.submit script (b.settings.effectiveFor i.run) st (s'.info i.executionNotice) =
        (Handover.answer
            ⟨launch, script, b.settings.effectiveFor i.run, s'.info i.executionNotice⟩,
          st, Handover.after
            ⟨launch, script, b.settings.effectiveFor i.run, s'.info i.executionNotice⟩) := by
    rw [hb]
    rfl
  rw [Bridge.submit_of_reply hd hp hadapter, hx.spec.1]
  exact ⟨rfl, .submission hready hx⟩

/-- The marker is there once an exit was clean, or if it was there before. -/
theorem isMarked_iff (h : History ws t exits u) : u.IsMarked ws ↔
    some 0 ∈ exits ∨ t.IsMarked ws := by
  induction h with
  | start => simp
  | others _ hleft ih => exact hleft.trans ih
  | @submission exits x f _ hends ih =>
    have hlast : some 0 ∈ exits ++ [f.status] ↔ f.status = some 0 ∨ some 0 ∈ exits := by
      simp [or_comm, eq_comm]
    rw [hends.isMarked_iff, ih, hlast, or_assoc]

end History

/-- Whatever was submitted into the workspace before: the answer gives the exit of this submission,
and success for a clean one alone; the output and the errors are those of this submission; and the
marker, which is read by its path unless that is longer than the system takes, tells whether any
exit was clean. So the marker agrees with the exit exactly if that was clean, or if no exit was
clean before and the workspace was not marked at the start. -/
theorem marker_agrees_iff {x : Handover} (h : History ws t exits x.site.files) (hx : x.Ends ws f) :
    x.answer = .submitted ⟨ReturnCode.ofExit f.status, "local-" ++ f.process⟩ ∧
      (ReturnCode.ofExit f.status = .ok ↔ f.status = some 0) ∧
      (∀ i : Instance, x.script = i.script → IsPlainName i.templateName →
        x.script.stem = i.templateName) ∧
      x.after.files.read (ws.child (x.script.stem ++ ".out")) = .ok f.output ∧
      x.after.files.read (ws.child (x.script.stem ++ ".err")) = .ok f.errors ∧
      ((ws.child finishedMarker).Walkable →
        ((∃ c, x.after.files.read (ws.child finishedMarker) = .ok c) ↔ x.after.files.IsMarked ws)) ∧
      (x.after.files.IsMarked ws ↔ f.status = some 0 ∨ some 0 ∈ exits ∨ t.IsMarked ws) ∧
      ((x.after.files.IsMarked ws ↔ f.status = some 0) ↔
        f.status = some 0 ∨ some 0 ∉ exits ∧ ¬t.IsMarked ws) := by
  obtain ⟨hanswer, hkeeps⟩ := hx.spec
  have hmarked : x.after.files.IsMarked ws ↔ f.status = some 0 ∨ some 0 ∈ exits ∨
      t.IsMarked ws := by
    rw [hx.isMarked_iff, h.isMarked_iff]
  have hstem : ∀ i : Instance, x.script = i.script → IsPlainName i.templateName →
      x.script.stem = i.templateName := by
    intro i hi hn
    rw [hi]
    exact i.script_stem hn
  refine ⟨hanswer, ReturnCode.ofExit_eq_ok_iff, hstem, hkeeps.output, hkeeps.errors,
    hkeeps.seen, hmarked, ?_⟩
  rw [hmarked, ← not_or]
  tauto

/-! ## A failure after a success -/

/-- A process that ends with the status, prints what that stands for and leaves the files alone. -/
def exited (status : Option Int) (files : FileTree) : Finished :=
  ⟨"7", status, (ReturnCode.ofExit status).name.toUTF8, ByteArray.empty, files⟩

/-- The script of a step `sim` is submitted, and its process ends with the status. -/
def attempt (status : Option Int) (s : Site) : Handover where
  launch := fun _ _ _ files => .ok (exited status files)
  script := ⟨"sim", "run", ⟨"sim"⟩, ⟨"sim/sim.sh"⟩⟩
  settings := { (default : EffectiveSettings) with shell := "/bin/sh" }
  site := s

/-- A site with an empty workspace `sim`. -/
def bench : Site := { files := ⟨[(["sim"], .directory)]⟩ }

def failedOnce : Site := (attempt (some 1) bench).after

/-- The site after a failure and a success. -/
def redeemed : Site := (attempt (some 0) failedOnce).after

theorem attempt_ends {status : Option Int} {s : Site}
    (h : (capture ⟨"sim"⟩ (attempt status s).script.stem (exited status s.files)).1 = .ok ()) :
    (attempt status s).Ends ⟨"sim"⟩ (exited status s.files) :=
  ⟨rfl, rfl, Iff.rfl, h⟩

/-- After a failure and a success a third submission fails: its output is kept, and the marker is
not its own. -/
theorem marker_agrees_iff_thrice :
    History ⟨"sim"⟩ bench.files [some 1, some 0] redeemed.files ∧
      (attempt (some 102) redeemed).Ends ⟨"sim"⟩ (exited (some 102) redeemed.files) ∧
      (attempt (some 102) redeemed).answer = .submitted ⟨.hardFail, "local-7"⟩ ∧
      (attempt (some 102) redeemed).after.files.read (Path.child ⟨"sim"⟩ "sim.out") =
        .ok "HARD_FAIL".toUTF8 ∧
      ¬((attempt (some 102) redeemed).after.files.IsMarked ⟨"sim"⟩ ↔
        some (102 : Int) = some 0) := by
  have hfirst : (attempt (some 1) bench).Ends ⟨"sim"⟩ (exited (some 1) bench.files) :=
    attempt_ends rfl
  have hsecond : (attempt (some 0) failedOnce).Ends ⟨"sim"⟩ (exited (some 0) failedOnce.files) :=
    attempt_ends rfl
  have hthird : (attempt (some 102) redeemed).Ends ⟨"sim"⟩ (exited (some 102) redeemed.files) :=
    attempt_ends rfl
  have history : History ⟨"sim"⟩ bench.files [some 1, some 0] redeemed.files :=
    .submission (.submission .start hfirst) hsecond
  obtain ⟨hanswer, -, -, houtput, -, -, -, hagrees⟩ := marker_agrees_iff history hthird
  have hname : (attempt (some 102) redeemed).script.stem ++ ".out" = "sim.out" := by decide
  have hprinted : (exited (some 102) redeemed.files).output = "HARD_FAIL".toUTF8 := rfl
  rw [hname, hprinted] at houtput
  exact ⟨history, hthird, hanswer, houtput, fun h => by simpa [exited] using hagrees.mp h⟩

/-- A success and then a failure in one workspace: the failure is reported, and the marker is
there. -/
theorem marker_outlives_success :
    (attempt (some 0) bench).Ends ⟨"sim"⟩ (exited (some 0) bench.files) ∧
      ¬bench.files.IsMarked ⟨"sim"⟩ ∧
      let second := attempt (some 1) (attempt (some 0) bench).after
      second.Ends ⟨"sim"⟩ (exited (some 1) second.site.files) ∧
        second.answer = .submitted ⟨.softFail, "local-7"⟩ ∧
        second.after.files.IsMarked ⟨"sim"⟩ := by
  refine ⟨attempt_ends rfl, ?_, attempt_ends rfl, rfl, ⟨_, _, rfl⟩⟩
  rintro ⟨c, x, h⟩
  cases h

end StudyFlow.LocalAdapter
