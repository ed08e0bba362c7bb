import StudyFlow.Proofs.Expansion.Instances
import StudyFlow.Proofs.Lifecycle.Operations
import StudyFlow.Proofs.Path.Components
import StudyFlow.Proofs.Status.File

/-!
# The status line of an instance is read back

The line quotes nothing, so each text of a record has to be one word. `Legible` is what an instance
has to be like for that; expansion makes legible instances, each operation keeps them so, and what a
legible instance writes is what its status file is read as. No form of the root or of a workspace is
assumed.
-/

namespace StudyFlow

open Text

/-- What each operation may be given: the queue and the worker are words, and a new workspace has a
path. -/
def Operation.WellGiven : Operation → Prop
  | setRuntime queue worker => IsWord queue ∧ IsWord worker
  | clone _ workspace => ∀ ws ∈ workspace, ws.text ≠ ""
  | _ => True

namespace Instance

/-- Each text that the status line takes from the instance is a word, or becomes one. -/
structure Legible (i : Instance) : Prop where
  name : IsWord i.name
  workspace : i.workspace.text ≠ ""
  result : ∀ label ∈ i.result, IsWord label
  runtime : ∀ c ∈ i.runtime, IsWord c.queue ∧ IsWord c.worker

theorem isWord_label (code : Option ReturnCode) (hitLimit : Bool) :
    IsWord (outcome code hitLimit).2 := by
  cases hitLimit <;> rcases code with _ | code <;> try cases code
  all_goals exact ⟨by decide, by decide⟩

/-- A workspace with a path is shown as a word, below a root or not. -/
theorem isWord_condensedWorkspace {i : Instance} (h : i.workspace.text ≠ "") :
    IsWord i.condensedWorkspace := by
  unfold condensedWorkspace
  apply isWord_squashBlanks
  cases hr : (i.studyRoot.bind fun root =>
      i.workspace.below? root).filter fun p => !p.text.isEmpty with
  | none => exact h
  | some p =>
    have hp := (Option.filter_eq_some_iff.mp hr).2
    simpa using hp

theorem isWord_runTime (i : Instance) (now : Millis) : IsWord (i.status now).runTime := by
  have hn : IsWord noRunTime := ⟨by decide, by decide⟩
  cases hs : i.startedAt with
  | none => simpa [status, hs] using hn
  | some start => simpa [status, hs] using isWord_formatDuration _

/-- The record of a legible instance is readable at any time. -/
theorem Legible.readable {i : Instance} (h : i.Legible) (now : Millis) :
    (i.status now).Readable where
  name := h.name
  result := by
    have hn : IsWord noResult := ⟨by decide, by decide⟩
    cases hr : i.result with
    | none => simpa [status, hr] using hn
    | some label => simpa [status, hr] using h.result label hr
  elapsedTime := isWord_formatDuration _
  runTime := i.isWord_runTime now
  workspace := isWord_condensedWorkspace h.workspace
  runtime := h.runtime

/-! ## Operations keep instances legible -/

theorem Legible.ended {i : Instance} (h : i.Legible) (code : Option ReturnCode) (hitLimit : Bool)
    (now : Millis) : (i.ended code hitLimit now).Legible where
  name := h.name
  workspace := h.workspace
  result := by
    intro label hl
    obtain rfl := Option.some.inj hl
    exact isWord_label code hitLimit
  runtime := h.runtime

theorem Legible.recounted {i : Instance} (h : i.Legible) : i.recounted.Legible := by
  unfold Instance.recounted
  split
  · exact ⟨h.name, h.workspace, h.result, h.runtime⟩
  · exact h

theorem Legible.cloneWith {i : Instance} (h : i.Legible) (pairs : List (String × String))
    {workspace : Option Path} (hw : ∀ ws ∈ workspace, ws.text ≠ "") (now : Millis) :
    (i.cloneWith pairs workspace now).Legible where
  name := h.name
  workspace := by
    cases workspace with
    | none => exact h.workspace
    | some ws => exact hw ws rfl
  result := nofun
  runtime := nofun

theorem Legible.change {i : Instance} (h : i.Legible) (now : Millis) {o : Operation}
    (ho : o.WellGiven) : (o.change now i).Legible := by
  cases o with
  | setUp => exact h
  | start => exact ⟨h.name, h.workspace, h.result, h.runtime⟩
  | finish code hitLimit => exact h.ended _ _ _
  | finishNumber number hitLimit => exact h.ended _ _ _
  | countRestart => exact h.recounted
  | setRestart restart => exact ⟨h.name, h.workspace, h.result, h.runtime⟩
  | setRuntime queue worker =>
    refine ⟨h.name, h.workspace, h.result, ?_⟩
    intro c hc
    obtain rfl := Option.some.inj hc
    exact ho
  | clone pairs workspace => exact h.cloneWith pairs ho now

/-! ## Expansion makes legible instances -/

theorem legible_soleInstance {t : Template} (root : Path) (now : Millis) (hn : t.name ≠ "")
    (hb : hasBlank t.name = false) : (t.soleInstance root now).Legible where
  name := ⟨hn, hb⟩
  workspace := Path.join_text_ne_empty (Or.inr hn)
  result := nofun
  runtime := nofun

theorem legible_instanceAt {t : Template} {ps : ParameterSet} (root : Path) (now : Millis) {k : Nat}
    (hn : t.name ≠ "") (hb : hasBlank (Expansion.nameAt t ps k) = false) :
    (Expansion.instanceAt t ps root now k).Legible where
  name := by
    refine ⟨?_, hb⟩
    intro he
    exact hn (String.append_eq_empty_iff.mp (String.append_eq_empty_iff.mp he).1).1
  workspace := Path.join_text_ne_empty (Or.inl (Path.join_text_ne_empty (Or.inr hn)))
  result := nofun
  runtime := nofun

theorem legible_of_mem_instances {t : Template} {ps : ParameterSet} {root : Path} {now : Millis}
    {is : List Instance} (hn : t.name ≠ "") (h : t.instances ps root now = .ok is) {i : Instance}
    (hi : i ∈ is) : i.Legible := by
  rcases Template.mem_instances h hi with ⟨rfl, hb⟩ | ⟨k, rfl, hb⟩
  · exact legible_soleInstance root now hn hb
  · exact legible_instanceAt root now hn hb

/-- What a legible instance wrote is what its status file is read as. -/
theorem Legible.readStatus_persist {i : Instance} (h : i.Legible) {s : Site}
    (hs : (i.persist s).1 = .ok ()) :
    (i.persist s).2.files.readStatus i.workspace = .ok (i.status s.clock) :=
  FileTree.readStatus_of_readText (readText_of_persist (Prod.ext hs rfl)) (h.readable s.clock)

/-- Whatever becomes of an instance of a named template, its status line is read as its record, and
after an operation that wrote successfully so is its status file. -/
theorem status_read_back {t : Template} {ps : ParameterSet} {root : Path} {now : Millis}
    {is : List Instance} (hn : t.name ≠ "") (h : t.instances ps root now = .ok is) {i j : Instance}
    (hi : i ∈ is) (hj : Descends Operation.WellGiven i j) :
    (∀ time, StatusRecord.parse (j.status time).line = .ok (j.status time)) ∧
      ∀ (o : Operation) (s : Site), o.WellGiven → o.persists = true → (o.run j s).result = .ok () →
        (o.run j s).site.files.readStatus (o.run j s).item.workspace =
          .ok ((o.run j s).item.status s.clock) := by
  have hlegible : j.Legible := hj.keeps (fun _ _ now ho hl => hl.change now ho)
    (legible_of_mem_instances hn h hi)
  refine ⟨fun time => (hlegible.readable time).parse_line, ?_⟩
  intro o s ho hp hr
  obtain ⟨s₁, -, hclock, hrun⟩ := Operation.run_eq_save (i := j) (s := s) hp
  rw [hrun, save_eq, ← hclock] at hr ⊢
  exact (hlegible.change s₁.clock ho).readStatus_persist hr

/-- The instances of a step with two values of a parameter, below the root `my study`. -/
def sampled (k : Nat) : Instance :=
  Expansion.instanceAt (Template.new "sim" "run $(X)") [⟨"X", "X.%%", ["1", "2"]⟩] ⟨"my study"⟩ 0 k

/-- A copy of the second one, in a workspace whose name is one blank. -/
def sampledCopy : Instance :=
  ((Operation.clone [("2", "two")] (some ⟨" "⟩)).run (sampled 1) {}).item

theorem status_read_back_of_copy :
    (Template.new "sim" "run $(X)").name ≠ "" ∧
      (Template.new "sim" "run $(X)").instances [⟨"X", "X.%%", ["1", "2"]⟩] ⟨"my study"⟩ 0 =
        .ok [sampled 0, sampled 1] ∧
      Descends Operation.WellGiven (sampled 1) sampledCopy ∧
      (Operation.start.run sampledCopy {}).result = .ok () ∧
      StatusRecord.parse (sampledCopy.status 5).line = .ok (sampledCopy.status 5) ∧
      (Operation.start.run sampledCopy {}).site.files.readStatus ⟨" "⟩ =
        .ok ((Operation.start.run sampledCopy {}).item.status 0) := by
  have hn : (Template.new "sim" "run $(X)").name ≠ "" := by decide
  have hi : (Template.new "sim" "run $(X)").instances [⟨"X", "X.%%", ["1", "2"]⟩] ⟨"my study"⟩ 0 =
      .ok [sampled 0, sampled 1] := by rfl
  have hj : Descends Operation.WellGiven (sampled 1) sampledCopy := by
    refine Descends.step (Operation.clone [("2", "two")] (some ⟨" "⟩)) {} Descends.refl ?_
    intro ws hws
    obtain rfl := Option.some.inj hws
    decide
  have hr : (Operation.start.run sampledCopy {}).result = .ok () := by rfl
  obtain ⟨hline, hfile⟩ := status_read_back hn hi (by simp) hj
  exact ⟨hn, hi, hj, hr, hline 5, hfile Operation.start {} trivial rfl hr⟩

end Instance

end StudyFlow
