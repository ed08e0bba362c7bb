import StudyFlow.Proofs.Drive.Causes
import StudyFlow.Proofs.Expansion.Instances
import StudyFlow.Proofs.Text.Words
import StudyFlow.Study.Check

/-!
# What the check of a study saves a run from

A study that was checked has a queue for each of its steps, and instances for each step if it has
parameters. Without parameters the check looks at the name of a step with the blanks around it left
out, while a run takes the name as it is: such blanks are the one fault of a configuration that a
run may still meet.
-/

namespace StudyFlow

namespace Text

theorem dropWhile_isBlank {cs : List Char} (h : ∀ c ∈ cs, isBlank c = false) :
    cs.dropWhile isBlank = cs := by
  cases cs with
  | nil => rfl
  | cons c cs => simp [h c List.mem_cons_self]

/-- A text without blanks is not trimmed. -/
theorem trim_of_no_blank {s : String} (h : hasBlank s = false) : trim s = s := by
  have hs := (hasBlank_eq_false_iff s).mp h
  have hr : ∀ c ∈ s.toList.reverse, isBlank c = false := fun c hc => hs c (List.mem_reverse.mp hc)
  rw [trim, trimChars, dropWhile_isBlank hs, dropWhile_isBlank hr, List.reverse_reverse,
    String.ofList_toList]

end Text

/-! ## Expansion depends on neither the root nor the time -/

theorem Expansion.isOk_instancesAt (t : Template) (ps : ParameterSet) (root root' : Path)
    (now now' : Millis) (seen : List String) (ks : List Nat) :
    (instancesAt t ps root now seen ks).isOk = (instancesAt t ps root' now' seen ks).isOk := by
  induction ks generalizing seen with
  | nil => rfl
  | cons k ks ih =>
    simp only [instancesAt]
    cases checkName t.name (nameAt t ps k) with
    | error e => rfl
    | ok u =>
      simp only [bind, Except.bind]
      split
      · rfl
      · have hrest := ih (nameAt t ps k :: seen)
        cases hl : instancesAt t ps root now (nameAt t ps k :: seen) ks <;>
          cases hr : instancesAt t ps root' now' (nameAt t ps k :: seen) ks <;>
          rw [hl, hr] at hrest <;> first | rfl | cases hrest

namespace Template

variable {t : Template} {ps : ParameterSet} {root root' : Path} {now now' : Millis}

/-- Where a template has instances, it has some below any root and at any time. -/
theorem exists_instances {is : List Instance} (h : t.instances ps root now = .ok is) :
    ∃ is', t.instances ps root' now' = .ok is' := by
  unfold instances expand at h ⊢
  split at h
  · next hn =>
    rw [if_pos hn]
    cases hc : Expansion.checkName t.name t.name with
    | error e => rw [hc] at h; cases h
    | ok u => exact ⟨_, rfl⟩
  · next hn =>
    rw [if_neg hn]
    cases hv : ps.validate with
    | error e => rw [hv] at h; cases h
    | ok count =>
      rw [hv] at h
      have hok := Expansion.isOk_instancesAt t ps root root' now now' [] (List.range count)
      cases hl : Expansion.instancesAt t ps root now [] (List.range count) with
      | error e =>
        simp only [bind, Except.bind, hl] at h
        cases h
      | ok js =>
        cases hr : Expansion.instancesAt t ps root' now' [] (List.range count) with
        | error e => rw [hl, hr] at hok; cases hok
        | ok js' =>
          simp only [bind, Except.bind, hr]
          exact ⟨js', rfl⟩

/-- Without parameters there is the one instance of the template, if its name has no blank. -/
theorem instances_nil (t : Template) (root : Path) (now : Millis) :
    t.instances [] root now =
      if Text.hasBlank t.name then .error (.whitespaceInName t.name t.name)
      else .ok [t.soleInstance root now] := by
  unfold instances expand Expansion.checkName
  by_cases hb : Text.hasBlank t.name = true
  · rw [if_pos hb, if_pos hb]
    rfl
  · rw [if_neg hb, if_neg hb]
    rfl

end Template

/-! ## What a check looks at -/

/-- Where each element leads to a value, the values are those of the elements one after the
other. -/
theorem map_eq_of_mapM {α β ε : Type} {f : α → Except ε β} {xs : List α} {ys : List β}
    (h : xs.mapM f = .ok ys) : xs.map f = ys.map Except.ok := by
  induction xs generalizing ys with
  | nil =>
    obtain rfl := Except.ok.inj h
    rfl
  | cons x xs ih =>
    rw [List.mapM_cons] at h
    cases hx : f x with
    | error e => rw [hx] at h; cases h
    | ok y =>
      rw [hx] at h
      cases hxs : xs.mapM f with
      | error e => rw [hxs] at h; cases h
      | ok rest =>
        rw [hxs] at h
        obtain rfl := Except.ok.inj h
        rw [List.map_cons, List.map_cons, hx, ih hxs]

theorem QueueSettings.resolveStep_of_mapM {q : QueueSettings} {ts : List Template}
    {names : List String} (h : ts.mapM q.resolveStep = .ok names) :
    ∀ t ∈ ts, ∃ queue, q.resolveStep t = .ok queue := by
  intro t ht
  have hm : q.resolveStep t ∈ ts.map q.resolveStep := List.mem_map_of_mem ht
  rw [map_eq_of_mapM h] at hm
  obtain ⟨queue, -, hqueue⟩ := List.mem_map.mp hm
  exact ⟨queue, hqueue.symm⟩

namespace Study

variable {study : Study}

/-- What a step brings with it that the check of some steps has passed over to the next ones. -/
theorem checkSteps_cons {number : Nat} {seen : List String} {t : Template} {ts : List Template}
    (h : checkSteps number seen (t :: ts) = .ok ()) :
    Text.trim t.name ≠ "" ∧ Text.hasBlank (Text.trim t.name) = false ∧ Text.trim t.name ∉ seen ∧
      checkSteps (number + 1) (Text.trim t.name :: seen) ts = .ok () := by
  simp only [checkSteps] at h
  split at h
  · cases h
  · next hne =>
    split at h
    · cases h
    · next hb =>
      split at h
      · cases h
      · next hseen =>
        split at h
        · cases h
        · exact ⟨by simpa using hne, by simpa using hb, by simpa using hseen, h⟩

/-- Without the blanks around them, the names of checked steps are words that differ from each
other. -/
theorem trim_of_checkSteps {number : Nat} {seen : List String} {ts : List Template}
    (h : checkSteps number seen ts = .ok ()) :
    (∀ t ∈ ts, Text.IsWord (Text.trim t.name) ∧ Text.trim t.name ∉ seen) ∧
      ts.Pairwise fun t t' => Text.trim t.name ≠ Text.trim t'.name := by
  induction ts generalizing number seen with
  | nil => exact ⟨nofun, List.Pairwise.nil⟩
  | cons t ts ih =>
    obtain ⟨hne, hb, hseen, hrest⟩ := checkSteps_cons h
    obtain ⟨hnames, hdistinct⟩ := ih hrest
    refine ⟨fun t' hm => ?_, List.pairwise_cons.mpr ⟨fun t' hm he => ?_, hdistinct⟩⟩
    · rcases List.mem_cons.mp hm with rfl | hm
      · exact ⟨⟨hne, hb⟩, hseen⟩
      · exact ⟨(hnames t' hm).1, fun hs => (hnames t' hm).2 (List.mem_cons_of_mem _ hs)⟩
    · exact (hnames t' hm).2 (he ▸ List.mem_cons_self)

theorem instances_of_checkExpansion {ps : ParameterSet} {root : Path} {ts : List Template}
    (h : checkExpansion ps root ts = .ok ()) : ∀ t ∈ ts, ∃ is, t.instances ps root 0 = .ok is := by
  induction ts with
  | nil => nofun
  | cons t ts ih =>
    simp only [checkExpansion] at h
    cases ht : t.instances ps root 0 with
    | error e => rw [ht] at h; cases h
    | ok is =>
      rw [ht] at h
      intro t' hm
      rcases List.mem_cons.mp hm with rfl | hm
      · exact ⟨is, ht⟩
      · exact ih h t' hm

/-- What is known of the steps of a study that was checked. -/
structure Checked (study : Study) : Prop where
  names : ∀ t ∈ study.steps, Text.hasBlank (Text.trim t.name) = false
  instances : study.parameters ≠ [] →
    ∀ t ∈ study.steps, ∃ is, t.instances study.parameters study.root 0 = .ok is
  queues : ∀ t ∈ study.steps, ∃ queue, study.queues.resolveStep t = .ok queue

/-- A check that finds no fault has gone over the steps, the parameters and the queues. -/
theorem check_eq_ok (h : study.check = .ok ()) :
    checkSteps 1 [] study.steps = .ok () ∧ study.checkParameters = .ok () ∧
      ∃ names, study.queueNames = .ok names := by
  unfold check at h
  split at h
  · cases h
  · cases hs : checkSteps 1 [] study.steps with
    | error e => rw [hs] at h; cases h
    | ok u =>
      rw [hs] at h
      cases hp : study.checkParameters with
      | error e => rw [hp] at h; cases h
      | ok u =>
        rw [hp] at h
        cases hq : study.queueNames with
        | error e => rw [hq] at h; cases h
        | ok names => exact ⟨rfl, rfl, names, rfl⟩

theorem checked_of_check (h : study.check = .ok ()) : study.Checked := by
  obtain ⟨hs, hp, names, hq⟩ := check_eq_ok h
  refine ⟨fun t ht => ((trim_of_checkSteps hs).1 t ht).1.2, ?_, ?_⟩
  · intro hne
    unfold checkParameters at hp
    rw [if_neg (by simpa using hne)] at hp
    cases hv : study.parameters.validate with
    | error e => rw [hv] at hp; cases hp
    | ok count =>
      rw [hv] at hp
      exact instances_of_checkExpansion hp
  · unfold queueNames QueueSettings.queuesFor at hq
    cases hm : study.steps.mapM study.queues.resolveStep with
    | error e => rw [hm] at hq; cases hq
    | ok all => exact QueueSettings.resolveStep_of_mapM hm

/-- The name of a step that the study expands without parameters has no blanks around it. -/
def NamesAsChecked (study : Study) (t : Template) : Prop :=
  study.parameters = [] → Text.trim t.name = t.name

/-- A step of a checked study has instances, unless blanks around its name were not looked at. -/
theorem Checked.instances_iff (h : study.Checked) {t : Template} (ht : t ∈ study.steps)
    (root : Path) (now : Millis) :
    (∃ is, t.instances study.parameters root now = .ok is) ↔ study.NamesAsChecked t := by
  have hname := h.names t ht
  by_cases hps : study.parameters = []
  · rw [hps, Template.instances_nil]
    constructor
    · rintro ⟨is, his⟩ -
      split at his
      · cases his
      · next hb => exact Text.trim_of_no_blank (by simpa using hb)
    · intro hn
      rw [hn hps] at hname
      rw [hname]
      exact ⟨_, rfl⟩
  · obtain ⟨is, his⟩ := h.instances hps t ht
    exact ⟨fun _ hnil => absurd hnil hps, fun _ => Template.exists_instances his⟩

end Study

namespace Runner

variable {σ : Type}

theorem prepare_isOk_iff {r : Runner σ} {t : Template} {ps : ParameterSet} {queue : String}
    (hq : r.queues.resolveStep t = .ok queue) (s : Site) :
    (∃ is, (r.prepare t ps s).1 = .ok is) ↔ ∃ is, t.instances ps r.root s.clock = .ok is := by
  unfold prepare prepared
  rw [hq]
  cases hi : t.instances ps r.root s.clock with
  | error e =>
    constructor
    · rintro ⟨is, h⟩
      cases h
    · rintro ⟨is, h⟩
      cases h
  | ok is => exact ⟨fun _ => ⟨is, rfl⟩, fun _ => ⟨_, rfl⟩⟩

end Runner

namespace Study

variable {σ : Type} {study : Study}

/-- A step of a checked study is prepared below any root, exactly if it has parameters or no blanks
stand around its name; where that holds of all steps, no run of the study fails for the way it is
written. -/
theorem prepare_of_check (h : study.check = .ok ()) (r : Runner σ) (hq : r.queues = study.queues) :
    (∀ t ∈ study.steps, ∀ s, (∃ is, (r.prepare t study.parameters s).1 = .ok is) ↔
      study.NamesAsChecked t) ∧
      ((∀ t ∈ study.steps, study.NamesAsChecked t) → ∀ st s cause,
        (r.runAll study.steps study.parameters st s).1 = .error cause →
          cause.isConfiguration = false) := by
  have hchecked := checked_of_check h
  have hprepare : ∀ t ∈ study.steps, ∀ s,
      (∃ is, (r.prepare t study.parameters s).1 = .ok is) ↔ study.NamesAsChecked t := by
    intro t ht s
    obtain ⟨queue, hqueue⟩ := hchecked.queues t ht
    rw [← hq] at hqueue
    rw [Runner.prepare_isOk_iff hqueue]
    exact hchecked.instances_iff ht r.root s.clock
  refine ⟨hprepare, ?_⟩
  intro hnames st s cause hrun
  exact Runner.runFrom_atRun (fun t ht s => (hprepare t ht s).mpr (hnames t ht)) hrun

/-- A runner below the root of a study, whose adapter reports success. -/
def succeeding (study : Study) : Runner (List Script) where
  bridge := ⟨study.adapter, .replay fun _ => .submitted ⟨.ok, "1"⟩⟩
  queues := study.queues
  root := study.root
  worker := "local"

/-- Two steps, one of which is run for two values of a parameter. -/
def sampled : Study where
  name := "demo"
  adapter := { shell := "/bin/sh" }
  parameters := [⟨"X", "X.%%", ["1", "2"]⟩]
  steps := [Template.new "prepare" "run", Template.new "sim" "run $(X)"]

theorem prepare_of_check_sampled :
    sampled.check = .ok () ∧ sampled.succeeding.queues = sampled.queues ∧
      (∀ t ∈ sampled.steps, sampled.NamesAsChecked t) ∧
      (∀ t ∈ sampled.steps, ∃ is, (sampled.succeeding.prepare t sampled.parameters {}).1 = .ok is) ∧
      ∀ cause, (sampled.succeeding.runAll sampled.steps sampled.parameters [] {}).1 = .error cause →
        cause.isConfiguration = false := by
  have hc : sampled.check = .ok () := by rfl
  have hn : ∀ t ∈ sampled.steps, sampled.NamesAsChecked t := fun t _ hnil => by cases hnil
  obtain ⟨hprepare, hrun⟩ := prepare_of_check hc sampled.succeeding rfl
  exact ⟨hc, rfl, hn, fun t ht => (hprepare t ht {}).mpr (hn t ht), hrun hn [] {}⟩

/-- Two steps, where a blank stands in front of the name of the second one. -/
def padded : Study where
  name := "demo"
  adapter := { shell := "/bin/sh" }
  steps := [⟨"prepare", { cmd := "run" }⟩, ⟨" sim", { cmd := "run" }⟩]

/-- Without parameters the check passes over the blank. The run meets it once the step before has
been run. -/
theorem check_passes_over_padded_name :
    let run := padded.succeeding.runAll padded.steps padded.parameters [] {}
    padded.check = .ok () ∧ run.1 = .error (.expansion (.whitespaceInName " sim" " sim")) ∧
      run.2.1.map Script.step = ["prepare"] ∧
      (run.2.2.files.readStatus ⟨"demo/prepare"⟩).toOption.map StatusRecord.state =
        some .finished := by
  refine ⟨by rfl, by rfl, by decide +kernel, by decide +kernel⟩

end Study

end StudyFlow
