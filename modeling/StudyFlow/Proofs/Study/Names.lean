import Mathlib.Data.List.Nodup
import StudyFlow.Proofs.Study.Check
import StudyFlow.Proofs.Text.Bytes

/-!
# The names of all instances of a study

A check keeps the names of the steps apart, and an expansion the names of its own instances. What is
compared nowhere is an instance of one step with an instance of another one. Their names can only be
the same if the name of one step goes on with an underscore and the beginning of labels of the other
step.
-/

namespace StudyFlow

open Expansion

namespace Instance

variable {ps : ParameterSet} {i j : Instance}

/-- What stands behind the name of the step in the name of an instance. -/
def nameSuffix (ps : ParameterSet) (i : Instance) : String :=
  match i.parameterIndex with
  | some k => "_" ++ labels ps k
  | none => ""

/-- The step of `j` is called like that of `i` with an underscore and the beginning of the labels of
`i`, and what is left of these labels is what follows the step in the name of `j`. -/
def Meets (ps : ParameterSet) (i j : Instance) : Prop :=
  ∃ k front, i.parameterIndex = some k ∧ j.templateName = i.templateName ++ "_" ++ front ∧
    labels ps k = front ++ j.nameSuffix ps

theorem Meets.templateName_ne (h : i.Meets ps j) : i.templateName ≠ j.templateName := by
  obtain ⟨k, front, -, hj, -⟩ := h
  intro he
  have hlength := congrArg String.length (he.trans hj)
  have hunderscore : "_".length = 1 := rfl
  rw [String.length_append, String.length_append, hunderscore] at hlength
  omega

theorem meets_of_append {rest : String} (hj : j.templateName = i.templateName ++ rest)
    (hne : rest ≠ "") (hi : i.nameSuffix ps = rest ++ j.nameSuffix ps) : i.Meets ps j := by
  cases hk : i.parameterIndex with
  | none =>
    rw [nameSuffix, hk] at hi
    exact absurd (String.append_eq_empty_iff.mp hi.symm).1 hne
  | some k =>
    rw [nameSuffix, hk] at hi
    rcases Text.append_eq_append hi with ⟨front, rfl, hlabels⟩ | ⟨m, hunderscore, hlabels⟩
    · exact ⟨k, front, hk, by rw [hj, String.append_assoc], hlabels⟩
    · have hchars : rest.toList ++ m.toList = ['_'] := by
        rw [← String.toList_append, ← hunderscore]
        rfl
      rcases List.append_eq_singleton_iff.mp hchars with ⟨hnil, -⟩ | ⟨-, hnil⟩
      · exact absurd (String.toList_eq_nil_iff.mp hnil) hne
      · obtain rfl := String.toList_eq_nil_iff.mp hnil
        rw [String.append_empty] at hunderscore
        exact ⟨k, "", hk, by rw [hj, ← hunderscore, String.append_empty], hlabels.symm⟩

/-- Instances of different steps have the same name exactly if one of them meets the other. -/
theorem name_eq_iff (hi : i.name = i.templateName ++ i.nameSuffix ps)
    (hj : j.name = j.templateName ++ j.nameSuffix ps) (hne : i.templateName ≠ j.templateName) :
    i.name = j.name ↔ i.Meets ps j ∨ j.Meets ps i := by
  rw [hi, hj]
  constructor
  · intro he
    rcases Text.append_eq_append he with ⟨rest, hrest, hsuffix⟩ | ⟨rest, hrest, hsuffix⟩
    · refine .inl (meets_of_append hrest ?_ hsuffix)
      rintro rfl
      exact hne (by rw [hrest, String.append_empty])
    · refine .inr (meets_of_append hrest ?_ hsuffix)
      rintro rfl
      exact hne (by rw [hrest, String.append_empty])
  · rintro (⟨k, front, hk, ht, hl⟩ | ⟨k, front, hk, ht, hl⟩)
    · simp [nameSuffix, hk, ht, hl, String.append_assoc]
    · simp [nameSuffix, hk, ht, hl, String.append_assoc]

end Instance

namespace Template

variable {t : Template} {ps : ParameterSet} {root : Path} {now : Millis} {is : List Instance}

/-- The instances of one template have distinct names. -/
theorem names_nodup (h : t.instances ps root now = .ok is) : (is.map Instance.name).Nodup := by
  rcases instances_eq_ok h with he | ⟨-, rfl, -⟩
  · obtain ⟨count, -, hat⟩ := expand_eq_some he
    obtain ⟨rfl, -, hnodup⟩ := instancesAt_eq_ok hat
    rw [List.map_map]
    exact hnodup
  · exact List.nodup_singleton _

/-- The name of an instance begins with that of its template, which is a text without blanks. -/
theorem name_of_mem_instances (h : t.instances ps root now = .ok is) {i : Instance} (hi : i ∈ is) :
    i.templateName = t.name ∧ i.name = i.templateName ++ i.nameSuffix ps ∧
    Text.hasBlank t.name = false := by
  rcases mem_instances h hi with ⟨rfl, hb⟩ | ⟨k, rfl, hb⟩
  · exact ⟨rfl, String.append_empty.symm, hb⟩
  · rw [nameAt, Text.hasBlank_append, Text.hasBlank_append] at hb
    exact ⟨rfl, String.append_assoc, by simp_all⟩

/-- An instance with labels belongs to a template that refers to parameters. -/
theorem needsExpansion_of_parameterIndex (h : t.instances ps root now = .ok is) {i : Instance}
    (hi : i ∈ is) {k : Nat} (hk : i.parameterIndex = some k) : t.needsExpansion ps = true := by
  rcases instances_eq_ok h with he | ⟨-, rfl, -⟩
  · unfold expand at he
    split at he
    · cases he
    · next hn => simp_all
  · obtain rfl := List.mem_singleton.mp hi
    cases hk

end Template

namespace Study

variable {study : Study} {root : Path} {now : Millis}

/-- The instances of a step, of which there are none if the step cannot be expanded. -/
def instancesOf (study : Study) (root : Path) (now : Millis) (t : Template) : List Instance :=
  (t.instances study.parameters root now).toOption.getD []

def instances (study : Study) (root : Path) (now : Millis) : List Instance :=
  study.steps.flatMap (study.instancesOf root now)

theorem instances_of_mem {t : Template} {i : Instance} (hi : i ∈ study.instancesOf root now t) :
    t.instances study.parameters root now = .ok (study.instancesOf root now t) := by
  unfold instancesOf at hi ⊢
  cases h : t.instances study.parameters root now with
  | error e => rw [h] at hi; cases hi
  | ok is => rfl

theorem names_nodup_instancesOf (t : Template) :
    ((study.instancesOf root now t).map Instance.name).Nodup := by
  unfold instancesOf
  cases h : t.instances study.parameters root now with
  | error e => exact List.nodup_nil
  | ok is => exact Template.names_nodup h

/-- Instances of two steps with different checked names are named after different steps. -/
theorem templateName_ne {t t' : Template} (h : Text.trim t.name ≠ Text.trim t'.name)
    {i j : Instance} (hi : i ∈ study.instancesOf root now t)
    (hj : j ∈ study.instancesOf root now t') :
    i.templateName ≠ j.templateName := by
  obtain ⟨hit, -, hbi⟩ := Template.name_of_mem_instances (instances_of_mem hi) hi
  obtain ⟨hjt, -, hbj⟩ := Template.name_of_mem_instances (instances_of_mem hj) hj
  rw [hit, hjt]
  rwa [Text.trim_of_no_blank hbi, Text.trim_of_no_blank hbj] at h

/-- An instance belongs to a step and has its name and a suffix. -/
theorem exists_step_of_mem {i : Instance} (hi : i ∈ study.instances root now) :
    ∃ t ∈ study.steps, i ∈ study.instancesOf root now t ∧ i.templateName = t.name ∧
      i.name = i.templateName ++ i.nameSuffix study.parameters := by
  obtain ⟨t, ht, hit⟩ := List.mem_flatMap.mp hi
  obtain ⟨htemplate, hparts, -⟩ := Template.name_of_mem_instances (instances_of_mem hit) hit
  exact ⟨t, ht, hit, htemplate, hparts⟩

theorem name_eq_iff_meets {i j : Instance} (hi : i ∈ study.instances root now)
    (hj : j ∈ study.instances root now) (hne : i.templateName ≠ j.templateName) :
    i.name = j.name ↔ i.Meets study.parameters j ∨ j.Meets study.parameters i := by
  obtain ⟨-, -, -, -, hparts⟩ := exists_step_of_mem hi
  obtain ⟨-, -, -, -, hparts'⟩ := exists_step_of_mem hj
  exact Instance.name_eq_iff hparts hparts' hne

theorem not_meets_of_nodup (hnodup : ((study.instances root now).map Instance.name).Nodup) :
    ∀ i ∈ study.instances root now, ∀ j ∈ study.instances root now,
      ¬i.Meets study.parameters j := by
  intro i hi j hj hmeets
  have hne := hmeets.templateName_ne
  have he := (name_eq_iff_meets hi hj hne).mpr (.inl hmeets)
  exact hne (congrArg Instance.templateName (List.inj_on_of_nodup_map hnodup hi hj he))

theorem nodup_of_not_meets (hdistinct : study.steps.Pairwise fun t t' =>
    Text.trim t.name ≠ Text.trim t'.name)
    (hmeets : ∀ i ∈ study.instances root now, ∀ j ∈ study.instances root now,
      ¬i.Meets study.parameters j) :
    ((study.instances root now).map Instance.name).Nodup := by
  rw [instances, List.map_flatMap, List.nodup_flatMap]
  refine ⟨fun t _ => names_nodup_instancesOf t, hdistinct.imp_of_mem ?_⟩
  intro t t' ht ht' hne
  refine List.disjoint_left.mpr fun name hm hm' => ?_
  obtain ⟨i, hi, rfl⟩ := List.mem_map.mp hm
  obtain ⟨j, hj, he⟩ := List.mem_map.mp hm'
  have hiall : i ∈ study.instances root now := List.mem_flatMap_of_mem ht hi
  have hjall : j ∈ study.instances root now := List.mem_flatMap_of_mem ht' hj
  rcases (name_eq_iff_meets hiall hjall (templateName_ne hne hi hj)).mp he.symm with hij | hji
  · exact hmeets i hiall j hjall hij
  · exact hmeets j hjall i hiall hji

/-- Within each step of a checked study the names of the instances are distinct. In the whole study
they are so exactly if no instance meets one of another step. That holds if no step name goes on
behind the name of a step with parameters and an underscore. -/
theorem instanceNames_nodup_iff (h : study.check = .ok ()) (root : Path) (now : Millis) :
    (∀ t ∈ study.steps, ∀ is, t.instances study.parameters root now = .ok is →
      (is.map Instance.name).Nodup) ∧
    (((study.instances root now).map Instance.name).Nodup ↔
      ∀ i ∈ study.instances root now, ∀ j ∈ study.instances root now, ¬i.Meets study.parameters j) ∧
    ((∀ t ∈ study.steps, t.needsExpansion study.parameters = true → ∀ t' ∈ study.steps,
        ¬(t.name ++ "_").toList <+: t'.name.toList) →
      ((study.instances root now).map Instance.name).Nodup) := by
  have hdistinct := (trim_of_checkSteps (check_eq_ok h).1).2
  refine ⟨fun t _ is his => Template.names_nodup his,
    ⟨not_meets_of_nodup, nodup_of_not_meets hdistinct⟩,
    fun hfree => nodup_of_not_meets hdistinct ?_⟩
  rintro i hi j hj ⟨k, front, hk, hmeets, -⟩
  obtain ⟨t, ht, hit, htemplate, -⟩ := exists_step_of_mem hi
  obtain ⟨t', ht', -, htemplate', -⟩ := exists_step_of_mem hj
  have hexpansion := Template.needsExpansion_of_parameterIndex (instances_of_mem hit) hit hk
  refine hfree t ht hexpansion t' ht' ⟨front.toList, ?_⟩
  rw [← htemplate, ← htemplate', hmeets]
  exact String.toList_append.symm

theorem instanceNames_nodup_iff_sampled :
    sampled.check = .ok () ∧
      (∀ t ∈ sampled.steps, t.needsExpansion sampled.parameters = true → ∀ t' ∈ sampled.steps,
        ¬(t.name ++ "_").toList <+: t'.name.toList) ∧
      (sampled.instances sampled.root 0).map Instance.name = ["prepare", "sim_X.1", "sim_X.2"] ∧
      ((sampled.instances sampled.root 0).map Instance.name).Nodup := by
  have hc : sampled.check = .ok () := by rfl
  have hfree : ∀ t ∈ sampled.steps, t.needsExpansion sampled.parameters = true →
    ∀ t' ∈ sampled.steps,
      ¬(t.name ++ "_").toList <+: t'.name.toList := by decide +kernel
  exact ⟨hc, hfree, by decide +kernel, (instanceNames_nodup_iff hc sampled.root 0).2.2 hfree⟩

/-- A step with parameters, and one that is called like an instance of it. -/
def twofold : Study where
  name := "demo"
  adapter := { shell := "/bin/sh" }
  parameters := [⟨"X", "X.%%", ["1", "2"]⟩]
  steps := [⟨"sim", { cmd := "run $(X)" }⟩, ⟨"sim_X.1", { cmd := "post" }⟩]

/-- The check passes over two instances with the same name. -/
theorem check_passes_over_twofold_name :
    twofold.check = .ok () ∧
      (twofold.instances twofold.root 0).map Instance.name = ["sim_X.1", "sim_X.2", "sim_X.1"] ∧
      ¬((twofold.instances twofold.root 0).map Instance.name).Nodup := by
  refine ⟨by rfl, by decide +kernel, by decide +kernel⟩

end Study

end StudyFlow
