import StudyFlow.Proofs.Path.Below
import StudyFlow.Proofs.Study.Names

/-!
# Workspaces below the root of a study

A workspace is joined from the root of the study, the name of the step and the labels. A check looks
for blanks in these texts, not for slashes and dots. So an instance of a checked study stays below
the root exactly if its texts lead nowhere else as paths; then its status line shows the way from
the root.
-/

namespace StudyFlow

open Expansion Text

namespace Instance

variable {i : Instance}

/-- The paths that a workspace is joined from below the root. -/
def workspaceParts (ps : ParameterSet) (i : Instance) : List Path :=
  ⟨i.templateName⟩ :: (i.parameterIndex.map fun k => Path.mk (labels ps k)).toList

/-- A workspace that goes on behind the root is shown as the way from there. -/
theorem condensedWorkspace_of_components {root : Path} {rest : List Component}
    (hr : i.studyRoot = some root) (hc : i.workspace.components = root.components ++ rest)
    (hne : rest ≠ []) :
    ∃ way : Path, way.components = rest ∧ i.condensedWorkspace = squashBlanks way.text := by
  obtain ⟨way, hway, hrest⟩ := Path.exists_below? hc
  have htext : way.text ≠ "" := by
    intro he
    rw [← hrest, Path.components_eq, he] at hne
    exact hne rfl
  refine ⟨way, hrest, ?_⟩
  simp [condensedWorkspace, hr, hway, Option.filter, htext]

end Instance

namespace Template

variable {t : Template} {ps : ParameterSet} {root : Path} {now : Millis} {is : List Instance}

/-- An instance has the workspace that is joined from the root and its parts, and is shown relative
to the root. -/
theorem workspace_of_mem_instances (h : t.instances ps root now = .ok is) {i : Instance}
    (hi : i ∈ is) :
    i.workspace = (i.workspaceParts ps).foldl Path.join root ∧ i.studyRoot = some root := by
  rcases mem_instances h hi with ⟨rfl, -⟩ | ⟨k, rfl, -⟩
  · exact ⟨rfl, rfl⟩
  · exact ⟨rfl, rfl⟩

end Template

namespace Study

variable {study : Study} {root : Path} {now : Millis} {i : Instance}

/-- The name of a step of a checked study is not empty. -/
theorem templateName_ne_empty (h : study.check = .ok ()) (hi : i ∈ study.instances root now) :
    i.templateName ≠ "" := by
  obtain ⟨t, ht, hit, htemplate, -⟩ := exists_step_of_mem hi
  obtain ⟨⟨hne, -⟩, -⟩ := (trim_of_checkSteps (check_eq_ok h).1).1 t ht
  rw [htemplate]
  intro he
  rw [he] at hne
  exact hne rfl

/-- An instance of a checked study whose texts are relative as paths has its workspace below the
root exactly if these texts have a step and none of their steps is a `..`. A text that is absolute
takes the workspace away from below a root that is relative. Where a workspace is below the root,
the status line shows the way from the root. -/
theorem workspace_isBelow_iff (h : study.check = .ok ()) (root : Path) (now : Millis) :
    ∀ i ∈ study.instances root now,
      ((∀ part ∈ i.workspaceParts study.parameters, part.isAbsolute = false) →
        (i.workspace.IsBelow root ↔
          (i.workspaceParts study.parameters).flatMap Path.tail ≠ [] ∧
            .up ∉ (i.workspaceParts study.parameters).flatMap Path.tail)) ∧
      ((∃ part ∈ i.workspaceParts study.parameters, part.isAbsolute = true) →
      root.isAbsolute = false →
        ¬i.workspace.IsBelow root) ∧
      (i.workspace.IsBelow root → ∃ way : Path, way.IsBelow .empty ∧
        i.workspace.components = root.components ++ way.components ∧
          ∀ now, (i.status now).workspace = squashBlanks way.text) := by
  intro i hi
  obtain ⟨t, -, hit, -, -⟩ := exists_step_of_mem hi
  obtain ⟨hworkspace, hroot⟩ := Template.workspace_of_mem_instances (instances_of_mem hit) hit
  refine ⟨fun hrelative => ?_, ?_, ?_⟩
  · rw [hworkspace]
    exact Path.isBelow_foldl_join_iff (templateName_ne_empty h hi) hrelative
  · rintro ⟨part, hpart, habs⟩ hrelative hbelow
    have hany : (i.workspaceParts study.parameters).any Path.isAbsolute = true :=
      List.any_eq_true.mpr ⟨part, hpart, habs⟩
    have hsame := hbelow.isAbsolute_eq
    rw [hworkspace, Path.isAbsolute_foldl_join, hany, hrelative] at hsame
    cases hsame
  · rintro ⟨rest, hrest, ⟨n, hn⟩, hsteps⟩
    obtain ⟨way, rfl, hshown⟩ :=
      Instance.condensedWorkspace_of_components hroot hrest (List.ne_nil_of_mem hn)
    exact ⟨way, ⟨way.components, rfl, ⟨n, hn⟩, hsteps⟩, hrest, fun _ => hshown⟩

theorem workspace_isBelow_iff_sampled :
    sampled.check = .ok () ∧
      ∀ i ∈ sampled.instances sampled.root 0,
        (∀ part ∈ i.workspaceParts sampled.parameters, part.isAbsolute = false) ∧
        i.workspace.IsBelow sampled.root ∧
        ∃ way : Path, way.IsBelow .empty ∧
          i.workspace.components = sampled.root.components ++ way.components ∧
            ∀ now, (i.status now).workspace = squashBlanks way.text := by
  have hc : sampled.check = .ok () := by rfl
  refine ⟨hc, fun i hi => ?_⟩
  obtain ⟨hiff, -, hshown⟩ := workspace_isBelow_iff hc sampled.root 0 i hi
  have hparts : ∀ i ∈ sampled.instances sampled.root 0,
      (∀ part ∈ i.workspaceParts sampled.parameters, part.isAbsolute = false) ∧
        (i.workspaceParts sampled.parameters).flatMap Path.tail ≠ [] ∧
          .up ∉ (i.workspaceParts sampled.parameters).flatMap Path.tail := by decide +kernel
  obtain ⟨hrelative, hsteps⟩ := hparts i hi
  have hbelow := (hiff hrelative).mpr hsteps
  exact ⟨hrelative, hbelow, hshown hbelow⟩

/-- A step whose name leads back, and one whose name is absolute. -/
def wandering : Study where
  name := "demo"
  adapter := { shell := "/bin/sh" }
  steps := [⟨"../out", { cmd := "run" }⟩, ⟨"/out", { cmd := "run" }⟩]

/-- The check passes over both. Their workspaces are not below the root. -/
theorem check_passes_over_wandering_names :
    wandering.check = .ok () ∧
      (wandering.instances wandering.root 0).map Instance.workspace = [⟨"demo/../out"⟩, ⟨"/out"⟩] ∧
      ∀ i ∈ wandering.instances wandering.root 0, ¬i.workspace.IsBelow wandering.root := by
  have hworkspaces : (wandering.instances wandering.root 0).map Instance.workspace =
      [⟨"demo/../out"⟩, ⟨"/out"⟩] := by decide +kernel
  refine ⟨by rfl, hworkspaces, fun i hi => ?_⟩
  have hroot : wandering.root.components = [.name "demo"] := by decide +kernel
  have hback : (Path.mk "demo/../out").components = [.name "demo", .up, .name "out"] := by
    decide +kernel
  have hout : (Path.mk "/out").components = [.root, .name "out"] := by decide +kernel
  have hmem := hworkspaces ▸ List.mem_map_of_mem hi
  rintro ⟨rest, hrest, -, hsteps⟩
  rw [hroot] at hrest
  rcases List.mem_cons.mp hmem with he | hmem
  · rw [he, hback] at hrest
    obtain rfl := (List.cons.inj hrest).2
    rcases hsteps .up List.mem_cons_self with h | ⟨n, h⟩
    · cases h
    · cases h
  · rw [List.mem_singleton.mp hmem, hout] at hrest
    cases (List.cons.inj hrest).1

end Study

end StudyFlow
