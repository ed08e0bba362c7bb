import Mathlib.Data.List.Nodup
import StudyFlow.Proofs.Expansion.Instances
import StudyFlow.Proofs.Path.Components
import StudyFlow.Status.File

/-!
# The workspaces of an expansion

Expansion keeps the names of its instances apart. The labels in these names are also the last part
of the paths of their workspaces, where slashes and dots count for something else than in a name. So
workspaces are apart as far as the steps of the labels are, which those of ordinary names always
are.
-/

namespace StudyFlow

open Expansion

/-- The label at an index stands below the directory of the step. -/
def Expansion.RelativeLabel (ps : ParameterSet) (k : Nat) : Prop :=
  (Path.mk (labels ps k)).isAbsolute = false

namespace Template

variable {t : Template} {ps : ParameterSet} {root : Path} {now : Millis}
  {is : List Instance} {j k : Nat}

/-- The instance at a place of an expansion is the one of that index. -/
theorem getElem?_expand (h : t.expand ps root now = .ok (some is)) {i : Instance}
    (hi : is[k]? = some i) :
    i = instanceAt t ps root now k := by
  obtain ⟨count, -, hat⟩ := expand_eq_some h
  obtain ⟨rfl, -, -⟩ := instancesAt_eq_ok hat
  rw [List.getElem?_map, Option.map_eq_some_iff] at hi
  obtain ⟨m, hm, rfl⟩ := hi
  obtain ⟨hk, hrange⟩ := List.getElem?_eq_some_iff.mp hm
  rw [List.getElem_range] at hrange
  rw [hrange]

/-- Different instances of an expansion have different labels. -/
theorem labels_ne_of_expand (h : t.expand ps root now = .ok (some is)) (hj : j < is.length)
    (hk : k < is.length) (hne : j ≠ k) : labels ps j ≠ labels ps k := by
  obtain ⟨count, -, hat⟩ := expand_eq_some h
  obtain ⟨rfl, -, hnodup⟩ := instancesAt_eq_ok hat
  rw [List.length_map, List.length_range] at hj hk
  intro he
  refine hne (List.inj_on_of_nodup_map hnodup (List.mem_range.mpr hj) (List.mem_range.mpr hk) ?_)
  rw [nameAt, nameAt, he]

/-- The workspace at an index leads from the directory of the step along the label. -/
theorem components_workspaceAt (hroot : root.text ≠ "") (hl : RelativeLabel ps k) :
    (workspaceAt t ps root k).components = (root.child t.name).components ++
      Path.tail ⟨labels ps k⟩ :=
  Path.components_join (Path.join_text_ne_empty (Or.inl hroot)) hl

/-- Two instances of an expansion have workspaces that are apart exactly if the steps of their
labels are; that holds if both labels are names of entries. Below workspaces that are apart there is
no common place. -/
theorem workspaces_apart (hroot : root.text ≠ "") (h : t.expand ps root now = .ok (some is))
    {a b : Instance} (ha : is[j]? = some a) (hb : is[k]? = some b) (hne : j ≠ k) :
    (RelativeLabel ps j → RelativeLabel ps k →
      (a.workspace.Apart b.workspace ↔
        ¬Path.tail ⟨labels ps j⟩ <+: Path.tail ⟨labels ps k⟩ ∧
          ¬Path.tail ⟨labels ps k⟩ <+: Path.tail ⟨labels ps j⟩)) ∧
    (IsStepName (labels ps j) → IsStepName (labels ps k) → a.workspace.Apart b.workspace) ∧
    (a.workspace.Apart b.workspace → ∀ p q : Path, p.isAbsolute = false → q.isAbsolute = false →
      (a.workspace.join p).components ≠ (b.workspace.join q).components) := by
  have hj := (List.getElem?_eq_some_iff.mp ha).1
  have hk := (List.getElem?_eq_some_iff.mp hb).1
  obtain rfl := getElem?_expand h ha
  obtain rfl := getElem?_expand h hb
  have hapart : RelativeLabel ps j → RelativeLabel ps k →
      ((workspaceAt t ps root j).Apart (workspaceAt t ps root k) ↔
        ¬Path.tail ⟨labels ps j⟩ <+: Path.tail ⟨labels ps k⟩ ∧
          ¬Path.tail ⟨labels ps k⟩ <+: Path.tail ⟨labels ps j⟩) := by
    intro hlj hlk
    rw [Path.Apart, components_workspaceAt hroot hlj, components_workspaceAt hroot hlk,
      List.prefix_append_right_inj, List.prefix_append_right_inj]
  have htext : ∀ m, (workspaceAt t ps root m).text ≠ "" := fun m =>
    Path.join_text_ne_empty (Or.inl (Path.join_text_ne_empty (Or.inl hroot)))
  refine ⟨hapart, ?_, fun hws p q hp hq => hws.join (htext j) (htext k) hp hq⟩
  intro hnj hnk
  have hdiffer : Component.name (labels ps j) ≠ .name (labels ps k) := fun he =>
    labels_ne_of_expand h hj hk hne (Component.name.inj he)
  refine (hapart (Path.isAbsolute_of_no_slash hnj.no_slash)
    (Path.isAbsolute_of_no_slash hnk.no_slash)).mpr ?_
  rw [Path.tail_of_isStepName hnj, Path.tail_of_isStepName hnk]
  constructor
  · intro hpre
    exact hdiffer (List.cons_prefix_cons.mp hpre).1
  · intro hpre
    exact hdiffer (List.cons_prefix_cons.mp hpre).1.symm

/-- The instance of a step for a value that is its label as well. -/
def labelled (values : List String) (k : Nat) : Instance :=
  instanceAt (Template.new "sim" "run $(X)") [⟨"X", "%%", values⟩] ⟨"study"⟩ 0 k

theorem workspaces_apart_labelled :
    (Path.mk "study").text ≠ "" ∧
      (Template.new "sim" "run $(X)").expand [⟨"X", "%%", ["a", "b"]⟩] ⟨"study"⟩ 0 =
        .ok (some [labelled ["a", "b"] 0, labelled ["a", "b"] 1]) ∧
      IsStepName (labels [⟨"X", "%%", ["a", "b"]⟩] 0) ∧
      IsStepName (labels [⟨"X", "%%", ["a", "b"]⟩] 1) ∧
      (labelled ["a", "b"] 0).workspace.Apart (labelled ["a", "b"] 1).workspace ∧
      (statusPath (labelled ["a", "b"] 0).workspace).components ≠
        (statusPath (labelled ["a", "b"] 1).workspace).components := by
  have hroot : (Path.mk "study").text ≠ "" := by decide
  have he : (Template.new "sim" "run $(X)").expand [⟨"X", "%%", ["a", "b"]⟩] ⟨"study"⟩ 0 =
      .ok (some [labelled ["a", "b"] 0, labelled ["a", "b"] 1]) := by rfl
  have ha : IsStepName (labels [⟨"X", "%%", ["a", "b"]⟩] 0) :=
    ⟨⟨by decide +kernel, by decide +kernel⟩, by decide +kernel, by decide +kernel⟩
  have hb : IsStepName (labels [⟨"X", "%%", ["a", "b"]⟩] 1) :=
    ⟨⟨by decide +kernel, by decide +kernel⟩, by decide +kernel, by decide +kernel⟩
  obtain ⟨-, hnames, hbelow⟩ := workspaces_apart (j := 0) (k := 1) hroot he rfl rfl (by decide)
  exact ⟨hroot, he, ha, hb, hnames ha hb, hbelow (hnames ha hb) ⟨statusFileName⟩
    ⟨statusFileName⟩ rfl rfl⟩

/-- With a slash at the end of one of two labels that are the same otherwise, the names differ and
the workspaces are one directory. -/
theorem expand_shares_workspace :
    (Template.new "sim" "run $(X)").expand [⟨"X", "%%", ["a", "a/"]⟩] ⟨"study"⟩ 0 =
        .ok (some [labelled ["a", "a/"] 0, labelled ["a", "a/"] 1]) ∧
      (labelled ["a", "a/"] 0).name ≠ (labelled ["a", "a/"] 1).name ∧
      (labelled ["a", "a/"] 0).workspace.components =
        (labelled ["a", "a/"] 1).workspace.components ∧
      ¬(labelled ["a", "a/"] 0).workspace.Apart (labelled ["a", "a/"] 1).workspace := by
  have hc : (labelled ["a", "a/"] 0).workspace.components =
      (labelled ["a", "a/"] 1).workspace.components := by
    decide +kernel
  have hpre := List.prefix_refl (labelled ["a", "a/"] 0).workspace.components
  exact ⟨by rfl, by decide +kernel, hc, fun h => h.1 (hpre.trans (hc ▸ hpre))⟩

end Template

end StudyFlow
