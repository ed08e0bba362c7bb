import StudyFlow.Proofs.FileTree.Locations
import StudyFlow.Proofs.Path.Components

/-!
# Paths of ordinary components

Without `.` in front and without `..`, the components of a path and the location that it leads to
are the same names. So paths that are apart by their components lead to places of which neither is
below the other.
-/

namespace StudyFlow

def Component.ofName (n : String) : Component := if n = "/" then .root else .name n

namespace Path

variable {p q : Path}

/-- All components are the root or names of entries. -/
def IsOrdinary (p : Path) : Prop := ∀ c ∈ p.components, c = .root ∨ ∃ n, c = .name n

theorem components_eq_stepPieces (p : Path) :
    p.components = lead p.pieces.1 ++ (stepPieces p.pieces.2).map Component.ofPiece := rfl

/-- A piece of an ordinary path that is a step is a name. -/
theorem IsOrdinary.ofPiece (h : p.IsOrdinary) {w : List Char} (hw : w ∈ stepPieces p.pieces.2) :
    Component.ofPiece w = .name (String.ofList w) := by
  have hc := h (Component.ofPiece w)
    (components_eq_stepPieces p ▸ List.mem_append_right _ (List.mem_map_of_mem hw))
  unfold Component.ofPiece at hc ⊢
  split
  · next hup =>
    rw [if_pos hup] at hc
    rcases hc with hc | ⟨n, hc⟩ <;> cases hc
  · rfl

theorem IsOrdinary.no_up (h : p.IsOrdinary) : ".." ∉ p.names := by
  intro hm
  rw [names_eq_pieces] at hm
  rcases List.mem_append.mp hm with hm | hm
  · unfold leadNames at hm
    split at hm
    · exact absurd hm (by decide)
    · cases hm
  · obtain ⟨w, hw, he⟩ := List.mem_map.mp hm
    obtain rfl : w = ['.', '.'] := by rw [← String.toList_ofList (l := w), he]; rfl
    have hstep : ['.', '.'] ∈ stepPieces p.pieces.2 :=
      List.mem_filter.mpr ⟨(List.mem_filter.mp hw).1, by decide⟩
    exact nomatch h.ofPiece hstep

/-- An ordinary path starts at the root, or it has no leading component. -/
theorem IsOrdinary.lead_eq (h : p.IsOrdinary) : lead p.pieces.1 = p.start.map Component.ofName := by
  obtain ⟨hcut, -, ht⟩ := cut_pieces p
  have hc := components_eq_stepPieces p
  by_cases ha : p.isAbsolute = true
  · rw [lead_of_isAbsolute ha, start, if_pos ha]
    rfl
  · rw [start, if_neg ha]
    generalize p.pieces.1 = first at hcut ht hc
    generalize p.pieces.2 = ws at hcut ht hc
    cases hcut with
    | root => exact absurd (isAbsolute_iff.mpr ⟨joinSlash ws, ht.symm⟩) ha
    | here =>
      rcases h .here (hc ▸ List.mem_append_left _ List.mem_cons_self) with he | ⟨n, he⟩ <;> cases he
    | names => rfl

/-- An ordinary path has the names of its location as components. -/
theorem IsOrdinary.components_eq (h : p.IsOrdinary) :
    p.components = p.location.map Component.ofName := by
  obtain ⟨-, hs, -⟩ := cut_pieces p
  rw [components_eq_stepPieces, location_eq_pieces h.no_up, List.map_append, h.lead_eq,
    List.map_map]
  refine congrArg _ (List.map_congr_left fun w hw => ?_)
  have hne : String.ofList w ≠ "/" := by
    intro he
    obtain rfl : w = ['/'] := by rw [← String.toList_ofList (l := w), he]; rfl
    exact hs _ (List.mem_filter.mp hw).1 List.mem_cons_self
  rw [h.ofPiece hw, Function.comp_apply, Component.ofName, if_neg hne]

/-- Ordinary paths that are apart lead to places of which neither is at or below the other. -/
theorem Apart.not_prefix_location (h : p.Apart q) (hp : p.IsOrdinary) (hq : q.IsOrdinary) :
    ¬ p.location <+: q.location ∧ ¬ q.location <+: p.location := by
  constructor
  · intro hpre
    exact h.1 (hp.components_eq ▸ hq.components_eq ▸ hpre.map _)
  · intro hpre
    exact h.2 (hp.components_eq ▸ hq.components_eq ▸ hpre.map _)

end Path

end StudyFlow
