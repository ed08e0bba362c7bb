import StudyFlow.Proofs.FileTree.Files
import StudyFlow.Proofs.Path.Parents

/-!
# Where a path leads

A path leads to one location, whatever the tree holds: following it either stops at a fault or comes
to that location. The parent of a path leads to a place on the way.
-/

namespace StudyFlow

open FileTree

namespace Path

/-! ## The location of a path -/

/-- One name further from a location. -/
def stepFrom (l : Location) (n : String) : Location :=
  if n == "." then l else if n == ".." then above l else l ++ [n]

def location (p : Path) : Location := p.names.foldl stepFrom p.start

/-- The path comes through the location on its way, or ends there. -/
def Passes (p : Path) (l : Location) : Prop := ∃ ns, ns <+: p.names ∧ ns.foldl stepFrom p.start = l

theorem passes_location (p : Path) : p.Passes p.location := ⟨p.names, List.prefix_refl _, rfl⟩

theorem prefix_foldl_stepFrom {ns : List String} (h : ".." ∉ ns) (l : Location) :
    l <+: ns.foldl stepFrom l := by
  induction ns generalizing l with
  | nil => exact List.prefix_refl _
  | cons n ns ih =>
    have hu : n ≠ ".." := fun he => h (he ▸ List.mem_cons_self)
    have hstep : l <+: stepFrom l n := by
      by_cases hh : n = "."
      · simp [stepFrom, hh]
      · simp [stepFrom, hh, hu]
    exact hstep.trans (ih (fun hm => h (List.mem_cons_of_mem _ hm)) _)

/-- A path that never goes up passes the places above its location only. -/
theorem Passes.prefix_location {p : Path} {l : Location} (h : p.Passes l) (hu : ".." ∉ p.names) :
    l <+: p.location := by
  obtain ⟨ns, ⟨ms, hn⟩, rfl⟩ := h
  rw [location, ← hn, List.foldl_append]
  exact prefix_foldl_stepFrom (fun hm => hu (hn ▸ List.mem_append_right _ hm)) _

/-- Such a path does not lead through what is in the directory at its end. -/
theorem not_passes_concat {p : Path} (hu : ".." ∉ p.names) (n : String) :
    ¬ p.Passes (p.location ++ [n]) := by
  intro h
  have hlen := (h.prefix_location hu).length_le
  rw [List.length_append, List.length_singleton] at hlen
  omega

theorem stepFrom_name {n : String} (hh : n ≠ ".") (hu : n ≠ "..") (l : Location) :
    stepFrom l n = l ++ [n] := by
  simp [stepFrom, hh, hu]

end Path

namespace FileTree

variable {t : FileTree} {p ws : Path} {l m dir : Location} {n : String}

theorem follow_location {ns : List String} (h : t.follow l ns = .ok m) :
    ns.foldl Path.stepFrom l = m := by
  induction ns generalizing l with
  | nil => simpa [follow] using h
  | cons n ns ih =>
    rw [follow] at h
    rw [List.foldl_cons, Path.stepFrom]
    split at h
    · cases h
    · split at h
      · next hn =>
        rw [if_pos hn]
        exact ih h
      · next hn =>
        rw [if_neg hn]
        split at h
        · next hu =>
          rw [if_pos hu]
          exact ih h
        · next hu =>
          rw [if_neg hu]
          split at h
          · cases h
          · split at h
            · cases h
            · exact ih h

theorem Sits.location (h : t.Sits p dir n) : p.location = dir ++ [n] := by
  obtain ⟨ns, hn, hf⟩ := h.leads
  rw [Path.location, hn, List.foldl_append, follow_location hf]
  exact Path.stepFrom_name h.ne_here h.ne_up dir

end FileTree

namespace Path

/-! ## The location of a parent -/

theorem Passes.of_parent? {p q : Path} (h : p.parent? = some q) {l : Location} (hq : q.Passes l) :
    p.Passes l := by
  obtain ⟨ns, hn, hl⟩ := hq
  exact ⟨ns, hn.trans (parent?_names h), parent?_start h ▸ hl⟩

/-- Without `..` the steps of a path are the names behind its start. -/
theorem foldl_stepFrom_eq {ns : List String} (h : ".." ∉ ns) (l : Location) :
    ns.foldl stepFrom l = l ++ ns.filter (· != ".") := by
  induction ns generalizing l with
  | nil => exact (List.append_nil l).symm
  | cons n ns ih =>
    have hu : n ≠ ".." := fun he => h (he ▸ List.mem_cons_self)
    rw [List.foldl_cons, ih fun hm => h (List.mem_cons_of_mem _ hm)]
    by_cases hh : n = "."
    · simp [stepFrom, hh]
    · simp [stepFrom, hh, hu]

theorem location_eq_pieces {p : Path} (h : ".." ∉ p.names) :
    p.location = p.start ++ (stepPieces p.pieces.2).map String.ofList := by
  rw [location, foldl_stepFrom_eq h, names_eq_pieces, filter_names_of_pieces]

/-- A path leads one name further than its parent, if it leads anywhere. -/
theorem parent?_location {p q : Path} (h : p.parent? = some q) (hu : ".." ∉ p.names) :
    p.location = p.start ∨ ∃ n, n ≠ "." ∧ p.location = q.location ++ [n] := by
  have huq : ".." ∉ q.names := fun hm => hu ((parent?_names h).subset hm)
  rw [location_eq_pieces hu]
  rcases parent?_cases h with ⟨hk, hq⟩ | ⟨hk, -, -⟩
  · obtain ⟨w, hidle, hw⟩ := stepPieces_dropLastStep hk
    refine .inr ⟨String.ofList w, ?_, ?_⟩
    · intro he
      have hdot : w = ['.'] := by rw [← String.toList_ofList (l := w), he]; rfl
      rw [hdot] at hidle
      cases hidle
    · rw [location, parent?_start h, foldl_stepFrom_eq huq, names_of_dropLastStep hq,
        filter_names_of_pieces, hw, List.map_append, List.append_assoc]
      rfl
  · rw [stepPieces_of_trimEnd_eq_nil hk]
    exact .inl (List.append_nil _)

theorem location_of_parent?_eq_none {p : Path} (h : p.parent? = none) (hu : ".." ∉ p.names) :
    p.location = p.start := by
  rw [location_eq_pieces hu, stepPieces_of_trimEnd_eq_nil (trimEnd_of_parent?_eq_none h)]
  exact List.append_nil _

/-- A parent that ends with a `.` leads nowhere. -/
theorem EndsHere.location_parent? {p q : Path} (he : q.EndsHere) (h : p.parent? = some q)
    (hu : ".." ∉ p.names) : q.location = q.start := by
  have huq : ".." ∉ q.names := fun hm => hu ((parent?_names h).subset hm)
  rw [location, foldl_stepFrom_eq huq, he.parent? h]
  exact List.append_nil _

end Path

end StudyFlow
