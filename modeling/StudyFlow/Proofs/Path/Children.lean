import StudyFlow.Proofs.Path.Components
import StudyFlow.Proofs.Path.Parents

/-!
# The parent of a child

The parent of a child leads where the directory does, by a text that may be shorter: what is left
out are slashes and `.` components at the end.
-/

namespace StudyFlow.Path

variable {p q : Path} {n : String}

theorem utf8ByteSize_le_of_isPrefix {a b : String} (h : a.toList <+: b.toList) :
    a.utf8ByteSize ≤ b.utf8ByteSize := by
  obtain ⟨rest, hrest⟩ := h
  have hb : b = a ++ String.ofList rest := by
    rw [← String.toList_inj, ← hrest]
    simp
  rw [hb, String.utf8ByteSize_append]
  exact Nat.le_add_right _ _

/-- A child is as long as its directory and its name, with a slash between them at most. -/
theorem utf8ByteSize_child_le (p : Path) (n : String) :
    (p.child n).text.utf8ByteSize ≤ p.text.utf8ByteSize + (1 + n.utf8ByteSize) := by
  unfold child join
  split
  · exact Nat.le_trans (Nat.le_add_left _ 1) (Nat.le_add_left _ _)
  · split
    · rw [String.utf8ByteSize_append]
      dsimp only
      omega
    · have hslash : "/".utf8ByteSize = 1 := rfl
      rw [String.utf8ByteSize_append, String.utf8ByteSize_append, hslash]
      dsimp only
      omega

theorem mem_text_child {c : Char} (hn : '/' ∉ n.toList) (h : c ∈ (p.child n).text.toList) :
    c ∈ p.text.toList ∨ c = '/' ∨ c ∈ n.toList := by
  obtain ⟨front, htext, hcases⟩ := child_text p hn
  rw [htext, List.mem_append] at h
  rcases h with h | h
  · rcases hcases with ⟨-, rfl⟩ | ⟨rfl, -⟩ | ⟨rest, hp, rfl⟩
    · cases h
    · rcases List.mem_append.mp h with h | h
      · exact .inl h
      · exact .inr (.inl (List.mem_singleton.mp h))
    · exact .inl (hp ▸ h)
  · exact .inr (.inr h)

/-- Where the system takes a child, it takes its directory. -/
theorem Walkable.of_child (h : (p.child n).Walkable) (hn : '/' ∉ n.toList) (hp : p.text ≠ "") :
    p.Walkable := by
  have hfront : p.text.toList <+: (p.child n).text.toList := by
    obtain ⟨front, htext, hcases⟩ := child_text p hn
    rw [htext]
    rcases hcases with ⟨he, -⟩ | ⟨rfl, -⟩ | ⟨rest, hrest, rfl⟩
    · exact absurd he hp
    · rw [List.append_assoc]
      exact List.prefix_append _ _
    · exact hrest ▸ List.prefix_append _ _
  exact ⟨hp, fun hz => h.no_zero (hfront.subset hz),
    Nat.le_trans (utf8ByteSize_le_of_isPrefix hfront) h.size⟩

/-- The steps of a child are those of the directory, and its name. -/
theorem stepPieces_child (p : Path) (hn : IsStepName n) :
    (stepPieces (p.child n).pieces.2).map String.ofList = p.names.filter (· != ".") ++ [n] := by
  rw [← filter_names_of_pieces (p.child n).pieces.1, ← names_eq_pieces,
    names_child p hn.toIsPlainName, List.filter_append]
  simp [hn.ne_here]

/-- The last piece of a child that is a step is its name. -/
theorem trimEnd_pieces_child (p : Path) (hn : IsStepName n) :
    ∃ vs, trimEnd (p.child n).pieces.2 = vs ++ [n.toList] := by
  have hsteps := stepPieces_child p hn
  have hne : trimEnd (p.child n).pieces.2 ≠ [] := by
    intro he
    rw [stepPieces_of_trimEnd_eq_nil he] at hsteps
    simp at hsteps
  obtain ⟨vs, w, hw, hidle⟩ := trimEnd_eq_concat hne
  have hlast : stepPieces [w] = [w] := by simp [stepPieces, hidle]
  rw [← stepPieces_trimEnd, hw, stepPieces, List.filter_append, ← stepPieces, ← stepPieces, hlast,
    List.map_append] at hsteps
  obtain ⟨-, hname⟩ := List.append_inj' hsteps rfl
  have hname : String.ofList w = n := List.singleton_inj.mp hname
  exact ⟨vs, by rw [hw, ← hname, String.toList_ofList]⟩

/-- A child has a parent. -/
theorem exists_parent?_child (p : Path) (hn : IsStepName n) :
    ∃ q, (p.child n).parent? = some q := by
  obtain ⟨vs, hvs⟩ := trimEnd_pieces_child p hn
  cases hq : (p.child n).parent? with
  | some q => exact ⟨q, rfl⟩
  | none =>
    rw [trimEnd_of_parent?_eq_none hq] at hvs
    simp at hvs

/-- The parent of a child is written with the first pieces of it. -/
theorem text_of_parent?_child (hn : IsStepName n) (h : (p.child n).parent? = some q) :
    trimEnd (p.child n).pieces.2 ≠ [] ∧
      q.text.toList = (p.child n).pieces.1 ++ joinSlash (dropLastStep (p.child n).pieces.2) := by
  obtain ⟨vs, hvs⟩ := trimEnd_pieces_child p hn
  exact (parent?_cases h).resolve_right fun hc => by simp [hvs] at hc

/-- The names of a directory are those of the parent of a child, and `.` any number of times. -/
theorem names_of_parent?_child (hn : IsStepName n) (h : (p.child n).parent? = some q) :
    ∃ dots, p.names = q.names ++ dots ∧ ∀ k ∈ dots, k = "." := by
  obtain ⟨hne, htext⟩ := text_of_parent?_child hn h
  have hfront := parent?_names h
  rw [names_child p hn.toIsPlainName] at hfront
  -- the same steps are left in both
  have hsame : p.names.filter (· != ".") = q.names.filter (· != ".") := by
    obtain ⟨w, hidle, hw⟩ := stepPieces_dropLastStep hne
    have hsteps := stepPieces_child p hn
    rw [hw, List.map_append] at hsteps
    rw [names_of_dropLastStep htext, filter_names_of_pieces]
    exact (List.append_inj' hsteps rfl).1.symm
  rcases List.prefix_concat_iff.mp hfront with he | ⟨dots, hdots⟩
  · rw [he, List.filter_append] at hsame
    simp [hn.ne_here] at hsame
  · refine ⟨dots, hdots.symm, fun k hk => ?_⟩
    rw [← hdots, List.filter_append] at hsame
    have hnone : dots.filter (· != ".") = [] :=
      List.append_cancel_left (hsame.trans (List.append_nil _).symm)
    simpa using List.filter_eq_nil_iff.mp hnone k hk

/-- A child of the parent is not longer. -/
theorem utf8ByteSize_child_parent?_le (hn : IsStepName n) (h : (p.child n).parent? = some q) :
    (q.child n).text.utf8ByteSize ≤ (p.child n).text.utf8ByteSize := by
  obtain ⟨vs, hvs⟩ := trimEnd_pieces_child p hn
  obtain ⟨-, htext⟩ := text_of_parent?_child hn h
  obtain ⟨hcut, -, hwhole⟩ := cut_pieces (p.child n)
  have hdrop : dropLastStep (p.child n).pieces.2 <+: vs := by
    rw [dropLastStep, hvs, List.dropLast_concat]
    exact isPrefix_trimEnd vs
  have hkept : (p.child n).pieces.1 ++ joinSlash (vs ++ [n.toList]) <+:
      (p.child n).text.toList := by
    rw [hwhole, List.prefix_append_right_inj]
    exact isPrefix_joinSlash (hvs ▸ isPrefix_trimEnd _)
  by_cases hv : vs = []
  · -- nothing but the name is behind the leading component
    subst hv
    obtain rfl : q = ⟨String.ofList (p.child n).pieces.1⟩ := by
      rw [List.prefix_nil.mp hdrop, joinSlash, List.append_nil] at htext
      exact congrArg Path.mk (by rw [← htext, String.ofList_toList])
    refine utf8ByteSize_le_of_isPrefix (List.IsPrefix.trans ?_ hkept)
    have hrelative := isAbsolute_of_no_slash hn.no_slash
    generalize (p.child n).pieces = pieces at *
    obtain ⟨first, ws⟩ := pieces
    cases hcut with
    | root => simp [child, join, hrelative, joinSlash]
    | names => simp [child, join, hrelative, joinSlash]
    | here =>
      have hfirst : [n.toList] <+: _ := hvs ▸ isPrefix_trimEnd _
      obtain ⟨hempty, -⟩ := List.cons_prefix_cons.mp hfirst
      exact absurd (String.toList_eq_nil_iff.mp hempty) hn.ne_empty
  · rw [joinSlash_concat hv, ← List.append_assoc] at hkept
    have hlong : String.ofList ((p.child n).pieces.1 ++ joinSlash vs) ++ ("/" ++ n) =
        String.ofList ((p.child n).pieces.1 ++ joinSlash vs ++ '/' :: n.toList) := by
      rw [← String.toList_inj]
      simp
    have hsize := utf8ByteSize_le_of_isPrefix (by rwa [String.toList_ofList] : (String.ofList
      ((p.child n).pieces.1 ++ joinSlash vs ++ '/' :: n.toList)).toList <+: (p.child n).text.toList)
    rw [← hlong, String.utf8ByteSize_append, String.utf8ByteSize_append] at hsize
    have hshort : q.text.utf8ByteSize ≤
        (String.ofList ((p.child n).pieces.1 ++ joinSlash vs)).utf8ByteSize := by
      apply utf8ByteSize_le_of_isPrefix
      rw [htext, String.toList_ofList, List.prefix_append_right_inj]
      exact isPrefix_joinSlash hdrop
    have hslash : "/".utf8ByteSize = 1 := rfl
    have hchild := q.utf8ByteSize_child_le n
    omega

end StudyFlow.Path
