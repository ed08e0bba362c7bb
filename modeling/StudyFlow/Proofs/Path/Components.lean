import StudyFlow.Proofs.FileTree.Routes

/-!
# Components of joined paths

A relative path below another one adds its own steps to the components of the first. So the
components tell whether one path leads below another, whatever slashes and dots their texts are
written with.
-/

namespace StudyFlow

/-- A name that is one component of a path, and leads from a directory to an entry of it. -/
structure IsStepName (n : String) : Prop extends IsPlainName n where
  ne_here : n ≠ "."
  ne_up : n ≠ ".."

namespace Path

def leadOf : List Char → List Component
  | '/' :: _ => [.root]
  | ['.'] => [.here]
  | '.' :: '/' :: _ => [.here]
  | _ => []

/-- The steps of a text, without its leading component. -/
def stepsOf (cs : List Char) : List Component :=
  ((splitSlash cs).filter fun w => !isIdlePiece w).map Component.ofPiece

/-- The steps that a relative path adds to a directory. -/
def tail (p : Path) : List Component := stepsOf p.text.toList

theorem stepsOf_cons_slash (cs : List Char) : stepsOf ('/' :: cs) = stepsOf cs := by
  rw [stepsOf, splitSlash_cons_slash]
  rfl

theorem stepsOf_append_slash (xs ys : List Char) :
    stepsOf (xs ++ '/' :: ys) = stepsOf xs ++ stepsOf ys := by
  rw [stepsOf, splitSlash_append_slash, List.filter_append, List.map_append]
  rfl

theorem components_eq (p : Path) : p.components = leadOf p.text.toList ++
    stepsOf p.text.toList := by
  unfold components pieces
  generalize p.text.toList = cs
  split
  · next rest =>
    rw [stepsOf_cons_slash]
    rfl
  · rfl
  · next rest =>
    have hdot : stepsOf ('.' :: '/' :: rest) = stepsOf rest := stepsOf_append_slash ['.'] rest
    rw [hdot]
    rfl
  · next h₁ h₂ h₃ =>
    have hlead : leadOf cs = [] := by
      unfold leadOf
      split
      · next rest => exact absurd rfl (h₁ rest)
      · exact absurd rfl h₂
      · next rest => exact absurd rfl (h₃ rest)
      · rfl
    rw [hlead]
    rfl

/-- What stands behind a slash has no influence on the leading component. -/
theorem leadOf_append_slash {xs : List Char} (h : xs ≠ []) (ys : List Char) :
    leadOf (xs ++ '/' :: ys) = leadOf xs := by
  obtain ⟨c, xs, rfl⟩ := List.exists_cons_of_ne_nil h
  by_cases hc : c = '/'
  · subst hc
    rfl
  · by_cases hd : c = '.'
    · subst hd
      cases xs with
      | nil => rfl
      | cons d xs =>
        by_cases hs : d = '/'
        · subst hs
          rfl
        · simp [leadOf, hs]
    · simp [leadOf, hc, hd]

/-! ## Joined paths -/

theorem join_text_ne_empty {p q : Path} (h : p.text ≠ "" ∨ q.text ≠ "") : (p.join q).text ≠ "" := by
  unfold join
  split
  · next ha =>
    intro he
    unfold isAbsolute at ha
    rw [he] at ha
    exact absurd ha (by decide)
  · split
    · intro he
      obtain ⟨hp, hq⟩ := String.append_eq_empty_iff.mp he
      exact h.elim (absurd hp) (absurd hq)
    · intro he
      have hs := (String.append_eq_empty_iff.mp (String.append_eq_empty_iff.mp he).1).2
      exact absurd hs (by decide)

/-- The text of a relative path stands behind a slash in the joined path. -/
theorem join_text {p q : Path} (hp : p.text ≠ "") (hq : q.isAbsolute = false) :
    ∃ front : List Char, (p.join q).text.toList = front ++ '/' :: q.text.toList ∧
      (p.text.toList = front ∨ p.text.toList = front ++ ['/']) := by
  unfold join
  rw [hq]
  simp only [Bool.false_eq_true, ↓reduceIte]
  split
  · next hc =>
    have hl : p.text.toList.getLast? = some '/' := by simpa [hp] using hc
    obtain ⟨front, hfront⟩ := List.getLast?_eq_some_iff.mp hl
    exact ⟨front, by simp [hfront], Or.inr hfront⟩
  · exact ⟨p.text.toList, by simp, Or.inl rfl⟩

/-- A relative path adds its steps. -/
theorem components_join {p q : Path} (hp : p.text ≠ "") (hq : q.isAbsolute = false) :
    (p.join q).components = p.components ++ q.tail := by
  obtain ⟨front, ht, hf⟩ := join_text hp hq
  have hfront : leadOf (front ++ '/' :: q.text.toList) = leadOf p.text.toList ∧
      stepsOf front = stepsOf p.text.toList := by
    rcases hf with hf | hf
    · have hne : front ≠ [] := by
        rw [← hf]
        simpa using hp
      rw [hf, leadOf_append_slash hne]
      exact ⟨rfl, rfl⟩
    · rw [hf, stepsOf_append_slash]
      refine ⟨?_, (List.append_nil _).symm⟩
      by_cases hne : front = []
      · subst hne
        rfl
      · rw [leadOf_append_slash hne, leadOf_append_slash hne]
  rw [components_eq, components_eq, ht, stepsOf_append_slash, hfront.1, hfront.2, List.append_assoc]
  rfl

theorem tail_of_isStepName {n : String} (h : IsStepName n) : tail ⟨n⟩ = [.name n] := by
  have hn : n.toList ≠ [] := by simpa using h.ne_empty
  have hidle : isIdlePiece n.toList = false := by
    have hdot : n.toList ≠ ['.'] := fun he => h.ne_here (String.toList_inj.mp he)
    simp [isIdlePiece, hn, hdot]
  have hup : (n.toList == ['.', '.']) = false :=
    beq_eq_false_iff_ne.mpr fun he => h.ne_up (String.toList_inj.mp he)
  have hnil : splitSlash [] = [] ++ [[]] := rfl
  have hsplit : splitSlash n.toList = [n.toList] := splitSlash_append h.no_slash hnil
  simp [tail, stepsOf, hsplit, hidle, Component.ofPiece, hup]

theorem isAbsolute_of_no_slash {n : String} (h : '/' ∉ n.toList) :
    (Path.mk n).isAbsolute = false := by
  unfold isAbsolute
  split
  · next rest he =>
    have hm : '/' ∈ n.toList := by
      rw [show n.toList = '/' :: rest from he]
      exact List.mem_cons_self
    exact absurd hm h
  · rfl

/-- By their components, neither path leads to the other one or to a place below it. -/
def Apart (p q : Path) : Prop := ¬p.components <+: q.components ∧ ¬q.components <+: p.components

/-- Whatever lies below one of two paths that are apart does not lie below the other. -/
theorem Apart.join {p q a b : Path} (h : p.Apart q) (hp : p.text ≠ "") (hq : q.text ≠ "")
    (ha : a.isAbsolute = false) (hb : b.isAbsolute = false) :
    (p.join a).components ≠ (q.join b).components := by
  intro he
  rw [components_join hp ha, components_join hq hb] at he
  have hleft : p.components <+: q.components ++ b.tail := he ▸ List.prefix_append _ _
  rcases List.prefix_or_prefix_of_prefix hleft (List.prefix_append _ _) with hpre | hpre
  · exact h.1 hpre
  · exact h.2 hpre

end Path

end StudyFlow
