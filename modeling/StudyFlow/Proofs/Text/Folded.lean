import Mathlib.Data.List.Infix
import StudyFlow.Text.Substring

/-!
# Replacing up to the case of letters

A replacement that takes ASCII letters in either case finds a pattern where the text and the pattern
agree once both are written in small letters. Where it finds none it changes nothing; where it finds
one and puts nothing in its place, the text gets shorter.
-/

namespace StudyFlow.Text

variable {same : Char → Char → Bool} {pattern text : List Char}

def fold (cs : List Char) : List Char := cs.map Char.toLower

/-- The text holds the pattern, with letters in either case. -/
def HoldsFolded (text pattern : List Char) : Prop := ∃ w, w <:+: text ∧ fold w = fold pattern

theorem matchesFront_folded_iff (pattern text : List Char) :
    matchesFront sameFolded pattern text = true ↔ ∃ w, w <+: text ∧ fold w = fold pattern := by
  induction pattern generalizing text with
  | nil => exact iff_of_true rfl ⟨[], List.nil_prefix, rfl⟩
  | cons p ps ih =>
    cases text with
    | nil =>
      refine iff_of_false (by simp [matchesFront]) ?_
      rintro ⟨w, hw, hfold⟩
      obtain rfl := List.prefix_nil.mp hw
      cases hfold
    | cons c cs =>
      rw [matchesFront, Bool.and_eq_true, ih, sameFolded, beq_iff_eq]
      constructor
      · rintro ⟨hc, w, hw, hfold⟩
        exact ⟨c :: w, List.cons_prefix_cons.mpr ⟨rfl, hw⟩, congrArg₂ List.cons hc.symm hfold⟩
      · rintro ⟨w, hw, hfold⟩
        cases w with
        | nil => cases hfold
        | cons d w =>
          obtain ⟨rfl, hrest⟩ := List.cons_prefix_cons.mp hw
          obtain ⟨hd, hfold⟩ := List.cons.inj hfold
          exact ⟨hd.symm, w, hrest, hfold⟩

theorem holdsFolded_nil_iff : HoldsFolded [] pattern ↔ pattern = [] := by
  constructor
  · rintro ⟨w, hw, hfold⟩
    obtain rfl := List.infix_nil.mp hw
    exact List.map_eq_nil_iff.mp hfold.symm
  · rintro rfl
    exact ⟨[], List.infix_rfl, rfl⟩

theorem holdsFolded_cons_iff {c : Char} {cs : List Char} :
    HoldsFolded (c :: cs) pattern ↔ matchesFront sameFolded pattern (c :: cs) = true ∨
    HoldsFolded cs pattern := by
  rw [matchesFront_folded_iff]
  constructor
  · rintro ⟨w, hw, hfold⟩
    rcases List.infix_cons_iff.mp hw with hw | hw
    · exact .inl ⟨w, hw, hfold⟩
    · exact .inr ⟨w, hw, hfold⟩
  · rintro (⟨w, hw, hfold⟩ | ⟨w, hw, hfold⟩)
    · exact ⟨w, hw.isInfix, hfold⟩
    · exact ⟨w, List.infix_cons hw, hfold⟩

/-- What is not found is not replaced. -/
theorem substitute_of_not_holdsFolded (by_ : List Char) (h : ¬HoldsFolded text pattern) :
    substitute sameFolded pattern by_ 0 text = text := by
  induction text with
  | nil => rfl
  | cons c cs ih =>
    rw [holdsFolded_cons_iff, not_or] at h
    rw [substitute, if_neg h.1, ih h.2]

/-- Where nothing is put in the place of a pattern, no text gets longer. -/
theorem length_substitute_nil_le (n : Nat) (text : List Char) :
    (substitute same pattern [] n text).length ≤ text.length := by
  induction text generalizing n with
  | nil => cases n <;> exact Nat.le_refl _
  | cons c cs ih =>
    cases n with
    | zero =>
      rw [substitute]
      split
      · exact Nat.le_succ_of_le (ih _)
      · exact Nat.succ_le_succ (ih 0)
    | succ n => exact Nat.le_succ_of_le (ih n)

/-- A pattern that is found and left out makes the text shorter. -/
theorem length_substitute_nil_lt (hne : pattern ≠ []) (h : HoldsFolded text pattern) :
    (substitute sameFolded pattern [] 0 text).length < text.length := by
  induction text with
  | nil => exact absurd (holdsFolded_nil_iff.mp h) hne
  | cons c cs ih =>
    rw [substitute]
    split
    · exact Nat.lt_succ_of_le (length_substitute_nil_le _ cs)
    · next hfront => exact Nat.succ_lt_succ (ih ((holdsFolded_cons_iff.mp h).resolve_left hfront))

/-! ## Texts -/

theorem equalFolded_iff {a b : String} : equalFolded a b = true ↔ fold a.toList = fold b.toList :=
  beq_iff_eq

end StudyFlow.Text
