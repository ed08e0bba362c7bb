import Mathlib.Data.List.Infix
import StudyFlow.Text.Substring

/-!
# What a search finds

A text contains a pattern exactly if the characters of the pattern stand somewhere in the text in a
row.
-/

namespace StudyFlow.Text

theorem matchesFront_iff (pattern text : List Char) :
    matchesFront (· == ·) pattern text = true ↔ pattern <+: text := by
  induction pattern generalizing text with
  | nil => simp [matchesFront]
  | cons p ps ih =>
    cases text with
    | nil => simp [matchesFront]
    | cons c cs =>
      rw [matchesFront, Bool.and_eq_true, ih, beq_iff_eq, List.cons_prefix_cons]

theorem occurs_iff (pattern text : List Char) : occurs pattern text = true ↔ pattern <:+: text := by
  induction text with
  | nil => simp [occurs]
  | cons c cs ih => rw [occurs, Bool.or_eq_true, matchesFront_iff, ih, List.infix_cons_iff]

theorem contains_iff (text pattern : String) :
    contains text pattern = true ↔ pattern.toList <:+: text.toList :=
  occurs_iff _ _

end StudyFlow.Text
