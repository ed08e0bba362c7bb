import StudyFlow.Proofs.Text.Search

/-!
# Occurrences of a pattern

How often a pattern stands in a text, and when the beginning of a text does not count for that.
-/

namespace StudyFlow.Text

variable {pattern xs ys rest : List Char} {c : Char}

/-- How many places there are in a text at which a pattern stands. -/
def occurrences (pattern : List Char) : List Char → Nat
  | [] => 0
  | c :: cs => (if matchesFront (· == ·) pattern (c :: cs) then 1 else 0) + occurrences pattern cs

/-- No occurrence of the pattern in the whole text begins in its first part. -/
def Clear (pattern xs rest : List Char) : Prop := ∀ w, w ≠ [] → w <:+ xs → ¬pattern <+: w ++ rest

/-- The second pattern may begin inside of the first one: some end of the first and the second agree
as far as both go. -/
def Overlaps (u v : List Char) : Prop := ∃ a w, u = a ++ w ∧ a ≠ [] ∧ w ≠ [] ∧ (w <+: v ∨ v <+: w)

theorem clear_nil (pattern rest : List Char) : Clear pattern [] rest := by
  intro w hne hw
  exact absurd (List.suffix_nil.mp hw) hne

theorem clear_cons_iff : Clear pattern (c :: xs) rest ↔
    ¬pattern <+: c :: (xs ++ rest) ∧ Clear pattern xs rest := by
  constructor
  · intro h
    exact ⟨h (c :: xs) (List.cons_ne_nil _ _) List.suffix_rfl,
      fun w hne hw => h w hne (hw.trans (List.suffix_cons c xs))⟩
  · rintro ⟨hfront, h⟩ w hne hw
    rcases List.suffix_cons_iff.mp hw with rfl | hw
    · exact hfront
    · exact h w hne hw

/-- What a front of a longer text is made of. -/
theorem prefix_append_cases {w : List Char} (h : w <+: xs ++ rest) :
    w <+: xs ∨ ∃ v, w = xs ++ v ∧ v <+: rest := by
  rcases List.prefix_or_prefix_of_prefix h (List.prefix_append xs rest) with hw | ⟨v, rfl⟩
  · exact .inl hw
  · exact .inr ⟨v, rfl, (List.prefix_append_right_inj xs).mp h⟩

theorem occurrences_cons_of_isPrefix (h : pattern <+: c :: xs) :
    occurrences pattern (c :: xs) = occurrences pattern xs + 1 := by
  rw [occurrences, if_pos ((matchesFront_iff _ _).mpr h), Nat.add_comm]

theorem occurrences_cons_of_not_isPrefix (h : ¬pattern <+: c :: xs) :
    occurrences pattern (c :: xs) = occurrences pattern xs := by
  rw [occurrences, if_neg fun hm => h ((matchesFront_iff _ _).mp hm), Nat.zero_add]

theorem occurrences_le_append (pattern xs rest : List Char) :
    occurrences pattern rest ≤ occurrences pattern (xs ++ rest) := by
  induction xs with
  | nil => exact Nat.le_refl _
  | cons d xs ih =>
    rw [List.cons_append, occurrences]
    omega

/-- The beginning of a text counts for nothing exactly if no occurrence begins there. -/
theorem occurrences_append_le_iff :
    occurrences pattern (xs ++ rest) ≤ occurrences pattern rest ↔ Clear pattern xs rest := by
  induction xs with
  | nil => exact iff_of_true (Nat.le_refl _) (clear_nil pattern rest)
  | cons d xs ih =>
    have hrest := occurrences_le_append pattern xs rest
    rw [List.cons_append, clear_cons_iff]
    by_cases hd : pattern <+: d :: (xs ++ rest)
    · rw [occurrences_cons_of_isPrefix hd]
      exact iff_of_false (by omega) fun h => h.1 hd
    · rw [occurrences_cons_of_not_isPrefix hd]
      exact ih.trans (and_iff_right hd).symm

theorem Clear.occurrences_append (h : Clear pattern xs rest) :
    occurrences pattern (xs ++ rest) = occurrences pattern rest :=
  Nat.le_antisymm (occurrences_append_le_iff.mpr h) (occurrences_le_append pattern xs rest)

/-- Behind its first character a pattern keeps clear of another one that may not begin inside of
it. -/
theorem clear_of_not_overlaps (h : ¬Overlaps (c :: xs) pattern) : Clear pattern xs rest := by
  rintro w hne ⟨a, rfl⟩ hpre
  refine h ⟨c :: a, w, rfl, List.cons_ne_nil _ _, hne, ?_⟩
  exact (List.prefix_or_prefix_of_prefix hpre (List.prefix_append w rest)).symm

/-- A pattern that does not overlap itself stands once where it stands. -/
theorem occurrences_pattern_append (hne : pattern ≠ []) (h : ¬Overlaps pattern pattern) :
    occurrences pattern (pattern ++ rest) = occurrences pattern rest + 1 := by
  obtain ⟨d, cs, rfl⟩ := List.exists_cons_of_ne_nil hne
  have hfront : d :: cs <+: d :: (cs ++ rest) :=
    List.cons_prefix_cons.mpr ⟨rfl, List.prefix_append cs rest⟩
  rw [List.cons_append, occurrences_cons_of_isPrefix hfront,
    (clear_of_not_overlaps h).occurrences_append]

end StudyFlow.Text
