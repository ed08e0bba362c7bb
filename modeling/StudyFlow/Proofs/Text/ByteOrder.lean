import Mathlib.Data.String.Basic
import StudyFlow.Text.Bytes

/-!
# The order of texts is the order of their bytes

Texts are compared character by character. Their bytes come out in the same order: of two characters
the greater one has a greater byte at the first place where their bytes differ, and neither has the
bytes of the other at its front.
-/

namespace StudyFlow.Text

/-! ## Bytes that differ at some place -/

/-- At the first place where two rows of bytes differ, both have a byte, and the second one's is
greater. -/
inductive Before : List UInt8 → List UInt8 → Prop
  | head {x y : UInt8} {xs ys : List UInt8} : x < y → Before (x :: xs) (y :: ys)
  | tail {x : UInt8} {xs ys : List UInt8} : Before xs ys → Before (x :: xs) (x :: ys)

theorem before_cons_iff {x y : UInt8} {xs ys : List UInt8} :
    Before (x :: xs) (y :: ys) ↔ x < y ∨ x = y ∧ Before xs ys := by
  constructor
  · intro h
    cases h with
    | head hxy => exact .inl hxy
    | tail hrest => exact .inr ⟨rfl, hrest⟩
  · rintro (hxy | ⟨rfl, hrest⟩)
    · exact .head hxy
    · exact .tail hrest

theorem not_before_nil {xs : List UInt8} : ¬Before xs [] := by
  intro h
  cases h

/-- What follows does not count once two rows differ. -/
theorem Before.append_lt {xs ys : List UInt8} (h : Before xs ys) (t u : List UInt8) :
    xs ++ t < ys ++ u := by
  induction h with
  | head hxy =>
    rw [List.cons_append, List.cons_append, List.cons_lt_cons_iff]
    exact .inl hxy
  | tail _ ih =>
    rw [List.cons_append, List.cons_append, List.cons_lt_cons_iff]
    exact .inr ⟨rfl, ih⟩

/-! ## Characters -/

theorem utf8EncodeChar_before {c d : Char} (h : c < d) :
    Before (String.utf8EncodeChar c) (String.utf8EncodeChar d) := by
  have hlt : c.val.toNat < d.val.toNat := h
  have hd : d.val.toNat < 0x110000 := by
    have hvalid := d.valid
    simp only [UInt32.isValidChar, Nat.isValidChar] at hvalid
    omega
  simp only [String.utf8EncodeChar]
  generalize c.val.toNat = v at hlt ⊢
  generalize d.val.toNat = w at hlt hd ⊢
  have hdigits : ∀ n : Nat, n / 4096 = n / 64 / 64 ∧ n / 262144 = n / 64 / 64 / 64 := fun n =>
    ⟨(Nat.div_div_eq_div_mul n 64 64).symm, by rw [Nat.div_div_eq_div_mul, Nat.div_div_eq_div_mul]⟩
  rw [(hdigits v).1, (hdigits v).2, (hdigits w).1, (hdigits w).2]
  -- the first byte tells how many there are; with as many bytes the digits decide
  split_ifs
  all_goals
    simp only [before_cons_iff, not_before_nil, UInt8.lt_iff_toNat_lt, ← UInt8.toNat_inj,
      UInt8.toNat_ofNat', and_false, or_false]
    omega

/-! ## Texts -/

theorem flatMap_utf8EncodeChar_lt {cs ds : List Char} (h : cs < ds) :
    cs.flatMap String.utf8EncodeChar < ds.flatMap String.utf8EncodeChar := by
  induction ds generalizing cs with
  | nil => exact absurd h (List.not_lt_nil cs)
  | cons d ds ih =>
    cases cs with
    | nil =>
      have hpos : 0 < (String.utf8EncodeChar d ++ ds.flatMap String.utf8EncodeChar).length := by
        rw [List.length_append, String.length_utf8EncodeChar]
        have hsize := d.utf8Size_pos
        omega
      obtain ⟨b, bs, hbytes⟩ := List.exists_cons_of_length_pos hpos
      rw [List.flatMap_nil, List.flatMap_cons, hbytes]
      exact List.nil_lt_cons b bs
    | cons c cs =>
      rw [List.flatMap_cons, List.flatMap_cons]
      rcases List.cons_lt_cons_iff.mp h with hcd | ⟨rfl, hrest⟩
      · exact (utf8EncodeChar_before hcd).append_lt _ _
      · exact List.append_left_lt (ih hrest)

theorem bytes_lt_of_lt {s t : String} (h : s < t) : bytes s < bytes t := by
  rw [bytes_eq, bytes_eq]
  exact flatMap_utf8EncodeChar_lt (String.lt_iff_toList_lt.mp h)

/-- The bytes of two texts are in the order of the texts. -/
theorem bytes_lt_iff {s t : String} : bytes s < bytes t ↔ s < t := by
  refine ⟨fun h => ?_, bytes_lt_of_lt⟩
  rcases lt_trichotomy s t with hlt | rfl | hgt
  · exact hlt
  · exact absurd h (List.lt_irrefl _)
  · exact absurd (bytes_lt_of_lt hgt) (List.lt_asymm h)

end StudyFlow.Text
