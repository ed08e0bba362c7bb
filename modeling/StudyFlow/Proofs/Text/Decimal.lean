import StudyFlow.Proofs.Text.Words
import StudyFlow.Status.Duration

/-!
# Decimal numerals

A number that is written in decimal is read back as itself, and the numerals of counters and of
spans of time are words. Other numerals are read as well, with a plus sign or zeros in front; what
is no numeral is not.
-/

namespace StudyFlow.Text

theorem isBlank_of_isDigit {c : Char} (h : c.isDigit = true) : isBlank c = false := by
  simp only [Char.isDigit, Bool.and_eq_true, decide_eq_true_eq, ge_iff_le,
    UInt32.le_iff_toNat_le] at h
  change 48 ≤ c.toNat ∧ c.toNat ≤ 57 at h
  simp only [isBlank, Bool.or_eq_false_iff, Bool.and_eq_false_iff, decide_eq_false_iff_not,
    beq_eq_false_iff_ne]
  omega

theorem isWord_repr (n : Nat) : IsWord n.repr := by
  refine ⟨Nat.repr_ne_empty, (hasBlank_eq_false_iff _).mpr ?_⟩
  intro c hc
  rw [Nat.toList_repr] at hc
  exact isBlank_of_isDigit (Nat.isDigit_of_mem_toDigits (by decide) (by decide) hc)

theorem isWord_twoDigits (n : Nat) : IsWord (twoDigits n) := by
  unfold twoDigits
  split
  · exact IsWord.append_right (by decide) (isWord_repr n)
  · exact isWord_repr n

theorem digitValue?_of_isDigit {c : Char} (h : c.isDigit = true) :
    digitValue? 10 c = some (c.toNat - '0'.toNat) := by
  simp only [Char.isDigit, Bool.and_eq_true, decide_eq_true_eq, ge_iff_le] at h
  have hn : 48 ≤ c.toNat ∧ c.toNat ≤ 57 := h
  have hc : ('0' ≤ c && c ≤ '9') = true := by
    simp only [Bool.and_eq_true, decide_eq_true_eq]
    exact h
  have hlt : c.toNat - '0'.toNat < 10 := by
    change c.toNat - 48 < 10
    omega
  simp only [digitValue?, hc, ↓reduceIte, hlt]

/-- Digits are read as the number that they denote. -/
theorem digitsFrom_of_isDigit (cs : List Char) (h : ∀ c ∈ cs, c.isDigit = true) (acc : Nat) :
    digitsFrom 10 acc cs = some (Nat.ofDigitChars 10 cs acc) := by
  induction cs generalizing acc with
  | nil => simp [digitsFrom]
  | cons c cs ih =>
    rw [digitsFrom, digitValue?_of_isDigit (h c List.mem_cons_self), Nat.ofDigitChars_cons,
      Nat.mul_comm 10]
    exact ih (fun d hd => h d (List.mem_cons_of_mem _ hd)) _

theorem digits?_toDigits (n : Nat) : digits? 10 (Nat.toDigits 10 n) = some n := by
  have hd : ∀ c ∈ Nat.toDigits 10 n, c.isDigit = true := fun c hc =>
    Nat.isDigit_of_mem_toDigits (by decide) (by decide) hc
  have hne : (Nat.toDigits 10 n).isEmpty = false := by simp
  rw [digits?, hne, digitsFrom_of_isDigit _ hd, Nat.ofDigitChars_ten_toDigits]
  rfl

/-- A counter in decimal is read back. -/
theorem counter?_repr {n bound : Nat} (h : n < bound) : counter? bound n.repr = some n := by
  have hd : digits? 10 (Nat.toDigits 10 n) = some n := digits?_toDigits n
  obtain ⟨c, cs, he⟩ := List.exists_cons_of_ne_nil (Nat.toDigits_ne_nil (n := n) (b := 10))
  -- a numeral does not start with a sign
  have hc : c ≠ '+' := by
    rintro rfl
    have hp := Nat.isDigit_of_mem_toDigits (b := 10) (n := n) (by decide) (by decide)
      (he ▸ List.mem_cons_self)
    exact absurd hp (by decide)
  have hs : n.repr.toList = c :: cs := by rw [Nat.toList_repr, he]
  rw [he] at hd
  unfold counter?
  rw [hs]
  split
  next rest heq => exact absurd (List.cons.inj heq).1 hc
  next => simp only [hd, h, ↓reduceIte]

/-! ## What is read as a counter -/

/-- The text is a numeral of the number: at least one decimal digit, behind a plus sign or
nothing. -/
def IsNumeral (s : String) (n : Nat) : Prop :=
  ∃ digits : List Char, (s.toList = digits ∨ s.toList = '+' :: digits) ∧ digits ≠ [] ∧
    (∀ c ∈ digits, c.isDigit = true) ∧ Nat.ofDigitChars 10 digits 0 = n

theorem digitValue?_of_not_isDigit {c : Char} (h : c.isDigit = false) :
    digitValue? 10 c = none := by
  have hc : ('0' ≤ c && c ≤ '9') = false := h
  unfold digitValue?
  simp only [hc, Bool.false_eq_true, ↓reduceIte]
  rw [if_neg]
  split
  · omega
  · split <;> omega

/-- A run of characters is read exactly if all of them are digits. -/
theorem digitsFrom_eq_some_iff {cs : List Char} {acc n : Nat} : digitsFrom 10 acc cs = some n ↔
    (∀ c ∈ cs, c.isDigit = true) ∧ Nat.ofDigitChars 10 cs acc = n := by
  constructor
  · intro h
    have hd : ∀ c ∈ cs, c.isDigit = true := by
      induction cs generalizing acc with
      | nil => nofun
      | cons c cs ih =>
        cases hc : c.isDigit with
        | false => simp [digitsFrom, digitValue?_of_not_isDigit hc] at h
        | true =>
          rw [digitsFrom, digitValue?_of_isDigit hc] at h
          exact List.forall_mem_cons.mpr ⟨hc, ih h⟩
    rw [digitsFrom_of_isDigit cs hd] at h
    exact ⟨hd, Option.some.inj h⟩
  · rintro ⟨hd, rfl⟩
    exact digitsFrom_of_isDigit cs hd acc

theorem digits?_eq_some_iff {cs : List Char} {n : Nat} : digits? 10 cs = some n ↔
    cs ≠ [] ∧ (∀ c ∈ cs, c.isDigit = true) ∧ Nat.ofDigitChars 10 cs 0 = n := by
  cases cs with
  | nil => simp [digits?]
  | cons c cs => simp [digits?, digitsFrom_eq_some_iff]

theorem counter?_of_sign {bound : Nat} {s : String} {rest : List Char}
    (hs : s.toList = '+' :: rest) :
    counter? bound s = (digits? 10 rest).filter (· < bound) := by
  simp only [counter?, hs]
  cases digits? 10 rest <;> simp [Option.filter]

theorem counter?_of_unsigned {bound : Nat} {s : String} (hs : ∀ rest, s.toList ≠ '+' :: rest) :
    counter? bound s = (digits? 10 s.toList).filter (· < bound) := by
  unfold counter?
  split
  · next rest he => exact absurd he (hs rest)
  · cases hd : digits? 10 s.toList <;> simp [hd, Option.filter]

theorem counter?_eq_some_iff {bound n : Nat} {s : String} :
    counter? bound s = some n ↔ IsNumeral s n ∧ n < bound := by
  unfold IsNumeral
  by_cases hsign : ∃ rest, s.toList = '+' :: rest
  · obtain ⟨rest, hs⟩ := hsign
    -- a plus sign is no digit, so it is not the first one of them
    have hplus : ('+' : Char).isDigit = false := by decide
    rw [counter?_of_sign hs, Option.filter_eq_some_iff, digits?_eq_some_iff, decide_eq_true_eq]
    refine and_congr_left' ?_
    constructor
    · rintro ⟨hne, hd, hn⟩
      exact ⟨rest, .inr hs, hne, hd, hn⟩
    · rintro ⟨digits, hlist | hlist, hne, hd, hn⟩
      · have hmem : '+' ∈ digits := by
          rw [← hlist, hs]
          exact List.mem_cons_self
        rw [hd _ hmem] at hplus
        cases hplus
      · obtain rfl : rest = digits := (List.cons.inj (hs.symm.trans hlist)).2
        exact ⟨hne, hd, hn⟩
  · have hunsigned : ∀ rest, s.toList ≠ '+' :: rest := fun rest hs => hsign ⟨rest, hs⟩
    rw [counter?_of_unsigned hunsigned, Option.filter_eq_some_iff, digits?_eq_some_iff,
      decide_eq_true_eq]
    refine and_congr_left' ?_
    constructor
    · rintro ⟨hne, hd, hn⟩
      exact ⟨s.toList, .inl rfl, hne, hd, hn⟩
    · rintro ⟨digits, rfl | hlist, hne, hd, hn⟩
      · exact ⟨hne, hd, hn⟩
      · exact absurd hlist (hunsigned digits)

end StudyFlow.Text

namespace StudyFlow

open Text

theorem isWord_formatDuration (span : Millis) : IsWord (formatDuration span) := by
  have hu : ∀ s ∈ ["d:", "h:", "m:", "s"], hasBlank s = false := by decide
  unfold formatDuration
  refine IsWord.append (IsWord.append (IsWord.append (IsWord.append (IsWord.append (IsWord.append
    (IsWord.append (isWord_repr _) ?_) ?_) ?_) ?_) ?_) ?_) ?_
  · exact hu _ (by simp)
  · exact (isWord_twoDigits _).2
  · exact hu _ (by simp)
  · exact (isWord_twoDigits _).2
  · exact hu _ (by simp)
  · exact (isWord_twoDigits _).2
  · exact hu _ (by simp)

end StudyFlow
