import StudyFlow.Text.Blank

/-!
# Words of a line

A word is a text that can stand between blanks: not empty, and without a blank in it. Words between
single spaces are found again when the line is cut at its blanks, and blanks at the two ends of a
line do not count. A text that is no word is found in pieces or not at all.
-/

namespace StudyFlow.Text

/-- A text that is one field of a line. -/
def IsWord (s : String) : Prop := s ≠ "" ∧ hasBlank s = false

/-- The same for characters. -/
def IsWordChars (w : List Char) : Prop := w ≠ [] ∧ ∀ c ∈ w, isBlank c = false

theorem isBlank_space : isBlank ' ' = true := by decide

theorem isBlank_newline : isBlank '\n' = true := by decide

theorem hasBlank_eq_false_iff (s : String) : hasBlank s = false ↔
    ∀ c ∈ s.toList, isBlank c = false := by
  simp [hasBlank]

theorem isWord_iff_chars (s : String) : IsWord s ↔ IsWordChars s.toList := by
  simp [IsWord, IsWordChars, hasBlank_eq_false_iff]

@[simp] theorem hasBlank_append (s t : String) :
    hasBlank (s ++ t) = (hasBlank s || hasBlank t) := by
  simp [hasBlank, List.any_append]

theorem IsWord.append {s t : String} (hs : IsWord s) (ht : hasBlank t = false) :
    IsWord (s ++ t) := by
  refine ⟨?_, by simp [hs.2, ht]⟩
  intro he
  exact hs.1 (String.append_eq_empty_iff.mp he).1

theorem IsWord.append_right {s t : String} (hs : hasBlank s = false) (ht : IsWord t) :
    IsWord (s ++ t) := by
  refine ⟨?_, by simp [hs, ht.2]⟩
  intro he
  exact ht.1 (String.append_eq_empty_iff.mp he).2

/-! ## Cutting a line at its blanks -/

theorem wordChars_cons_blank {c : Char} (hc : isBlank c = true) (cs : List Char) :
    wordChars (c :: cs) = wordChars cs := if_pos hc

theorem wordChars_singleton {c : Char} (hc : isBlank c = false) : wordChars [c] = [[c]] :=
  if_neg (Bool.eq_false_iff.mp hc)

/-- A character that is not blank begins a word if a blank follows, and otherwise belongs to the
next one. -/
theorem wordChars_cons_cons {c : Char} (hc : isBlank c = false) (d : Char) (cs : List Char) :
    wordChars (c :: d :: cs) =
      if isBlank d then [c] :: wordChars (d :: cs)
      else match wordChars (d :: cs) with
        | [] => [[c]]
        | w :: ws => (c :: w) :: ws := if_neg (Bool.eq_false_iff.mp hc)

/-- A line that begins with a character that is not blank has a word. -/
theorem wordChars_ne_nil {c : Char} (hc : isBlank c = false) (cs : List Char) :
    wordChars (c :: cs) ≠ [] := by
  cases cs with
  | nil =>
    rw [wordChars_singleton hc]
    exact List.cons_ne_nil _ _
  | cons d cs =>
    rw [wordChars_cons_cons hc]
    split
    · exact List.cons_ne_nil _ _
    · split <;> exact List.cons_ne_nil _ _

/-- A word in front of the end or of a blank is the first word found. -/
theorem wordChars_append {w rest : List Char} (hw : IsWordChars w)
    (hr : ∀ c ∈ rest.head?, isBlank c = true) : wordChars (w ++ rest) = w :: wordChars rest := by
  obtain ⟨hne, hb⟩ := hw
  induction w with
  | nil => exact absurd rfl hne
  | cons c w ih =>
    have hc : isBlank c = false := hb c List.mem_cons_self
    cases w with
    | nil =>
      cases rest with
      | nil => exact wordChars_singleton hc
      | cons d ds =>
        have hd : isBlank d = true := hr d rfl
        rw [List.singleton_append, wordChars_cons_cons hc, if_pos hd]
    | cons d w =>
      have hd : isBlank d = false := hb d (by simp)
      have hrest := ih (by simp) fun e he => hb e (List.mem_cons_of_mem _ he)
      rw [List.cons_append] at hrest
      rw [List.cons_append, List.cons_append, wordChars_cons_cons hc, hrest]
      simp only [hd, Bool.false_eq_true, ↓reduceIte]

/-- A blank separates the words before it from those behind it. -/
theorem wordChars_append_blank {b : Char} (hb : isBlank b = true) (xs ys : List Char) :
    wordChars (xs ++ b :: ys) = wordChars xs ++ wordChars ys := by
  induction xs with
  | nil => exact wordChars_cons_blank hb ys
  | cons c xs ih =>
    cases hc : isBlank c with
    | true => rw [List.cons_append, wordChars_cons_blank hc, wordChars_cons_blank hc, ih]
    | false =>
      cases xs with
      | nil =>
        have hword : IsWordChars [c] := ⟨List.cons_ne_nil _ _, by simpa using hc⟩
        rw [wordChars_append hword (by simp [hb]), wordChars_cons_blank hb, wordChars_singleton hc]
        rfl
      | cons d xs =>
        rw [List.cons_append] at ih
        rw [List.cons_append, List.cons_append, wordChars_cons_cons hc, wordChars_cons_cons hc, ih]
        cases hd : isBlank d with
        | true => rfl
        | false =>
          obtain ⟨w, ws, hw⟩ := List.exists_cons_of_ne_nil (wordChars_ne_nil hd xs)
          simp [hw]

/-- What is cut out of a line is a word. -/
theorem isWordChars_of_mem_wordChars (cs : List Char) : ∀ w ∈ wordChars cs, IsWordChars w := by
  fun_induction wordChars cs with
  | case1 => nofun
  | case2 c cs hc ih => exact ih
  | case3 c hc => simpa [IsWordChars] using hc
  | case4 c hc d cs hd ih => simpa [IsWordChars, hc] using ih
  | case5 c hc d cs hd hnil ih => exact absurd hnil (wordChars_ne_nil (by simpa using hd) cs)
  | case6 c hc d cs hd v vs hv ih =>
    rw [hv] at ih ⊢
    intro w hw
    rcases List.mem_cons.mp hw with rfl | hw
    · obtain ⟨-, hb⟩ := ih v List.mem_cons_self
      exact ⟨List.cons_ne_nil _ _, by simpa [hc] using hb⟩
    · exact ih w (List.mem_cons_of_mem _ hw)

theorem wordChars_intercalate (ws : List (List Char)) (h : ∀ w ∈ ws, IsWordChars w) :
    wordChars ([' '].intercalate ws) = ws := by
  induction ws with
  | nil => rfl
  | cons w ws ih =>
    have hw := h w List.mem_cons_self
    cases ws with
    | nil =>
      have he : wordChars (w ++ []) = [w] := wordChars_append hw nofun
      rw [List.append_nil] at he
      rw [List.intercalate_singleton, he]
    | cons v ws =>
      have hv := ih fun u hu => h u (List.mem_cons_of_mem _ hu)
      rw [List.intercalate_cons_cons, List.append_assoc, List.singleton_append,
        wordChars_append hw (by simp [isBlank_space]), wordChars_cons_blank isBlank_space, hv]

/-- Words between single spaces are the words of the line. -/
theorem words_intercalate (fields : List String) (h : ∀ f ∈ fields, IsWord f) :
    words (" ".intercalate fields) = fields := by
  have hc : ∀ w ∈ fields.map String.toList, IsWordChars w := by
    intro w hw
    obtain ⟨f, hf, rfl⟩ := List.mem_map.mp hw
    exact (isWord_iff_chars f).mp (h f hf)
  have hl : (" ".intercalate fields).toList = [' '].intercalate (fields.map String.toList) :=
    String.toList_intercalate
  rw [words, hl, wordChars_intercalate _ hc, List.map_map]
  simp [Function.comp_def]

theorem words_append_space (s t : String) : words (s ++ " " ++ t) = words s ++ words t := by
  have hl : (s ++ " " ++ t).toList = s.toList ++ ' ' :: t.toList := by simp
  rw [words, hl, wordChars_append_blank isBlank_space, List.map_append]
  rfl

theorem isWord_of_mem_words {s w : String} (h : w ∈ words s) : IsWord w := by
  obtain ⟨cs, hcs, rfl⟩ := List.mem_map.mp h
  rw [isWord_iff_chars, String.toList_ofList]
  exact isWordChars_of_mem_wordChars _ cs hcs

/-- A text is its own only word exactly if it is one. -/
theorem words_eq_singleton_iff (s : String) : words s = [s] ↔ IsWord s := by
  constructor
  · intro h
    exact isWord_of_mem_words (h ▸ List.mem_cons_self : s ∈ words s)
  · intro h
    have hs := words_intercalate [s] fun f hf => List.mem_singleton.mp hf ▸ h
    simpa using hs

/-! ## Blanks at the ends -/

theorem wordChars_dropWhile (cs : List Char) : wordChars (cs.dropWhile isBlank) = wordChars cs := by
  induction cs with
  | nil => rfl
  | cons c cs ih =>
    by_cases hc : isBlank c = true
    · rw [List.dropWhile_cons_of_pos hc, ih, wordChars_cons_blank hc]
    · rw [List.dropWhile_cons_of_neg hc]

theorem wordChars_append_blanks (cs bs : List Char) (hb : ∀ b ∈ bs, isBlank b = true) :
    wordChars (cs ++ bs) = wordChars cs := by
  have hbs : wordChars bs = [] := by
    induction bs with
    | nil => rfl
    | cons b bs ih =>
      rw [wordChars_cons_blank (hb b List.mem_cons_self)]
      exact ih fun c hc => hb c (List.mem_cons_of_mem _ hc)
  cases bs with
  | nil => rw [List.append_nil]
  | cons b bs =>
    have hblank : isBlank b = true := hb b List.mem_cons_self
    rw [wordChars_append_blank hblank, ← wordChars_cons_blank hblank bs, hbs, List.append_nil]

/-- A line keeps its words when blanks at its ends are dropped. -/
theorem words_trim (s : String) : words (trim s) = words s := by
  have hend : ∀ cs : List Char, wordChars (cs.reverse.dropWhile isBlank).reverse =
      wordChars cs := by
    intro cs
    have hcut : (cs.reverse.dropWhile isBlank).reverse ++
        (cs.reverse.takeWhile isBlank).reverse = cs := by
      rw [← List.reverse_append, List.takeWhile_append_dropWhile, List.reverse_reverse]
    have hb : ∀ b ∈ (cs.reverse.takeWhile isBlank).reverse, isBlank b = true := by
      intro b hb
      exact (List.all_eq_true.mp List.all_takeWhile) b (List.mem_reverse.mp hb)
    have h := wordChars_append_blanks (cs.reverse.dropWhile isBlank).reverse _ hb
    rw [hcut] at h
    exact h.symm
  simp only [words, trim, trimChars, String.toList_ofList]
  rw [hend, wordChars_dropWhile]

/-- A line break at the end of a line does not count. -/
theorem words_append_newline (s : String) : words (s ++ "\n") = words s := by
  have h := wordChars_append_blanks s.toList ['\n'] (by simp [isBlank_newline])
  simp only [words, String.toList_append]
  exact congrArg _ h

/-- With its blanks written as underscores a text is a word, unless it is empty. -/
theorem isWord_squashBlanks {s : String} (h : s ≠ "") : IsWord (squashBlanks s) := by
  rw [isWord_iff_chars]
  simp only [squashBlanks, String.toList_ofList]
  refine ⟨by simpa using h, ?_⟩
  intro c hc
  obtain ⟨d, _, rfl⟩ := List.mem_map.mp hc
  by_cases hd : isBlank d = true
  · simp only [hd, ↓reduceIte]; decide
  · simp [hd]

end StudyFlow.Text
