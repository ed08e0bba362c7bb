import Mathlib.Data.List.Forall2
import StudyFlow.Proofs.Text.Bytes
import StudyFlow.Proofs.Text.Folded

/-!
# Cutting a text where its copy in small letters matches

A replacement up to the case of letters looks for the pattern in a copy in small letters and cuts
the text itself at the positions that it finds there. Writing letters small changes no character's
number of bytes, so the cuts of the copy are cuts of the text. What comes out is what a reader makes
who goes over the text once: at each place the pattern makes way for the replacement if it stands
there in letters of any case, and else the character stays as it is.
-/

namespace StudyFlow.Text

variable {c d : Char} {pattern by_ text out out' w : List Char}

/-- The same character, or an ASCII capital and its small letter. -/
def SameLetter (c d : Char) : Prop := c = d ∨ (c.isUpper ∧ d = c.toLower) ∨
    (d.isUpper ∧ c = d.toLower)

/-- The text is read once from left to right. Where it goes on with the pattern in letters of any
case, the replacement is written and the reader goes on behind; else the next character is written
as it is. -/
inductive Scan (pattern by_ : List Char) : List Char → List Char → Prop
  | nil : Scan pattern by_ [] []
  | hit {w text out : List Char} : List.Forall₂ SameLetter w pattern → Scan pattern by_ text out →
    Scan pattern by_ (w ++ text) (by_ ++ out)
  | keep {c : Char} {text out : List Char} :
    (∀ w, w <+: c :: text → ¬List.Forall₂ SameLetter w pattern) →
    Scan pattern by_ text out → Scan pattern by_ (c :: text) (c :: out)

/-- What a text becomes when a pattern is replaced up to the case of letters. An empty pattern is
never looked for. -/
def Rewritten (pattern by_ text out : String) : Prop :=
  pattern = "" ∧ out = text ∨ pattern ≠ "" ∧ Scan pattern.toList by_.toList text.toList out.toList

/-! ## Letters -/

theorem isUpper_iff : c.isUpper = true ↔ 65 ≤ c.toNat ∧ c.toNat ≤ 90 := decide_eq_true_iff

theorem toNat_toLower (c : Char) : c.toLower.toNat = if c.isUpper then c.toNat + 32
    else c.toNat := by
  by_cases h : c.isUpper = true
  · have hbounds := isUpper_iff.mp h
    have hlower : c.toLower.val = c.val + 32 := congrArg Char.val (dif_pos (of_decide_eq_true h))
    have hwidth : (32 : UInt32).toNat = 32 := rfl
    rw [if_pos h, ← Char.toNat_val, hlower, UInt32.toNat_add, Char.toNat_val, hwidth,
      Nat.mod_eq_of_lt (by omega)]
  · have hkept : c.toLower = c := dif_neg fun hc => h (decide_eq_true hc)
    rw [if_neg h, hkept]

theorem sameLetter_iff : SameLetter c d ↔ c.toLower = d.toLower := by
  simp only [SameLetter, ← Char.toNat_inj, toNat_toLower, isUpper_iff]
  split <;> split <;> omega

/-- ASCII letters alone are the same in either case. -/
theorem sameLetter_of_not_ascii (hc : 128 ≤ c.toNat) (d : Char) : SameLetter c d ↔ c = d := by
  rw [SameLetter, isUpper_iff, isUpper_iff]
  constructor
  · rintro (rfl | ⟨hupper, -⟩ | ⟨hupper, rfl⟩)
    · rfl
    · omega
    · have hsmall := toNat_toLower d
      split at hsmall <;> omega
  · exact .inl

theorem sameLetters_iff : List.Forall₂ SameLetter w pattern ↔ fold w = fold pattern := by
  rw [fold, fold, ← List.forall₂_eq_eq_eq, List.forall₂_map_left_iff, List.forall₂_map_right_iff]
  exact ⟨List.Forall₂.imp fun _ _ => sameLetter_iff.mp, List.Forall₂.imp fun _ _ =>
    sameLetter_iff.mpr⟩

/-- A letter written small has as many bytes. -/
theorem utf8Size_toLower (c : Char) : c.toLower.utf8Size = c.utf8Size := by
  by_cases h : c.isUpper = true
  · have hbounds := isUpper_iff.mp h
    have hlower : c.toLower.toNat ≤ 127 := by
      rw [toNat_toLower, if_pos h]
      omega
    have hupper : c.toNat ≤ 127 := by omega
    rw [Char.utf8Size_eq_one_iff.mpr (UInt32.le_iff_toNat_le.mpr hlower),
      Char.utf8Size_eq_one_iff.mpr (UInt32.le_iff_toNat_le.mpr hupper)]
  · have hkept : c.toLower = c := by rw [← Char.toNat_inj, toNat_toLower, if_neg h]
    rw [hkept]

theorem fold_cons (c : Char) (cs : List Char) : fold (c :: cs) = c.toLower :: fold cs := rfl

theorem fold_append (cs ds : List Char) : fold (cs ++ ds) = fold cs ++ fold ds := List.map_append

theorem fold_ne_nil (hne : pattern ≠ []) : fold pattern ≠ [] :=
  fun h => hne (List.map_eq_nil_iff.mp h)

theorem encode_fold_ne_nil (hne : pattern ≠ []) : encode (fold pattern) ≠ [] := by
  obtain ⟨d, ds, hcons⟩ := List.exists_cons_of_ne_nil (fold_ne_nil hne)
  rw [hcons]
  exact encode_ne_nil d ds

/-- A text written in small letters has its bytes at the same positions. -/
theorem length_encode_fold (cs : List Char) : (encode (fold cs)).length = (encode cs).length := by
  induction cs with
  | nil => rfl
  | cons c cs ih => rw [fold_cons, length_encode_cons, length_encode_cons, utf8Size_toLower, ih]

/-- A text begins with a pattern in letters of any case exactly if it does once both are in small
letters. -/
theorem fold_prefix_iff :
    fold pattern <+: fold text ↔ ∃ w, w <+: text ∧ List.Forall₂ SameLetter w pattern := by
  constructor
  · rintro ⟨t, ht⟩
    obtain ⟨w, rest, rfl, hw, -⟩ := List.map_eq_append_iff.mp ht.symm
    exact ⟨w, List.prefix_append w rest, sameLetters_iff.mpr hw⟩
  · rintro ⟨w, hw, hsame⟩
    rw [← sameLetters_iff.mp hsame]
    exact hw.map Char.toLower

theorem not_fold_prefix_iff :
    ¬fold pattern <+: fold text ↔ ∀ w, w <+: text → ¬List.Forall₂ SameLetter w pattern := by
  rw [fold_prefix_iff, not_exists]
  simp only [not_and]

/-! ## Reading a text -/

theorem matchesFront_iff_folded :
    matchesFront sameFolded pattern text = true ↔ fold pattern <+: fold text := by
  rw [matchesFront_folded_iff, fold_prefix_iff]
  simp only [sameLetters_iff]

theorem substitute_skip (same : Char → Char → Bool) (pattern by_ xs rest : List Char) :
    substitute same pattern by_ xs.length (xs ++ rest) = substitute same pattern by_ 0 rest := by
  induction xs with
  | nil => rfl
  | cons c xs ih => exact ih

theorem substitute_hit (hne : pattern ≠ []) (hw : List.Forall₂ SameLetter w pattern)
    (by_ text : List Char) :
    substitute sameFolded pattern by_ 0 (w ++ text) = by_ ++
      substitute sameFolded pattern by_ 0 text := by
  obtain ⟨d, ds, rfl⟩ := List.exists_cons_of_ne_nil hne
  obtain ⟨c, cs, -, hcs, rfl⟩ := List.forall₂_cons_right_iff.mp hw
  have hfront : matchesFront sameFolded (d :: ds) (c :: (cs ++ text)) = true :=
    matchesFront_iff_folded.mpr (fold_prefix_iff.mpr ⟨c :: cs, List.prefix_append _ text, hw⟩)
  have hskip := substitute_skip sameFolded (d :: ds) by_ cs text
  rw [hcs.length_eq] at hskip
  rw [List.cons_append, substitute, if_pos hfront, List.length_cons, Nat.add_sub_cancel, hskip]

theorem substitute_keep (h : ¬fold pattern <+: fold (c :: text)) (by_ : List Char) :
    substitute sameFolded pattern by_ 0 (c :: text) = c ::
      substitute sameFolded pattern by_ 0 text := by
  rw [substitute, if_neg fun hm => h (matchesFront_iff_folded.mp hm)]

theorem Scan.eq_substitute (hne : pattern ≠ []) (h : Scan pattern by_ text out) :
    out = substitute sameFolded pattern by_ 0 text := by
  induction h with
  | nil => rfl
  | hit hw _ ih => rw [substitute_hit hne hw, ← ih]
  | keep hno _ ih => rw [substitute_keep (not_fold_prefix_iff.mpr hno), ← ih]

theorem scan_substitute (hne : pattern ≠ []) (by_ text : List Char) :
    Scan pattern by_ text (substitute sameFolded pattern by_ 0 text) := by
  induction hn : text.length using Nat.strong_induction_on generalizing text with
  | _ n ih =>
    cases text with
    | nil => exact .nil
    | cons c cs =>
      by_cases hfront : fold pattern <+: fold (c :: cs)
      · obtain ⟨w, ⟨rest, hrest⟩, hw⟩ := fold_prefix_iff.mp hfront
        have hlength : 0 < w.length := by
          rw [hw.length_eq]
          exact List.length_pos_iff.mpr hne
        rw [← hrest, List.length_append] at hn
        rw [← hrest, substitute_hit hne hw]
        exact .hit hw (ih rest.length (by omega) rest rfl)
      · rw [substitute_keep hfront]
        refine .keep (not_fold_prefix_iff.mp hfront) ?_
        exact ih cs.length (by rw [← hn]; exact Nat.lt_succ_self _) cs rfl

/-- There is one way to read a text. -/
theorem scan_iff (hne : pattern ≠ []) :
    Scan pattern by_ text out ↔ out = substitute sameFolded pattern by_ 0 text := by
  constructor
  · exact Scan.eq_substitute hne
  · rintro rfl
    exact scan_substitute hne by_ text

/-! ## Cutting a text -/

theorem slice?_between (before part after : List Char) :
    slice? (String.ofList (before ++ part ++ after))
    (encode before).length (encode (before ++ part)).length =
      some (String.ofList part) := by
  rw [slice?_eq_some_iff]
  refine ⟨String.ofList before, String.ofList after, ?_, ?_, ?_⟩
  · rw [String.ofList_append, String.ofList_append]
  · rw [utf8ByteSize_ofList]
  · rw [← String.ofList_append, utf8ByteSize_ofList]

/-- What was cut off last ends behind `done`, and the search has come to the end of `kept` since.
The cuts that are still to come make what a reader writes who goes on from here. -/
theorem Scan.splice?_eq (h : Scan pattern by_ text out) (hne : pattern ≠ [])
    (done kept : List Char) :
    splice? (String.ofList (done ++ kept ++ text)) (String.ofList by_)
    (encode (fold pattern)).length
        (encode done).length
        (offsetsFrom (encode (fold pattern)) 0 (encode (done ++ kept)).length
          (encode (fold text))) =
      some (String.ofList (kept ++ out)) := by
  -- the text is read as in `h`; each cut moves what was kept so far behind the last cut
  induction h generalizing done kept with
  | nil =>
    have hlast := slice?_between done kept []
    rw [List.append_nil, ← utf8ByteSize_ofList (done ++ kept)] at hlast
    rw [List.append_nil, List.append_nil]
    exact hlast
  | @hit w text out hw _ ih =>
    have hfold : encode (fold (w ++ text)) = encode (fold pattern) ++ encode (fold text) := by
      rw [fold_append, sameLetters_iff.mp hw, encode_append]
    have hwidth : (encode (done ++ kept ++ w)).length =
        (encode (done ++ kept)).length + (encode (fold pattern)).length := by
      rw [encode_append, List.length_append, ← length_encode_fold w, sameLetters_iff.mp hw]
    -- the next part begins behind what is replaced
    have hrest := ih (done ++ kept ++ w) []
    rw [List.append_nil, hwidth, List.append_assoc (done ++ kept), List.nil_append] at hrest
    rw [hfold, offsetsFrom_pattern (encode_fold_ne_nil hne), splice?, slice?_between,
      Option.bind_eq_bind, Option.bind_some, hrest]
    simp [String.ofList_append, String.append_assoc]
  | @keep c text out hno _ ih =>
    have hfront := not_fold_prefix_iff.mpr hno
    have hsize : (encode (done ++ (kept ++ [c]))).length = (encode (done ++ kept)).length +
        c.toLower.utf8Size := by
      rw [← List.append_assoc, encode_append, List.length_append, length_encode_cons,
        utf8Size_toLower]
      rfl
    have hrest := ih done (kept ++ [c])
    rw [hsize, ← List.append_assoc, List.append_assoc _ [c], List.append_assoc kept] at hrest
    rw [fold_cons] at hfront ⊢
    rw [offsetsFrom_char (fold_ne_nil hne) hfront]
    exact hrest

/-! ## Texts -/

theorem bytes_lowered (s : String) : bytes (lowered s) = encode (fold s.toList) := bytes_ofList _

/-- Every cut is there, and the text comes out as a search character by character leaves it. -/
theorem replaceFolded?_eq (text pattern by_ : String) :
    replaceFolded? text pattern by_ = some (replaceWhere sameFolded text pattern by_) := by
  unfold replaceFolded? replaceWhere
  split
  · rfl
  · next hempty =>
    have hne : pattern.toList ≠ [] := by simpa using hempty
    have hcuts := (scan_substitute hne by_.toList text.toList).splice?_eq hne [] []
    rw [← length_bytes, offsets, bytes_lowered, bytes_lowered]
    simpa [encode] using hcuts

theorem replaceFolded_eq (text pattern by_ : String) :
    replaceFolded text pattern by_ = replaceWhere sameFolded text pattern by_ := by
  rw [replaceFolded, replaceFolded?_eq, Option.getD_some]

theorem rewritten_iff {text pattern by_ out : String} :
    Rewritten pattern by_ text out ↔ out = replaceFolded text pattern by_ := by
  rw [replaceFolded_eq, replaceWhere, Rewritten]
  by_cases hempty : pattern = ""
  · simp [hempty]
  · have hne : pattern.toList ≠ [] := by simpa using hempty
    have hchars : ∀ cs, out.toList = cs ↔ out = String.ofList cs := fun cs => by
      rw [← String.toList_inj, String.toList_ofList]
    rw [scan_iff hne, if_neg (by simpa using hempty), hchars]
    simp [hempty]

theorem replaceFolded_of_not_holdsFolded {cmd token : String} (by_ : String)
    (h : ¬HoldsFolded cmd.toList token.toList) : replaceFolded cmd token by_ = cmd := by
  rw [replaceFolded_eq, replaceWhere]
  split
  · rfl
  · rw [substitute_of_not_holdsFolded _ h, String.ofList_toList]

theorem length_replaceFolded_empty_le (cmd token : String) :
    (replaceFolded cmd token "").length ≤ cmd.length := by
  rw [replaceFolded_eq, replaceWhere]
  split
  · exact Nat.le_refl _
  · rw [String.length_ofList, ← String.length_toList (s := cmd)]
    exact length_substitute_nil_le 0 cmd.toList

theorem length_replaceFolded_empty_lt {cmd token : String} (hne : token ≠ "")
    (h : HoldsFolded cmd.toList token.toList) :
    (replaceFolded cmd token "").length < cmd.length := by
  have hchars : token.toList ≠ [] := by simpa using hne
  rw [replaceFolded_eq, replaceWhere, if_neg (by simpa using hne), String.length_ofList,
    ← String.length_toList (s := cmd)]
  exact length_substitute_nil_lt hchars h

end StudyFlow.Text
