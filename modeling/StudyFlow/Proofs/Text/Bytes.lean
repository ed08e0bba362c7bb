import Mathlib.Data.List.Infix
import StudyFlow.Proofs.Text.ByteOrder

/-!
# Texts and their bytes

A search among the bytes of a text finds a pattern exactly where its characters stand: the first
byte of a character is never a byte in the middle of one. The part of a text between two byte
positions is there exactly if the text falls into three texts at these positions.
-/

namespace StudyFlow.Text

variable {pattern xs ys rest : List UInt8} {p cs : List Char} {c : Char}

def encode (cs : List Char) : List UInt8 := cs.flatMap String.utf8EncodeChar

theorem encode_cons (c : Char) (cs : List Char) :
    encode (c :: cs) = String.utf8EncodeChar c ++ encode cs := rfl

theorem encode_append (cs ds : List Char) : encode (cs ++ ds) = encode cs ++ encode ds :=
  List.flatMap_append

theorem bytes_ofList (cs : List Char) : bytes (String.ofList cs) = encode cs := by
  rw [bytes_eq, String.toList_ofList, encode]

theorem length_bytes (s : String) : (bytes s).length = s.utf8ByteSize := by
  rw [bytes, Array.length_toList]
  rfl

theorem utf8ByteSize_ofList (cs : List Char) : (String.ofList cs).utf8ByteSize =
    (encode cs).length := by
  rw [← length_bytes, bytes_ofList]

theorem length_encode_cons (c : Char) (cs : List Char) :
    (encode (c :: cs)).length = c.utf8Size + (encode cs).length := by
  rw [encode_cons, List.length_append, String.length_utf8EncodeChar]

theorem encode_ne_nil (c : Char) (cs : List Char) : encode (c :: cs) ≠ [] := by
  rw [← List.length_pos_iff, length_encode_cons]
  have hsize := c.utf8Size_pos
  omega

/-! ## Where a pattern stands -/

/-- The bytes of a text begin like those of a pattern exactly if the text begins like the
pattern. -/
theorem encode_prefix_iff : encode p <+: encode cs ↔ p <+: cs := by
  induction p generalizing cs with
  | nil => exact iff_of_true List.nil_prefix List.nil_prefix
  | cons d p ih =>
    cases cs with
    | nil =>
      refine iff_of_false (fun h => encode_ne_nil d p (List.prefix_nil.mp h)) fun h => ?_
      cases List.prefix_nil.mp h
    | cons c cs =>
      rw [List.cons_prefix_cons]
      by_cases hdc : d = c
      · rw [hdc, encode_cons, encode_cons, List.prefix_append_right_inj, ih]
        exact (and_iff_right rfl).symm
      · -- two characters differ at some byte that both have
        refine iff_of_false ?_ fun h => hdc h.1
        rintro ⟨t, ht⟩
        rw [encode_cons, encode_cons, List.append_assoc] at ht
        rcases lt_or_gt_of_ne hdc with hlt | hgt
        · have hbytes := (utf8EncodeChar_before hlt).append_lt (encode p ++ t) (encode cs)
          exact List.lt_irrefl _ (ht ▸ hbytes)
        · have hbytes := (utf8EncodeChar_before hgt).append_lt (encode cs) (encode p ++ t)
          exact List.lt_irrefl _ (ht ▸ hbytes)

/-- Behind its first byte a character begins like no text. -/
theorem not_encode_prefix_inside {k : Nat} (hpos : 0 < k)
    (hk : k < (String.utf8EncodeChar c).length) (d : Char) (p : List Char) (rest : List UInt8) :
    ¬encode (d :: p) <+: (String.utf8EncodeChar c).drop k ++ rest := by
  intro h
  have hfirst : 0 < (String.utf8EncodeChar d).length := by
    rw [String.length_utf8EncodeChar]
    exact d.utf8Size_pos
  rw [encode_cons, List.drop_eq_getElem_cons hk, List.cons_append] at h
  have hhead : (String.utf8EncodeChar d)[0] = (String.utf8EncodeChar c)[k] := by
    obtain ⟨b, bs, hbytes⟩ := List.exists_cons_of_length_pos hfirst
    simp only [hbytes, List.cons_append, List.cons_prefix_cons] at h ⊢
    exact h.1
  have hleads : (String.utf8EncodeChar d)[0].IsUTF8FirstByte :=
    UInt8.isUTF8FirstByte_getElem_utf8EncodeChar.mpr rfl
  rw [hhead, UInt8.isUTF8FirstByte_getElem_utf8EncodeChar] at hleads
  omega

/-! ## Positions -/

theorem offsetsFrom_skip (pattern xs rest : List UInt8) (here : Nat) :
    offsetsFrom pattern xs.length here (xs ++ rest) =
      offsetsFrom pattern 0 (here + xs.length) rest := by
  induction xs generalizing here with
  | nil => rfl
  | cons b xs ih =>
    rw [List.length_cons, List.cons_append, offsetsFrom, ih, Nat.add_right_comm, Nat.add_assoc]

/-- A pattern is met where it stands, and the search goes on behind it. -/
theorem offsetsFrom_pattern (hne : pattern ≠ []) (rest : List UInt8) (here : Nat) :
    offsetsFrom pattern 0 here (pattern ++ rest) =
      here :: offsetsFrom pattern 0 (here + pattern.length) rest := by
  obtain ⟨b, bs, rfl⟩ := List.exists_cons_of_ne_nil hne
  have hfront : (b :: bs).isPrefixOf (b :: (bs ++ rest)) = true :=
    List.isPrefixOf_iff_prefix.mpr (List.prefix_append (b :: bs) rest)
  have hskip := offsetsFrom_skip (b :: bs) bs rest (here + 1)
  rw [List.cons_append, offsetsFrom, if_pos hfront, List.length_cons, Nat.add_sub_cancel, hskip,
    Nat.add_assoc, Nat.add_comm 1]

/-- Nothing is met where the pattern begins nowhere. -/
theorem offsetsFrom_of_clear (here : Nat)
    (h : ∀ k < xs.length, ¬pattern <+: xs.drop k ++ rest) :
    offsetsFrom pattern 0 here (xs ++ rest) = offsetsFrom pattern 0 (here + xs.length) rest := by
  induction xs generalizing here with
  | nil => rfl
  | cons b xs ih =>
    have hfront : ¬pattern.isPrefixOf (b :: (xs ++ rest)) = true := fun hp =>
      h 0 (Nat.succ_pos _) (List.isPrefixOf_iff_prefix.mp hp)
    have hrest : ∀ k < xs.length, ¬pattern <+: xs.drop k ++ rest := fun k hk =>
      h (k + 1) (Nat.succ_lt_succ hk)
    rw [List.cons_append, offsetsFrom, if_neg hfront, ih _ hrest, List.length_cons,
      Nat.add_right_comm, Nat.add_assoc]

/-- A character that the pattern does not begin with is passed over byte by byte. -/
theorem offsetsFrom_char (hne : p ≠ []) (h : ¬p <+: c :: cs) (here : Nat) :
    offsetsFrom (encode p) 0 here (encode (c :: cs)) =
      offsetsFrom (encode p) 0 (here + c.utf8Size) (encode cs) := by
  obtain ⟨d, ds, rfl⟩ := List.exists_cons_of_ne_nil hne
  rw [← String.length_utf8EncodeChar c]
  refine offsetsFrom_of_clear here fun k hk => ?_
  rcases Nat.eq_zero_or_pos k with rfl | hpos
  · exact fun hp => h (encode_prefix_iff.mp hp)
  · exact not_encode_prefix_inside hpos hk d ds _

/-! ## Parts of a text -/

/-- Two texts put together in two ways: one of the first parts goes on where the other one ends. -/
theorem append_eq_append {a b c d : String} (h : a ++ b = c ++ d) :
    (∃ m, c = a ++ m ∧ b = m ++ d) ∨ ∃ m, a = c ++ m ∧ d = m ++ b := by
  have hchars : a.toList ++ b.toList = c.toList ++ d.toList := by
    rw [← String.toList_append, h, String.toList_append]
  rcases List.append_eq_append_iff.mp hchars with ⟨m, hc, hb⟩ | ⟨m, ha, hd⟩
  · exact .inl ⟨String.ofList m, by simp [← String.toList_inj, hc],
      by simp [← String.toList_inj, hb]⟩
  · exact .inr ⟨String.ofList m, by simp [← String.toList_inj, ha],
      by simp [← String.toList_inj, hd]⟩

theorem pos?_eq_some_iff {text : String} {n : Nat} {q : text.Pos} : text.pos? ⟨n⟩ = some q ↔
    q.offset = ⟨n⟩ := by
  unfold String.pos? String.Slice.pos?
  constructor
  · intro h
    split at h
    · obtain rfl := Option.some.inj h
      rfl
    · cases h
  · intro h
    have hvalid : String.Pos.Raw.isValidForSlice text.toSlice ⟨n⟩ = true :=
      String.Pos.Raw.isValidForSlice_eq_true_iff.mpr (h ▸ q.isValid.toSlice)
    rw [dif_pos hvalid, Option.map_some, Option.some_inj]
    exact String.Pos.ext h.symm

/-- What is taken out of the middle of a text. -/
theorem extract_middle {text before part after : String} {first last : text.Pos}
    (htext : text = before ++ part ++ after) (hfirst : first.offset = before.rawEndPos)
    (hlast : last.offset = (before ++ part).rawEndPos) : text.extract first last = part := by
  have hbytes : text.toByteArray = before.toByteArray ++
      (part.toByteArray ++ after.toByteArray) := by
    rw [htext, String.append_assoc, String.toByteArray_append, String.toByteArray_append]
  have hstart : first.offset.byteIdx = before.toByteArray.size + 0 := by rw [hfirst]; rfl
  have hstop : last.offset.byteIdx = before.toByteArray.size + part.toByteArray.size := by
    rw [hlast, String.byteIdx_rawEndPos, String.utf8ByteSize_append]
    rfl
  rw [← String.toByteArray_inj, String.toByteArray_extract, hbytes, hstart, hstop,
    ByteArray.extract_append_size_add, ByteArray.extract_append_eq_left rfl]

/-- A part of a text is what stands between a text in front and one behind, whose sizes its
positions are. -/
theorem slice?_eq_some_iff {text part : String} {start stop : Nat} :
    slice? text start stop = some part ↔
      ∃ before after, text = before ++ part ++ after ∧ start = before.utf8ByteSize ∧
        stop = (before ++ part).utf8ByteSize := by
  unfold slice?
  simp only [Option.bind_eq_bind, Option.bind_eq_some_iff, pos?_eq_some_iff]
  constructor
  · rintro ⟨first, hfirst, last, hlast, h⟩
    obtain ⟨before, behind, htext, hbefore⟩ :=
      String.Pos.Raw.isValid_iff_exists_append.mp first.isValid
    obtain ⟨front, after, htext', hfront⟩ :=
      String.Pos.Raw.isValid_iff_exists_append.mp last.isValid
    split at h
    · next hle =>
      have hsizes : before.utf8ByteSize ≤ front.utf8ByteSize := by
        rw [String.Pos.le_iff, hbefore, hfront] at hle
        exact hle
      -- the first text goes on up to the second cut, or the two cuts are one
      have hmiddle : ∃ middle, front = before ++ middle := by
        rcases append_eq_append (htext.symm.trans htext') with ⟨m, hm, -⟩ | ⟨m, hm, -⟩
        · exact ⟨m, hm⟩
        · rw [hm, String.utf8ByteSize_append] at hsizes
          have hempty : m = "" := String.utf8ByteSize_eq_zero_iff.mp (by omega)
          exact ⟨"", by rw [hm, hempty, String.append_empty, String.append_empty]⟩
      obtain ⟨middle, rfl⟩ := hmiddle
      obtain rfl : middle = part := by
        rw [← Option.some.inj h]
        exact (extract_middle htext' hbefore hfront).symm
      exact ⟨before, after, htext', congrArg String.Pos.Raw.byteIdx (hfirst.symm.trans hbefore),
        congrArg String.Pos.Raw.byteIdx (hlast.symm.trans hfront)⟩
    · cases h
  · rintro ⟨before, after, htext, rfl, rfl⟩
    have hfirst : before.rawEndPos.IsValid text :=
      String.Pos.Raw.isValid_iff_exists_append.mpr
        ⟨before, part ++ after, by rw [htext, String.append_assoc], rfl⟩
    have hlast : (before ++ part).rawEndPos.IsValid text :=
      String.Pos.Raw.isValid_iff_exists_append.mpr ⟨before ++ part, after, htext, rfl⟩
    have hle : text.pos _ hfirst ≤ text.pos _ hlast := by
      rw [String.Pos.le_iff, String.offset_pos, String.offset_pos, String.Pos.Raw.le_iff,
        String.byteIdx_rawEndPos, String.byteIdx_rawEndPos, String.utf8ByteSize_append]
      exact Nat.le_add_right _ _
    refine ⟨text.pos _ hfirst, rfl, text.pos _ hlast, rfl, ?_⟩
    rw [if_pos hle, extract_middle htext rfl rfl]

example : slice? "né" 0 2 = none ∧ slice? "né" 1 3 = some "é" ∧ slice? "né" 3 1 = none := by
  decide +kernel

end StudyFlow.Text
