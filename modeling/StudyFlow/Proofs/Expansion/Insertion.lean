import Mathlib.Data.List.Perm.Basic
import StudyFlow.Proofs.Expansion.Outcomes
import StudyFlow.Proofs.Text.Occurrences

/-!
# Values in commands

A command is filled with the values of one parameter after the other, so a value may itself be
searched for the placeholders of parameters that come later. `insertValues` goes over a command once
and never looks at a value. Both agree, whatever the order of the parameters, as long as the values
of some parameters make no placeholder of another one that is not in the command itself.
-/

namespace StudyFlow.Expansion

open Text

variable {ps qs : ParameterSet} {p q : Parameter} {k : Nat} {cs : List Char}

/-- The parameter whose placeholder a text begins with. -/
def referent? (ps : ParameterSet) (cs : List Char) : Option Parameter :=
  ps.find? fun p => matchesFront (· == ·) p.placeholder.toList cs

/-- The text with the values at an index in the places of the placeholders that a reader going from
left to right meets. The counter says how many characters of the last placeholder are still to be
passed over. -/
def insertChars (ps : ParameterSet) (index : Nat) : Nat → List Char → List Char
  | _, [] => []
  | 0, c :: cs => match referent? ps (c :: cs) with
    | some p => (valueAt p index).toList ++ insertChars ps index (p.placeholder.length - 1) cs
    | none => c :: insertChars ps index 0 cs
  | n + 1, _ :: cs => insertChars ps index n cs

/-- A command with the values of all parameters put in at once. -/
def insertValues (ps : ParameterSet) (index : Nat) (cmd : String) : String :=
  String.ofList (insertChars ps index 0 cmd.toList)

/-- The placeholders of parameters can be told apart wherever they stand: none begins like another
one, and none begins inside of one. -/
structure Separable (ps : ParameterSet) : Prop where
  front : ∀ p ∈ ps, ∀ q ∈ ps, p.placeholder.toList <+: q.placeholder.toList → p = q
  inside : ∀ p ∈ ps, ∀ q ∈ ps, ¬Overlaps p.placeholder.toList q.placeholder.toList

/-- With the values of the other parameters put in, a placeholder stands in a command as often as
before. -/
def Uncaptured (ps : ParameterSet) (index : Nat) (cmd : String) : Prop :=
  ∀ p ∈ ps, occurrences p.placeholder.toList (insertValues (ps.filter (· ≠ p)) index cmd).toList =
    occurrences p.placeholder.toList cmd.toList

instance (ps : ParameterSet) (index : Nat) (cmd : String) : Decidable (Uncaptured ps index cmd) :=
  inferInstanceAs (Decidable (∀ p ∈ ps, _ = _))

theorem placeholder_ne_nil (p : Parameter) : p.placeholder.toList ≠ [] := by
  simp [Parameter.placeholder, placeholder]

/-! ## Reading a text -/

theorem referent?_eq_none (h : ∀ p ∈ ps, ¬p.placeholder.toList <+: cs) :
    referent? ps cs = none := by
  refine List.find?_eq_none.mpr fun p hp hm => h p hp ?_
  exact (matchesFront_iff _ _).mp hm

/-- Characters that no placeholder begins in stay. -/
theorem insertChars_of_clear {xs rest : List Char}
    (h : ∀ p ∈ ps, Clear p.placeholder.toList xs rest) :
    insertChars ps k 0 (xs ++ rest) = xs ++ insertChars ps k 0 rest := by
  induction xs with
  | nil => rfl
  | cons c xs ih =>
    have hnone : referent? ps (c :: (xs ++ rest)) = none :=
      referent?_eq_none fun p hp => (clear_cons_iff.mp (h p hp)).1
    have hrest := ih fun p hp => (clear_cons_iff.mp (h p hp)).2
    rw [List.cons_append, insertChars, hnone, List.cons_append]
    exact congrArg _ hrest

theorem insertChars_skip (ps : ParameterSet) (k : Nat) (xs rest : List Char) :
    insertChars ps k xs.length (xs ++ rest) = insertChars ps k 0 rest := by
  induction xs with
  | nil => rfl
  | cons c xs ih => exact ih

/-- A placeholder makes way for the value of its parameter. -/
theorem insertChars_placeholder {rest : List Char} (hp : p ∈ ps)
    (hunique : ∀ q ∈ ps, q.placeholder.toList <+: p.placeholder.toList ++ rest → q = p) :
    insertChars ps k 0 (p.placeholder.toList ++ rest) = (valueAt p k).toList ++
      insertChars ps k 0 rest := by
  obtain ⟨c, cs, hcs⟩ := List.exists_cons_of_ne_nil (placeholder_ne_nil p)
  have hsome : referent? ps (p.placeholder.toList ++ rest) = some p := by
    cases hr : referent? ps (p.placeholder.toList ++ rest) with
    | none =>
      have hno := List.find?_eq_none.mp hr p hp
      exact absurd ((matchesFront_iff _ _).mpr (List.prefix_append _ rest)) hno
    | some q =>
      have hq := List.find?_some hr
      rw [hunique q (List.mem_of_find?_eq_some hr) ((matchesFront_iff _ _).mp hq)]
  have hlength : p.placeholder.length - 1 = cs.length := by
    rw [← String.length_toList, hcs]
    rfl
  rw [hcs, List.cons_append] at hsome ⊢
  have hskip := insertChars_skip ps k cs rest
  rw [← hlength] at hskip
  rw [insertChars, hsome]
  exact congrArg _ hskip

/-! ## The pieces of a command -/

inductive Piece where
  | own (c : Char)
  | place (p : Parameter)

/-- The characters of a piece once the values of some parameters are put in. -/
def Piece.chars (qs : ParameterSet) (index : Nat) : Piece → List Char
  | own c => [c]
  | place p => if p ∈ qs then (valueAt p index).toList else p.placeholder.toList

/-- The text that pieces make once the values of some parameters are put in. -/
def text (qs : ParameterSet) (index : Nat) (pieces : List Piece) : List Char :=
  pieces.flatMap (Piece.chars qs index)

def placesOf (p : Parameter) : List Piece → Nat
  | [] => 0
  | .own _ :: pieces => placesOf p pieces
  | .place q :: pieces => (if q = p then 1 else 0) + placesOf p pieces

/-- The text is read as pieces from left to right. A character is the command's own if no
placeholder begins with it. -/
inductive Reading (ps : ParameterSet) : List Char → List Piece → Prop
  | nil : Reading ps [] []
  | own {c : Char} {cs : List Char} {pieces : List Piece} :
    (∀ p ∈ ps, ¬p.placeholder.toList <+: c :: cs) →
    Reading ps cs pieces → Reading ps (c :: cs) (.own c :: pieces)
  | place {p : Parameter} {cs : List Char} {pieces : List Piece} : p ∈ ps → Reading ps cs pieces →
    Reading ps (p.placeholder.toList ++ cs) (.place p :: pieces)

theorem exists_reading (ps : ParameterSet) (cs : List Char) : ∃ pieces, Reading ps cs pieces := by
  induction h : cs.length using Nat.strong_induction_on generalizing cs with
  | _ n ih =>
    cases cs with
    | nil => exact ⟨[], .nil⟩
    | cons c cs =>
      by_cases hp : ∃ p ∈ ps, p.placeholder.toList <+: c :: cs
      · obtain ⟨p, hp, rest, hrest⟩ := hp
        have hlength := congrArg List.length hrest
        have hpos := List.length_pos_iff.mpr (placeholder_ne_nil p)
        rw [List.length_append] at hlength
        obtain ⟨pieces, hread⟩ := ih rest.length (by omega) rest rfl
        rw [← hrest]
        exact ⟨_, .place hp hread⟩
      · have hnone : ∀ p ∈ ps, ¬p.placeholder.toList <+: c :: cs := fun p hm h => hp ⟨p, hm, h⟩
        obtain ⟨pieces, hread⟩ := ih cs.length (by simp [← h]) cs rfl
        exact ⟨_, .own hnone hread⟩

variable {pieces : List Piece}

theorem Separable.eq_of_prefix (h : Separable ps) (hp : p ∈ ps) (hq : q ∈ ps) {rest : List Char}
    (hpre : p.placeholder.toList <+: q.placeholder.toList ++ rest) : p = q := by
  rcases List.prefix_or_prefix_of_prefix hpre (List.prefix_append _ rest) with hle | hle
  · exact h.front p hp q hq hle
  · exact (h.front q hq p hp hle).symm

/-- A placeholder keeps clear of those of other parameters. -/
theorem Separable.clear (h : Separable ps) (hp : p ∈ ps) (hq : q ∈ ps) (hne : p ≠ q)
    (rest : List Char) :
    Clear p.placeholder.toList q.placeholder.toList rest := by
  have hfront : ¬p.placeholder.toList <+: q.placeholder.toList ++ rest :=
    fun hpre => hne (h.eq_of_prefix hp hq hpre)
  have hinside := h.inside q hq p hp
  obtain ⟨c, cs, hcs⟩ := List.exists_cons_of_ne_nil (placeholder_ne_nil q)
  rw [hcs] at hfront hinside ⊢
  exact clear_cons_iff.mpr ⟨hfront, clear_of_not_overlaps hinside⟩

/-- What the values of some parameters make of a text, read piece by piece. -/
theorem Reading.insertChars_eq (h : Reading ps cs pieces) (hs : Separable ps)
    (hqs : ∀ q ∈ qs, q ∈ ps) :
    insertChars qs k 0 cs = text qs k pieces := by
  induction h with
  | nil => rfl
  | @own c cs pieces hown hread ih =>
    have hclear : ∀ q ∈ qs, Clear q.placeholder.toList [c] cs := fun q hq =>
      clear_cons_iff.mpr ⟨hown q (hqs q hq), clear_nil _ _⟩
    have hstep := insertChars_of_clear (k := k) hclear
    rw [ih] at hstep
    exact hstep
  | @place p cs pieces hp hread ih =>
    have htext : text qs k (.place p :: pieces) = Piece.chars qs k (.place p) ++
      text qs k pieces := rfl
    rw [htext, Piece.chars, ← ih]
    split
    · next hq => exact insertChars_placeholder hq fun q hq hpre =>
        hs.eq_of_prefix (hqs q hq) hp hpre
    · next hno =>
      refine insertChars_of_clear fun q hq => hs.clear (hqs q hq) hp ?_ cs
      rintro rfl
      exact hno hq

theorem text_cons (piece : Piece) : text qs k (piece :: pieces) = piece.chars qs k ++
    text qs k pieces := rfl

theorem Piece.chars_of_mem (hp : p ∈ qs) : (place p).chars qs k = (valueAt p k).toList := if_pos hp

theorem Piece.chars_of_not_mem (hp : p ∉ qs) : (place p).chars qs k =
    p.placeholder.toList := if_neg hp

/-- Before any value is put in, the pieces make the text itself. -/
theorem Reading.text_nil (h : Reading ps cs pieces) (k : Nat) : text [] k pieces = cs := by
  induction h with
  | nil => rfl
  | own _ _ ih => rw [text_cons, ih]; rfl
  | place _ _ ih => rw [text_cons, ih, Piece.chars_of_not_mem List.not_mem_nil]

/-- Which values are put in is all that counts. -/
theorem Reading.text_congr {rs : ParameterSet} (h : Reading ps cs pieces)
    (hmem : ∀ p ∈ ps, p ∈ qs ↔ p ∈ rs) :
    text qs k pieces = text rs k pieces := by
  induction h with
  | nil => rfl
  | own _ _ ih => rw [text_cons, text_cons, ih]; rfl
  | place hp _ ih => rw [text_cons, text_cons, ih, Piece.chars, Piece.chars,
    if_congr (hmem _ hp) rfl rfl]

/-! ## Placeholders that stand in a filled text -/

/-- Each place of a parameter whose value is not put in is an occurrence of its placeholder. -/
theorem placesOf_le (hp : p ∉ qs) (hself : ¬Overlaps p.placeholder.toList p.placeholder.toList)
    (pieces : List Piece) : placesOf p pieces ≤ occurrences p.placeholder.toList
      (text qs k pieces) := by
  induction pieces with
  | nil => exact Nat.le_refl _
  | cons piece pieces ih =>
    rw [text_cons]
    cases piece with
    | own c => exact ih.trans (occurrences_le_append _ _ _)
    | place q =>
      rw [placesOf]
      split
      · next hq =>
        subst hq
        rw [Piece.chars_of_not_mem hp, occurrences_pattern_append (placeholder_ne_nil q) hself]
        omega
      · have hle := occurrences_le_append p.placeholder.toList ((Piece.place q).chars qs k)
          (text qs k pieces)
        omega

/-- In a text itself they are all of its occurrences. -/
theorem Reading.occurrences_eq (h : Reading ps cs pieces) (hs : Separable ps) (hp : p ∈ ps) :
    occurrences p.placeholder.toList cs = placesOf p pieces := by
  induction h with
  | nil => rfl
  | own hown _ ih => rw [occurrences_cons_of_not_isPrefix (hown p hp), ih, placesOf]
  | @place q cs pieces hq _ ih =>
    rw [placesOf, ← ih]
    split
    · next heq =>
      subst heq
      rw [occurrences_pattern_append (placeholder_ne_nil q) (hs.inside q hp q hp), Nat.add_comm]
    · next hne =>
      rw [(hs.clear hp hq (Ne.symm hne) cs).occurrences_append, Nat.zero_add]

/-- The end of a placeholder stands at the front of a text no less when more values are put in: it
does not reach into another placeholder, and values that are in stay. -/
theorem Reading.prefix_text {rs : ParameterSet} (h : Reading ps cs pieces) (hs : Separable ps)
    (hp : p ∈ ps) (hsub : ∀ q ∈ qs, q ∈ rs) {a w : List Char} (hw : p.placeholder.toList = a ++ w)
    (ha : a ≠ []) (hpre : w <+: text qs k pieces) : w <+: text rs k pieces := by
  induction h generalizing a w with
  | nil => exact hpre
  | @own c cs pieces hown hread ih =>
    rw [text_cons] at hpre ⊢
    rcases prefix_append_cases hpre with hin | ⟨v, rfl, hv⟩
    · exact List.prefix_append_of_prefix hin
    · refine (List.prefix_append_right_inj [c]).mpr (ih (a := a ++ [c]) ?_ (by simp) hv)
      rw [hw, List.append_assoc]
      rfl
  | @place q cs pieces hq hread ih =>
    rw [text_cons] at hpre ⊢
    by_cases hin : q ∈ qs
    · rw [Piece.chars_of_mem hin] at hpre
      rw [Piece.chars_of_mem (hsub q hin)]
      rcases prefix_append_cases hpre with hval | ⟨v, rfl, hv⟩
      · exact List.prefix_append_of_prefix hval
      · refine (List.prefix_append_right_inj _).mpr (ih (a := a ++ (valueAt q k).toList) ?_ ?_ hv)
        · rw [hw, List.append_assoc]
        · exact fun h => ha (List.append_eq_nil_iff.mp h).1
    · rw [Piece.chars_of_not_mem hin] at hpre
      have hnil : w = [] := by
        by_contra hne
        exact hs.inside p hp q hq ⟨a, w, hw, ha, hne,
          List.prefix_or_prefix_of_prefix hpre (List.prefix_append _ _)⟩
      rw [hnil]
      exact List.nil_prefix

/-- So characters that are clear of a placeholder with more values behind them are clear of it with
fewer. -/
theorem Reading.clear_text {rs : ParameterSet} (h : Reading ps cs pieces) (hs : Separable ps)
    (hp : p ∈ ps) (hsub : ∀ q ∈ qs, q ∈ rs) {xs : List Char}
    (hclear : Clear p.placeholder.toList xs (text rs k pieces)) :
    Clear p.placeholder.toList xs (text qs k pieces) := by
  intro w hne hw hpre
  refine hclear w hne hw ?_
  rcases prefix_append_cases hpre with hin | ⟨v, hv, hrest⟩
  · exact List.prefix_append_of_prefix hin
  · rw [hv]
    exact (List.prefix_append_right_inj w).mpr (h.prefix_text hs hp hsub hv hne hrest)

/-- Putting in the value of one more parameter, where those of all others make no further
placeholder of it. -/
theorem Reading.insert_one (h : Reading ps cs pieces) (hs : Separable ps) (hp : p ∈ ps)
    (hnew : p ∉ qs) (hsub : ∀ q ∈ qs, q ∈ ps)
    (hclean : occurrences p.placeholder.toList (text (ps.filter (· ≠ p)) k pieces) ≤
      placesOf p pieces) :
    insertChars [p] k 0 (text qs k pieces) = text (p :: qs) k pieces := by
  have hothers : ∀ q ∈ qs, q ∈ ps.filter (· ≠ p) := by
    intro q hq
    have hne : q ≠ p := fun he => hnew (he ▸ hq)
    simp [hsub q hq, hne]
  have hp' : p ∉ ps.filter (· ≠ p) := by simp
  have hleast := placesOf_le (k := k) hp' (hs.inside p hp p hp)
  -- characters that count for no place keep clear of the placeholder, and stay
  have hstays : ∀ {xs cs : List Char} {pieces : List Piece}, Reading ps cs pieces →
      occurrences p.placeholder.toList (xs ++ text (ps.filter (· ≠ p)) k pieces) ≤
        placesOf p pieces →
      insertChars [p] k 0 (xs ++ text qs k pieces) = xs ++
        insertChars [p] k 0 (text qs k pieces) := by
    intro xs cs pieces hread hle
    have hclear := occurrences_append_le_iff.mp (hle.trans (hleast pieces))
    refine insertChars_of_clear fun q hq => ?_
    rw [List.mem_singleton.mp hq]
    exact hread.clear_text hs hp hothers hclear
  induction h with
  | nil => rfl
  | @own c cs pieces hown hread ih =>
    have hle : occurrences p.placeholder.toList ([c] ++ text (ps.filter (· ≠ p)) k pieces) ≤
        placesOf p pieces := hclean
    have hrest := ih ((occurrences_le_append _ _ _).trans hle)
    rw [text_cons, text_cons, ← hrest]
    exact hstays hread hle
  | @place q cs pieces hq hread ih =>
    rw [text_cons, placesOf] at hclean
    rw [text_cons, text_cons]
    by_cases heq : q = p
    · subst heq
      rw [Piece.chars_of_not_mem hp', occurrences_pattern_append (placeholder_ne_nil q)
        (hs.inside q hp q hp), if_pos rfl] at hclean
      rw [Piece.chars_of_not_mem hnew, Piece.chars_of_mem List.mem_cons_self, ← ih (by omega)]
      exact insertChars_placeholder List.mem_cons_self fun r hr _ => List.mem_singleton.mp hr
    · rw [if_neg heq, Nat.zero_add] at hclean
      have hrest := ih ((occurrences_le_append _ _ _).trans hclean)
      rw [← hrest]
      by_cases hin : q ∈ qs
      · rw [Piece.chars_of_mem (hothers q hin)] at hclean
        rw [Piece.chars_of_mem hin, Piece.chars_of_mem (List.mem_cons_of_mem p hin)]
        exact hstays hread hclean
      · have hstill : q ∉ p :: qs := by simp [heq, hin]
        rw [Piece.chars_of_not_mem hin, Piece.chars_of_not_mem hstill]
        refine insertChars_of_clear fun r hr => ?_
        rw [List.mem_singleton.mp hr]
        exact hs.clear hp hq (Ne.symm heq) _

/-! ## One parameter after the other -/

/-- Replacing the placeholder of one parameter goes over the text once. -/
theorem substitute_eq_insertChars (p : Parameter) (k n : Nat) (cs : List Char) :
    substitute (· == ·) p.placeholder.toList (valueAt p k).toList n cs =
      insertChars [p] k n cs := by
  induction cs generalizing n with
  | nil => cases n <;> rfl
  | cons c cs ih =>
    cases n with
    | succ n => exact ih n
    | zero =>
      rw [substitute, insertChars, referent?, List.find?_singleton, ih, ih, String.length_toList]
      split <;> simp_all

theorem replace_eq_insertValues (p : Parameter) (k : Nat) (cmd : String) :
    Text.replace cmd p.placeholder (valueAt p k) = insertValues [p] k cmd := by
  have hne : p.placeholder.isEmpty = false := by
    simpa [String.isEmpty_eq_false_iff] using placeholder_ne_nil p
  rw [Text.replace, replaceWhere, hne]
  exact congrArg String.ofList (substitute_eq_insertChars p k 0 cmd.toList)

theorem fill_cons (p : Parameter) (qs : ParameterSet) (k : Nat) (cmd : String) :
    fill (p :: qs) k cmd = fill qs k (insertValues [p] k cmd) := by
  rw [← replace_eq_insertValues]
  rfl

/-- Filling in the values of further parameters, one after the other. -/
theorem Reading.fill_text (h : Reading ps cs pieces) (hs : Separable ps) (qs : ParameterSet)
    (hclean : ∀ p ∈ ps, occurrences p.placeholder.toList (text (ps.filter (· ≠ p)) k pieces) ≤
      placesOf p pieces)
    {rest : ParameterSet} (hrest : ∀ q ∈ rest, q ∈ ps ∧ q ∉ qs) (hnodup : rest.Nodup)
    (hsub : ∀ q ∈ qs, q ∈ ps) :
    fill rest k (String.ofList (text qs k pieces)) =
      String.ofList (text (rest.reverse ++ qs) k pieces) := by
  induction rest generalizing qs with
  | nil => rfl
  | cons p rest ih =>
    obtain ⟨⟨hp, hnew⟩, hrest⟩ := List.forall_mem_cons.mp hrest
    obtain ⟨hfirst, hnodup⟩ := List.nodup_cons.mp hnodup
    have hone := h.insert_one hs hp hnew hsub (hclean p hp)
    rw [fill_cons, insertValues, String.toList_ofList, hone,
      ih (p :: qs) ?_ hnodup (List.forall_mem_cons.mpr ⟨hp, hsub⟩), List.reverse_cons,
      List.append_assoc]
    · rfl
    · intro q hq
      refine ⟨(hrest q hq).1, ?_⟩
      rw [List.mem_cons, not_or]
      exact ⟨fun he => hfirst (he ▸ hq), (hrest q hq).2⟩

/-- In any order the parameters fill a command as if all values were put in at once, if these make
no further placeholders. -/
theorem fill_eq_insertValues {cmd : String} (hs : Separable ps) (hclean : Uncaptured ps k cmd)
    (hnodup : qs.Nodup) (hmem : ∀ p, p ∈ qs ↔ p ∈ ps) : fill qs k cmd = insertValues ps k cmd := by
  obtain ⟨pieces, hread⟩ := exists_reading ps cmd.toList
  have hcount : ∀ p ∈ ps,
      occurrences p.placeholder.toList (text (ps.filter (· ≠ p)) k pieces) ≤ placesOf p pieces := by
    intro p hp
    have hcmd := hclean p hp
    have hsub : ∀ q ∈ ps.filter (· ≠ p), q ∈ ps := fun q hq => List.mem_of_mem_filter hq
    rw [insertValues, String.toList_ofList, hread.insertChars_eq hs hsub,
      hread.occurrences_eq hs hp] at hcmd
    exact Nat.le_of_eq hcmd
  have hfill := hread.fill_text hs [] hcount (fun q hq =>
    ⟨(hmem q).mp hq, List.not_mem_nil⟩) hnodup nofun
  rw [hread.text_nil, String.ofList_toList] at hfill
  rw [hfill, insertValues, hread.insertChars_eq hs fun _ h => h]
  refine congrArg String.ofList (hread.text_congr fun p _ => ?_)
  simp [hmem p]

/-! ## Names without parentheses -/

/-- A name with nothing in it that ends a placeholder or begins one. -/
def IsPlainName (name : String) : Prop := ')' ∉ name.toList ∧ ¬['$', '('] <:+: name.toList

instance (name : String) : Decidable (IsPlainName name) := inferInstanceAs (Decidable (_ ∧ ¬_))

theorem toList_placeholder (p : Parameter) :
    p.placeholder.toList = '$' :: '(' :: (p.name.toList ++ [')']) := by
  simp [Parameter.placeholder, placeholder]

/-- No placeholder begins inside of one with a plain name. -/
theorem not_overlaps_of_isPlainName (hp : IsPlainName p.name) (q : Parameter) :
    ¬Overlaps p.placeholder.toList q.placeholder.toList := by
  rintro ⟨a, w, heq, ha, hw, hover⟩
  rw [toList_placeholder] at heq hover
  -- what both have in common begins with the dollar sign, and goes on with the parenthesis if it
  -- goes on
  have hfront : w = ['$'] ∨ ∃ u, w = '$' :: '(' :: u := by
    rcases hover with ⟨u, hu⟩ | ⟨u, rfl⟩
    · obtain ⟨c, v, rfl⟩ := List.exists_cons_of_ne_nil hw
      obtain ⟨rfl, hv⟩ := List.cons.inj hu
      cases v with
      | nil => exact .inl rfl
      | cons d v =>
        obtain ⟨rfl, -⟩ := List.cons.inj hv
        exact .inr ⟨v, rfl⟩
    · exact .inr ⟨_, rfl⟩
  obtain ⟨b, hb⟩ : ∃ b, p.name.toList ++ [')'] = b ++ w := by
    obtain ⟨c, a, rfl⟩ := List.exists_cons_of_ne_nil ha
    obtain ⟨-, ha⟩ := List.cons.inj heq
    cases a with
    | nil =>
      have hw : '(' :: (p.name.toList ++ [')']) = w := ha
      rcases hfront with rfl | ⟨u, rfl⟩
      · cases hw
      · cases hw
    | cons d a => exact ⟨a, (List.cons.inj ha).2⟩
  rcases hfront with rfl | ⟨u, rfl⟩
  · have hlast := List.append_inj_right' hb rfl
    cases hlast
  · have hinfix : ['$', '('] <:+: p.name.toList ++ [')'] := ⟨b, u, by simp [hb]⟩
    rcases List.infix_concat_iff.mp hinfix with hsuffix | hin
    · obtain ⟨t, ht, -⟩ := (List.suffix_concat_iff.mp hsuffix).resolve_left (List.cons_ne_nil _ _)
      have hends : ['$'] ++ ['('] = t ++ [')'] := ht
      have hlast : ['('] = [')'] := List.append_inj_right' hends rfl
      cases hlast
    · exact hp.2 hin

theorem separable_of_isPlainName (hplain : ∀ p ∈ ps, IsPlainName p.name)
    (hdistinct : (ps.map Parameter.name).Nodup) : Separable ps where
  front := by
    intro p hp q hq hpre
    simp only [toList_placeholder, List.cons_prefix_cons, true_and] at hpre
    have hname : p.name = q.name := by
      rcases List.prefix_concat_iff.mp hpre with heq | hle
      · exact String.toList_inj.mp (List.append_cancel_right heq)
      · exact absurd (hle.subset (by simp)) (hplain q hq).1
    exact List.inj_on_of_nodup_map hdistinct hp hq hname
  inside := fun p hp q _ => not_overlaps_of_isPlainName (hplain p hp) q

end StudyFlow.Expansion

namespace StudyFlow.Template

open Expansion

variable {t : Template} {ps qs : ParameterSet} {root root' : Path} {now now' : Millis}
  {is js : List Instance}

/-- Two expansions with the same parameters in different orders. -/
theorem commands_of_expand (hperm : ps.Perm qs) (hs : Separable ps)
    (hps : t.expand ps root now = .ok (some is)) (hqs : t.expand qs root' now' = .ok (some js)) :
    is.length = js.length ∧ ∀ k i j, is[k]? = some i → js[k]? = some j →
      (Uncaptured ps k t.run.cmd → i.cmd = insertValues ps k t.run.cmd ∧
        j.cmd = insertValues ps k t.run.cmd) ∧
      ((∀ cmd ∈ t.run.restart, Uncaptured ps k cmd) →
        i.restartCmd = t.run.restart.map (insertValues ps k) ∧
          j.restartCmd = t.run.restart.map (insertValues ps k)) := by
  have hsound : ps.Sound is.length := (instanceAt_of_expand hps).1.sound
  have hsound' : qs.Sound js.length := (instanceAt_of_expand hqs).1.sound
  have hlength : is.length = js.length := by
    obtain ⟨p, hp⟩ := List.exists_mem_of_ne_nil ps (refers_of_expand hps).1
    rw [← hsound.length_eq p hp, ← hsound'.length_eq p (hperm.mem_iff.mp hp)]
  refine ⟨hlength, fun k i j hi hj => ?_⟩
  obtain rfl := getElem?_expand hps hi
  obtain rfl := getElem?_expand hqs hj
  have hfill : ∀ cmd, Uncaptured ps k cmd →
      fill ps k cmd = insertValues ps k cmd ∧ fill qs k cmd = insertValues ps k cmd := by
    intro cmd hclean
    exact ⟨fill_eq_insertValues hs hclean (List.Nodup.of_map _ hsound.distinct) fun _ => Iff.rfl,
      fill_eq_insertValues hs hclean (List.Nodup.of_map _ hsound'.distinct) fun _ =>
        hperm.mem_iff.symm⟩
  refine ⟨hfill t.run.cmd, fun hrestart => ?_⟩
  exact ⟨Option.map_congr fun cmd hcmd => (hfill cmd (hrestart cmd hcmd)).1,
    Option.map_congr fun cmd hcmd => (hfill cmd (hrestart cmd hcmd)).2⟩

/-- A step with three parameters, of which only the last is in a place of its own. -/
def nested : Template :=
  { name := "sim", run := { cmd := "run $(X) $(Y)$(Z)", restart := some "again $(Z)" } }

/-- Values that look like placeholders: one of the parameter itself, one of no parameter, and half
of one. -/
def lookalikes : ParameterSet :=
  [⟨"X", "a", ["$(X):/opt"]⟩, ⟨"Y", "b", ["$(HOME)"]⟩, ⟨"Z", "c", ["(Y)"]⟩]

theorem commands_of_expand_lookalikes :
    lookalikes.Perm lookalikes.reverse ∧ Separable lookalikes ∧
      nested.expand lookalikes ⟨"study"⟩ 0 =
        .ok (some [instanceAt nested lookalikes ⟨"study"⟩ 0 0]) ∧
      nested.expand lookalikes.reverse ⟨"study"⟩ 0 =
        .ok (some [instanceAt nested lookalikes.reverse ⟨"study"⟩ 0 0]) ∧
      Uncaptured lookalikes 0 nested.run.cmd ∧
      (instanceAt nested lookalikes ⟨"study"⟩ 0 0).cmd = "run $(X):/opt $(HOME)(Y)" ∧
      (instanceAt nested lookalikes.reverse ⟨"study"⟩ 0 0).cmd = "run $(X):/opt $(HOME)(Y)" ∧
      (instanceAt nested lookalikes.reverse ⟨"study"⟩ 0 0).restartCmd = some "again (Y)" := by
  have hperm : lookalikes.Perm lookalikes.reverse := (List.reverse_perm lookalikes).symm
  have hs : Separable lookalikes := separable_of_isPlainName (by decide +kernel) (by decide +kernel)
  have hps : nested.expand lookalikes ⟨"study"⟩ 0 =
      .ok (some [instanceAt nested lookalikes ⟨"study"⟩ 0 0]) := by rfl
  have hqs : nested.expand lookalikes.reverse ⟨"study"⟩ 0 =
      .ok (some [instanceAt nested lookalikes.reverse ⟨"study"⟩ 0 0]) := by rfl
  have hcmd : Uncaptured lookalikes 0 nested.run.cmd := by decide +kernel
  have hrestart : ∀ cmd ∈ nested.run.restart, Uncaptured lookalikes 0 cmd := by
    rintro cmd ⟨⟩
    decide +kernel
  have hfilled : insertValues lookalikes 0 nested.run.cmd = "run $(X):/opt $(HOME)(Y)" := by
    decide +kernel
  have hagain : nested.run.restart.map (insertValues lookalikes 0) = some "again (Y)" := by
    decide +kernel
  obtain ⟨-, hall⟩ := commands_of_expand hperm hs hps hqs
  obtain ⟨hrun, hback⟩ := hall 0 _ _ rfl rfl
  rw [hfilled] at hrun
  rw [hagain] at hback
  exact ⟨hperm, hs, hps, hqs, hcmd, (hrun hcmd).1, (hrun hcmd).2, (hback hrestart).2⟩

/-- A value that is the placeholder of another parameter, and the parameters in the two orders. -/
def forward : ParameterSet := [⟨"X", "a", ["$(Y)"]⟩, ⟨"Y", "b", ["1"]⟩]

/-- The value is replaced in turn if its parameter comes first, and only then. -/
theorem expand_replaces_value :
    forward.Perm forward.reverse ∧
      (Template.new "sim" "run $(X)").expand forward ⟨"study"⟩ 0 =
        .ok (some [instanceAt (Template.new "sim" "run $(X)") forward ⟨"study"⟩ 0 0]) ∧
      (Template.new "sim" "run $(X)").expand forward.reverse ⟨"study"⟩ 0 =
        .ok (some [instanceAt (Template.new "sim" "run $(X)") forward.reverse ⟨"study"⟩ 0 0]) ∧
      (instanceAt (Template.new "sim" "run $(X)") forward ⟨"study"⟩ 0 0).cmd = "run 1" ∧
      (instanceAt (Template.new "sim" "run $(X)") forward.reverse ⟨"study"⟩ 0 0).cmd = "run $(Y)" ∧
      insertValues forward 0 "run $(X)" = "run $(Y)" :=
  ⟨(List.reverse_perm forward).symm, by rfl, by rfl, by decide +kernel, by decide +kernel,
    by decide +kernel⟩

end StudyFlow.Template
