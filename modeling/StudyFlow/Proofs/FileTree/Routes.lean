import StudyFlow.Proofs.FileTree.Entries

/-!
# The names on a path

A path is read as the names between its slashes. The names of a child are the names of its directory
and one more, and the last name of a path keeps what stands at the end of its text.
-/

namespace StudyFlow

theorem splitSlash_ne_nil (cs : List Char) : splitSlash cs ≠ [] := by
  fun_induction splitSlash cs with
  | case1 => simp
  | case2 => simp
  | case3 => simp
  | case4 => simp

theorem splitSlash_cons_slash (cs : List Char) : splitSlash ('/' :: cs) = [] :: splitSlash cs := by
  simp [splitSlash]

theorem splitSlash_cons {c : Char} (hc : c ≠ '/') {cs w : List Char} {ws : List (List Char)}
    (h : splitSlash cs = w :: ws) : splitSlash (c :: cs) = (c :: w) :: ws := by
  simp [splitSlash, hc, h]

/-- A slash separates what stands before it from what stands behind it. -/
theorem splitSlash_append_slash (xs ys : List Char) :
    splitSlash (xs ++ '/' :: ys) = splitSlash xs ++ splitSlash ys := by
  induction xs with
  | nil => simp [splitSlash]
  | cons x xs ih =>
    by_cases hx : x = '/'
    · subst hx
      rw [List.cons_append, splitSlash_cons_slash, splitSlash_cons_slash, ih, List.cons_append]
    · obtain ⟨w, ws, hw⟩ := List.exists_cons_of_ne_nil (splitSlash_ne_nil xs)
      rw [hw, List.cons_append] at ih
      rw [List.cons_append, splitSlash_cons hx ih, splitSlash_cons hx hw, List.cons_append]

/-- Without a slash in it a text is added to the last piece. -/
theorem splitSlash_append {xs ys : List Char} {w : List Char} {ws : List (List Char)}
    (hy : '/' ∉ ys) (h : splitSlash xs = ws ++ [w]) : splitSlash (xs ++ ys) = ws ++ [w ++ ys] := by
  induction xs generalizing w ws with
  | nil =>
    obtain ⟨rfl, rfl⟩ : ws = [] ∧ w = [] := by
      have he : [[]] = ws ++ [w] := h
      cases ws with
      | nil => simpa [eq_comm] using he
      | cons v ws => simp at he
    clear h
    induction ys with
    | nil => rfl
    | cons y ys ih =>
      have hne : y ≠ '/' := fun he => hy (he ▸ List.mem_cons_self)
      exact splitSlash_cons hne (ih fun hm => hy (List.mem_cons_of_mem _ hm))
  | cons x xs ih =>
    obtain ⟨v, vs, hv⟩ := List.exists_cons_of_ne_nil (splitSlash_ne_nil xs)
    by_cases hx : x = '/'
    · subst hx
      rw [splitSlash_cons_slash] at h
      cases ws with
      | nil => rw [hv] at h; simp at h
      | cons u ws =>
        obtain ⟨rfl, ht⟩ := List.cons.inj h
        rw [List.cons_append, splitSlash_cons_slash, ih ht, List.cons_append]
    · rw [splitSlash_cons hx hv] at h
      cases ws with
      | nil =>
        obtain ⟨rfl, rfl⟩ : x :: v = w ∧ vs = [] := by simpa using h
        have hv : splitSlash xs = [] ++ [v] := hv
        exact splitSlash_cons hx (ih hv)
      | cons u ws =>
        obtain ⟨rfl, rfl⟩ := List.cons.inj h
        have hv : splitSlash xs = (v :: ws) ++ [w] := hv
        exact splitSlash_cons hx (ih hv)

theorem slash_not_mem_of_mem_splitSlash (cs : List Char) : ∀ w ∈ splitSlash cs, '/' ∉ w := by
  induction cs with
  | nil => simp [splitSlash]
  | cons c cs ih =>
    obtain ⟨v, vs, hv⟩ := List.exists_cons_of_ne_nil (splitSlash_ne_nil cs)
    rw [hv] at ih
    by_cases hc : c = '/'
    · subst hc
      rw [splitSlash_cons_slash, hv]
      simpa using ih
    · rw [splitSlash_cons hc hv]
      intro w hw
      rcases List.mem_cons.mp hw with rfl | hw
      · have hn := ih v List.mem_cons_self
        simp [hn, Ne.symm hc]
      · exact ih w (List.mem_cons_of_mem _ hw)

/-- A name that is one piece of a path. -/
structure IsPlainName (n : String) : Prop where
  ne_empty : n ≠ ""
  no_slash : '/' ∉ n.toList

namespace Path

def start (p : Path) : Location := if p.isAbsolute then ["/"] else []

/-- The pieces between slashes that are not empty. -/
def steps (cs : List Char) : List String :=
  ((splitSlash cs).filter fun w => w != []).map String.ofList

def names (p : Path) : List String := steps p.text.toList

def isSlashed (p : Path) : Bool := p.text.toList.getLast? == some '/'

/-- A text that the system takes as a path. -/
structure Walkable (p : Path) : Prop where
  ne_empty : p.text ≠ ""
  no_zero : '\x00' ∉ p.text.toList
  size : p.text.utf8ByteSize ≤ FileTree.maxPathSize

theorem route_eq_ok_iff {p : Path} {r : Route} :
    p.route = .ok r ↔ p.Walkable ∧ r = ⟨p.start, p.names, p.isSlashed⟩ := by
  unfold route
  split
  · next h =>
    have h : p.text = "" := by simpa using h
    exact ⟨nofun, fun hw => absurd h hw.1.ne_empty⟩
  · next h =>
    have hne : p.text ≠ "" := by simpa using h
    split
    · next hz => exact ⟨nofun, fun hw => absurd (by simpa using hz) hw.1.no_zero⟩
    · next hz =>
      split
      · next hs => exact ⟨nofun, fun hw => absurd hw.1.size (Nat.not_le.mpr hs)⟩
      · next hs =>
        have hw : p.Walkable := ⟨hne, by simpa using hz, Nat.not_lt.mp hs⟩
        constructor
        · intro hr
          exact ⟨hw, (Except.ok.inj hr).symm⟩
        · rintro ⟨-, rfl⟩
          rfl

theorem solid_start (t : FileTree) (p : Path) : t.Solid p.start := by
  unfold start
  split
  · exact FileTree.solid_root
  · exact FileTree.solid_nil

theorem slash_not_mem_of_mem_names {p : Path} {n : String} (h : n ∈ p.names) : '/' ∉ n.toList := by
  obtain ⟨w, hw, rfl⟩ := List.mem_map.mp h
  simpa using slash_not_mem_of_mem_splitSlash _ w (List.mem_filter.mp hw).1

/-! ## Children -/

/-- The text of a child ends with the name; a slash stands before it, or nothing at all. -/
theorem child_text (p : Path) {n : String} (h : '/' ∉ n.toList) :
    ∃ front : List Char, (p.child n).text.toList = front ++ n.toList ∧
      (p.text = "" ∧ front = [] ∨ front = p.text.toList ++ ['/'] ∧ p.text ≠ "" ∨
        ∃ rest, p.text.toList = rest ++ ['/'] ∧ front = rest ++ ['/']) := by
  have ha : (Path.mk n).isAbsolute = false := by
    unfold isAbsolute
    split
    · next rest he => exact absurd (by simp [show n.toList = '/' :: rest from he]) h
    · rfl
  unfold child join
  rw [ha]
  simp only [Bool.false_eq_true, ↓reduceIte]
  split
  · next hc =>
    refine ⟨p.text.toList, by simp, ?_⟩
    rcases Bool.or_eq_true_iff.mp hc with he | hl
    · have he : p.text = "" := by simpa using he
      exact Or.inl ⟨he, by simp [he]⟩
    · have hl : p.text.toList.getLast? = some '/' := by simpa using hl
      have hrest := List.getLast?_eq_some_iff.mp hl
      obtain ⟨rest, hrest⟩ := hrest
      exact Or.inr (Or.inr ⟨rest, hrest, hrest⟩)
  · next hc =>
    have hne : p.text ≠ "" := by
      intro he
      simp [he] at hc
    exact ⟨p.text.toList ++ ['/'], by simp, Or.inr (Or.inl ⟨rfl, hne⟩)⟩

theorem steps_append {xs ys w : List Char} {ws : List (List Char)} (hy : '/' ∉ ys) (hne : ys ≠ [])
    (h : splitSlash xs = ws ++ [w]) :
    steps (xs ++ ys) = (ws.filter fun w => w != []).map String.ofList ++
      [String.ofList (w ++ ys)] := by
  have hlast : (w ++ ys != []) = true := by simp [hne]
  rw [steps, splitSlash_append hy h, List.filter_append, List.map_append, List.filter_cons,
    if_pos hlast]
  rfl

/-- The names of a child. -/
theorem names_child (p : Path) {n : String} (h : IsPlainName n) :
    (p.child n).names = p.names ++ [n] := by
  obtain ⟨front, ht, hf⟩ := child_text p h.no_slash
  have hne : n.toList ≠ [] := by simpa using h.ne_empty
  have hslash : ∀ xs : List Char, splitSlash (xs ++ ['/']) = splitSlash xs ++ [[]] := fun xs =>
    splitSlash_append_slash xs []
  rw [names, ht]
  rcases hf with ⟨he, rfl⟩ | ⟨rfl, -⟩ | ⟨rest, hp, rfl⟩
  · have hnil : splitSlash [] = [] ++ [[]] := rfl
    rw [steps_append h.no_slash hne hnil, names, he]
    simp [steps, splitSlash]
  · rw [steps_append h.no_slash hne (hslash _), names, steps]
    simp
  · rw [steps_append h.no_slash hne (hslash _), names, hp, steps, hslash]
    simp

theorem start_child (p : Path) {n : String} (h : IsPlainName n) : (p.child n).start = p.start := by
  obtain ⟨front, ht, hf⟩ := child_text p h.no_slash
  have hn : n.toList ≠ [] := by simpa using h.ne_empty
  have ha : (p.child n).isAbsolute = p.isAbsolute := by
    unfold isAbsolute
    rw [ht]
    obtain ⟨c, cs, hc⟩ := List.exists_cons_of_ne_nil hn
    have hne : c ≠ '/' := by
      rintro rfl
      exact h.no_slash (by simp [hc])
    rcases hf with ⟨he, rfl⟩ | ⟨rfl, hp⟩ | ⟨rest, hp, rfl⟩
    · rw [hc, he]
      simp [hne]
    · obtain ⟨d, ds, hd⟩ := List.exists_cons_of_ne_nil (l := p.text.toList) (by simpa using hp)
      rw [hd]
      by_cases hs : d = '/' <;> simp [hs]
    · rw [hp]
      cases rest with
      | nil => simp
      | cons d ds => by_cases hs : d = '/' <;> simp [hs]
  rw [start, start, ha]

theorem isSlashed_of_append {p : Path} {front ys : List Char} (ht : p.text.toList = front ++ ys)
    (hne : ys ≠ []) (hy : '/' ∉ ys) : p.isSlashed = false := by
  have hl : (front ++ ys).getLast? = some (ys.getLast hne) := by
    rw [List.getLast?_append, List.getLast?_eq_some_getLast hne]
    rfl
  rw [isSlashed, ht, hl]
  refine beq_eq_false_iff_ne.mpr fun he => hy ?_
  exact Option.some.inj he ▸ List.getLast_mem hne

theorem isSlashed_child (p : Path) {n : String} (h : IsPlainName n) :
    (p.child n).isSlashed = false := by
  obtain ⟨front, ht, -⟩ := child_text p h.no_slash
  exact isSlashed_of_append ht (by simpa using h.ne_empty) h.no_slash

/-- The last name of a path ends as its text does. -/
theorem names_of_append {p : Path} {front ys : List Char} (ht : p.text.toList = front ++ ys)
    (hne : ys ≠ []) (hy : '/' ∉ ys) :
    ∃ ns w, p.names = ns ++ [String.ofList (w ++ ys)] := by
  have hs : splitSlash front =
      (splitSlash front).dropLast ++ [(splitSlash front).getLast (splitSlash_ne_nil _)] :=
    (List.dropLast_concat_getLast _).symm
  have hn := steps_append hy hne hs
  rw [← ht] at hn
  exact ⟨_, _, hn⟩

end Path

end StudyFlow
