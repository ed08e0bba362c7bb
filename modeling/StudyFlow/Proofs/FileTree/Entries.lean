import StudyFlow.FileTree

/-!
# What is at a location

`FileTree.get?` is the view of a tree. Each operation is described by what it does to the view, and
the places outside of its reach keep what they hold. A tree may hold entries below a file; following
a path never leads there, which is what `Solid` records.
-/

namespace StudyFlow.FileTree

variable {t : FileTree} {l m : Location}

theorem lookup_filter_of_pos (es : List (Location × Entry)) (keep : Location → Bool)
    (h : keep m = true) : (es.filter fun x => keep x.1).lookup m = es.lookup m := by
  induction es with
  | nil => rfl
  | cons e es ih =>
    obtain ⟨k, x⟩ := e
    by_cases hk : keep k = true
    · rw [List.filter_cons, if_pos hk, List.lookup_cons, List.lookup_cons, ih]
    · have hne : (m == k) = false := beq_eq_false_iff_ne.mpr fun he => hk (he ▸ h)
      rw [List.filter_cons, if_neg hk, List.lookup_cons, hne]
      exact ih

theorem lookup_filter_of_neg (es : List (Location × Entry)) (keep : Location → Bool)
    (h : keep m = false) : (es.filter fun x => keep x.1).lookup m = none := by
  induction es with
  | nil => rfl
  | cons e es ih =>
    obtain ⟨k, x⟩ := e
    by_cases hk : keep k = true
    · have hne : (m == k) = false := beq_eq_false_iff_ne.mpr fun he => by simp [he, hk] at h
      rw [List.filter_cons, if_pos hk, List.lookup_cons, hne]
      exact ih
    · rw [List.filter_cons, if_neg hk]
      exact ih

theorem get?_of_isBase (h : isBase l = true) : t.get? l = some .directory := by
  simp [get?, h]

theorem isDir_iff : t.isDir l = true ↔ t.get? l = some .directory := by
  simp [isDir]

theorem isDir_of_isBase (h : isBase l = true) : t.isDir l = true :=
  isDir_iff.mpr (get?_of_isBase h)

@[simp] theorem get?_put_self (h : isBase l = false) (e : Entry) : (t.put l e).get? l = some e := by
  simp [get?, put, h]

theorem get?_put_of_ne (h : m ≠ l) (e : Entry) : (t.put l e).get? m = t.get? m := by
  unfold get? put
  by_cases hb : isBase m = true
  · simp [hb]
  · have hne : (m == l) = false := beq_eq_false_iff_ne.mpr h
    have hf := lookup_filter_of_pos t.entries (fun k => k != l) (m := m) (by simpa using h)
    simp only [hb, Bool.false_eq_true, ↓reduceIte, List.lookup_cons, hne]
    exact hf

/-- Whether a location is another one or lies below it. -/
def isWithin (l m : Location) : Bool := m.take l.length == l

theorem isWithin_iff : isWithin l m = true ↔ l <+: m := by
  rw [isWithin, beq_iff_eq, List.prefix_iff_eq_take]
  exact eq_comm

theorem get?_erase_of_not_within (h : isWithin l m = false) : (t.erase l).get? m = t.get? m := by
  unfold get? erase
  have hf := lookup_filter_of_pos t.entries (fun k => !isWithin l k) (m := m) (by simp [h])
  split
  · rfl
  · exact hf

theorem get?_erase_of_within (hb : isBase m = false) (h : isWithin l m = true) :
    (t.erase l).get? m = none := by
  unfold get? erase
  have hf := lookup_filter_of_neg t.entries (fun k => !isWithin l k) (m := m) (by simp [h])
  rw [hb]
  exact hf

/-! ## Locations of entries -/

structure IsEntryName (n : String) : Prop where
  ne_up : n ≠ ".."
  ne_root : n ≠ "/"

theorem isBase_concat {n : String} (h : IsEntryName n) : isBase (l ++ [n]) = false := by
  have hu : (n == "..") = false := beq_eq_false_iff_ne.mpr h.ne_up
  have hr : l ++ [n] ≠ ["/"] := by
    intro he
    have hn := congrArg List.getLast? he
    simp at hn
    exact h.ne_root hn
  simp [isBase, hu, hr]

/-! ## Following names -/

/-- Everything above the location is a directory. -/
def Solid (t : FileTree) (l : Location) : Prop := ∀ k, k <+: l → k ≠ l → t.isDir k = true

theorem solid_nil : t.Solid [] := by
  intro k hk hne
  exact absurd (List.prefix_nil.mp hk) hne

theorem solid_root : t.Solid ["/"] := by
  intro k hk hne
  rcases k with _ | ⟨x, k⟩
  · exact isDir_of_isBase rfl
  · obtain ⟨rfl, ht⟩ := List.cons_prefix_cons.mp hk
    obtain rfl := List.prefix_nil.mp ht
    exact absurd rfl hne

theorem Solid.concat {n : String} (h : t.Solid l) (hd : t.isDir l = true) : t.Solid (l ++ [n]) := by
  intro k hk hne
  rcases List.prefix_concat_iff.mp hk with rfl | hk
  · exact absurd rfl hne
  · by_cases he : k = l
    · rwa [he]
    · exact h k hk he

theorem isBase_of_all {k : Location} (h : ∀ n ∈ k, n = "..") : isBase k = true := by
  simp only [isBase, Bool.or_eq_true]
  right
  simpa using h

theorem Solid.above (h : t.Solid l) : t.Solid (above l) := by
  unfold FileTree.above
  split
  · exact h
  · next hr =>
    split
    · next hb =>
      -- above a base location there are base locations only
      have hall : ∀ n ∈ l, n = ".." := by
        simp only [isBase, Bool.or_eq_true] at hb
        rcases hb with hb | hb
        · exact absurd hb hr
        · simpa using hb
      intro k hk _
      refine isDir_of_isBase (isBase_of_all ?_)
      intro n hn
      rcases List.mem_cons.mp (hk.subset hn) with rfl | hn
      · rfl
      · exact hall n hn
    · intro k hk hne
      refine h k (hk.trans (List.dropLast_prefix l)) ?_
      rintro rfl
      exact hne (hk.eq_of_length_le (by simp))

/-- Following names from a solid location leads to one. -/
theorem Solid.follow {ns : List String} (h : t.Solid l) (hf : t.follow l ns = .ok m) :
    t.Solid m := by
  induction ns generalizing l with
  | nil =>
    obtain rfl : l = m := by simpa [FileTree.follow] using hf
    exact h
  | cons n ns ih =>
    rw [FileTree.follow] at hf
    split at hf
    · cases hf
    · next hd =>
      split at hf
      · exact ih h hf
      · split at hf
        · exact ih h.above hf
        · split at hf
          · cases hf
          · split at hf
            · cases hf
            · exact ih (h.concat (by simpa using hd)) hf

theorem isDir_of_follow {ns : List String} (hf : t.follow l ns = .ok m) (hm : t.isDir m = true) :
    t.isDir l = true := by
  cases ns with
  | nil =>
    obtain rfl : l = m := by simpa [FileTree.follow] using hf
    exact hm
  | cons n ns =>
    rw [FileTree.follow] at hf
    split at hf
    · cases hf
    · next hd => simpa using hd

/-- One tree has all directories of another one that a path can lead to. -/
def KeepsDirs (t t' : FileTree) : Prop := ∀ k, t.Solid k → t.isDir k = true → t'.isDir k = true

/-- Where directories are kept, the same names lead to the same directory. -/
theorem KeepsDirs.follow {t' : FileTree} (hk : KeepsDirs t t') {ns : List String} (h : t.Solid l)
    (hm : t.isDir m = true) (hf : t.follow l ns = .ok m) : t'.follow l ns = .ok m := by
  induction ns generalizing l with
  | nil => simpa [FileTree.follow] using hf
  | cons n ns ih =>
    have hl := isDir_of_follow hf hm
    rw [FileTree.follow, if_neg (by simp [hl])] at hf
    rw [FileTree.follow, if_neg (by simp [hk l h hl])]
    split at hf
    · next hn => rw [if_pos hn]; exact ih h hf
    · next hn =>
      rw [if_neg hn]
      split at hf
      · next hu => rw [if_pos hu]; exact ih h.above hf
      · next hu =>
        rw [if_neg hu]
        split at hf
        · cases hf
        · next hs =>
          rw [if_neg hs]
          split at hf
          · cases hf
          · have hc := h.concat (n := n) hl
            have hd := isDir_iff.mp (hk _ hc (isDir_of_follow hf hm))
            rw [if_neg (by simp [hd])]
            exact ih hc hf

theorem follow_append (ns ms : List String) :
    t.follow l (ns ++ ms) = (t.follow l ns).bind fun m => t.follow m ms := by
  induction ns generalizing l with
  | nil => rfl
  | cons n ns ih =>
    simp only [List.cons_append, FileTree.follow]
    split
    · rfl
    · split
      · exact ih
      · split
        · exact ih
        · split
          · rfl
          · split
            · rfl
            · exact ih

end StudyFlow.FileTree
