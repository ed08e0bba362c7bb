import StudyFlow.Proofs.FileTree.Routes

/-!
# Writing and reading files

A file is read as it was written, and a write changes one location only. `Sits` says where the last
name of a path is looked for, `Stores` what a write does to the view of the tree.
-/

namespace StudyFlow.FileTree

variable {t t' : FileTree} {p : Path} {dir l : Location} {n : String}

/-- The last name `n` of the path is looked for in the directory `dir`. -/
structure Sits (t : FileTree) (p : Path) (dir : Location) (n : String) : Prop where
  walkable : p.Walkable
  leads : ∃ ns, p.names = ns ++ [n] ∧ t.follow p.start ns = .ok dir
  isDir : t.isDir dir = true
  ne_here : n ≠ "."
  ne_up : n ≠ ".."
  size : n.utf8ByteSize ≤ maxNameSize

theorem Sits.isEntryName (h : t.Sits p dir n) : IsEntryName n where
  ne_up := h.ne_up
  ne_root := by
    rintro rfl
    obtain ⟨ns, hn, -⟩ := h.leads
    have hm : "/" ∈ p.names := by simp [hn]
    exact Path.slash_not_mem_of_mem_names hm (by decide)

theorem Sits.solid (h : t.Sits p dir n) : t.Solid dir := by
  obtain ⟨ns, -, hf⟩ := h.leads
  exact (Path.solid_start t p).follow hf

/-- The place of an entry is a directory and the last name in it. -/
theorem place_eq_ok_iff {s : Bool} :
    t.place p = .ok (some l, s) ↔ ∃ dir n, t.Sits p dir n ∧ l = dir ++ [n] ∧ s = p.isSlashed := by
  unfold place
  constructor
  · intro h
    cases hr : p.route with
    | error f => rw [hr] at h; cases h
    | ok r =>
      obtain ⟨hw, rfl⟩ := Path.route_eq_ok_iff.mp hr
      rw [hr] at h
      simp only [bind, Except.bind] at h
      cases hl : p.names.getLast? with
      | none => rw [hl] at h; cases h
      | some n =>
        rw [hl] at h
        simp only at h
        cases hf : t.follow p.start p.names.dropLast with
        | error f => rw [hf] at h; cases h
        | ok dir =>
          rw [hf] at h
          simp only at h
          split at h
          · cases h
          · next hd =>
            split at h
            · cases h
            · next hn =>
              split at h
              · cases h
              · next hs =>
                simp only [Bool.or_eq_true, beq_iff_eq, not_or] at hn
                obtain ⟨rfl, rfl⟩ : dir ++ [n] = l ∧ p.isSlashed = s := by
                  simpa [pure, Except.pure] using h
                have hnames : p.names = p.names.dropLast ++ [n] := by
                  obtain ⟨ns, hns⟩ := List.getLast?_eq_some_iff.mp hl
                  simp [hns]
                exact ⟨dir, n, ⟨hw, ⟨_, hnames, hf⟩, by simpa using hd, hn.1, hn.2,
                  Nat.not_lt.mp hs⟩, rfl, rfl⟩
  · rintro ⟨dir, n, h, rfl, rfl⟩
    obtain ⟨ns, hn, hf⟩ := h.leads
    have hr : p.route = .ok ⟨p.start, p.names, p.isSlashed⟩ :=
      Path.route_eq_ok_iff.mpr ⟨h.walkable, rfl⟩
    have hsize := Nat.not_lt.mpr h.size
    rw [hr]
    simp [bind, Except.bind, hn, hf, h.isDir, h.ne_here, h.ne_up, hsize, pure, Except.pure]

/-- An entry in its place is found. -/
theorem Sits.find (h : t.Sits p dir n) (hs : p.isSlashed = false)
    (he : (t.get? (dir ++ [n])).isSome) :
    t.find p = .ok (dir ++ [n]) := by
  obtain ⟨ns, hn, hf⟩ := h.leads
  have hr : p.route = .ok ⟨p.start, p.names, p.isSlashed⟩ :=
    Path.route_eq_ok_iff.mpr ⟨h.walkable, rfl⟩
  have hlast : t.follow dir [n] = .ok (dir ++ [n]) := by
    have hne := Option.isSome_iff_ne_none.mp he
    simp [follow, h.isDir, h.ne_here, h.ne_up, Nat.not_lt.mpr h.size, hne]
  have hall : t.follow p.start p.names = .ok (dir ++ [n]) := by
    rw [hn, follow_append, hf]
    exact hlast
  unfold FileTree.find
  rw [hr]
  simp [bind, Except.bind, hall, hs]

theorem KeepsDirs.sits (hk : KeepsDirs t t') (h : t.Sits p dir n) : t'.Sits p dir n := by
  obtain ⟨ns, hn, hf⟩ := h.leads
  exact ⟨h.walkable, ⟨ns, hn, hk.follow (Path.solid_start t p) h.isDir hf⟩, hk dir h.solid h.isDir,
    h.ne_here, h.ne_up, h.size⟩

theorem fromUTF8?_toByteArray (s : String) : String.fromUTF8? s.toByteArray = some s :=
  dif_pos s.isValidUTF8

/-- A file in its place is read. -/
theorem Sits.readText (h : t.Sits p dir n) (hs : p.isSlashed = false) {s : String} {x : Bool}
    (hc : t.get? (dir ++ [n]) = some (.file s.toUTF8 x)) : t.readText p = .ok s := by
  unfold FileTree.readText FileTree.read
  rw [h.find hs (by simp [hc])]
  simp [bind, Except.bind, hc, fromUTF8?_toByteArray]

/-! ## What a write does -/

/-- The second tree has a file with the given content where the first has no directory, and holds
the same elsewhere. -/
structure Stores (t t' : FileTree) (l : Location) (content : ByteArray) : Prop where
  not_dir : t.isDir l = false
  content : ∃ x, t'.get? l = some (.file content x)
  other : ∀ k, k ≠ l → t'.get? k = t.get? k

theorem stores_put (h : t.isDir l = false) (hb : isBase l = false) (c : ByteArray) (x : Bool) :
    Stores t (t.put l (.file c x)) l c :=
  ⟨h, ⟨x, get?_put_self hb _⟩, fun _ hk => get?_put_of_ne hk _⟩

theorem Stores.trans {t'' : FileTree} {c d : ByteArray} (h : Stores t t' l c)
    (h' : Stores t' t'' l d) :
    Stores t t'' l d :=
  ⟨h.not_dir, h'.content, fun k hk => (h'.other k hk).trans (h.other k hk)⟩

theorem Stores.keepsDirs {c : ByteArray} (h : Stores t t' l c) : KeepsDirs t t' := by
  intro k _ hk
  have hne : k ≠ l := by
    rintro rfl
    rw [h.not_dir] at hk
    cases hk
  rw [isDir_iff] at hk ⊢
  rw [h.other k hne, hk]

/-- What was written is read. -/
theorem Stores.readText {s : String} (h : Stores t t' (dir ++ [n]) s.toUTF8) (hp : t.Sits p dir n)
    (hs : p.isSlashed = false) : t'.readText p = .ok s := by
  obtain ⟨x, hc⟩ := h.content
  exact (h.keepsDirs.sits hp).readText hs hc

/-- What writing does: the place of the path holds the content, where no directory was. -/
theorem write_eq_ok {c : ByteArray} (h : t.write p c = .ok t') :
    ∃ dir n x, t.Sits p dir n ∧ p.isSlashed = false ∧ t.isDir (dir ++ [n]) = false ∧
      t' = t.put (dir ++ [n]) (.file c x) := by
  unfold write at h
  cases hp : t.place p with
  | error f => rw [hp] at h; cases h
  | ok placed =>
    obtain ⟨o, slashed⟩ := placed
    rw [hp] at h
    simp only [bind, Except.bind] at h
    cases o with
    | none => cases h
    | some l =>
      obtain ⟨dir, n, hsit, rfl, rfl⟩ := place_eq_ok_iff.mp hp
      simp only at h
      split at h
      · cases h
      · next hs =>
        split at h
        · cases h
        · next hg =>
          cases h
          exact ⟨dir, n, _, hsit, by simpa using hs, by simp [isDir, hg], rfl⟩
        · next hg =>
          cases h
          exact ⟨dir, n, _, hsit, by simpa using hs, by simp [isDir, hg], rfl⟩

theorem write_stores {c : ByteArray} (h : t.write p c = .ok t') :
    ∃ dir n, t.Sits p dir n ∧ p.isSlashed = false ∧ Stores t t' (dir ++ [n]) c := by
  obtain ⟨dir, n, x, hsit, hs, hd, rfl⟩ := write_eq_ok h
  exact ⟨dir, n, hsit, hs, stores_put hd (isBase_concat hsit.isEntryName) c x⟩

/-- In its place a file is written. -/
theorem write_ok {p : Path} {n : String} (h : t.Sits p dir n) (hs : p.isSlashed = false)
    (hd : t.isDir (dir ++ [n]) = false) (c : ByteArray) :
    ∃ t', t.write p c = .ok t' := by
  have hp : t.place p = .ok (some (dir ++ [n]), false) :=
    place_eq_ok_iff.mpr ⟨dir, n, h, rfl, hs.symm⟩
  unfold write
  rw [hp]
  simp only [bind, Except.bind, Bool.false_eq_true, ↓reduceIte]
  split
  · next hg => simp [isDir, hg] at hd
  · exact ⟨_, rfl⟩
  · exact ⟨_, rfl⟩

/-- Making a file executable keeps its content. -/
theorem makeExecutable_stores {c : ByteArray} {x : Bool} (hf : t.find p = .ok l)
    (hb : isBase l = false) (hc : t.get? l = some (.file c x)) (h : t.makeExecutable p = .ok t') :
    Stores t t' l c := by
  unfold makeExecutable at h
  rw [hf] at h
  simp only [bind, Except.bind, hc] at h
  cases h
  exact stores_put (by simp [isDir, hc]) hb c true

end StudyFlow.FileTree
