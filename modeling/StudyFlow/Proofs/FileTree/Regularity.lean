import StudyFlow.Proofs.FileTree.Listing
import StudyFlow.Proofs.Status.File

/-!
# Operations keep trees regular

Entries come to be under the last names of paths that the system takes, in directories, and an entry
that is written again replaces the one before. So from the empty tree operations lead to regular
trees only.
-/

namespace StudyFlow.FileTree

variable {t u : FileTree} {p : Path} {l dir : Location} {n : String} {e : Entry}

/-! ## Names of new entries -/

theorem mem_of_mem_splitSlash {c : Char} {cs w : List Char} (hw : w ∈ splitSlash cs)
    (hc : c ∈ w) : c ∈ cs := by
  induction cs generalizing w with
  | nil =>
    obtain rfl := List.mem_singleton.mp hw
    exact hc
  | cons x cs ih =>
    obtain ⟨v, vs, hv⟩ := List.exists_cons_of_ne_nil (splitSlash_ne_nil cs)
    rw [hv] at ih
    by_cases hx : x = '/'
    · subst hx
      rw [splitSlash_cons_slash, hv] at hw
      rcases List.mem_cons.mp hw with rfl | hw
      · cases hc
      · exact List.mem_cons_of_mem _ (ih hw hc)
    · rw [splitSlash_cons hx hv] at hw
      rcases List.mem_cons.mp hw with rfl | hw
      · rcases List.mem_cons.mp hc with rfl | hc
        · exact List.mem_cons_self
        · exact List.mem_cons_of_mem _ (ih List.mem_cons_self hc)
      · exact List.mem_cons_of_mem _ (ih (List.mem_cons_of_mem _ hw) hc)

theorem Sits.isFileName (h : t.Sits p dir n) : IsFileName n := by
  obtain ⟨ns, hn, -⟩ := h.leads
  have hmem : n ∈ p.names := by simp [hn]
  obtain ⟨w, hw, rfl⟩ := List.mem_map.mp hmem
  obtain ⟨hw, hne⟩ := List.mem_filter.mp hw
  refine ⟨⟨⟨?_, Path.slash_not_mem_of_mem_names hmem⟩, h.ne_here, h.ne_up⟩, fun hz => ?_, h.size⟩
  · simpa using hne
  · exact h.walkable.no_zero (mem_of_mem_splitSlash hw (by simpa using hz))

/-! ## Entries that come and go -/

theorem regular_empty : Regular {} where
  distinct := List.nodup_nil
  named := fun _ hx => absurd hx List.not_mem_nil
  grounded := grounded_empty

/-- A new entry in a directory may replace another one that is not a directory itself. -/
theorem Regular.with_entry (h : t.Regular) (dir : Location) (hdir : t.isDir dir = true)
    (hn : IsFileName n) (hd : t.isDir (dir ++ [n]) = false) (e : Entry) :
    (t.put (dir ++ [n]) e).Regular where
  distinct := by
    refine List.nodup_cons.mpr ⟨fun hm => ?_, h.distinct.sublist (List.filter_sublist.map _)⟩
    obtain ⟨x, hx, he⟩ := List.mem_map.mp hm
    simpa [he] using (List.mem_filter.mp hx).2
  named := fun x hx => by
    rcases List.mem_cons.mp hx with rfl | hx
    · exact ⟨dir, n, rfl, hn⟩
    · exact h.named x (List.mem_filter.mp hx).1
  grounded := by
    have hother : ∀ k, k ≠ dir ++ [n] → (t.put (dir ++ [n]) e).get? k = t.get? k := fun k hk =>
      get?_put_of_ne hk e
    refine h.grounded.of_keepsDirs (fun k _ hk => ?_) fun k hk => ?_
    · have hne : k ≠ dir ++ [n] := by
        rintro rfl
        rw [hd] at hk
        cases hk
      rw [isDir_iff] at hk ⊢
      rw [hother k hne, hk]
    · by_cases he : k = dir ++ [n]
      · exact .inr (he ▸ (h.grounded dir (by rw [isDir_iff.mp hdir]; rfl)).concat hdir)
      · exact .inl (hother k he ▸ hk)

/-- With an entry all that is below it goes. -/
theorem Regular.without (h : t.Regular) (l : Location) : (t.erase l).Regular where
  distinct := h.distinct.sublist (List.filter_sublist.map _)
  named := fun x hx => h.named x (List.mem_filter.mp hx).1
  grounded := by
    intro k hk j hj hne
    by_cases hb : isBase k = true
    · have hj := grounded_empty k (by rw [get?_of_isBase hb]; rfl) j hj hne
      refine isDir_of_isBase (Bool.not_eq_false _ ▸ fun hn => ?_)
      simp [isDir, get?, hn] at hj
    · have hout : isWithin l k = false := Bool.eq_false_iff.mpr fun hw => by
        rw [get?_erase_of_within (Bool.eq_false_iff.mpr hb) hw] at hk
        cases hk
      have hj' : isWithin l j = false := Bool.eq_false_iff.mpr fun hw =>
        Bool.eq_false_iff.mp hout (isWithin_iff.mpr ((isWithin_iff.mp hw).trans hj))
      rw [get?_erase_of_not_within hout] at hk
      rw [isDir, get?_erase_of_not_within hj']
      exact h.grounded k hk j hj hne

/-! ## Operations -/

/-- A file that is taken away leaves all directories behind. -/
theorem keepsDirs_erase {c : ByteArray} {x : Bool} (hc : t.get? l = some (.file c x)) :
    KeepsDirs t (t.erase l) := by
  intro k hs hk
  have hout : isWithin l k = false := Bool.eq_false_iff.mpr fun hw => by
    have hl : t.isDir l = true := by
      by_cases he : l = k
      · exact he ▸ hk
      · exact hs l (isWithin_iff.mp hw) he
    rw [isDir_iff, hc] at hl
    cases hl
  rwa [isDir, get?_erase_of_not_within hout]

theorem isDir_erase_eq_false (hb : isBase l = false) (h : t.isDir l = false) (m : Location) :
    (t.erase m).isDir l = false := by
  cases hw : isWithin m l with
  | true => simp [isDir, get?_erase_of_within hb hw]
  | false => rwa [isDir, get?_erase_of_not_within hw]

theorem regular_write {c : ByteArray} (h : t.write p c = .ok u) (ht : t.Regular) : u.Regular := by
  obtain ⟨dir, n, x, hsit, -, hd, rfl⟩ := write_eq_ok h
  exact ht.with_entry dir hsit.isDir hsit.isFileName hd _

theorem Act.regular (h : Act t u) (ht : t.Regular) : u.Regular := by
  cases h with
  | makeDir h =>
    obtain ⟨dir, n, hsit, hnone, rfl⟩ := createDir_eq_ok h
    exact ht.with_entry dir hsit.isDir hsit.isFileName (by simp [isDir, hnone]) _
  | write h => exact regular_write h ht
  | move h =>
    obtain ⟨l, c, x, dir, n, -, hc, hsit, -, hd, rfl⟩ := rename_eq_ok h
    have hdir := keepsDirs_erase hc dir hsit.solid hsit.isDir
    have hfree := isDir_erase_eq_false (isBase_concat hsit.isEntryName) hd l
    exact (ht.without l).with_entry dir hdir hsit.isFileName hfree _

theorem Traces.regular {ms : List FileTree} (h : Traces t ms u) (ht : t.Regular) : u.Regular := by
  induction h with
  | nil => exact ht
  | cons ha _ ih => exact ih (ha.regular ht)

/-- A file that is there stays in its place with other contents. -/
theorem Regular.with_content (h : t.Regular) {c : ByteArray} {x : Bool}
    (hc : t.get? l = some (.file c x)) (e : Entry) : (t.put l e).Regular := by
  have hd : t.isDir l = false := by simp [isDir, hc]
  have hb : isBase l = false := Bool.eq_false_iff.mpr fun hb => by simp [get?, hb] at hc
  obtain ⟨dir, n, rfl, hn⟩ := h.named _ (h.mem_entries_iff.mpr ⟨hb, hc⟩)
  have hdir : t.isDir dir = true :=
    h.grounded _ (by rw [hc]; rfl) dir (List.prefix_append _ _) (by simp)
  exact h.with_entry dir hdir hn hd e

theorem regular_makeExecutable (h : t.makeExecutable p = .ok u) (ht : t.Regular) : u.Regular := by
  unfold makeExecutable at h
  cases hf : t.find p with
  | error f => rw [hf] at h; cases h
  | ok l =>
    simp only [hf, bind, Except.bind] at h
    split at h
    · next c x hc =>
      obtain rfl := Except.ok.inj h
      exact ht.with_content hc _
    · obtain rfl := Except.ok.inj h
      exact ht

end StudyFlow.FileTree
