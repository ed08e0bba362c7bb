import StudyFlow.Proofs.FileTree.Directories
import StudyFlow.Proofs.Status.File

/-!
# Replacing a status file

Replacing a status file takes two operations on files, and either may fail. There are three courses:
the draft is not written, the draft is written and cannot be moved, or the draft takes the place of
the status file. The move fails for one reason only, a directory in the place of the status file.
-/

namespace StudyFlow

open FileTree

def Path.statusPlace (ws : Path) : Location := ws.location ++ [statusFileName]

/-- Where a record is written to first. -/
def Path.draftPlace (ws : Path) : Location := ws.location ++ [statusDraftName]

namespace Path

/-- The texts of all children start alike. -/
theorem child_front (p : Path) :
    ∃ front : List Char, ∀ n : String, '/' ∉ n.toList →
      (p.child n).text.toList = front ++ n.toList := by
  by_cases hc : (p.text.isEmpty || p.text.toList.getLast? == some '/') = true
  · refine ⟨p.text.toList, fun n hn => ?_⟩
    have ha : (Path.mk n).isAbsolute = false := Bool.eq_false_iff.mpr fun ha =>
      hn ((isAbsolute_iff.mp ha).subset (by simp))
    simp [child, join, ha, hc]
  · refine ⟨p.text.toList ++ ['/'], fun n hn => ?_⟩
    have ha : (Path.mk n).isAbsolute = false := Bool.eq_false_iff.mpr fun ha =>
      hn ((isAbsolute_iff.mp ha).subset (by simp))
    simp [child, join, ha, hc]

theorem statusPlace_ne_draftPlace (ws : Path) : ws.statusPlace ≠ ws.draftPlace :=
  ne_location_of_ne (by decide)

/-- What is at or below the draft is neither the status file nor a base location. -/
theorem of_draftPlace_prefix {ws : Path} {k : Location} (h : ws.draftPlace <+: k) :
    k ≠ ws.statusPlace ∧ isBase k = false := by
  constructor
  · rintro rfl
    exact ws.statusPlace_ne_draftPlace (h.eq_of_length (by simp [statusPlace, draftPlace])).symm
  · have hmem : statusDraftName ∈ k := h.subset (by simp [draftPlace])
    refine Bool.eq_false_iff.mpr fun hb => ?_
    rcases Bool.or_eq_true_iff.mp hb with hr | hu
    · obtain rfl := beq_iff_eq.mp hr
      exact absurd hmem (by decide)
    · exact absurd (List.all_eq_true.mp hu _ hmem) (by decide)

end Path

namespace FileTree

variable {t u v : FileTree} {ws : Path} {dir : Location} {r : StatusRecord} {content : ByteArray}

/-- The directory in which a child is looked for is the location of its parent. -/
theorem Sits.dir_eq {n m : String} (hn : IsPlainName n) (h : t.Sits (ws.child n) dir m) :
    dir = ws.location := by
  obtain ⟨rfl, hf⟩ := h.child hn
  exact (follow_location hf).symm

/-- Where one child can be, another one with a name that is not longer can be too. -/
theorem Sits.sibling {n m : String} (hn : IsPlainName n) (h : t.Sits (ws.child n) dir n)
    (hm : IsPlainName m) (hh : m ≠ ".") (hu : m ≠ "..") (hz : '\x00' ∉ m.toList)
    (hsize : m.utf8ByteSize ≤ n.utf8ByteSize) : t.Sits (ws.child m) dir m := by
  obtain ⟨front, hfront⟩ := ws.child_front
  have htn : (ws.child n).text = String.ofList front ++ n := by
    rw [← String.toList_inj, hfront n hn.no_slash]
    simp
  have htm : (ws.child m).text = String.ofList front ++ m := by
    rw [← String.toList_inj, hfront m hm.no_slash]
    simp
  obtain ⟨-, hf⟩ := h.child hn
  have hwalk : (ws.child m).Walkable := by
    refine ⟨?_, ?_, ?_⟩
    · rw [htm]
      exact fun he => hm.ne_empty (String.append_eq_empty_iff.mp he).2
    · have hnz := h.walkable.no_zero
      rw [hfront n hn.no_slash, List.mem_append, not_or] at hnz
      rw [hfront m hm.no_slash, List.mem_append, not_or]
      exact ⟨hnz.1, hz⟩
    · have hns := h.walkable.size
      rw [htn, String.utf8ByteSize_append] at hns
      rw [htm, String.utf8ByteSize_append]
      omega
  refine ⟨hwalk, ⟨ws.names, Path.names_child ws hm, ?_⟩, h.isDir, hh, hu, Nat.le_trans hsize h.size⟩
  rw [Path.start_child ws hm]
  exact hf

/-- The trees while a status file is replaced, one after each operation. -/
def replaceStatusMoments (t : FileTree) (ws : Path) (r : StatusRecord) : List FileTree :=
  match t.writeText (ws.child statusDraftName) (r.line ++ "\n") with
  | .error _ => []
  | .ok u => match u.rename (ws.child statusDraftName) (statusPath ws) with
    | .error _ => [u]
    | .ok v => [u, v]

/-- The courses that the replacement of a status file may take: the moments, the result and the tree
at the end. -/
inductive Replaces (t : FileTree) (ws : Path) (content : ByteArray) :
    List FileTree → Except Fault Unit → FileTree → Prop
  | unwritten (f : Fault) : Replaces t ws content [] (.error f) t
  | unmoved {u : FileTree} (f : Fault) : Stores t u ws.draftPlace content → t.Solid ws.draftPlace →
    t.isDir ws.statusPlace = true → Replaces t ws content [u] (.error f) u
  | moved {u v : FileTree} : Stores t u ws.draftPlace content → Records t v ws ws.location content →
    (∀ k, ws.draftPlace <+: k → v.get? k = none) → Replaces t ws content [u, v] (.ok ()) v

theorem replaceStatus_replaces (t : FileTree) (ws : Path) (r : StatusRecord) :
    Replaces t ws (r.line ++ "\n").toUTF8 (t.replaceStatusMoments ws r) (t.replaceStatus ws r).1
      (t.replaceStatus ws r).2 := by
  have hrecords : ∀ v, t.replaceStatus ws r = (.ok (), v) →
      Records t v ws ws.location (r.line ++ "\n").toUTF8 := by
    intro v hv
    obtain ⟨dir, h⟩ := replaceStatus_records hv
    exact h.draft.dir_eq isPlainName_statusDraftName ▸ h
  unfold replaceStatusMoments
  unfold replaceStatus at hrecords ⊢
  dsimp only at hrecords ⊢
  cases hw : t.writeText (ws.child statusDraftName) (r.line ++ "\n") with
  | error f => exact .unwritten f
  | ok u =>
    obtain ⟨dir, n, hsits, hslash, hstore⟩ := write_stores hw
    obtain rfl := hsits.dir_eq isPlainName_statusDraftName
    obtain ⟨rfl, -⟩ := hsits.child isPlainName_statusDraftName
    have hsolid := hsits.solid.concat (n := statusDraftName) hsits.isDir
    have hsits' := hstore.keepsDirs.sits hsits
    obtain ⟨x, hc⟩ := hstore.content
    have hfind : u.find (ws.child statusDraftName) = .ok ws.draftPlace :=
      hsits'.find hslash (by simp [hc])
    cases hm : u.rename (ws.child statusDraftName) (statusPath ws) with
    | ok v =>
      simp only [hw, hm] at hrecords
      simp only [hm]
      refine .moved hstore (hrecords v rfl) fun k hk => ?_
      obtain ⟨l, c, y, dir, n, hl, -, htarget, -, -, rfl⟩ := rename_eq_ok hm
      obtain rfl := Except.ok.inj (hfind.symm.trans hl)
      obtain rfl := htarget.dir_eq isPlainName_statusFileName
      obtain ⟨rfl, -⟩ := htarget.child isPlainName_statusFileName
      obtain ⟨hne, hb⟩ := Path.of_draftPlace_prefix hk
      exact (get?_put_of_ne hne _).trans (get?_erase_of_within hb (isWithin_iff.mpr hk))
    | error f =>
      simp only [hm]
      by_cases hd : t.isDir ws.statusPlace = true
      · exact .unmoved f hstore hsolid hd
      -- the draft is a file in its place, so nothing else can be wrong
      have htarget : u.Sits (statusPath ws) ws.location statusFileName :=
        hsits'.sibling isPlainName_statusDraftName isPlainName_statusFileName
          (by decide) (by decide)
          (by decide) (by decide)
      have hnd : u.isDir ws.statusPlace = false := by
        rw [isDir, hstore.other _ ws.statusPlace_ne_draftPlace]
        exact Bool.eq_false_iff.mpr hd
      obtain ⟨v, hv⟩ := rename_ok hfind hc htarget
        (Path.isSlashed_child ws isPlainName_statusFileName) hnd
      rw [hm] at hv
      cases hv

theorem replaceStatus_traces (t : FileTree) (ws : Path) (r : StatusRecord) :
    Traces t (t.replaceStatusMoments ws r) (t.replaceStatus ws r).2 := by
  unfold replaceStatusMoments replaceStatus
  dsimp only
  cases hw : t.writeText (ws.child statusDraftName) (r.line ++ "\n") with
  | error f => exact .nil
  | ok u =>
    dsimp only
    cases hm : u.rename (ws.child statusDraftName) (statusPath ws) with
    | error f => exact (Act.write hw).traces
    | ok v => exact (Act.write hw).traces.append (Act.move hm).traces

theorem Records.grounded (h : Records t v ws ws.location content)
    (hgone : ∀ k, ws.draftPlace <+: k → v.get? k = none) (hg : t.Grounded) : v.Grounded := by
  refine hg.of_keepsDirs h.keepsDirs fun k hk => ?_
  by_cases hs : k = ws.statusPlace
  · exact .inr (hs ▸ h.sits.solid.concat h.sits.isDir)
  · have hout : isWithin ws.draftPlace k = false := Bool.eq_false_iff.mpr fun hw => by
      rw [hgone k (isWithin_iff.mp hw)] at hk
      cases hk
    exact .inl (h.other k hs hout ▸ hk)

end FileTree

end StudyFlow
