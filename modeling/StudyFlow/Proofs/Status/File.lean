import StudyFlow.Lifecycle
import StudyFlow.Proofs.FileTree.Files
import StudyFlow.Proofs.Status.Line

/-!
# Status files hold the last record

A record that was written is what the status file holds: the draft is gone, the line is in the place
of the one before, and directories that a path can lead to are kept. Whether a record can be written
depends on the tree and on the workspace, not on the record.
-/

namespace StudyFlow

namespace FileTree

variable {t t' : FileTree} {ws : Path} {dir : Location} {r : StatusRecord}

theorem isPlainName_statusFileName : IsPlainName statusFileName :=
  ⟨by decide, by decide⟩

theorem isPlainName_statusDraftName : IsPlainName statusDraftName :=
  ⟨by decide, by decide⟩

/-- A child is looked for in the directory that the names of its parent lead to. -/
theorem Sits.child {n m : String} (hn : IsPlainName n) (h : t.Sits (ws.child n) dir m) :
    m = n ∧ t.follow ws.start ws.names = .ok dir := by
  obtain ⟨ns, he, hf⟩ := h.leads
  rw [Path.names_child ws hn] at he
  rw [Path.start_child ws hn] at hf
  obtain ⟨rfl, hm⟩ := List.append_inj' he rfl
  simp only [List.cons.injEq, and_true] at hm
  exact ⟨hm.symm, hf⟩

theorem ne_location_of_ne {n m : String} (h : n ≠ m) : dir ++ [n] ≠ dir ++ [m] := by
  intro he
  have hn := List.append_cancel_left he
  simp only [List.cons.injEq, and_true] at hn
  exact h hn

/-- What moving a file does: its place is given up, with all below it, and the target holds its
content. -/
theorem rename_eq_ok {source target : Path} (h : t.rename source target = .ok t') :
    ∃ l c x dir n, t.find source = .ok l ∧ t.get? l = some (.file c x) ∧ t.Sits target dir n ∧
      target.isSlashed = false ∧ t.isDir (dir ++ [n]) = false ∧
      t' = (t.erase l).put (dir ++ [n]) (.file c x) := by
  unfold rename at h
  cases hl : t.find source with
  | error f => rw [hl] at h; cases h
  | ok l =>
    rw [hl] at h
    simp only [bind, Except.bind] at h
    split at h
    · next c x hg =>
      cases hp : t.place target with
      | error f => rw [hp] at h; cases h
      | ok placed =>
        obtain ⟨o, slashed⟩ := placed
        rw [hp] at h
        cases o with
        | none => cases h
        | some m =>
          obtain ⟨dir, n, hsit, rfl, rfl⟩ := place_eq_ok_iff.mp hp
          simp only at h
          split at h
          · cases h
          · next hd =>
            split at h
            · cases h
            · next hs =>
              cases h
              exact ⟨l, c, x, dir, n, rfl, hg, hsit, by simpa using hs, by simpa using hd, rfl⟩
    · cases h
    · cases h

/-- A file is moved to a place that is not a directory. -/
theorem rename_ok {source target : Path} {l : Location} {c : ByteArray} {x : Bool} {n : String}
    (hl : t.find source = .ok l) (hg : t.get? l = some (.file c x)) (h : t.Sits target dir n)
    (hs : target.isSlashed = false) (hd : t.isDir (dir ++ [n]) = false) :
    ∃ t', t.rename source target = .ok t' := by
  have hp : t.place target = .ok (some (dir ++ [n]), false) :=
    place_eq_ok_iff.mpr ⟨dir, n, h, rfl, hs.symm⟩
  refine ⟨(t.erase l).put (dir ++ [n]) (.file c x), ?_⟩
  unfold rename
  simp [bind, Except.bind, hl, hg, hp, hd]

/-- What it takes to write a status file in the directory `dir` of the workspace. -/
structure Replaceable (t : FileTree) (ws : Path) (dir : Location) : Prop where
  draft : t.Sits (ws.child statusDraftName) dir statusDraftName
  sits : t.Sits (statusPath ws) dir statusFileName
  draft_not_dir : t.isDir (dir ++ [statusDraftName]) = false
  not_dir : t.isDir (dir ++ [statusFileName]) = false

/-- The second tree has a new status file in the directory `dir` of the workspace, and no draft of
one. -/
structure Records (t t' : FileTree) (ws : Path) (dir : Location) (content : ByteArray) : Prop
    extends Replaceable t ws dir where
  content : ∃ x, t'.get? (dir ++ [statusFileName]) = some (.file content x)
  no_draft : t'.get? (dir ++ [statusDraftName]) = none
  other : ∀ k, k ≠ dir ++ [statusFileName] → isWithin (dir ++ [statusDraftName]) k = false →
    t'.get? k = t.get? k

theorem Records.keepsDirs {c : ByteArray} (h : Records t t' ws dir c) : KeepsDirs t t' := by
  intro k hs hk
  have hne : k ≠ dir ++ [statusFileName] := by
    rintro rfl
    rw [h.not_dir] at hk
    cases hk
  have hout : isWithin (dir ++ [statusDraftName]) k = false := by
    refine Bool.eq_false_iff.mpr fun hw => ?_
    have hprefix := isWithin_iff.mp hw
    have hd : t.isDir (dir ++ [statusDraftName]) = true := by
      by_cases he : dir ++ [statusDraftName] = k
      · rwa [he]
      · exact hs _ hprefix he
    rw [h.draft_not_dir] at hd
    cases hd
  rw [isDir_iff] at hk ⊢
  rw [h.other k hne hout, hk]

/-- A record that is written takes the place of the one before. -/
theorem replaceStatus_records (h : t.replaceStatus ws r = (.ok (), t')) :
    ∃ dir, Records t t' ws dir (r.line ++ "\n").toUTF8 := by
  unfold replaceStatus at h
  dsimp only at h
  cases hw : t.writeText (ws.child statusDraftName) (r.line ++ "\n") with
  | error f => rw [hw] at h; cases h
  | ok t₁ =>
    rw [hw] at h
    simp only at h
    cases hr : t₁.rename (ws.child statusDraftName) (statusPath ws) with
    | error f => rw [hr] at h; cases h
    | ok t₂ =>
      rw [hr] at h
      obtain rfl : t₂ = t' := congrArg Prod.snd h
      obtain ⟨dir, n, hdraft, hslash, hstore⟩ := write_stores hw
      obtain ⟨rfl, hdir⟩ := hdraft.child isPlainName_statusDraftName
      obtain ⟨x₁, hc₁⟩ := hstore.content
      obtain ⟨l, c, x, dir', n, hfind, hl, htarget, -, hnd, rfl⟩ := rename_eq_ok hr
      obtain ⟨rfl, hdir'⟩ := htarget.child isPlainName_statusFileName
      -- the draft is found where it was written, and the target beside it
      obtain rfl : dir ++ [statusDraftName] = l := by
        have h := (hstore.keepsDirs.sits hdraft).find hslash (by simp [hc₁])
        exact Except.ok.inj (h.symm.trans hfind)
      obtain ⟨rfl, rfl⟩ : (r.line ++ "\n").toUTF8 = c ∧ x₁ = x := by
        rw [hc₁] at hl
        simpa using hl
      obtain rfl : dir = dir' := by
        have h := hstore.keepsDirs.follow (Path.solid_start t ws) hdraft.isDir hdir
        exact Except.ok.inj (h.symm.trans hdir')
      have hb : isBase (dir ++ [statusFileName]) = false := isBase_concat htarget.isEntryName
      have hbd : isBase (dir ++ [statusDraftName]) = false := isBase_concat hdraft.isEntryName
      have hne : dir ++ [statusFileName] ≠ dir ++ [statusDraftName] := ne_location_of_ne (by decide)
      refine ⟨dir, ⟨⟨hdraft, ?_, hstore.not_dir, ?_⟩, ⟨x₁, get?_put_self hb _⟩, ?_, ?_⟩⟩
      · refine ⟨?_, ⟨ws.names, Path.names_child ws isPlainName_statusFileName, ?_⟩, hdraft.isDir,
          htarget.ne_here, htarget.ne_up, htarget.size⟩
        · exact htarget.walkable
        · rw [show (statusPath ws).start = ws.start from Path.start_child ws
            isPlainName_statusFileName]
          exact hdir
      · rw [isDir, ← hstore.other _ hne]
        exact hnd
      · rw [get?_put_of_ne hne.symm, get?_erase_of_within hbd
          (isWithin_iff.mpr (List.prefix_refl _))]
      · intro k hk hout
        rw [get?_put_of_ne hk, get?_erase_of_not_within hout, hstore.other k ?_]
        rintro rfl
        rw [isWithin_iff.mpr (List.prefix_refl _)] at hout
        cases hout

/-- Whether a record can be written does not depend on the record. -/
theorem Replaceable.replaceStatus (h : Replaceable t ws dir) (r : StatusRecord) :
    (t.replaceStatus ws r).1 = .ok () := by
  have hds := Path.isSlashed_child ws isPlainName_statusDraftName
  have hss := Path.isSlashed_child ws isPlainName_statusFileName
  obtain ⟨t₁, hw⟩ := write_ok h.draft hds h.draft_not_dir (r.line ++ "\n").toUTF8
  obtain ⟨dir', n, hsits, -, hstore⟩ := write_stores hw
  obtain ⟨rfl, hdir'⟩ := hsits.child isPlainName_statusDraftName
  obtain ⟨-, hdir⟩ := h.draft.child isPlainName_statusDraftName
  obtain rfl : dir = dir' := Except.ok.inj (hdir.symm.trans hdir')
  obtain ⟨x, hc⟩ := hstore.content
  have hfind := (hstore.keepsDirs.sits h.draft).find hds (by simp [hc])
  have hnd : t₁.isDir (dir ++ [statusFileName]) = false := by
    rw [isDir, hstore.other _ (ne_location_of_ne (by decide))]
    exact h.not_dir
  obtain ⟨t₂, hr⟩ := rename_ok hfind hc (hstore.keepsDirs.sits h.sits) hss hnd
  unfold FileTree.replaceStatus
  dsimp only
  rw [show t.writeText (ws.child statusDraftName) (r.line ++ "\n") = .ok t₁ from hw]
  simp only [hr]

theorem writeStatus_records (h : t.writeStatus ws r = (.ok p, t')) :
    ∃ dir, Records t t' ws dir (r.line ++ "\n").toUTF8 := by
  unfold writeStatus at h
  split at h
  · next hw =>
    obtain rfl : _ = t' := congrArg Prod.snd h
    exact replaceStatus_records hw
  · cases h

/-- The workspace can be made, and records can be written there. -/
def TakesStatus (t : FileTree) (ws : Path) : Prop :=
  (t.createDirs ws).1 = .ok () ∧ ∀ r, ((t.createDirs ws).2.replaceStatus ws r).1 = .ok ()

/-- One record that could be written stands for all. -/
theorem takesStatus_of_record (hc : (t.createDirs ws).1 = .ok ())
    (hr : ((t.createDirs ws).2.replaceStatus ws r).1 = .ok ()) : t.TakesStatus ws := by
  obtain ⟨dir, hrecords⟩ := replaceStatus_records (Prod.ext hr rfl)
  exact ⟨hc, hrecords.toReplaceable.replaceStatus⟩

/-- The status file of the workspace is in its place and holds the text. -/
def HoldsStatus (t : FileTree) (ws : Path) (text : String) : Prop :=
  ∃ dir x, t.Sits (statusPath ws) dir statusFileName ∧
    t.get? (dir ++ [statusFileName]) = some (.file text.toUTF8 x)

theorem HoldsStatus.readText {text : String} (h : t.HoldsStatus ws text) :
    t.readText (statusPath ws) = .ok text := by
  obtain ⟨dir, x, hsits, hc⟩ := h
  exact hsits.readText (Path.isSlashed_child ws isPlainName_statusFileName) hc

theorem Records.holdsStatus {text : String} (h : Records t t' ws dir text.toUTF8) :
    t'.HoldsStatus ws text := by
  obtain ⟨x, hc⟩ := h.content
  exact ⟨dir, x, h.keepsDirs.sits h.sits, hc⟩

/-! ## Reading a record -/

/-- What a status file with the line of a readable record is read as. -/
theorem readStatus_of_readText (h : t.readText (statusPath ws) = .ok (r.line ++ "\n"))
    (hr : r.Readable) :
    t.readStatus ws = .ok r := by
  unfold readStatus
  rw [h]
  simp only [hr.parse_file]

end FileTree

/-! ## Transitions that write -/

namespace Instance

open FileTree

/-- After a successful write the status file holds the line of the instance. -/
theorem persist_records {i : Instance} {s s' : Site} (h : i.persist s = (.ok (), s')) :
    ∃ dir, Records (s.files.createDirs i.workspace).2 s'.files i.workspace dir
      ((i.status s.clock).line ++ "\n").toUTF8 ∧ s' = { s with files := s'.files } := by
  unfold persist at h
  split at h
  · cases h
  · next t hc =>
    cases hw : t.writeStatus i.workspace (i.status s.clock) with
    | mk written t' =>
      rw [hw] at h
      cases written with
      | error e => cases h
      | ok p =>
        obtain rfl : { s with files := t' } = s' := congrArg Prod.snd h
        rw [hc]
        obtain ⟨dir, hr⟩ := writeStatus_records hw
        exact ⟨dir, hr, rfl⟩

theorem readText_of_persist {i : Instance} {s s' : Site} (h : i.persist s = (.ok (), s')) :
    s'.files.readText (statusPath i.workspace) = .ok ((i.status s.clock).line ++ "\n") := by
  obtain ⟨dir, hr, -⟩ := persist_records h
  exact hr.holdsStatus.readText

/-- Where status files can be written, an instance is written and nothing but the files changes. -/
theorem persist_of_takesStatus {i : Instance} {s : Site} (h : s.files.TakesStatus i.workspace) :
    ∃ t, i.persist s = (.ok (), { s with files := t }) ∧
      t.HoldsStatus i.workspace ((i.status s.clock).line ++ "\n") := by
  obtain ⟨hc, hr⟩ := h
  obtain ⟨t, ht⟩ : ∃ t, (s.files.createDirs i.workspace).2.replaceStatus i.workspace
    (i.status s.clock) =
      (.ok (), t) := ⟨_, Prod.ext (hr _) rfl⟩
  have hp : i.persist s = (.ok (), { s with files := t }) := by
    unfold persist
    rw [show s.files.createDirs i.workspace = (.ok (), _) from Prod.ext hc rfl]
    simp only [writeStatus, ht, Except.map]
  obtain ⟨dir, hrecords, -⟩ := persist_records hp
  exact ⟨t, hp, hrecords.holdsStatus⟩

end Instance

end StudyFlow
