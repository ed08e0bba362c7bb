import StudyFlow.Proofs.FileTree.Listing
import StudyFlow.Proofs.Lifecycle.Persistence
import StudyFlow.Proofs.Path.Immediate

/-!
# Workspaces that are set up

Setting up an instance makes the directories of its workspace and writes its status file there. It
can be done again then, and nothing but the status file changes. In a workspace that held nothing
before there is no directory.
-/

namespace StudyFlow

open FileTree

theorem Path.inside_statusPlace (ws : Path) : Inside ws.location ws.statusPlace :=
  inside_child (isBase_concat ⟨by decide, by decide⟩)

theorem Path.inside_of_draftPlace {ws : Path} {k : Location} (h : ws.draftPlace <+: k) :
    Inside ws.location k := by
  obtain ⟨rest, rfl⟩ := h
  exact ⟨statusDraftName, rest, by simp [draftPlace], isBase_concat ⟨by decide, by decide⟩⟩

namespace Instance

variable {i : Instance} {s s' x y : Site} {k : Location}

/-- An instance is set up in a workspace that held nothing before; what comes next comes at the last
site, or it is this very set-up. -/
structure SetUp (i : Instance) (s s' x : Site) : Prop where
  vacant : ∀ k, Inside i.workspace.location k → s.files.get? k = none
  done : i.persist s = (.ok (), s')
  site : x = s ∨ x.files = s'.files

/-- Once it is set up, the path of a workspace leads to a directory. -/
theorem follow_of_persist (h : i.persist s = (.ok (), s')) (hw : i.workspace.text ≠ "") :
    i.workspace.Walkable ∧ s'.files.follow i.workspace.start i.workspace.names =
      .ok i.workspace.location ∧
      s'.files.isDir i.workspace.location = true := by
  obtain ⟨dir, hr, -⟩ := persist_records h
  have hsits := hr.keepsDirs.sits hr.sits
  obtain rfl := hsits.dir_eq isPlainName_statusFileName
  exact ⟨hsits.walkable.of_child isPlainName_statusFileName.no_slash hw,
    (hsits.child isPlainName_statusFileName).2, hsits.isDir⟩

/-- A workspace that is set up can be set up again, and nothing but the status file is written
then. -/
theorem persist_again (h : i.persist s = (.ok (), s')) (hw : i.workspace.text ≠ "")
    (hx : x = s ∨ x.files = s'.files) : ∃ y, i.persist x = (.ok (), y) ∧
      ∀ k, k ≠ i.workspace.statusPlace → ¬ i.workspace.draftPlace <+: k →
        y.files.get? k = s'.files.get? k := by
  rcases hx with rfl | hx
  · exact ⟨s', h, fun _ _ _ => rfl⟩
  obtain ⟨hwalk, hf, hd⟩ := follow_of_persist h hw
  have hmade : x.files.createDirs i.workspace = (.ok (), s'.files) := by
    rw [hx]
    exact createDirs_of_follow hwalk hf hd
  obtain ⟨dir, hr, -⟩ := persist_records h
  have hsits := hr.keepsDirs.sits hr.sits
  obtain rfl := hsits.dir_eq isPlainName_statusFileName
  have hnot : s'.files.isDir (i.workspace.location ++ [statusFileName]) = false := by
    obtain ⟨c, hc⟩ := hr.content
    simp [isDir, hc]
  have hready : Replaceable s'.files i.workspace i.workspace.location :=
    ⟨hr.keepsDirs.sits hr.draft, hsits, by simp [isDir, hr.no_draft], hnot⟩
  have htakes : x.files.TakesStatus i.workspace := by
    unfold TakesStatus
    rw [hmade]
    exact ⟨rfl, hready.replaceStatus⟩
  obtain ⟨u, hu, -⟩ := persist_of_takesStatus htakes
  refine ⟨_, hu, fun k hstatus hdraft => ?_⟩
  obtain ⟨dir, hr', -⟩ := persist_records hu
  obtain rfl := hr'.sits.dir_eq isPlainName_statusFileName
  rw [hmade] at hr'
  exact hr'.other k hstatus (Bool.eq_false_iff.mpr fun hc => hdraft (isWithin_iff.mp hc))

/-- In a workspace that held nothing there is no directory after it was set up once more. -/
theorem SetUp.not_isDir (h : i.SetUp s s' x) (hw : i.workspace.text ≠ "") :
    ∃ y, i.persist x = (.ok (), y) ∧
      (∀ k, ¬ Inside i.workspace.location k → y.files.get? k = s'.files.get? k) ∧
      ∀ n, isBase (i.workspace.location ++ [n]) = false →
        ¬ i.workspace.Passes (i.workspace.location ++ [n]) →
        y.files.isDir (i.workspace.location ++ [n]) = false := by
  obtain ⟨y, hy, hsame⟩ := persist_again h.done hw h.site
  refine ⟨y, hy, fun k hk => hsame k ?_ fun hd => hk (Path.inside_of_draftPlace hd),
    fun n hb hp => ?_⟩
  · rintro rfl
    exact hk i.workspace.inside_statusPlace
  obtain ⟨dir, hr, -⟩ := persist_records h.done
  obtain rfl := hr.sits.dir_eq isPlainName_statusFileName
  obtain ⟨dir, hr', -⟩ := persist_records hy
  obtain rfl := hr'.sits.dir_eq isPlainName_statusFileName
  by_cases hstatus : n = statusFileName
  · obtain ⟨c, hc⟩ := hr'.content
    simp [hstatus, isDir, hc]
  by_cases hdraft : n = statusDraftName
  · simp [hdraft, isDir, hr'.no_draft]
  have hout : i.workspace.location ++ [n] ≠ i.workspace.statusPlace := ne_location_of_ne hstatus
  have hkept : ¬ i.workspace.draftPlace <+: i.workspace.location ++ [n] := fun hpre =>
    ne_location_of_ne hdraft (hpre.eq_of_length (by simp [Path.draftPlace])).symm
  have hopens := (s.files.createDirs_makes i.workspace).opens.2
  have hnone : y.files.get? (i.workspace.location ++ [n]) = none :=
    calc y.files.get? (i.workspace.location ++ [n])
        = s'.files.get? (i.workspace.location ++ [n]) := hsame _ hout hkept
      _ = (s.files.createDirs i.workspace).2.get? (i.workspace.location ++ [n]) :=
          hr.other _ hout (Bool.eq_false_iff.mpr fun hc => hkept (isWithin_iff.mp hc))
      _ = s.files.get? (i.workspace.location ++ [n]) := hopens.get?_eq hp
      _ = none := h.vacant _ (inside_child hb)
  simp [isDir, hnone]

/-- An instance is set up in an empty tree. -/
theorem setUp_empty (h : (i.persist {}).1 = .ok ()) : i.SetUp {}
    (i.persist {}).2 (i.persist {}).2 where
  vacant := fun k hk => by simp [get?, hk.not_isBase]
  done := Prod.ext h rfl
  site := .inr rfl

end Instance

end StudyFlow
