import StudyFlow.Adapter
import StudyFlow.Proofs.FileTree.Locations
import StudyFlow.Proofs.Status.File

/-!
# Scripts lie beside status files

A script that was written is read as its text. The name of a script ends in `.sh`, so that writing
it leaves every status file as it is, whatever the names of the template and the workspace.
-/

namespace StudyFlow

open FileTree

variable {t t' : FileTree} {ws : Path} {text : String}

/-- A file that is stored under another name leaves the status file alone. -/
theorem FileTree.HoldsStatus.stores {l : Location} {c : ByteArray} (h : t.HoldsStatus ws text)
    (hs : Stores t t' l c) (hl : ∀ dir, dir ++ [statusFileName] ≠ l) : t'.HoldsStatus ws text := by
  obtain ⟨dir, x, hsits, hc⟩ := h
  exact ⟨dir, x, hs.keepsDirs.sits hsits, (hs.other _ (hl dir)).trans hc⟩

namespace Script

variable {sc : Script} {shell : String}

/-- Writing a script stores its text in its place, or changes nothing. -/
theorem write_cases {result : Except Fault Unit} (h : sc.write shell t = (result, t')) :
    (∃ f, result = .error f) ∧ t' = t ∨
      ∃ dir n, t.Sits sc.path dir n ∧ sc.path.isSlashed = false ∧
        Stores t t' (dir ++ [n]) (sc.text shell).toUTF8 := by
  unfold write at h
  cases hw : t.writeText sc.path (sc.text shell) with
  | error f =>
    rw [hw] at h
    obtain ⟨rfl, rfl⟩ := Prod.mk.inj h
    exact Or.inl ⟨⟨f, rfl⟩, rfl⟩
  | ok t₁ =>
    rw [hw] at h
    obtain ⟨dir, n, hsits, hslash, hstore⟩ := write_stores hw
    refine Or.inr ⟨dir, n, hsits, hslash, ?_⟩
    simp only at h
    cases hx : t₁.makeExecutable sc.path with
    | error f =>
      rw [hx] at h
      obtain ⟨-, rfl⟩ := Prod.mk.inj h
      exact hstore
    | ok t₂ =>
      rw [hx] at h
      obtain ⟨-, rfl⟩ := Prod.mk.inj h
      obtain ⟨x, hc⟩ := hstore.content
      have hfind := (hstore.keepsDirs.sits hsits).find hslash (by simp [hc])
      exact hstore.trans (makeExecutable_stores hfind (isBase_concat hsits.isEntryName) hc hx)

/-- In its place a script is written. -/
theorem write_ok {dir : Location} {n : String} (h : t.Sits sc.path dir n)
    (hs : sc.path.isSlashed = false) (hd : t.isDir (dir ++ [n]) = false) (shell : String) :
    ∃ u, sc.write shell t = (.ok (), u) ∧ Stores t u (dir ++ [n]) (sc.text shell).toUTF8 := by
  obtain ⟨u, hu⟩ := FileTree.write_ok h hs hd (sc.text shell).toUTF8
  obtain ⟨dir', m, hsits, -, hstore⟩ := write_stores hu
  have hplace : dir' ++ [m] = dir ++ [n] := hsits.location.symm.trans h.location
  rw [hplace] at hstore
  obtain ⟨x, hc⟩ := hstore.content
  have hfind := (hstore.keepsDirs.sits h).find hs (by rw [hc]; rfl)
  have hb : isBase (dir ++ [n]) = false := isBase_concat h.isEntryName
  have hexec : u.makeExecutable sc.path =
      .ok (u.put (dir ++ [n]) (.file (sc.text shell).toUTF8 true)) := by
    simp [makeExecutable, hfind, hc, bind, Except.bind]
  refine ⟨_, ?_, hstore.trans (makeExecutable_stores hfind hb hc hexec)⟩
  have hwrite : t.writeText sc.path (sc.text shell) = .ok u := hu
  unfold Script.write
  simp only [hwrite, hexec]

/-- A script that was written is read as its text. -/
theorem readText_of_write (h : sc.write shell t = (.ok (), t')) :
    t'.readText sc.path = .ok (sc.text shell) := by
  rcases write_cases h with ⟨⟨f, hf⟩, -⟩ | ⟨dir, n, hsits, hslash, hstore⟩
  · cases hf
  · exact hstore.readText hsits hslash

end Script

/-- The path of a script ends in `.sh`. -/
theorem Instance.script_path_text (i : Instance) :
    ∃ front, i.script.path.text.toList = front ++ ['.', 's', 'h'] := by
  have hname : (i.templateName ++ ".sh").toList = i.templateName.toList ++
    ['.', 's', 'h'] := by simp
  unfold Instance.script Path.child Path.join
  dsimp only
  split
  · exact ⟨_, hname⟩
  · split
    · exact ⟨i.workspace.text.toList ++ i.templateName.toList, by simp⟩
    · exact ⟨i.workspace.text.toList ++ '/' :: i.templateName.toList, by simp⟩

/-- The last name on the path of a script ends as its text does. -/
theorem Instance.script_names (i : Instance) :
    ∃ ns n, i.script.path.names = ns ++ [n] ∧ n.toList.getLast? = some 'h' := by
  obtain ⟨front, ht⟩ := i.script_path_text
  obtain ⟨ns, w, hn⟩ := Path.names_of_append ht (by decide) (by decide)
  exact ⟨ns, _, hn, by simp⟩

theorem ne_of_getLast? {n m : String} {c : Char} (hn : n.toList.getLast? = some c)
    (hm : m.toList.getLast? ≠ some c) :
    n ≠ m := by
  rintro rfl
  exact hm hn

/-- A script is never in the place of a status file. -/
theorem Instance.script_not_status {i : Instance} {dir dir' : Location} {n : String}
    (h : t.Sits i.script.path dir n) : dir' ++ [statusFileName] ≠ dir ++ [n] := by
  obtain ⟨ns, m, hn, hlast⟩ := i.script_names
  obtain ⟨ms, hm, -⟩ := h.leads
  rw [hn] at hm
  obtain rfl : m = n := List.singleton_inj.mp (List.append_inj' hm rfl).2
  intro he
  have hs : statusFileName = m := List.singleton_inj.mp (List.append_inj' he rfl).2
  exact ne_of_getLast? hlast (by decide) hs.symm

/-- Writing its script leaves the status file of an instance as it is. -/
theorem Instance.holdsStatus_write {i : Instance} {shell : String} {result : Except Fault Unit}
    (h : i.script.write shell t = (result, t')) (hs : t.HoldsStatus ws text) :
    t'.HoldsStatus ws text := by
  rcases Script.write_cases h with ⟨-, rfl⟩ | ⟨dir, n, hsits, -, hstore⟩
  · exact hs
  · exact hs.stores hstore fun _ => Instance.script_not_status hsits

end StudyFlow
