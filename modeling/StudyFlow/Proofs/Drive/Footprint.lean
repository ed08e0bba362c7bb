import StudyFlow.LocalAdapter
import StudyFlow.Proofs.Drive.Moves
import StudyFlow.Proofs.Drive.Scripts
import StudyFlow.Proofs.Status.Replacement
import StudyFlow.Runner

/-!
# The places that are written without an adapter

Making an instance ready and recording its status writes the status file and the script, and makes
directories on the way to the workspace. The draft of a status file is moved away again; it is left
only where a directory keeps it from becoming the status file. `Confined` says so of two trees, and
every move of a drive that hands nothing over keeps to it.
-/

namespace StudyFlow

open FileTree

variable {who : Instance → Prop} {t u v : FileTree} {i j : Instance} {k : Location}

namespace FileTree

/-- What became of a place while some instances were made ready. -/
inductive Touched (who : Instance → Prop) (t u : FileTree) (k : Location) : Prop
  | kept : u.get? k = t.get? k → Touched who t u k
  | opened {i : Instance} : who i → t.get? k = none → u.get? k = some .directory →
    i.workspace.Passes k → Touched who t u k
  | status {i : Instance} : who i → k = i.workspace.statusPlace → Touched who t u k
  | script {i : Instance} : who i → k = i.script.path.location → Touched who t u k
  | draft {i : Instance} : who i → k = i.workspace.draftPlace →
    (∀ c x, u.get? k = some (.file c x) → u.isDir i.workspace.statusPlace = true) →
    Touched who t u k

/-- Nothing else was written than status files and scripts of the instances. -/
structure Confined (who : Instance → Prop) (t u : FileTree) : Prop where
  touched : ∀ k, Touched who t u k
  dirs : ∀ k, t.isDir k = true → u.isDir k = true
  grounded : u.Grounded

theorem Touched.trans (h : Touched who t u k) (h' : Touched who u v k)
    (hd : ∀ l, u.isDir l = true → v.isDir l = true) : Touched who t v k := by
  cases h' with
  | kept he' =>
    cases h with
    | kept he => exact .kept (he'.trans he)
    | opened hi hn hu hp => exact .opened hi hn (he'.trans hu) hp
    | status hi hk => exact .status hi hk
    | script hi hk => exact .script hi hk
    | draft hi hk hs => exact .draft hi hk fun c x hf => hd _ (hs c x (he'.symm.trans hf))
  | opened hi' hn' hv hp' =>
    cases h with
    | kept he => exact .opened hi' (he.symm.trans hn') hv hp'
    | opened hi hn hu hp => exact nomatch hu.symm.trans hn'
    | status hi hk => exact .status hi hk
    | script hi hk => exact .script hi hk
    | draft hi hk hs => exact .draft hi hk fun c x hf => nomatch hv.symm.trans hf
  | status hi hk => exact .status hi hk
  | script hi hk => exact .script hi hk
  | draft hi hk hs => exact .draft hi hk hs

theorem Touched.mono {who' : Instance → Prop} (h : Touched who t u k) (hw : ∀ i, who i → who' i) :
    Touched who' t u k := by
  cases h with
  | kept he => exact .kept he
  | opened hi hn hu hp => exact .opened (hw _ hi) hn hu hp
  | status hi hk => exact .status (hw _ hi) hk
  | script hi hk => exact .script (hw _ hi) hk
  | draft hi hk hs => exact .draft (hw _ hi) hk hs

namespace Confined

theorem refl (h : t.Grounded) : Confined who t t := ⟨fun _ => .kept rfl, fun _ => id, h⟩

theorem trans (h : Confined who t u) (h' : Confined who u v) : Confined who t v :=
  ⟨fun k => (h.touched k).trans (h'.touched k) h'.dirs, fun k hk =>
    h'.dirs k (h.dirs k hk), h'.grounded⟩

theorem mono {who' : Instance → Prop} (h : Confined who t u) (hw : ∀ i, who i → who' i) :
    Confined who' t u :=
  ⟨fun k => (h.touched k).mono hw, h.dirs, h.grounded⟩

/-- In a tree whose entries lie in directories, directories that are kept are all that are there. -/
theorem of_keepsDirs (hg : t.Grounded) (ht : ∀ k, Touched who t u k) (hk : KeepsDirs t u)
    (hu : u.Grounded) :
    Confined who t u := by
  refine ⟨ht, fun k hd => hk k (hg k ?_) hd, hu⟩
  rw [isDir_iff.mp hd]
  rfl

end Confined

theorem Opens.confined (h : Opens t u i.workspace) (hi : who i) (hg : t.Grounded) :
    Confined who t u := by
  refine ⟨fun k => ?_, fun k hd => ?_, h.grounded hg⟩
  · rcases h.view k with he | ⟨hn, hd, hp⟩
    · exact .kept he
    · exact .opened hi hn hd hp
  · rcases h.view k with he | ⟨hn, -, -⟩
    · rwa [isDir, he]
    · rw [isDir, hn] at hd
      cases hd

/-- A file that is stored in the place of a script. -/
theorem Stores.confined {c : ByteArray} (h : Stores t u i.script.path.location c) (hi : who i)
    (hs : t.Solid i.script.path.location) (hg : t.Grounded) : Confined who t u := by
  refine .of_keepsDirs hg (fun k => ?_) h.keepsDirs (h.grounded hs hg)
  by_cases hk : k = i.script.path.location
  · exact .script hi hk
  · exact .kept (h.other k hk)

theorem replaceStatus_confined (hi : who i) (hg : t.Grounded) (r : StatusRecord) :
    Confined who t (t.replaceStatus i.workspace r).2 := by
  have h := t.replaceStatus_replaces i.workspace r
  generalize t.replaceStatusMoments i.workspace r = ms at h
  generalize t.replaceStatus i.workspace r = replaced at h
  obtain ⟨result, v⟩ := replaced
  cases h with
  | unwritten f => exact .refl hg
  | unmoved f hstores hsolid hdir =>
    refine .of_keepsDirs hg (fun k => ?_) hstores.keepsDirs (hstores.grounded hsolid hg)
    by_cases hk : k = i.workspace.draftPlace
    · refine .draft hi hk fun c x _ => ?_
      rwa [isDir, hstores.other _ i.workspace.statusPlace_ne_draftPlace]
    · exact .kept (hstores.other k hk)
  | moved hstores hrecords hgone =>
    refine .of_keepsDirs hg (fun k => ?_) hrecords.keepsDirs (hrecords.grounded hgone hg)
    by_cases hs : k = i.workspace.statusPlace
    · exact .status hi hs
    by_cases hw : i.workspace.draftPlace <+: k
    · by_cases hk : k = i.workspace.draftPlace
      · refine .draft hi hk fun c x hf => ?_
        rw [hgone k hw] at hf
        cases hf
      · -- below a draft there is nothing before or after
        exact .kept ((hgone k hw).trans (hg.get?_eq_none hstores.not_dir hw (Ne.symm hk)).symm)
    · exact .kept (hrecords.other k hs (Bool.eq_false_iff.mpr fun hc => hw (isWithin_iff.mp hc)))

end FileTree

/-! ## Output -/

/-- A name under which an adapter keeps what a script printed, or its marker. -/
def IsOutputName (n : String) : Prop :=
  n = finishedMarker ∨ ∃ stem, n = stem ++ ".out" ∨ n = stem ++ ".err"

theorem IsOutputName.getLast? {n : String} (h : IsOutputName n) :
    n.toList.getLast? = some 'D' ∨ n.toList.getLast? = some 't' ∨ n.toList.getLast? = some 'r' := by
  rcases h with rfl | ⟨stem, rfl | rfl⟩
  · exact .inl rfl
  · exact .inr (.inl (by simp))
  · exact .inr (.inr (by simp))

/-- A script is in a place whose name ends in `.sh`. -/
theorem Instance.script_location (i : Instance) :
    ∃ dir n, i.script.path.location = dir ++ [n] ∧ n.toList.getLast? = some 'h' := by
  obtain ⟨ns, n, hn, hlast⟩ := i.script_names
  refine ⟨ns.foldl Path.stepFrom i.script.path.start, n, ?_, hlast⟩
  rw [Path.location, hn, List.foldl_append]
  exact Path.stepFrom_name (ne_of_getLast? hlast (by decide)) (ne_of_getLast? hlast (by decide)) _

/-- Under the name of an output nothing is written; a directory may come to be there on the way to a
workspace. -/
theorem FileTree.Touched.of_output {dir : Location} {n : String} (h : Touched who t u (dir ++ [n]))
    (hn : IsOutputName n) :
    u.get? (dir ++ [n]) = t.get? (dir ++ [n]) ∨
      t.get? (dir ++ [n]) = none ∧ u.get? (dir ++ [n]) = some .directory := by
  have hother : ∀ dir' m, m.toList.getLast? = some 'S' ∨ m.toList.getLast? = some 'p' ∨
      m.toList.getLast? = some 'h' → dir ++ [n] ≠ dir' ++ [m] := by
    intro dir' m hm he
    obtain rfl : n = m := List.cons.inj (List.append_inj' he rfl).2 |>.1
    rcases hn.getLast? with hl | hl | hl <;> simp [hl] at hm
  cases h with
  | kept he => exact .inl he
  | opened _ hnone hd _ => exact .inr ⟨hnone, hd⟩
  | status _ hk => exact absurd hk (hother _ _ (.inl (by decide)))
  | @script i _ hk =>
    obtain ⟨dir', m, hl, hm⟩ := i.script_location
    exact absurd (hk.trans hl) (hother dir' m (.inr (.inr hm)))
  | draft _ hk _ => exact absurd hk (hother _ _ (.inr (.inl (by decide))))

/-- What stands under the name of an output was there before. -/
theorem FileTree.Touched.output {dir : Location} {n : String} {c : ByteArray} {x : Bool}
    (h : Touched who t u (dir ++ [n])) (hn : IsOutputName n)
    (hf : u.get? (dir ++ [n]) = some (.file c x)) :
    t.get? (dir ++ [n]) = some (.file c x) := by
  rcases h.of_output hn with he | ⟨-, hd⟩
  · exact he.symm.trans hf
  · exact nomatch hd.symm.trans hf

/-! ## Instances -/

theorem Instance.persist_confined {s : Site} (hi : who i) (hw : j.workspace = i.workspace)
    (hg : s.files.Grounded) : Confined who s.files (j.persist s).2.files := by
  have hopens := (s.files.createDirs_makes i.workspace).opens.2
  unfold persist
  rw [hw]
  cases hc : s.files.createDirs i.workspace with
  | mk made u =>
    rw [hc] at hopens
    have hmade := hopens.confined hi hg
    cases made with
    | error f => exact hmade
    | ok _ =>
      have hreplaced := replaceStatus_confined hi hmade.grounded (j.status s.clock)
      simp only [writeStatus]
      generalize u.replaceStatus i.workspace (j.status s.clock) = replaced at hreplaced
      obtain ⟨written, v⟩ := replaced
      cases written <;> exact hmade.trans hreplaced

/-- The script of an instance is stored in its place, or nothing is written. -/
theorem Instance.write_confined (hi : who i) (hp : j.script.path = i.script.path) (hg : t.Grounded)
    (shell : String) : Confined who t (j.script.write shell t).2 := by
  generalize hw : j.script.write shell t = wrote
  obtain ⟨result, u⟩ := wrote
  rcases Script.write_cases hw with ⟨-, rfl⟩ | ⟨dir, n, hsits, -, hstores⟩
  · exact .refl hg
  · have hsolid := hsits.solid.concat (n := n) hsits.isDir
    rw [← hsits.location, hp] at hstores hsolid
    exact hstores.confined hi hsolid hg

variable {σ : Type} {b : Bridge σ} {s : Site}

theorem Bridge.prepare_confined (hi : who i) (hr : i.Resumes j) (hg : s.files.Grounded) :
    Confined who s.files (b.prepare j s).2.files := by
  have hsaved := Instance.persist_confined hi hr.workspace hg
  have hpath : j.script.path = i.script.path := by rw [hr.script]
  generalize hp : b.prepare j s = prepared
  obtain ⟨result, s'⟩ := prepared
  cases result with
  | ok script =>
    obtain ⟨-, s₁, u, hsave, hwrite, rfl⟩ := prepare_eq_ok hp
    rw [hsave] at hsaved
    have hwrote := Instance.write_confined hi hpath hsaved.grounded
      (b.settings.effectiveFor j.run).shell
    rw [hwrite] at hwrote
    exact hsaved.trans hwrote
  | error e =>
    rcases prepare_eq_error hp with ⟨cause, -, hsave⟩ | ⟨s₁, f, u, -, hsave, hwrite, rfl⟩
    · rw [hsave] at hsaved
      exact hsaved
    · rw [hsave] at hsaved
      have hwrote := Instance.write_confined hi hpath hsaved.grounded
        (b.settings.effectiveFor j.run).shell
      rw [hwrite] at hwrote
      exact hsaved.trans hwrote

theorem Drive.recordFailure_confined (hi : who i) (hw : j.workspace = i.workspace)
    (hg : s.files.Grounded) :
    Confined who s.files (recordFailure j s).2.files := by
  obtain ⟨s₁, s₂, hf₁, -, hf₂, -, hrecorded⟩ := recordFailure_eq j s
  rw [hrecorded, hf₂, ← hf₁]
  exact Instance.persist_confined hi hw (hf₁ ▸ hg)

/-- A report writes nothing but the status of an instance whose adapter was lost. -/
theorem Runner.settle_confined {ending : Ending} (hi : who i) (hw : j.workspace = i.workspace)
    (hg : s.files.Grounded) : Confined who s.files (Runner.settle j ending s).2.files := by
  cases ending with
  | code code => exact .refl hg
  | failed e => exact .refl hg
  | crashed =>
    exact Drive.recordFailure_confined
      (s := s.error ("Worker for '" ++ j.name ++ "' panicked")) hi hw hg

end StudyFlow
