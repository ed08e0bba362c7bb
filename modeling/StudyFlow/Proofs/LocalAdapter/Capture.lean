import StudyFlow.LocalAdapter
import StudyFlow.Proofs.Drive.Footprint
import StudyFlow.Proofs.Status.Collection

/-!
# What a local submission keeps

The output and the errors of a process take the places of those that the script printed before. The
marker is written after a clean exit, and every other exit leaves its place as it was.
-/

namespace StudyFlow

open FileTree

variable {t u : FileTree} {ws : Path} {n base : String} {c : ByteArray} {f : Finished}

/-! ## Children of a workspace -/

namespace FileTree

/-- A child is written in the directory that its parent leads to. -/
theorem write_child (hn : IsPlainName n) (h : t.write (ws.child n) c = .ok u) :
    t.Sits (ws.child n) ws.location n ∧ Stores t u (ws.location ++ [n]) c := by
  obtain ⟨dir, m, hsits, -, hstores⟩ := write_stores h
  obtain rfl := hsits.dir_eq hn
  obtain ⟨rfl, -⟩ := hsits.child hn
  exact ⟨hsits, hstores⟩

theorem get?_write_child {k : Location} (hn : IsPlainName n) (h : t.write (ws.child n) c = .ok u)
    (hk : k ≠ ws.location ++ [n]) : u.get? k = t.get? k :=
  (write_child hn h).2.other k hk

structure HoldsChild (t : FileTree) (ws : Path) (n : String) (c : ByteArray) : Prop where
  sits : t.Sits (ws.child n) ws.location n
  content : ∃ x, t.get? (ws.location ++ [n]) = some (.file c x)

theorem holdsChild_of_write (hn : IsPlainName n) (h : t.write (ws.child n) c = .ok u) :
    u.HoldsChild ws n c := by
  obtain ⟨hsits, hstores⟩ := write_child hn h
  exact ⟨hstores.keepsDirs.sits hsits, hstores.content⟩

/-- Writing one child leaves the others. -/
theorem HoldsChild.write {m : String} {d : ByteArray} (h : t.HoldsChild ws n c) (hm : IsPlainName m)
    (hne : n ≠ m) (hw : t.write (ws.child m) d = .ok u) : u.HoldsChild ws n c := by
  obtain ⟨x, hx⟩ := h.content
  exact ⟨(write_child hm hw).2.keepsDirs.sits h.sits, x,
    (get?_write_child hm hw (ne_location_of_ne hne)).trans hx⟩

theorem HoldsChild.read (hn : IsPlainName n) (h : t.HoldsChild ws n c) :
    t.read (ws.child n) = .ok c := by
  obtain ⟨x, hx⟩ := h.content
  have hfind := h.sits.find (Path.isSlashed_child ws hn) (by rw [hx]; rfl)
  simp [FileTree.read, hfind, hx, bind, Except.bind]

/-- Where one child can be, others can be too, as far as the system takes their paths. -/
theorem Sits.beside {m : String} (hn : IsPlainName n) (h : t.Sits (ws.child n) ws.location n)
    (hm : IsFileName m) (hw : (ws.child m).Walkable) : t.Sits (ws.child m) ws.location m := by
  obtain ⟨-, hf⟩ := h.child hn
  rw [← Path.start_child ws hm.toIsPlainName] at hf
  exact ⟨hw, ⟨ws.names, Path.names_child ws hm.toIsPlainName, hf⟩, h.isDir, hm.ne_here,
    hm.ne_up, hm.size⟩

end FileTree

/-! ## Names -/

/-- The name under which a script keeps its output. -/
def Script.stem (s : Script) : String := s.path.fileStem?.getD "step"

/-- The name by which a script is handed to the shell. -/
def Script.argument (s : Script) : String := s.path.fileName?.getD s.path.text

theorem Path.slash_not_mem_fileName {p : Path} (h : p.fileName? = some n) : '/' ∉ n.toList := by
  unfold fileName? at h
  split at h
  · next m hlast =>
    obtain rfl := Option.some.inj h
    have hm : Component.name m ∈ p.components := List.mem_of_getLast? hlast
    rw [components_eq, List.mem_append] at hm
    rcases hm with hm | hm
    · -- the leading component is no name
      unfold leadOf at hm
      split at hm <;> simp at hm
    · obtain ⟨w, hw, hpiece⟩ := List.mem_map.mp hm
      unfold Component.ofPiece at hpiece
      split at hpiece
      · cases hpiece
      · obtain rfl := Component.name.inj hpiece
        rw [String.toList_ofList]
        exact slash_not_mem_of_mem_splitSlash _ w (List.mem_filter.mp hw).1
  · cases h

theorem Path.stemOf_subset (n : String) : (stemOf n).toList ⊆ n.toList := by
  unfold stemOf
  dsimp only
  split
  · exact List.Subset.refl _
  · exact List.Subset.refl _
  · next before htail =>
    intro c hc
    rw [String.toList_ofList, List.mem_reverse] at hc
    have hmem : c ∈ n.toList.reverse.dropWhile (· != '.') := htail ▸ List.mem_cons_of_mem _ hc
    exact List.mem_reverse.mp (List.dropWhile_subset _ hmem)

theorem Script.slash_not_mem_stem (s : Script) : '/' ∉ s.stem.toList := by
  unfold stem Path.fileStem?
  cases h : s.path.fileName? with
  | none => decide
  | some n => exact fun hm => Path.slash_not_mem_fileName h (Path.stemOf_subset n hm)

/-- A name that ends with an ending is what stands before it. -/
theorem Path.stemOf_ending (hn : n ≠ "") : stemOf (n ++ ".sh") = n := by
  have htail : (n ++ ".sh").toList.reverse.dropWhile (· != '.') = '.' :: n.toList.reverse := by
    simp
  obtain ⟨c, cs, hc⟩ := List.exists_cons_of_ne_nil
    (fun h => hn (String.toList_eq_nil_iff.mp (List.reverse_eq_nil_iff.mp h)) :
      n.toList.reverse ≠ [])
  unfold stemOf
  simp only [htail, hc]
  rw [← hc, List.reverse_reverse, String.ofList_toList]

/-- The output of an instance is kept under the name of its step. -/
theorem Instance.script_stem {i : Instance} (hn : IsPlainName i.templateName) :
    i.script.stem = i.templateName := by
  have hlast : (i.templateName ++ ".sh").toList.getLast? = some 'h' := by simp
  have hstep : IsStepName (i.templateName ++ ".sh") :=
    { ne_empty := fun he => hn.ne_empty (String.append_eq_empty_iff.mp he).1
      no_slash := by simpa using hn.no_slash
      ne_here := ne_of_getLast? hlast (by decide)
      ne_up := ne_of_getLast? hlast (by decide) }
  have hname : i.script.path.fileName? = some (i.templateName ++ ".sh") := fileName?_child hstep
  rw [Script.stem, Path.fileStem?, hname, Option.map_some, Option.getD_some,
    Path.stemOf_ending hn.ne_empty]

theorem isPlainName_append {ending : String} (hbase : '/' ∉ base.toList) (hne : ending ≠ "")
    (hend : '/' ∉ ending.toList) : IsPlainName (base ++ ending) where
  ne_empty := fun he => hne (String.append_eq_empty_iff.mp he).2
  no_slash := by
    rw [String.toList_append, List.mem_append, not_or]
    exact ⟨hbase, hend⟩

theorem isFileName_finishedMarker : IsFileName finishedMarker where
  ne_empty := by decide
  no_slash := by decide
  ne_here := by decide
  ne_up := by decide
  no_zero := by decide
  size := by decide

/-! ## The marker -/

def Path.markerPlace (ws : Path) : Location := ws.location ++ [finishedMarker]

namespace FileTree

/-- The marker is in the workspace. -/
def IsMarked (t : FileTree) (ws : Path) : Prop := ∃ c x, t.get? ws.markerPlace = some (.file c x)

theorem isMarked_congr (h : u.get? ws.markerPlace = t.get? ws.markerPlace) : u.IsMarked ws ↔
    t.IsMarked ws := by
  unfold IsMarked
  rw [h]

/-- Writing another child leaves the marker. -/
theorem isMarked_write_iff (hn : IsPlainName n) (hne : n ≠ finishedMarker)
    (h : t.write (ws.child n) c = .ok u) :
    u.IsMarked ws ↔ t.IsMarked ws :=
  isMarked_congr (get?_write_child hn h (ne_location_of_ne hne.symm))

/-- The marker is there for a program that can look it up. -/
theorem Sits.read_marker_iff (h : t.Sits (ws.child finishedMarker) ws.location finishedMarker) :
    (∃ c, t.read (ws.child finishedMarker) = .ok c) ↔ t.IsMarked ws := by
  have hn := isFileName_finishedMarker.toIsPlainName
  constructor
  · rintro ⟨c, hc⟩
    unfold read at hc
    cases hfind : t.find (ws.child finishedMarker) with
    | error e => rw [hfind] at hc; cases hc
    | ok l =>
      rw [hfind] at hc
      obtain rfl : ws.markerPlace = l :=
        h.location.symm.trans (follow_location (find_eq_ok_iff.mp hfind).2.1)
      simp only [bind, Except.bind] at hc
      split at hc
      · next content x hg => exact ⟨content, x, hg⟩
      · cases hc
      · cases hc
  · rintro ⟨c, x, hc⟩
    exact ⟨c, HoldsChild.read hn ⟨h, x, hc⟩⟩

/-- Whatever is written for instances without an adapter, every marker stays as it was. -/
theorem Confined.isMarked_iff {who : Instance → Prop} (h : Confined who t u) : u.IsMarked ws ↔
    t.IsMarked ws := by
  rcases (h.touched ws.markerPlace).of_output (.inl rfl) with hkept | ⟨hnone, hdir⟩
  · exact isMarked_congr hkept
  · constructor
    · rintro ⟨c, x, hf⟩
      cases hdir.symm.trans hf
    · rintro ⟨c, x, hf⟩
      cases hnone.symm.trans hf

end FileTree

/-! ## Captures -/

namespace LocalAdapter

/-- What is in the files once the leavings of a process are kept. -/
structure Keeps (ws : Path) (base : String) (f : Finished) (t : FileTree) : Prop where
  output : t.read (ws.child (base ++ ".out")) = .ok f.output
  errors : t.read (ws.child (base ++ ".err")) = .ok f.errors
  marked : f.status = some 0 → t.IsMarked ws
  unmarked : f.status ≠ some 0 → (t.IsMarked ws ↔ f.files.IsMarked ws)
  seen : (ws.child finishedMarker).Walkable →
    ((∃ c, t.read (ws.child finishedMarker) = .ok c) ↔ t.IsMarked ws)
  /-- Output, errors and marker apart, each place holds what the process left there. -/
  other : ∀ k, (∀ n, IsOutputName n → k ≠ ws.location ++ [n]) → t.get? k = f.files.get? k

theorem keeps_of_capture (hbase : '/' ∉ base.toList) (h : capture ws base f = (.ok (), t)) :
    Keeps ws base f t := by
  have hout : IsPlainName (base ++ ".out") := isPlainName_append hbase (by decide) (by decide)
  have herr : IsPlainName (base ++ ".err") := isPlainName_append hbase (by decide) (by decide)
  have hmarker := isFileName_finishedMarker.toIsPlainName
  have hne : base ++ ".out" ≠ base ++ ".err" := fun he => by simp [← String.toList_inj] at he
  have hneOut : base ++ ".out" ≠ finishedMarker := ne_of_getLast? (c := 't') (by simp) (by decide)
  have hneErr : base ++ ".err" ≠ finishedMarker := ne_of_getLast? (c := 'r') (by simp) (by decide)
  unfold capture at h
  split at h
  · cases h
  next u hu =>
  split at h
  · cases h
  next v hv =>
  have houtput : v.HoldsChild ws (base ++ ".out") f.output :=
    (holdsChild_of_write hout hu).write herr hne hv
  have herrors : v.HoldsChild ws (base ++ ".err") f.errors := holdsChild_of_write herr hv
  have hother : ∀ k, (∀ n, IsOutputName n → k ≠ ws.location ++ [n]) → v.get? k = f.files.get? k :=
    fun k hk => (get?_write_child herr hv (hk _ (.inr ⟨base, .inr rfl⟩))).trans
      (get?_write_child hout hu (hk _ (.inr ⟨base, .inl rfl⟩)))
  split at h
  · next hstatus =>
    split at h
    · cases h
    next w hw =>
    obtain rfl := congrArg Prod.snd h
    have houtput := houtput.write hmarker hneOut hw
    exact {
      output := houtput.read hout
      errors := (herrors.write hmarker hneErr hw).read herr
      marked := fun _ => ⟨_, (holdsChild_of_write hmarker hw).content⟩
      unmarked := fun hne => absurd (beq_iff_eq.mp hstatus) hne
      seen := fun hpath =>
        (houtput.sits.beside hout isFileName_finishedMarker hpath).read_marker_iff
      other := fun k hk => (get?_write_child hmarker hw (hk _ (.inl rfl))).trans (hother k hk) }
  · next hstatus =>
    obtain rfl := congrArg Prod.snd h
    exact {
      output := houtput.read hout
      errors := herrors.read herr
      marked := fun he => absurd (beq_iff_eq.mpr he) hstatus
      unmarked := fun _ => (isMarked_write_iff herr hneErr hv).trans
        (isMarked_write_iff hout hneOut hu)
      seen := fun hpath =>
        (houtput.sits.beside hout isFileName_finishedMarker hpath).read_marker_iff
      other := hother }

/-- A submission whose process ran and whose leavings were kept. -/
theorem submit_of_capture {launch : Launcher} {script : Script}
    {settings : EffectiveSettings} {s : Site}
    (hl : launch settings.shell [script.argument] script.workspace s.files = .ok f)
    (hc : capture script.workspace script.stem f = (.ok (), t)) :
    ∃ s', submit launch script settings s =
      (.submitted ⟨ReturnCode.ofExit f.status, "local-" ++ f.process⟩, s') ∧ s'.files = t := by
  unfold Script.argument at hl
  unfold Script.stem at hc
  unfold submit
  simp only [hl, hc]
  refine ⟨_, rfl, ?_⟩
  split <;> rfl

end LocalAdapter

/-- Zero is the one exit status that is reported as a success. -/
theorem ReturnCode.ofExit_eq_ok_iff {status : Option Int} : ofExit status = .ok ↔
    status = some 0 := by
  constructor
  · intro h
    cases status with
    | none => cases h
    | some k =>
      unfold ofExit at h
      rw [Option.bind_some] at h
      cases hk : ofNumber? k with
      | none => rw [hk] at h; cases h
      | some code =>
        rw [hk] at h
        obtain rfl : code = .ok := h
        have hnumber := List.find?_some hk
        exact congrArg some (beq_iff_eq.mp hnumber).symm
  · rintro rfl
    rfl

end StudyFlow
