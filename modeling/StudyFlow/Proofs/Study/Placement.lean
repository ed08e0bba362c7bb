import StudyFlow.Proofs.Drive.Footprint
import StudyFlow.Proofs.Lifecycle.SetUp
import StudyFlow.Proofs.Study.Containment

/-!
# Scripts in their workspaces

The script of an instance is joined from the workspace and the name of the step, as a path. So it is
an entry of the workspace exactly if this name, with its ending, is a single step; then a workspace
that was empty before it was set up takes the script, and nothing outside of it is written. A name
of several steps is looked for in directories that nobody makes.
-/

namespace StudyFlow

open FileTree

/-! ## Paths of scripts -/

namespace Instance

variable {i : Instance}

/-- The parent of the script is the workspace. -/
def ScriptInside (i : Instance) : Prop :=
  ∃ q, i.script.path.parent? = some q ∧ q.components = i.workspace.components

/-- The file name that the script would have in the workspace. -/
def scriptFile (i : Instance) : Path := ⟨i.templateName ++ ".sh"⟩

theorem scriptInside_iff (hw : i.workspace.text ≠ "") (hr : i.scriptFile.isAbsolute = false) :
    i.ScriptInside ↔ i.scriptFile.tail.length = 1 := by
  have hc : i.script.path.components = i.workspace.components ++ i.scriptFile.tail :=
    Path.components_join hw hr
  unfold ScriptInside
  rw [Path.exists_parent?_iff, hc, List.length_eq_one_iff]
  constructor
  · rintro ⟨c, -, he⟩
    exact ⟨c, List.append_cancel_left he⟩
  · rintro ⟨c, he⟩
    refine ⟨c, ?_, by rw [he]⟩
    rintro rfl
    exact Path.root_not_mem_stepsOf i.scriptFile.text.toList
      (show .root ∈ i.scriptFile.tail by simp [he])

theorem scriptFile_tail_ne_nil (i : Instance) : i.scriptFile.tail ≠ [] := by
  have ht : i.scriptFile.text.toList = i.templateName.toList ++ ['.', 's', 'h'] := by
    simp [scriptFile]
  obtain ⟨ns, w, hn⟩ := Path.names_of_append ht (by decide) (by decide)
  have hlast : (String.ofList (w ++ ['.', 's', 'h'])).toList.getLast? = some 'h' := by simp
  obtain ⟨front, hfront⟩ :=
    Path.exists_components_concat hn (ne_of_getLast? hlast (by decide))
      (ne_of_getLast? hlast (by decide))
  intro hnil
  rw [Path.components_eq, show Path.stepsOf i.scriptFile.text.toList = [] from hnil,
    List.append_nil] at hfront
  have hmem : Component.name (String.ofList (w ++ ['.', 's', 'h'])) ∈
      Path.leadOf i.scriptFile.text.toList := by
    simp [hfront]
  rcases Path.leadOf_cases i.scriptFile.text.toList with h | h | h <;> simp [h] at hmem

/-- A script in the workspace is an entry of it. -/
theorem ScriptInside.components (h : i.ScriptInside) :
    ∃ n, i.script.path.names.getLast? = some n ∧ n.toList.getLast? = some 'h' ∧
      i.script.path.components = i.workspace.components ++ [.name n] := by
  obtain ⟨c, -, hc⟩ := Path.exists_parent?_iff.mp h
  obtain ⟨ns, n, hn, hlast⟩ := i.script_names
  obtain ⟨front, hfront⟩ :=
    Path.exists_components_concat hn (ne_of_getLast? hlast (by decide))
      (ne_of_getLast? hlast (by decide))
  rw [hc] at hfront
  refine ⟨n, by simp [hn], hlast, ?_⟩
  rw [hc, (List.append_inj' hfront rfl).2]

theorem ScriptInside.location (h : i.ScriptInside) :
    ∃ n, i.script.path.location = i.workspace.location ++ [n] ∧
      isBase (i.workspace.location ++ [n]) = false := by
  obtain ⟨n, -, hlast, hc⟩ := h.components
  have hname : IsEntryName n := ⟨ne_of_getLast? hlast (by decide), ne_of_getLast? hlast (by decide)⟩
  exact ⟨n, Path.location_of_components hc (ne_of_getLast? hlast (by decide)) hname.ne_up,
    isBase_concat hname⟩

/-- A script of several steps is looked for in a directory in the workspace. -/
theorem exists_isDir_of_sits {t : FileTree} {dir : Location} {m : String}
    (hw : i.workspace.text ≠ "") (hr : i.scriptFile.isAbsolute = false)
    (hup : .up ∉ i.scriptFile.tail) (hlong : 1 < i.scriptFile.tail.length)
    (h : t.Sits i.script.path dir m) : ∃ n, isBase (i.workspace.location ++ [n]) = false ∧
      t.isDir (i.workspace.location ++ [n]) = true := by
  have hc : i.script.path.components = i.workspace.components ++ i.scriptFile.tail :=
    Path.components_join hw hr
  have hname : ∀ c ∈ i.scriptFile.tail, ∃ n, c = .name n := fun c hm =>
    (Path.step_cases hm).resolve_left fun he => hup (he ▸ hm)
  obtain ⟨c, more, htail⟩ := List.exists_cons_of_length_pos (Nat.lt_of_succ_lt hlong)
  obtain ⟨d, rest, rfl⟩ : ∃ d rest, more = d :: rest :=
    List.exists_cons_of_ne_nil fun he => by simp [htail, he] at hlong
  obtain ⟨n, rfl⟩ := hname c (by simp [htail])
  obtain ⟨n', rfl⟩ := hname d (by simp [htail])
  have hroot : .root ∉ rest := fun hm =>
    Path.root_not_mem_stepsOf i.scriptFile.text.toList
      (show .root ∈ i.scriptFile.tail by simp [htail, hm])
  have hstep : .name n ∈ i.scriptFile.tail := htail ▸ List.mem_cons_self
  have hentry : IsEntryName n :=
    ⟨Path.ne_up_of_mem_stepsOf hstep, Path.ne_root_of_mem_stepsOf hstep⟩
  exact ⟨n, isBase_concat hentry, isDir_of_sits h (htail ▸ hc) hroot hentry.ne_up⟩

/-- What an instance needs for its script, besides a place for it in the workspace: names and a path
that the system takes, and a way to the workspace that does not lead through that place. -/
structure HasRoom (i : Instance) : Prop where
  walkable : i.script.path.Walkable
  size : ∀ n ∈ i.script.path.names, n.utf8ByteSize ≤ maxNameSize
  unpassed : ¬ i.workspace.Passes i.script.path.location

variable {x y : Site}

/-- The script takes its place in a workspace that is set up. -/
theorem write_of_persist (hin : i.ScriptInside) (hroom : i.HasRoom) (hw : i.workspace.text ≠ "")
    (h : i.persist x = (.ok (), y)) (hfree : y.files.isDir i.script.path.location = false)
    (shell : String) :
    ∃ u, i.script.write shell y.files = (.ok (), u) ∧ ∀ k, k ≠ i.script.path.location →
      u.get? k = y.files.get? k := by
  obtain ⟨n, hn, hlast, hc⟩ := hin.components
  obtain ⟨-, hf, hd⟩ := follow_of_persist h hw
  have hsits := sits_of_components hc hn hroom.walkable hf hd (ne_of_getLast? hlast (by decide))
    (ne_of_getLast? hlast (by decide)) (hroom.size n (List.mem_of_getLast? hn))
  obtain ⟨front, ht⟩ := i.script_path_text
  have hslash := Path.isSlashed_of_append ht (by decide) (by decide)
  rw [hsits.location] at hfree ⊢
  obtain ⟨u, hu, hstore⟩ := Script.write_ok hsits hslash hfree shell
  exact ⟨u, hu, hstore.other⟩

end Instance

namespace Bridge

variable {σ : Type} {b : Bridge σ} {i : Instance} {s s' x : Site}

/-- The script of an instance is made and handed over, and outside of the workspace the tree is kept
as it is given, wherever the adapter leaves a place alone. -/
structure SubmitsInside (b : Bridge σ) (i : Instance) (t : FileTree) (state : σ)
    (x : Site) : Prop where
  prepared : (b.prepare i x).1 = .ok i.script
  no_fault : ∀ path cause, (b.submit i state x).1 ≠ .failed (.script path cause)
  kept : ∀ k, ¬ Inside i.workspace.location k →
    (∀ y, (b.adapter.submit i.script (b.settings.effectiveFor i.run) state y).2.2.files.get? k =
      y.files.get? k) →
      (b.submit i state x).2.2.files.get? k = t.get? k

/-- A script that is prepared is handed over, and the fault is none of the script then. -/
theorem submitsInside_of_prepare {t : FileTree} {y : Site} (h : b.prepare i x = (.ok i.script, y))
    (hk : ∀ k, ¬ Inside i.workspace.location k → y.files.get? k = t.get? k) (state : σ) :
    b.SubmitsInside i t state x := by
  refine ⟨congrArg Prod.fst h, fun path cause => ?_, fun k hout hadapter => ?_⟩
  · unfold submit
    simp only [h]
    split
    · simp
    · split <;> simp
  · have hhanded := hadapter (y.info i.executionNotice)
    unfold submit
    simp only [h]
    split
    · exact hk k hout
    · generalize b.adapter.submit i.script (b.settings.effectiveFor i.run) state
        (y.info i.executionNotice) = answer
        at hhanded
      obtain ⟨reply, state', z⟩ := answer
      cases reply <;> exact hhanded.trans (hk k hout)

/-- A script of several steps is looked for in a directory that nobody makes. -/
theorem script_fault_of_steps (hw : i.workspace.text ≠ "") (hr : i.scriptFile.isAbsolute = false)
    (hup : .up ∉ i.scriptFile.tail) (hlong : 1 < i.scriptFile.tail.length)
    (hp : ∀ n, ¬ i.workspace.Passes (i.workspace.location ++ [n])) (h : i.SetUp s s' x)
    (b : Bridge σ) (state : σ) :
    ∃ cause, (b.submit i state x).1 = .failed (.script i.script.path cause) := by
  obtain ⟨y, hy, -, hnone⟩ := h.not_isDir hw
  suffices hfault : ∃ cause u, i.script.write (b.settings.effectiveFor i.run).shell y.files =
      (.error cause, u) by
    obtain ⟨cause, u, hu⟩ := hfault
    have hprepare : b.prepare i x = (.error (.script i.script.path cause),
        { y with files := u }) := by
      unfold prepare
      simp only [hy, hu]
    refine ⟨cause, ?_⟩
    unfold submit
    simp only [hprepare]
  generalize hwrite : i.script.write (b.settings.effectiveFor i.run).shell y.files = wrote
  obtain ⟨result, u⟩ := wrote
  rcases Script.write_cases hwrite with ⟨⟨cause, rfl⟩, -⟩ | ⟨dir, m, hsits, -, -⟩
  · exact ⟨cause, u, rfl⟩
  · -- the first step would be a directory in the workspace
    obtain ⟨n, hb, hd⟩ := Instance.exists_isDir_of_sits hw hr hup hlong hsits
    rw [hnone n hb (hp n)] at hd
    cases hd

/-- A script directly in the workspace is made, and nothing outside is written. -/
theorem submitsInside_of_setUp (hin : i.ScriptInside) (hroom : i.HasRoom)
    (hw : i.workspace.text ≠ "") (h : i.SetUp s s' x) (b : Bridge σ) (state : σ) :
    b.SubmitsInside i s'.files state x := by
  obtain ⟨y, hy, hsame, hnone⟩ := h.not_isDir hw
  obtain ⟨n, hloc, hb⟩ := hin.location
  have hnot : y.files.isDir i.script.path.location = false := by
    rw [hloc]
    exact hnone n hb (hloc ▸ hroom.unpassed)
  obtain ⟨u, hu, hother⟩ :=
    Instance.write_of_persist hin hroom hw hy hnot (b.settings.effectiveFor i.run).shell
  refine submitsInside_of_prepare (y := { y with files := u }) ?_ (fun k hk => ?_) state
  · unfold prepare
    simp only [hy, hu]
  · have hne : k ≠ i.script.path.location := by
      rintro rfl
      exact hk (hloc ▸ inside_child hb)
    exact (hother k hne).trans (hsame k hk)

end Bridge

/-! ## Scripts of a study -/

namespace Study

variable {study : Study} {root : Path} {now : Millis} {i : Instance}

theorem workspace_text_ne_empty (h : study.check = .ok ()) (hi : i ∈ study.instances root now) :
    i.workspace.text ≠ "" := by
  obtain ⟨t, -, hit, -, -⟩ := exists_step_of_mem hi
  obtain ⟨hworkspace, -⟩ := Template.workspace_of_mem_instances (instances_of_mem hit) hit
  rw [hworkspace, Instance.workspaceParts, List.foldl_cons]
  exact Path.foldl_join_text_ne_empty
    (Path.join_text_ne_empty (.inr (templateName_ne_empty h hi))) _

/-- The script of an instance of a checked study is directly in its workspace exactly if the name of
the step, with its ending, is a single step as a path; a name that is absolute takes it away from
below a root that is relative. An instance is set up in a workspace that held nothing. If its script
is directly there and has room, submitting makes it and writes nothing outside; if it is not and
never leads up, submitting fails with the fault of the script. -/
theorem script_placement (h : study.check = .ok ()) (root : Path) (now : Millis) {σ : Type}
    (b : Bridge σ) :
    ∀ i ∈ study.instances root now,
      (i.scriptFile.isAbsolute = false → (i.ScriptInside ↔ i.scriptFile.tail.length = 1)) ∧
      (i.scriptFile.isAbsolute = true → root.isAbsolute = false → ¬ i.script.path.IsBelow root) ∧
      (i.ScriptInside → i.HasRoom → ∀ s s' x, i.SetUp s s' x →
        ∀ state, b.SubmitsInside i s'.files state x) ∧
      (i.scriptFile.isAbsolute = false → .up ∉ i.scriptFile.tail → ¬ i.ScriptInside →
        (∀ n, ¬ i.workspace.Passes (i.workspace.location ++ [n])) → ∀ s s' x, i.SetUp s s' x →
          ∀ state, ∃ cause, (b.submit i state x).1 = .failed (.script i.script.path cause)) := by
  intro i hi
  have hw := workspace_text_ne_empty h hi
  refine ⟨Instance.scriptInside_iff hw, fun habs hrelative hbelow => ?_,
    fun hin hroom s s' x hset state => ?_,
    fun hr hup hnot hp s s' x hset state => ?_⟩
  · have hsame := hbelow.isAbsolute_eq
    have hscript : i.script.path = i.workspace.join i.scriptFile := rfl
    rw [hscript, Path.isAbsolute_join, habs, hrelative] at hsame
    cases hsame
  · exact Bridge.submitsInside_of_setUp hin hroom hw hset b state
  · have hone : i.scriptFile.tail.length ≠ 1 :=
      fun he => hnot ((Instance.scriptInside_iff hw hr).mpr he)
    have hsome := List.length_pos_of_ne_nil i.scriptFile_tail_ne_nil
    exact Bridge.script_fault_of_steps hw hr hup (by omega) hp hset b state

/-- A step whose name has two steps as a path. -/
def nested : Study where
  name := "demo"
  adapter := { shell := "/bin/sh" }
  steps := [⟨"a/b", { cmd := "run" }⟩]

theorem script_placement_sampled :
    sampled.check = .ok () ∧ nested.check = .ok () ∧
      (∀ i ∈ sampled.instances sampled.root 0, i.ScriptInside ∧ i.HasRoom ∧
        i.SetUp {} (i.persist {}).2 (i.persist {}).2 ∧
        sampled.succeeding.bridge.SubmitsInside i (i.persist {}).2.files [] (i.persist {}).2) ∧
      ∀ i ∈ nested.instances nested.root 0, ¬ i.ScriptInside ∧
        ∃ cause, (nested.succeeding.bridge.submit i [] (i.persist {}).2).1 =
          .failed (.script i.script.path cause) := by
  have hc : sampled.check = .ok () := by rfl
  have hc' : nested.check = .ok () := by rfl
  refine ⟨hc, hc', fun i hi => ?_, fun i hi => ?_⟩
  · obtain ⟨hiff, -, hmade, -⟩ := script_placement hc sampled.root 0 sampled.succeeding.bridge i hi
    have hfacts : ∀ i ∈ sampled.instances sampled.root 0,
        (i.scriptFile.isAbsolute = false ∧ i.scriptFile.tail.length = 1) ∧
          (i.script.path.text ≠ "" ∧ '\x00' ∉ i.script.path.text.toList ∧
            i.script.path.text.utf8ByteSize ≤ maxPathSize ∧
              ∀ n ∈ i.script.path.names, n.utf8ByteSize ≤ maxNameSize) ∧
          ".." ∉ i.workspace.names ∧ (i.persist {}).1 = .ok () := by decide +kernel
    obtain ⟨⟨hr, hone⟩, ⟨hne, hz, hsize, hnames⟩, hu, hp⟩ := hfacts i hi
    have hin : i.ScriptInside := (hiff hr).mpr hone
    obtain ⟨n, hloc, -⟩ := hin.location
    have hroom : i.HasRoom := ⟨⟨hne, hz, hsize⟩, hnames, hloc ▸ Path.not_passes_concat hu n⟩
    have hset := Instance.setUp_empty hp
    exact ⟨hin, hroom, hset, hmade hin hroom _ _ _ hset []⟩
  · obtain ⟨hiff, -, -, hfault⟩ := script_placement hc' nested.root 0 nested.succeeding.bridge i hi
    have hfacts : ∀ i ∈ nested.instances nested.root 0,
        (i.scriptFile.isAbsolute = false ∧ .up ∉ i.scriptFile.tail ∧ i.scriptFile.tail.length ≠ 1) ∧
          ".." ∉ i.workspace.names ∧ (i.persist {}).1 = .ok () := by decide +kernel
    obtain ⟨⟨hr, hup, hmany⟩, hu, hp⟩ := hfacts i hi
    have hnot : ¬ i.ScriptInside := fun hin => hmany ((hiff hr).mp hin)
    exact ⟨hnot, hfault hr hup hnot (Path.not_passes_concat hu) _ _ _ (Instance.setUp_empty hp) []⟩

/-- The check passes over names with slashes. The workspace of the first step is made and its script
is not, and the script of the second one is written beside the workspace. -/
theorem check_passes_over_nested_name :
    nested.check = .ok () ∧ wandering.check = .ok () ∧
      (nested.instances nested.root 0).map
        (fun i => (i.workspace, i.script.path, i.script.path.parent?)) =
        [(⟨"demo/a/b"⟩, ⟨"demo/a/b/a/b.sh"⟩, some ⟨"demo/a/b/a"⟩)] ∧
      (nested.instances nested.root 0).map
        (fun i => (nested.succeeding.bridge.submit i [] (i.persist {}).2).1) =
        [.failed (.script ⟨"demo/a/b/a/b.sh"⟩ .notFound)] ∧
      (wandering.instances wandering.root 0).map (fun i => (i.workspace.location,
        ((wandering.succeeding.bridge.prepare i {}).2.files.get? ["out.sh"]).isSome)) =
        [(["out"], true), (["/", "out"], false)] :=
  ⟨by rfl, by rfl, by decide +kernel, by decide +kernel, by decide +kernel⟩

end Study

end StudyFlow
