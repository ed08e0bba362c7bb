import StudyFlow.Proofs.FileTree.Passage
import StudyFlow.Proofs.Path.Below

/-!
# Entries of a directory by their paths

A path whose parent has the components of another one leads to an entry of the directory that this
one leads to: slashes and `.` components in their texts make no difference.
-/

namespace StudyFlow

def Component.stepName? : Component → Option String
  | .up => some ".."
  | .name n => some n
  | _ => none

namespace Path

variable {p q : Path} {n : String} {c : Component} {cs : List Component}

theorem ofPiece_ne_root (w : List Char) : Component.ofPiece w ≠ .root := by
  unfold Component.ofPiece
  split <;> simp

/-- A path has one component more than its parent. -/
theorem parent?_components (h : p.parent? = some q) : ∃ c, c ≠ .root ∧
    p.components = q.components ++ [c] := by
  have hc : p.components = lead p.pieces.1 ++ (stepPieces p.pieces.2).map Component.ofPiece := rfl
  rcases parent?_cases h with ⟨hk, hq⟩ | ⟨hk, hfirst, rfl⟩
  · obtain ⟨w, -, hw⟩ := stepPieces_dropLastStep hk
    have hfront : q.components = lead p.pieces.1 ++
      (stepPieces (dropLastStep p.pieces.2)).map Component.ofPiece :=
      components_of_isPrefix hq (isPrefix_dropLastStep _) fun _ => not_idle_of_mem_getLast?_trimEnd
    refine ⟨Component.ofPiece w, ofPiece_ne_root w, ?_⟩
    rw [hc, hw, hfront, List.map_append, ← List.append_assoc]
    rfl
  · refine ⟨.here, by simp, ?_⟩
    rw [hc, hfirst, stepPieces_of_trimEnd_eq_nil hk]
    rfl

/-- Whether a path has a parent with given components is told by its own. -/
theorem exists_parent?_iff :
    (∃ q, p.parent? = some q ∧ q.components = cs) ↔ ∃ c, c ≠ .root ∧ p.components = cs ++ [c] := by
  constructor
  · rintro ⟨q, hq, rfl⟩
    exact parent?_components hq
  · rintro ⟨c, hc, hp⟩
    cases hq : p.parent? with
    | some q =>
      obtain ⟨d, -, hd⟩ := parent?_components hq
      rw [hp] at hd
      exact ⟨q, rfl, (List.append_inj' hd rfl).1.symm⟩
    | none =>
      have hlead : p.components = lead p.pieces.1 := by
        have hsteps : p.components = lead p.pieces.1 ++
          (stepPieces p.pieces.2).map Component.ofPiece := rfl
        rw [hsteps, stepPieces_of_trimEnd_eq_nil (trimEnd_of_parent?_eq_none hq)]
        exact List.append_nil _
      unfold parent? at hq
      rw [hp] at hlead
      unfold lead at hlead
      split at hlead
      · obtain ⟨-, he⟩ := List.append_inj' (show cs ++ [c] = [] ++ [.root] from hlead) rfl
        exact absurd (List.singleton_inj.mp he) hc
      · next hfirst =>
        simp only [hfirst] at hq
        split at hq
        · cases hq
        · cases hq
      · simp at hlead

/-! ## Names and components -/

/-- The names on a path that count are those of its components. -/
theorem filter_names_eq (p : Path) : p.names.filter (· != ".") =
    p.components.filterMap Component.stepName? := by
  have hlead : (lead p.pieces.1).filterMap Component.stepName? = [] := by
    unfold lead
    split <;> rfl
  have hpiece : Component.stepName? ∘ Component.ofPiece = some ∘ String.ofList := by
    funext w
    unfold Function.comp Component.ofPiece
    split
    · next hw =>
      rw [beq_iff_eq.mp hw]
      rfl
    · rfl
  have hc : p.components = lead p.pieces.1 ++ (stepPieces p.pieces.2).map Component.ofPiece := rfl
  rw [names_eq_pieces, filter_names_of_pieces, hc, List.filterMap_append, hlead, List.nil_append,
    List.filterMap_map, hpiece, List.filterMap_eq_map]

/-- The last component of a path whose last name is one of an entry. -/
theorem exists_components_concat {ns : List String} (hn : p.names = ns ++ [n]) (hh : n ≠ ".")
    (hu : n ≠ "..") :
    ∃ front, p.components = front ++ [.name n] := by
  have hc : p.components = lead p.pieces.1 ++ (stepPieces p.pieces.2).map Component.ofPiece := rfl
  have hsteps : (stepPieces p.pieces.2).map String.ofList = ns.filter (· != ".") ++ [n] := by
    rw [← filter_names_of_pieces p.pieces.1, ← names_eq_pieces, hn, List.filter_append]
    simp [hh]
  obtain ⟨vs, us, hsplit, -, hlast⟩ := List.map_eq_append_iff.mp hsteps
  obtain ⟨w, rest, rfl, rfl, hrest⟩ := List.map_eq_cons_iff.mp hlast
  obtain rfl := List.map_eq_nil_iff.mp hrest
  have hup : w ≠ ['.', '.'] := by
    rintro rfl
    exact hu rfl
  refine ⟨lead p.pieces.1 ++ vs.map Component.ofPiece, ?_⟩
  rw [hc, hsplit, List.map_append, List.append_assoc]
  simp [Component.ofPiece, hup]

/-- The start of a path is told by its components. -/
theorem start_eq_of_components (h : p.components = q.components ++ cs) (hr : .root ∉ cs) :
    p.start = q.start := by
  have habs : p.isAbsolute = q.isAbsolute := by
    rw [Bool.eq_iff_iff, ← root_mem_components_iff, ← root_mem_components_iff, h, List.mem_append]
    exact or_iff_left hr
  rw [start, start, habs]

theorem filter_names_of_components (h : p.components = q.components ++ cs) :
    p.names.filter (· != ".") = q.names.filter (· != ".") ++ cs.filterMap Component.stepName? := by
  rw [filter_names_eq, filter_names_eq, h, List.filterMap_append]

theorem foldl_stepFrom_filter (ns : List String) (l : Location) :
    (ns.filter (· != ".")).foldl stepFrom l = ns.foldl stepFrom l := by
  induction ns generalizing l with
  | nil => rfl
  | cons n ns ih =>
    by_cases hn : n = "."
    · subst hn
      exact ih l
    · rw [List.filter_cons_of_pos (by simpa using hn), List.foldl_cons, List.foldl_cons, ih]

/-- One component more leads one name further. -/
theorem location_of_components (h : p.components = q.components ++ [.name n]) (hh : n ≠ ".")
    (hu : n ≠ "..") :
    p.location = q.location ++ [n] := by
  rw [location, ← foldl_stepFrom_filter, filter_names_of_components h, List.foldl_append,
    foldl_stepFrom_filter, start_eq_of_components h (by simp)]
  exact stepFrom_name hh hu _

end Path

namespace FileTree

variable {t : FileTree} {p q : Path} {l m : Location} {n m' : String} {ns : List String}

/-- On the way to a directory, `.` leads nowhere else. -/
theorem follow_filter (hm : t.isDir m = true) :
    t.follow l (ns.filter (· != ".")) = .ok m ↔ t.follow l ns = .ok m := by
  induction ns generalizing l with
  | nil => rfl
  | cons n ns ih =>
    by_cases hn : n = "."
    · subst hn
      refine ih.trans ⟨fun h => ?_, fun h => ?_⟩
      · have hl := isDir_of_follow h hm
        rw [follow]
        simpa [hl] using h
      · rw [follow] at h
        split at h
        · cases h
        · simpa using h
    · rw [List.filter_cons_of_pos (by simpa using hn)]
      simp only [follow]
      split
      · rfl
      · split
        · exact ih
        · split
          · exact ih
          · split
            · rfl
            · split
              · rfl
              · exact ih

/-- The last name of a path is looked for where the path leads that has the other components. -/
theorem sits_of_components (h : p.components = q.components ++ [.name n])
    (hn : p.names.getLast? = some n) (hw : p.Walkable) (hf : t.follow q.start q.names = .ok l)
    (hd : t.isDir l = true) (hh : n ≠ ".") (hu : n ≠ "..") (hsize : n.utf8ByteSize ≤ maxNameSize) :
    t.Sits p l n := by
  obtain ⟨ns, hns⟩ := List.getLast?_eq_some_iff.mp hn
  have hnames := Path.filter_names_of_components h
  rw [hns, List.filter_append, List.filter_cons_of_pos (by simpa using hh)] at hnames
  have hfront := (List.append_inj' hnames rfl).1
  refine ⟨hw, ⟨ns, hns, ?_⟩, hd, hh, hu, hsize⟩
  rw [Path.start_eq_of_components h (by simp)]
  exact (follow_filter hd).mp (hfront ▸ (follow_filter hd).mpr hf)

/-- A path that goes on behind an entry of a directory leads through it. -/
theorem isDir_of_sits {n' : String} {cs : List Component} (hs : t.Sits p l m')
    (h : p.components = q.components ++ .name n :: .name n' :: cs) (hr : .root ∉ cs)
    (hu : n ≠ "..") :
    t.isDir (q.location ++ [n]) = true := by
  obtain ⟨ns, hn, hf⟩ := hs.leads
  have hnames : p.names.filter (· != ".") =
      (q.names.filter (· != ".") ++ [n]) ++ n' :: cs.filterMap Component.stepName? := by
    rw [Path.filter_names_of_components h, List.append_assoc]
    rfl
  have hh : n ≠ "." := by
    have hm : n ∈ p.names.filter (· != ".") := by simp [hnames]
    simpa using (List.mem_filter.mp hm).2
  rw [hn, List.filter_append, List.filter_cons_of_pos (by simpa using hs.ne_here),
    List.filter_nil] at hnames
  -- the last name is behind the entry, so the names before it lead there
  obtain ⟨us, hus⟩ : q.names.filter (· != ".") ++ [n] <+: ns.filter (· != ".") := by
    have hfront : q.names.filter (· != ".") ++ [n] <+: ns.filter (· != ".") ++ [m'] :=
      ⟨_, hnames.symm⟩
    rcases List.prefix_concat_iff.mp hfront with he | hpre
    · rw [← he] at hnames
      simp at hnames
    · exact hpre
  have hlead := (follow_filter hs.isDir).mpr hf
  rw [Path.start_eq_of_components h (by simpa using hr), ← hus, follow_append] at hlead
  cases hk : t.follow q.start (q.names.filter (· != ".") ++ [n]) with
  | error f =>
    rw [hk] at hlead
    cases hlead
  | ok k =>
    rw [hk] at hlead
    have hplace : q.location ++ [n] = k := by
      rw [← follow_location hk, List.foldl_append, Path.foldl_stepFrom_filter]
      exact (Path.stepFrom_name hh hu _).symm
    rw [hplace]
    exact isDir_of_follow hlead hs.isDir

/-! ## Directories that are there already -/

theorem isDirAt_of_follow (hw : p.Walkable) (hf : t.follow p.start p.names = .ok l)
    (hd : t.isDir l = true) :
    t.isDirAt p = true := by
  have hr : p.route = .ok ⟨p.start, p.names, p.isSlashed⟩ := Path.route_eq_ok_iff.mpr ⟨hw, rfl⟩
  unfold isDirAt find
  rw [hr]
  simp [bind, Except.bind, hf, hd]

theorem createDir_of_follow (hw : p.Walkable) (hf : t.follow p.start p.names = .ok l)
    (hd : t.isDir l = true) :
    t.createDir p = .error .alreadyExists := by
  have hplace : ∃ o, t.place p = .ok o ∧ ∀ m, o.1 = some m → (t.get? m).isSome = true := by
    rcases names_cases p with hn | ⟨ns, n, hn⟩
    · exact ⟨_, place_of_names_eq_nil hw hn, by simp⟩
    · rw [hn, follow_append] at hf
      cases hm : t.follow p.start ns with
      | error f => rw [hm] at hf; cases hf
      | ok m =>
        rw [hm] at hf
        have hlast : t.follow m [n] = .ok l := hf
        have hmd := isDir_of_follow hlast hd
        rw [place_of_follow hw hn hm, hmd]
        by_cases hdots : (n == "." || n == "..") = true
        · exact ⟨(none, p.isSlashed), by simp [hdots], by simp⟩
        · obtain ⟨hh, hu⟩ : n ≠ "." ∧ n ≠ ".." := by simpa using hdots
          obtain ⟨hsize, hsome⟩ : n.utf8ByteSize ≤ maxNameSize ∧
              (t.get? (m ++ [n])).isSome = true := by
            simp only [follow, hmd, Bool.not_true, Bool.false_eq_true, ↓reduceIte, beq_iff_eq,
              hh, hu] at hlast
            split at hlast
            · cases hlast
            · next hs =>
              split at hlast
              · cases hlast
              · next hnone => exact ⟨Nat.not_lt.mp hs,
                  by simpa [Option.isSome_iff_ne_none] using hnone⟩
          refine ⟨(some (m ++ [n]), p.isSlashed), by simp [hdots, Nat.not_lt.mpr hsize], ?_⟩
          rintro k hk
          exact Option.some.inj hk ▸ hsome
  obtain ⟨⟨o, slashed⟩, ho, hsome⟩ := hplace
  unfold createDir
  rw [ho]
  cases o with
  | none => rfl
  | some m => simp [bind, Except.bind, hsome m rfl]

/-- Making a directory that is there changes nothing. -/
theorem createDirs_of_follow (hw : p.Walkable) (hf : t.follow p.start p.names = .ok l)
    (hd : t.isDir l = true) :
    t.createDirs p = (.ok (), t) := by
  unfold createDirs createDirsUpTo
  simp [hw.ne_empty, createDir_of_follow hw hf hd, isDirAt_of_follow hw hf hd]

end FileTree

end StudyFlow
