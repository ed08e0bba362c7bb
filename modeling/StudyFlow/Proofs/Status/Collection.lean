import Mathlib.Data.List.Forall2
import Mathlib.Data.List.Sort
import StudyFlow.Proofs.FileTree.Regularity
import StudyFlow.Proofs.Text.ByteOrder
import StudyFlow.Proofs.Status.File

/-!
# Collecting the records of a tree

A walk looks at one directory after the other, and finds more of them on its way. What it has
collected and what is below the directories that are still to be looked at are together the records
below the root, in whatever order the entries are listed. So at the end all records are collected,
each of them once.
-/

namespace StudyFlow.FileTree

variable {t : FileTree} {root p q : Path} {l l₀ : Location} {n : String} {e : Entry} {f : Found}
  {listing : Path → Except Fault (List (String × Entry))}

/-! ## The walk, with the entries in any order -/

/-- The walk where directories list their entries as they are told to. -/
def walkBy (t : FileTree) (listing : Path → Except Fault (List (String × Entry))) :
    Nat → Found → Except StatusError Found
  | 0, f => .ok f
  | fuel + 1, f => match f.pending with
    | [] => .ok f
    | dir :: rest => match listing dir with
      | .error cause => .error (.read dir cause)
      | .ok entries => t.walkBy listing fuel
        (entries.foldl (Found.visit t dir) { f with pending := rest })

/-- The records below a directory where directories list their entries as they are told to. -/
def collectBy (t : FileTree) (listing : Path → Except Fault (List (String × Entry))) (root : Path) :
    Except StatusError (List StatusRecord × List (Path × StatusError)) :=
  (t.walkBy listing (t.entries.length + 1) { pending := [root] }).map fun f =>
    (f.records.foldl (fun acc r => insertRecord r acc) [], f.skipped)

theorem walk_eq_walkBy (fuel : Nat) (f : Found) : t.walk fuel f = t.walkBy t.list fuel f := by
  induction fuel generalizing f with
  | zero => rfl
  | succ fuel ih =>
    cases hp : f.pending with
    | nil => simp only [walk, walkBy, hp]
    | cons dir rest =>
      cases hl : t.list dir with
      | error cause => simp only [walk, walkBy, hp, hl]
      | ok ys => simp only [walk, walkBy, hp, hl, ih]

theorem collectStatuses_eq_collectBy (t : FileTree) (root : Path) :
    t.collectStatuses root = t.collectBy t.list root := by
  rw [collectStatuses, collectBy, walk_eq_walkBy]

/-- The listing gives the entries of each directory in some order, and fails where there is none. -/
structure Lists (t : FileTree) (listing : Path → Except Fault (List (String × Entry))) : Prop where
  entries : ∀ p ys, t.list p = .ok ys → ∃ zs, listing p = .ok zs ∧ zs.Perm ys
  fault : ∀ p f, t.list p = .error f → listing p = .error f

theorem lists_list (t : FileTree) : t.Lists t.list where
  entries := fun _ ys h => ⟨ys, h, .refl ys⟩
  fault := fun _ _ h => h

/-! ## What is to be collected -/

def recordOf? : Entry → Option StatusRecord
  | .directory => none
  | .file content _ =>
    (String.fromUTF8? content).bind fun text => (StatusRecord.parse (Text.trim text)).toOption

def statusOf? (x : Location × Entry) : Option StatusRecord :=
  if x.1.getLast? = some statusFileName then recordOf? x.2 else none

theorem statusOf?_child {y : String × Entry} :
    statusOf? (l ++ [y.1], y.2) = if y.1 = statusFileName then recordOf? y.2 else none := by
  simp [statusOf?]

def recordsBelow (t : FileTree) (l : Location) : List StatusRecord :=
  (t.inner l).filterMap statusOf?

/-- A directory and those below it. -/
def dirsFrom (t : FileTree) (l : Location) : List Location :=
  l :: (t.inner l).filterMap fun x => if x.2 = .directory then some x.1 else none

theorem Regular.recordsBelow_perm (h : t.Regular) (l : Location) :
    (t.recordsBelow l).Perm
      ((t.children l).filterMap (fun y => statusOf? (l ++ [y.1], y.2)) ++
        (subdirs l (t.children l)).flatMap t.recordsBelow) := h.filterMap_inner_perm l statusOf?

theorem Regular.dirsFrom_perm (h : t.Regular) (l : Location) :
    (t.dirsFrom l).Perm (l :: (subdirs l (t.children l)).flatMap t.dirsFrom) := by
  refine List.Perm.cons l ((h.filterMap_inner_perm l _).trans ?_)
  have hparts := List.flatMap_append_perm (subdirs l (t.children l)) (fun d => [d])
    fun d => (t.inner d).filterMap fun x => if x.2 = .directory then some x.1 else none
  rw [List.flatMap_singleton'] at hparts
  exact hparts

/-! ## Paths that the walk comes to -/

/-- All paths from the root to entries below it are short enough for the system. -/
def Readable (t : FileTree) (root : Path) : Prop :=
  ∀ l₀, t.find root = .ok l₀ → ∀ ns, Inside l₀ (l₀ ++ ns) → (t.get? (l₀ ++ ns)).isSome →
    (ns.foldl Path.child root).text.utf8ByteSize ≤ maxPathSize

/-- The path leads from the root to a directory by the names of entries. -/
structure Leads (t : FileTree) (root : Path) (l₀ : Location) (p : Path) (l : Location) : Prop where
  way : ∃ ns, l = l₀ ++ ns ∧ p = ns.foldl Path.child root ∧ (ns = [] ∨ Inside l₀ l)
  find : t.find p = .ok l
  isDir : t.isDir l = true

theorem leads_root (hf : t.find root = .ok l₀) (hd : t.isDir l₀ = true) : t.Leads root l₀ root l₀ :=
  ⟨⟨[], (List.append_nil l₀).symm, rfl, .inl rfl⟩, hf, hd⟩

theorem list_of_find (hf : t.find p = .ok l) (hd : t.isDir l = true) :
    t.list p = .ok (t.children l) := by
  simp [list, hf, hd, bind, Except.bind]

/-- What is directly in a directory of the walk has a path that the system takes. -/
theorem Leads.walkable (h : t.Leads root l₀ p l) (ht : t.Regular) (hr : t.Readable root)
    (hroot : t.find root = .ok l₀) {y : String × Entry} (hy : y ∈ t.children l) :
    (p.child y.1).Walkable ∧ ∃ ns, l ++ [y.1] = l₀ ++ ns ∧ p.child y.1 = ns.foldl Path.child root ∧
      Inside l₀ (l ++ [y.1]) := by
  obtain ⟨ns, hl, hp, hway⟩ := h.way
  obtain ⟨hb, hg⟩ := ht.mem_children_iff.mp (show (y.1, y.2) ∈ t.children l from hy)
  have hn := ht.isFileName_of_mem_children hy
  have hloc : l ++ [y.1] = l₀ ++ (ns ++ [y.1]) := by rw [hl, List.append_assoc]
  have hpath : p.child y.1 = (ns ++ [y.1]).foldl Path.child root := by
    rw [hp, List.foldl_append]; rfl
  have hin : Inside l₀ (l ++ [y.1]) := by
    rcases hway with rfl | hin
    · rw [List.append_nil] at hl
      exact hl ▸ inside_child hb
    · obtain ⟨m, ms, he, hbase⟩ := hin
      exact ⟨m, ms ++ [y.1], by rw [he]; simp, hbase⟩
  refine ⟨⟨Path.join_text_ne_empty (.inr hn.ne_empty), fun hz => ?_, ?_⟩, _, hloc, hpath, hin⟩
  · rcases Path.mem_text_child hn.no_slash hz with hz | hz | hz
    · exact (find_eq_ok_iff.mp h.find).1.no_zero hz
    · exact absurd hz (by decide)
    · exact hn.no_zero hz
  · rw [hpath]
    refine hr l₀ hroot _ (hloc ▸ hin) ?_
    rw [← hloc, hg]
    rfl

/-- The walk goes on to a directory that it finds. -/
theorem Leads.child (h : t.Leads root l₀ p l) (ht : t.Regular) (hr : t.Readable root)
    (hroot : t.find root = .ok l₀) (hn : (n, Entry.directory) ∈ t.children l) :
    t.Leads root l₀ (p.child n) (l ++ [n]) := by
  obtain ⟨hw, ns, hl, hp, hin⟩ := h.walkable ht hr hroot hn
  have hname := ht.isFileName_of_mem_children hn
  have hg := (ht.mem_children_iff.mp hn).2
  have hsits := sits_child h.find h.isDir hname hw
  exact ⟨⟨ns, hl, hp, .inr hin⟩,
    hsits.find (Path.isSlashed_child p hname.toIsPlainName) (by rw [hg]; rfl), isDir_iff.mpr hg⟩

/-! ## What one entry adds -/

theorem fileName?_child (hn : IsStepName n) : (p.child n).fileName? = some n := by
  have hrelative := Path.isAbsolute_of_no_slash hn.no_slash
  have hlast : (p.child n).components.getLast? = some (.name n) := by
    by_cases hp : p.text = ""
    · have hchild : p.child n = ⟨n⟩ := by simp [Path.child, Path.join, hrelative, hp]
      rw [hchild, Path.components_eq, ← Path.tail, Path.tail_of_isStepName hn, List.getLast?_concat]
    · rw [Path.child, Path.components_join hp hrelative, Path.tail_of_isStepName hn,
        List.getLast?_concat]
  rw [Path.fileName?, hlast]

/-- A status file in its place gives the record that it holds. -/
theorem readStatus_eq_ok_iff {r : StatusRecord} (hs : t.Sits (statusPath q) l statusFileName)
    (hg : t.get? (l ++ [statusFileName]) = some e) :
    t.readStatus q = .ok r ↔ recordOf? e = some r := by
  have hfind := hs.find (Path.isSlashed_child q isPlainName_statusFileName) (by rw [hg]; rfl)
  cases e with
  | directory => simp [readStatus, readText, read, hfind, hg, bind, Except.bind, recordOf?]
  | file content x =>
    unfold readStatus readText read recordOf?
    simp only [hfind, hg, bind, Except.bind]
    cases String.fromUTF8? content with
    | none => simp
    | some text =>
      simp only [Option.bind_some]
      cases StatusRecord.parse (Text.trim text) <;> simp [Except.toOption]

def subpaths (p : Path) (ys : List (String × Entry)) : List Path :=
  ys.filterMap fun y => if y.2 = .directory then some (p.child y.1) else none

/-- What an entry of a directory adds to what a walk has found. -/
theorem Leads.visit (h : t.Leads root l₀ p l) (ht : t.Regular) (hr : t.Readable root)
    (hroot : t.find root = .ok l₀) {y : String × Entry} (hy : y ∈ t.children l) (f : Found) :
    (f.visit t p y).pending =
        (if y.2 = .directory then some (p.child y.1) else none).toList ++ f.pending ∧
      (f.visit t p y).records = f.records ++ (statusOf? (l ++ [y.1], y.2)).toList := by
  obtain ⟨n, e⟩ := y
  obtain ⟨hw, -⟩ := h.walkable ht hr hroot hy
  have hn := ht.isFileName_of_mem_children hy
  have hg : t.get? (l ++ [n]) = some e := (ht.mem_children_iff.mp hy).2
  have hfind := (sits_child h.find h.isDir hn hw).find (Path.isSlashed_child p hn.toIsPlainName)
    (by rw [hg]; rfl)
  have hdir : t.isDirAt (p.child n) = true ↔ e = .directory := by
    rw [isDirAt, hfind]
    exact isDir_iff.trans (by rw [hg, Option.some.injEq])
  rw [statusOf?_child]
  unfold Found.visit
  by_cases he : e = .directory
  · subst he
    have hnone : (if n = statusFileName then recordOf? .directory else none) = none := ite_self none
    simp [hdir.mpr rfl, hnone]
  · have hname := fileName?_child (p := p) hn.toIsStepName
    simp only [hdir, he, hname, ↓reduceIte]
    by_cases hs : n = statusFileName
    · subst hs
      obtain ⟨q, hq⟩ := Path.exists_parent?_child p hn.toIsStepName
      have hread := fun r => readStatus_eq_ok_iff (r := r)
        (sits_child_of_parent? h.find h.isDir hn hw hq) hg
      simp only [hq, beq_self_eq_true, ↓reduceIte]
      cases hres : t.readStatus q with
      | ok r => simp [(hread r).mp hres]
      | error err =>
        have hnone : recordOf? e = none := Option.eq_none_iff_forall_ne_some.mpr fun r hrec => by
          rw [(hread r).mpr hrec] at hres
          cases hres
        simp [hnone]
    · simp [hs]

/-- What the entries of a directory add, each by itself. -/
theorem Leads.visit_all (h : t.Leads root l₀ p l) (ht : t.Regular) (hr : t.Readable root)
    (hroot : t.find root = .ok l₀) {ys : List (String × Entry)} (hys : ∀ y ∈ ys, y ∈ t.children l)
    (f : Found) : (ys.foldl (Found.visit t p) f).pending = (subpaths p ys).reverse ++ f.pending ∧
      (ys.foldl (Found.visit t p) f).records =
        f.records ++ ys.filterMap fun y => statusOf? (l ++ [y.1], y.2) := by
  induction ys generalizing f with
  | nil => simp [subpaths]
  | cons y ys ih =>
    obtain ⟨hpending, hrecords⟩ := h.visit ht hr hroot (hys y List.mem_cons_self) f
    obtain ⟨hp, hf⟩ := ih (fun z hz => hys z (List.mem_cons_of_mem y hz)) (f.visit t p y)
    rw [List.foldl_cons, hp, hf, hpending, hrecords]
    constructor
    · unfold subpaths
      rw [List.filterMap_cons]
      split <;> simp
    · rw [List.filterMap_cons, List.append_assoc]
      cases statusOf? (l ++ [y.1], y.2) <;> rfl

/-- The directories that a walk finds lead on from where it is. -/
theorem Leads.subdirs (h : t.Leads root l₀ p l) (ht : t.Regular) (hr : t.Readable root)
    (hroot : t.find root = .ok l₀) {ys : List (String × Entry)} (hys : ∀ y ∈ ys, y ∈ t.children l) :
    List.Forall₂ (t.Leads root l₀) (subpaths p ys) (subdirs l ys) := by
  induction ys with
  | nil => exact .nil
  | cons y ys ih =>
    have hrest := ih fun z hz => hys z (List.mem_cons_of_mem y hz)
    by_cases he : y.2 = .directory
    · have hpaths : subpaths p (y :: ys) = p.child y.1 :: subpaths p ys :=
        List.filterMap_cons_some (if_pos he)
      have hplaces : FileTree.subdirs l (y :: ys) = (l ++ [y.1]) :: FileTree.subdirs l ys :=
        List.filterMap_cons_some (if_pos he)
      rw [hpaths, hplaces]
      exact .cons (h.child ht hr hroot (he ▸ hys y List.mem_cons_self)) hrest
    · have hpaths : subpaths p (y :: ys) = subpaths p ys := List.filterMap_cons_none (if_neg he)
      have hplaces : FileTree.subdirs l (y :: ys) = FileTree.subdirs l ys :=
        List.filterMap_cons_none (if_neg he)
      rw [hpaths, hplaces]
      exact hrest

/-! ## The whole walk -/

/-- A walk with enough steps for the directories from the pending ones on looks at all of them, and
collects what is below them. -/
theorem walkBy_collects (ht : t.Regular) (hr : t.Readable root) (hroot : t.find root = .ok l₀)
    (hlist : t.Lists listing) (fuel : Nat) (f : Found) (ls : List Location)
    (hp : List.Forall₂ (t.Leads root l₀) f.pending ls)
    (hfuel : (ls.flatMap t.dirsFrom).length ≤ fuel) :
    ∃ g, t.walkBy listing fuel f = .ok g ∧ g.pending = [] ∧
      g.records.Perm (f.records ++ ls.flatMap t.recordsBelow) := by
  -- by induction on the steps, of which each takes one directory from those that are left
  induction fuel generalizing f ls with
  | zero =>
    cases ls with
    | nil =>
      have hpending := List.forall₂_nil_right_iff.mp hp
      exact ⟨f, rfl, hpending, by simp⟩
    | cons l ls => simp [dirsFrom] at hfuel
  | succ fuel ih =>
    obtain ⟨records, pending, skipped⟩ := f
    cases hp with
    | nil => exact ⟨_, rfl, rfl, by simp⟩
    | @cons p l rest ls hfirst hrest =>
      obtain ⟨zs, hzs, hperm⟩ := hlist.entries p _ (list_of_find hfirst.find hfirst.isDir)
      have hmem : ∀ y ∈ zs, y ∈ t.children l := fun y hy => hperm.mem_iff.mp hy
      obtain ⟨hpending, hrecords⟩ := hfirst.visit_all ht hr hroot hmem ⟨records, rest, skipped⟩
      have hdirs : (subdirs l zs).reverse.Perm (subdirs l (t.children l)) :=
        (List.reverse_perm _).trans (hperm.filterMap _)
      have hcount := (((ht.dirsFrom_perm l).append_right (ls.flatMap t.dirsFrom)).length_eq)
      have hsame := (hdirs.flatMap_right t.dirsFrom).length_eq
      obtain ⟨g, hg, hdone, hfound⟩ := ih (zs.foldl (Found.visit t p) ⟨records, rest, skipped⟩)
        ((subdirs l zs).reverse ++ ls)
        (by
          rw [hpending]
          exact List.rel_append (List.rel_reverse (hfirst.subdirs ht hr hroot hmem)) hrest)
        (by
          simp only [List.flatMap_cons, List.flatMap_append, List.length_append,
            List.length_cons] at *
          omega)
      refine ⟨g, ?_, hdone, hfound.trans ?_⟩
      · rw [walkBy]
        simp only [hzs]
        exact hg
      · rw [hrecords, List.append_assoc, List.flatMap_cons, List.flatMap_append]
        refine List.Perm.append_left records ?_
        rw [← List.append_assoc]
        refine List.Perm.append_right _ ?_
        exact ((hperm.filterMap _).append (hdirs.flatMap_right t.recordsBelow)).trans
          (ht.recordsBelow_perm l).symm

/-- A walk that is at its end needs no more steps. -/
theorem walkBy_add {fuel : Nat} {f g : Found} (h : t.walkBy listing fuel f = .ok g)
    (hg : g.pending = []) (k : Nat) :
    t.walkBy listing (fuel + k) f = .ok g := by
  induction fuel generalizing f with
  | zero =>
    obtain rfl := Except.ok.inj h
    cases k with
    | zero => rfl
    | succ k => rw [Nat.zero_add, walkBy, hg]
  | succ fuel ih =>
    rw [Nat.succ_add]
    rw [walkBy] at h ⊢
    split
    · next hp =>
      rw [hp] at h
      exact h
    · next dir rest hp =>
      simp only [hp] at h
      split
      · next cause hc =>
        simp only [hc] at h
        cases h
      · next ys hy =>
        simp only [hy] at h
        exact ih h

/-- The walk ends with what it has found, whatever its bound above the number of entries. -/
def Ends (t : FileTree) (listing : Path → Except Fault (List (String × Entry))) (root : Path)
    (g : Found) : Prop :=
  g.pending = [] ∧ ∀ fuel, t.entries.length < fuel →
    t.walkBy listing fuel { pending := [root] } = .ok g

theorem exists_ends (ht : t.Regular) (hr : t.Readable root) (hroot : t.find root = .ok l₀)
    (hd : t.isDir l₀ = true) (hlist : t.Lists listing) : ∃ g, t.Ends listing root g ∧
    g.records.Perm (t.recordsBelow l₀) := by
  have hbound : ([l₀].flatMap t.dirsFrom).length ≤ t.entries.length + 1 := by
    rw [List.flatMap_singleton, dirsFrom, List.length_cons]
    exact Nat.succ_le_succ ((List.length_filterMap_le _ _).trans (List.length_filter_le _ _))
  obtain ⟨g, hg, hdone, hfound⟩ :=
    walkBy_collects ht hr hroot hlist (t.entries.length + 1) { pending := [root] } [l₀]
    (.cons (leads_root hroot hd) .nil) hbound
  refine ⟨g, ⟨hdone, fun fuel hfuel => ?_⟩, by simpa using hfound⟩
  obtain ⟨k, rfl⟩ := Nat.exists_eq_add_of_le (Nat.succ_le_of_lt hfuel)
  exact walkBy_add hg hdone k

/-! ## The order of the records -/

/-- Names that stand in the order of their bytes. -/
def NamesOrdered (names : List String) : Prop :=
  names.Pairwise fun a b => Text.bytes a ≤ Text.bytes b

theorem bytes_le_iff {a b : String} : Text.bytes a ≤ Text.bytes b ↔ a ≤ b :=
  (not_congr Text.bytes_lt_iff).trans not_lt

theorem insertRecord_perm (r : StatusRecord) (rs : List StatusRecord) :
    (insertRecord r rs).Perm (r :: rs) := by
  induction rs with
  | nil => exact .refl _
  | cons x rs ih =>
    rw [insertRecord]
    split
    · exact .refl _
    · exact (ih.cons x).trans (.swap r x rs)

theorem NamesOrdered.insertRecord {r : StatusRecord} {rs : List StatusRecord}
    (h : NamesOrdered (rs.map StatusRecord.name)) :
    NamesOrdered ((insertRecord r rs).map StatusRecord.name) := by
  induction rs with
  | nil => exact List.pairwise_singleton _ _
  | cons x rs ih =>
    obtain ⟨hx, hrs⟩ := List.pairwise_cons.mp h
    rw [FileTree.insertRecord]
    split
    · next hlt =>
      refine List.pairwise_cons.mpr ⟨fun n hn => ?_, h⟩
      have hrx : Text.bytes r.name ≤ Text.bytes x.name := bytes_le_iff.mpr (le_of_lt hlt)
      rcases List.mem_cons.mp hn with rfl | hn
      · exact hrx
      · exact bytes_le_iff.mpr ((bytes_le_iff.mp hrx).trans (bytes_le_iff.mp (hx n hn)))
    · next hle =>
      refine List.pairwise_cons.mpr ⟨fun n hn => ?_, ih hrs⟩
      rcases List.mem_cons.mp ((insertRecord_perm r rs).map _ |>.mem_iff.mp hn) with rfl | hn
      · exact bytes_le_iff.mpr (not_lt.mp hle)
      · exact hx n hn

/-- Records that are put in one by one come out in order. -/
theorem insertRecords_perm (rs acc : List StatusRecord)
    (h : NamesOrdered (acc.map StatusRecord.name)) :
    (rs.foldl (fun acc r => insertRecord r acc) acc).Perm (acc ++ rs) ∧
      NamesOrdered ((rs.foldl (fun acc r => insertRecord r acc) acc).map StatusRecord.name) := by
  induction rs generalizing acc with
  | nil => exact ⟨by simp, h⟩
  | cons r rs ih =>
    obtain ⟨hperm, hnames⟩ := ih _ h.insertRecord
    refine ⟨hperm.trans ?_, hnames⟩
    exact ((insertRecord_perm r acc).append_right rs).trans List.perm_middle.symm

/-- The same names in order are the same list. -/
theorem NamesOrdered.eq_of_perm {ns ms : List String} (h : NamesOrdered ns) (h' : NamesOrdered ms)
    (hperm : ns.Perm ms) : ns = ms :=
  hperm.eq_of_pairwise (fun _ _ _ _ hab hba => le_antisymm (bytes_le_iff.mp hab)
    (bytes_le_iff.mp hba)) h h'

/-! ## Collected records -/

/-- The location is one of a status file below the first location, and the record is the one in
it. -/
def HoldsRecord (t : FileTree) (l₀ l : Location) (r : StatusRecord) : Prop :=
  ∃ dir content x text, l = dir ++ [statusFileName] ∧ Inside l₀ l ∧
    t.get? l = some (.file content x) ∧
    String.fromUTF8? content = some text ∧ StatusRecord.parse (Text.trim text) = .ok r

theorem recordOf?_eq_some_iff {r : StatusRecord} :
    recordOf? e = some r ↔ ∃ content x text, e = .file content x ∧
    String.fromUTF8? content = some text ∧
      StatusRecord.parse (Text.trim text) = .ok r := by
  cases e with
  | directory => simp [recordOf?]
  | file content x =>
    have hparse : ∀ text, (StatusRecord.parse (Text.trim text)).toOption = some r ↔
        StatusRecord.parse (Text.trim text) = .ok r := by
      intro text
      cases StatusRecord.parse (Text.trim text) <;> simp [Except.toOption]
    simp [recordOf?, Option.bind_eq_some_iff, hparse]

theorem Regular.holdsRecord_iff (h : t.Regular) {r : StatusRecord} :
    t.HoldsRecord l₀ l r ↔ ∃ e, (l, e) ∈ t.inner l₀ ∧ statusOf? (l, e) = some r := by
  unfold HoldsRecord statusOf?
  constructor
  · rintro ⟨dir, content, x, text, rfl, hin, hg, htext, hr⟩
    have hb : isBase (dir ++ [statusFileName]) = false :=
      isBase_concat ⟨by decide, by decide⟩
    refine ⟨.file content x, mem_inner_iff.mpr ⟨h.mem_entries_iff.mpr ⟨hb, hg⟩, hin⟩, ?_⟩
    rw [if_pos (List.getLast?_concat ..)]
    exact recordOf?_eq_some_iff.mpr ⟨content, x, text, rfl, htext, hr⟩
  · rintro ⟨e, he, hr⟩
    obtain ⟨hm, hin⟩ := mem_inner_iff.mp he
    obtain ⟨-, hg⟩ := h.mem_entries_iff.mp hm
    split at hr
    · next hlast =>
      obtain ⟨dir, hdir⟩ := List.getLast?_eq_some_iff.mp hlast
      obtain ⟨content, x, text, rfl, htext, hr⟩ := recordOf?_eq_some_iff.mp hr
      exact ⟨dir, content, x, text, hdir, hin, hg, htext, hr⟩
    · cases hr

/-- The status files below a location, each once, and their records. -/
theorem Regular.exists_holders (h : t.Regular) (l₀ : Location) :
    ∃ files : List (Location × StatusRecord), (files.map Prod.fst).Nodup ∧
      (∀ l r, (l, r) ∈ files ↔ t.HoldsRecord l₀ l r) ∧ files.map Prod.snd = t.recordsBelow l₀ := by
  refine ⟨(t.inner l₀).filterMap fun x => (statusOf? x).map fun r => (x.1, r), ?_,
    fun l r => ?_, ?_⟩
  · have hinner : ((t.inner l₀).map Prod.fst).Nodup :=
      h.distinct.sublist (List.filter_sublist.map _)
    rw [List.map_filterMap]
    refine List.pairwise_filterMap.mpr
      ((List.pairwise_map.mp hinner).imp fun {x y} hne a ha b hb => ?_)
    obtain ⟨⟨r, -⟩, rfl⟩ : (∃ r, statusOf? x = some r) ∧ x.1 = a := by simpa using ha
    obtain ⟨⟨r', -⟩, rfl⟩ : (∃ r, statusOf? y = some r) ∧ y.1 = b := by simpa using hb
    exact hne
  · rw [h.holdsRecord_iff, List.mem_filterMap]
    constructor
    · rintro ⟨⟨k, e⟩, hm, hr⟩
      obtain ⟨r', hr', he⟩ := Option.map_eq_some_iff.mp hr
      cases he
      exact ⟨e, hm, hr'⟩
    · rintro ⟨e, hm, hr⟩
      exact ⟨(l, e), hm, by rw [hr]; rfl⟩
  · rw [List.map_filterMap, recordsBelow]
    refine List.filterMap_congr fun x _ => ?_
    cases statusOf? x <;> rfl

/-- The records in the status files below the directory are collected, each once and in the order of
their names, whatever the order in which directories list their entries. -/
def CollectsAll (t : FileTree) (root : Path) (l₀ : Location) : Prop :=
  ∃ (files : List (Location × StatusRecord)) (names : List String),
    (files.map Prod.fst).Nodup ∧ (∀ l r, (l, r) ∈ files ↔ t.HoldsRecord l₀ l r) ∧
    NamesOrdered names ∧
    ∀ listing, t.Lists listing → ∃ g rs, t.Ends listing root g ∧
      t.collectBy listing root = .ok (rs, g.skipped) ∧ rs.Perm (files.map Prod.snd) ∧
      rs.map StatusRecord.name = names

theorem collectsAll_of_readable (ht : t.Regular) (hroot : t.find root = .ok l₀)
    (hd : t.isDir l₀ = true) (hr : t.Readable root) : t.CollectsAll root l₀ := by
  obtain ⟨files, hnodup, hfiles, hrecords⟩ := ht.exists_holders l₀
  have hsorted : NamesOrdered ([].map StatusRecord.name) := List.Pairwise.nil
  obtain ⟨hperm, hnames⟩ := insertRecords_perm (t.recordsBelow l₀) [] hsorted
  refine ⟨files, _, hnodup, hfiles, hnames, fun listing hlist => ?_⟩
  obtain ⟨g, hends, hfound⟩ := exists_ends ht hr hroot hd hlist
  obtain ⟨hperm', hnames'⟩ := insertRecords_perm g.records [] hsorted
  refine ⟨g, g.records.foldl (fun acc r => insertRecord r acc) [], hends, ?_, ?_, ?_⟩
  · rw [collectBy, hends.2 _ (Nat.lt_succ_self _)]
    rfl
  · rw [hrecords]
    exact hperm'.trans hfound
  · exact hnames'.eq_of_perm hnames ((hperm'.trans (hfound.trans hperm.symm)).map _)

/-- The first directory is the one that cannot be read where there is none. -/
theorem collectBy_of_not_isDirAt (hd : t.isDirAt root = false) (hlist : t.Lists listing) :
    ∃ cause, t.list root = .error cause ∧ t.collectBy listing root = .error (.read root cause) := by
  obtain ⟨cause, hc⟩ : ∃ cause, t.list root = .error cause := by
    rw [isDirAt] at hd
    cases hf : t.find root with
    | error cause => exact ⟨cause, by simp [list, hf, bind, Except.bind]⟩
    | ok l =>
      rw [hf] at hd
      exact ⟨.notDirectory, by simp [list, hf, hd, bind, Except.bind]⟩
  exact ⟨cause, hc, by simp [collectBy, walkBy, hlist.fault root cause hc, Except.map]⟩

/-- Collecting the records of a readable tree gives all of them, each once, and where there is no
directory to start from, that is the error. -/
theorem collectStatuses_exact (ht : t.Regular) (root : Path) :
    (t.collectStatuses root = t.collectBy t.list root ∧ t.Lists t.list) ∧
    (t.isDirAt root = false → ∀ listing, t.Lists listing →
      ∃ cause, t.list root = .error cause ∧ t.collectBy listing root = .error (.read root cause)) ∧
    ∀ l₀, t.find root = .ok l₀ → t.isDir l₀ = true → t.Readable root → t.CollectsAll root l₀ :=
  ⟨⟨t.collectStatuses_eq_collectBy root, t.lists_list⟩, fun hd _ hlist =>
    collectBy_of_not_isDirAt hd hlist,
    fun _ hroot hd hr => collectsAll_of_readable ht hroot hd hr⟩

/-- Whether a tree is readable is seen from its entries. -/
theorem Regular.readable_of_entries (ht : t.Regular) (hroot : t.find root = .ok l₀)
    (h : ∀ x ∈ t.inner l₀, ((x.1.drop l₀.length).foldl Path.child root).text.utf8ByteSize ≤
      maxPathSize) :
    t.Readable root := by
  intro l hl ns hin hsome
  obtain rfl := Except.ok.inj (hl.symm.trans hroot)
  obtain ⟨e, he⟩ := Option.isSome_iff_exists.mp hsome
  have hm : (l ++ ns, e) ∈ t.inner l :=
    mem_inner_iff.mpr ⟨ht.mem_entries_iff.mpr ⟨hin.not_isBase, he⟩, hin⟩
  have hsize := h _ hm
  rwa [List.drop_left] at hsize

def lineOf (name : String) : String :=
  StatusRecord.line ⟨name, .finished, "--", "--", "--", 0, name, none⟩

/-- Two status files, one of them in a directory that has the name of one, and a third that holds no
record. -/
def shelf : FileTree :=
  let file (text : String) : Entry := .file text.toUTF8 false
  (((((({} : FileTree).put ["demo"] .directory).put ["demo", "sim"] .directory).put
    ["demo", "STATUS"] .directory).put
    ["demo", "STATUS", "STATUS"] (file (lineOf "post" ++ "\n"))).put
    ["demo", "sim", "STATUS"] (file (lineOf "fit"))).put ["STATUS"] (file "nothing")

theorem regular_shelf : shelf.Regular := by
  have hdemo : IsFileName "demo" :=
    ⟨⟨⟨by decide, by decide⟩, by decide, by decide⟩, by decide, by decide⟩
  have hsim : IsFileName "sim" :=
    ⟨⟨⟨by decide, by decide⟩, by decide, by decide⟩, by decide, by decide⟩
  have hstatus : IsFileName "STATUS" :=
    ⟨⟨⟨by decide, by decide⟩, by decide, by decide⟩, by decide, by decide⟩
  have h₁ := regular_empty.with_entry [] rfl hdemo rfl .directory
  have h₂ := h₁.with_entry ["demo"] rfl hsim rfl .directory
  have h₃ := h₂.with_entry ["demo"] rfl hstatus rfl .directory
  have h₄ := h₃.with_entry ["demo", "STATUS"] rfl hstatus rfl
    (.file (lineOf "post" ++ "\n").toUTF8 false)
  have h₅ := h₄.with_entry ["demo", "sim"] rfl hstatus rfl (.file (lineOf "fit").toUTF8 false)
  exact h₅.with_entry [] rfl hstatus rfl (.file "nothing".toUTF8 false)

theorem collectStatuses_exact_shelf :
    shelf.CollectsAll ⟨"."⟩ [] ∧
      (shelf.collectStatuses ⟨"."⟩).map (fun x => x.1.map StatusRecord.name) = .ok ["fit", "post"] ∧
      ∃ cause, shelf.collectStatuses ⟨"STATUS"⟩ = .error (.read ⟨"STATUS"⟩ cause) := by
  have hroot : shelf.find ⟨"."⟩ = .ok [] := rfl
  have hreadable : shelf.Readable ⟨"."⟩ :=
    regular_shelf.readable_of_entries hroot (by decide +kernel)
  obtain ⟨-, -, hall⟩ := collectStatuses_exact regular_shelf ⟨"."⟩
  obtain ⟨⟨heq, hlist⟩, hnone, -⟩ := collectStatuses_exact regular_shelf ⟨"STATUS"⟩
  obtain ⟨cause, -, hc⟩ := hnone rfl _ hlist
  exact ⟨hall [] hroot rfl hreadable, by decide +kernel, cause, heq.trans hc⟩

end StudyFlow.FileTree
