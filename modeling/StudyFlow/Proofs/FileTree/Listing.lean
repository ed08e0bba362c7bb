import Mathlib.Data.List.Nodup
import Mathlib.Data.List.Perm.Basic
import StudyFlow.Proofs.FileTree.Views
import StudyFlow.Proofs.Path.Children

/-!
# What a directory lists

In a tree as a file system has it, each entry has a place of its own in a directory, under a name
that a program can spell. The entries below a directory are those that it lists, and those below
each of them; nothing is counted twice.
-/

namespace StudyFlow.FileTree

variable {t : FileTree} {l m : Location} {n : String} {e : Entry} {p q : Path}

/-- A name that an entry may have, as far as the system is concerned. -/
structure IsFileName (n : String) : Prop extends IsStepName n where
  no_zero : '\x00' ∉ n.toList
  size : n.utf8ByteSize ≤ maxNameSize

/-- A tree as a file system has it. -/
structure Regular (t : FileTree) : Prop where
  distinct : (t.entries.map Prod.fst).Nodup
  named : ∀ x ∈ t.entries, ∃ dir n, x.1 = dir ++ [n] ∧ IsFileName n
  grounded : t.Grounded

/-! ## Entries and the view -/

theorem lookup_eq_some_iff {es : List (Location × Entry)} (h : (es.map Prod.fst).Nodup) :
    es.lookup l = some e ↔ (l, e) ∈ es := by
  induction es with
  | nil => simp
  | cons x es ih =>
    obtain ⟨k, f⟩ := x
    rw [List.map_cons, List.nodup_cons] at h
    rw [List.lookup_cons]
    by_cases hk : l = k
    · subst hk
      have hnot : (l, e) ∉ es := fun hm => h.1 (List.mem_map.mpr ⟨_, hm, rfl⟩)
      simp [hnot, eq_comm]
    · have hne : (l == k) = false := beq_eq_false_iff_ne.mpr hk
      simp [hne, ih h.2, hk]

theorem Regular.not_isBase (h : t.Regular) {x : Location × Entry} (hx : x ∈ t.entries) :
    isBase x.1 = false := by
  obtain ⟨dir, n, he, hn⟩ := h.named x hx
  rw [he]
  exact IsStepName.isBase hn.toIsStepName dir

theorem Regular.mem_entries_iff (h : t.Regular) :
    (l, e) ∈ t.entries ↔ isBase l = false ∧ t.get? l = some e := by
  constructor
  · intro hm
    have hb : isBase l = false := h.not_isBase hm
    refine ⟨hb, ?_⟩
    rw [get?, if_neg (by simp [hb]), lookup_eq_some_iff h.distinct]
    exact hm
  · rintro ⟨hb, hg⟩
    rwa [get?, if_neg (by simp [hb]), lookup_eq_some_iff h.distinct] at hg

theorem Regular.nodup_entries (h : t.Regular) : t.entries.Nodup := .of_map _ h.distinct

/-! ## What is listed -/

theorem insertSorted_perm (x : String × Entry) (ys : List (String × Entry)) :
    (insertSorted x ys).Perm (x :: ys) := by
  induction ys with
  | nil => exact .refl _
  | cons y ys ih =>
    rw [insertSorted]
    split
    · exact .refl _
    · exact (ih.cons y).trans (.swap x y ys)

/-- The entry as the directory lists it, if it is directly in it. -/
def listedAt (l : Location) (x : Location × Entry) : Option (String × Entry) :=
  match x.1.getLast? with
  | some n => if x.1.dropLast == l && !isBase x.1 then some (n, x.2) else none
  | none => none

theorem listedAt_eq_some_iff {x : Location × Entry} :
    listedAt l x = some (n, e) ↔ x = (l ++ [n], e) ∧ isBase (l ++ [n]) = false := by
  obtain ⟨k, f⟩ := x
  unfold listedAt
  rcases List.eq_nil_or_concat k with rfl | ⟨dir, m, rfl⟩
  · simp
  · simp only [List.concat_eq_append, List.getLast?_concat, List.dropLast_concat]
    split
    · next hc =>
      simp only [Bool.and_eq_true, beq_iff_eq, Bool.not_eq_true'] at hc
      obtain ⟨rfl, hb⟩ := hc
      constructor
      · intro h
        cases h
        exact ⟨rfl, hb⟩
      · rintro ⟨h, -⟩
        obtain ⟨hk, rfl⟩ := Prod.mk.inj h
        obtain rfl := List.singleton_inj.mp (List.append_cancel_left hk)
        rfl
    · next hc =>
      refine ⟨nofun, ?_⟩
      rintro ⟨h, hb⟩
      obtain ⟨hk, rfl⟩ := Prod.mk.inj h
      obtain ⟨rfl, hm⟩ := List.append_inj' hk rfl
      obtain rfl := List.singleton_inj.mp hm
      simp [hb] at hc

theorem children_perm (t : FileTree) (l : Location) :
    (t.children l).Perm (t.entries.filterMap (listedAt l)) := by
  have hfold : ∀ (es : List (Location × Entry)) (acc : List (String × Entry)),
      (es.foldl (fun acc x => match x.1.getLast? with
        | some n => if x.1.dropLast == l && !isBase x.1 then insertSorted (n, x.2) acc else acc
        | none => acc) acc).Perm (acc ++ es.filterMap (listedAt l)) := by
    intro es
    induction es with
    | nil => intro acc; simp
    | cons x es ih =>
      intro acc
      rw [List.foldl_cons, List.filterMap_cons]
      refine (ih _).trans ?_
      unfold listedAt
      split
      · next m hm =>
        split
        · next hc =>
          simp only
          exact ((insertSorted_perm _ _).append_right _).trans List.perm_middle.symm
        · next hc => exact .refl _
      · next hm => exact .refl _
  exact hfold t.entries []

theorem Regular.mem_children_iff (h : t.Regular) :
    (n, e) ∈ t.children l ↔ isBase (l ++ [n]) = false ∧ t.get? (l ++ [n]) = some e := by
  rw [(children_perm t l).mem_iff, List.mem_filterMap, ← h.mem_entries_iff]
  constructor
  · rintro ⟨x, hx, hl⟩
    obtain ⟨rfl, hb⟩ := listedAt_eq_some_iff.mp hl
    exact hx
  · intro hm
    exact ⟨_, hm, listedAt_eq_some_iff.mpr ⟨rfl, h.not_isBase hm⟩⟩

theorem Regular.nodup_children (h : t.Regular) (l : Location) : (t.children l).Nodup := by
  refine (children_perm t l).nodup_iff.mpr (h.nodup_entries.filterMap ?_)
  intro x y z hx hy
  obtain ⟨n, e⟩ := z
  exact (listedAt_eq_some_iff.mp hx).1.trans (listedAt_eq_some_iff.mp hy).1.symm

/-- What a directory lists has names that a program can spell. -/
theorem Regular.isFileName_of_mem_children (h : t.Regular) {x : String × Entry}
    (hx : x ∈ t.children l) :
    IsFileName x.1 := by
  obtain ⟨m, e⟩ := x
  have hm := h.mem_entries_iff.mpr (h.mem_children_iff.mp hx)
  obtain ⟨dir, n, he, hn⟩ := h.named _ hm
  obtain ⟨-, hl⟩ := List.append_inj' he rfl
  exact List.singleton_inj.mp hl ▸ hn

/-! ## What is below a directory -/

/-- The location is below another one, and not by way of a base location. -/
def Inside (l m : Location) : Prop := ∃ n ns, m = l ++ n :: ns ∧ isBase (l ++ [n]) = false

def isInside? (l m : Location) : Bool :=
  isWithin l m && decide (l.length < m.length) && !isBase (m.take (l.length + 1))

theorem isInside?_iff : isInside? l m = true ↔ Inside l m := by
  unfold isInside? Inside
  rw [Bool.and_eq_true, Bool.and_eq_true, isWithin_iff, decide_eq_true_iff, Bool.not_eq_true']
  constructor
  · rintro ⟨⟨⟨rest, rfl⟩, hlt⟩, hb⟩
    cases rest with
    | nil => simp at hlt
    | cons n ns =>
      refine ⟨n, ns, rfl, ?_⟩
      rwa [List.take_length_add_append, List.take_succ_cons, List.take_zero] at hb
  · rintro ⟨n, ns, rfl, hb⟩
    refine ⟨⟨List.prefix_append _ _, by simp⟩, ?_⟩
    rwa [List.take_length_add_append, List.take_succ_cons, List.take_zero]

def inner (t : FileTree) (l : Location) : List (Location × Entry) :=
  t.entries.filter fun x => isInside? l x.1

theorem mem_inner_iff {x : Location × Entry} : x ∈ t.inner l ↔ x ∈ t.entries ∧ Inside l x.1 := by
  rw [inner, List.mem_filter, isInside?_iff]

/-- Below the root directory there are no base locations, and above a base location there are no
others. -/
theorem isBase_of_isPrefix (hp : l <+: m) (hne : l ≠ []) (h : isBase m = true) :
    isBase l = true := by
  rcases Bool.or_eq_true_iff.mp h with hroot | hall
  · obtain rfl := beq_iff_eq.mp hroot
    rcases List.prefix_concat_iff.mp (show l <+: [] ++ ["/"] from hp) with rfl | hnil
    · rfl
    · exact absurd (List.prefix_nil.mp hnil) hne
  · exact isBase_of_all fun x hx => by simpa using List.all_eq_true.mp hall x (hp.subset hx)

theorem Inside.not_isBase (h : Inside l m) : isBase m = false := by
  obtain ⟨n, ns, rfl, hb⟩ := h
  have hp : l ++ [n] <+: l ++ n :: ns :=
    (List.prefix_append_right_inj l).mpr (List.prefix_append [n] ns)
  refine Bool.eq_false_iff.mpr fun hc => ?_
  rw [isBase_of_isPrefix hp (by simp) hc] at hb
  cases hb

theorem inside_child (hb : isBase (l ++ [n]) = false) : Inside l (l ++ [n]) := ⟨n, [], rfl, hb⟩

theorem Inside.of_child (hb : isBase (l ++ [n]) = false) (h : Inside (l ++ [n]) m) :
    Inside l m := by
  obtain ⟨k, ks, rfl, -⟩ := h
  exact ⟨n, k :: ks, by simp, hb⟩

/-- An entry below a directory is listed there, or below an entry that is. -/
theorem Regular.mem_inner_cases (h : t.Regular) {x : Location × Entry} (hx : x ∈ t.inner l) :
    ∃ y ∈ t.children l, x = (l ++ [y.1], y.2) ∨ x ∈ t.inner (l ++ [y.1]) := by
  obtain ⟨hm, n, ns, he, hb⟩ := mem_inner_iff.mp hx
  obtain ⟨k, e⟩ := x
  obtain rfl : k = l ++ n :: ns := he
  cases ns with
  | nil => exact ⟨(n, e), h.mem_children_iff.mpr (h.mem_entries_iff.mp hm), .inl rfl⟩
  | cons n' ns =>
    have hsplit : l ++ n :: n' :: ns = (l ++ [n]) ++ n' :: ns := by simp
    rw [hsplit] at hm
    have hd : t.isDir (l ++ [n]) = true := by
      refine h.grounded _ (by rw [(h.mem_entries_iff.mp hm).2]; rfl) _ (List.prefix_append _ _) ?_
      exact fun hself => List.cons_ne_nil n' ns (List.self_eq_append_right.mp hself)
    refine ⟨(n, .directory), h.mem_children_iff.mpr ⟨hb, isDir_iff.mp hd⟩, .inr ?_⟩
    rw [hsplit]
    refine mem_inner_iff.mpr ⟨hm, n', ns, rfl, Bool.eq_false_iff.mpr fun hc => ?_⟩
    rw [isBase_of_isPrefix (List.prefix_append _ _) (by simp) hc] at hb
    cases hb

/-- An entry that a directory lists, with those below it. -/
def branch (t : FileTree) (l : Location) (y : String × Entry) : List (Location × Entry) :=
  (l ++ [y.1], y.2) :: t.inner (l ++ [y.1])

theorem prefix_of_mem_branch {x : Location × Entry} {y : String × Entry} (hx : x ∈ t.branch l y) :
    l ++ [y.1] <+: x.1 := by
  rcases List.mem_cons.mp hx with rfl | hx
  · exact List.prefix_refl _
  · obtain ⟨-, n, ns, he, -⟩ := mem_inner_iff.mp hx
    exact he ▸ List.prefix_append _ _

theorem Regular.nodup_inner (h : t.Regular) (l : Location) : (t.inner l).Nodup :=
  h.nodup_entries.filter _

theorem Regular.nodup_branch (h : t.Regular) (l : Location) (y : String × Entry) :
    (t.branch l y).Nodup := by
  refine List.nodup_cons.mpr ⟨fun hm => ?_, h.nodup_inner _⟩
  obtain ⟨-, n, ns, he, -⟩ := mem_inner_iff.mp hm
  exact List.cons_ne_nil n ns (List.self_eq_append_right.mp he)

/-- No entry is below two others that a directory lists. -/
theorem Regular.disjoint_branch (h : t.Regular) {y z : String × Entry} (hy : y ∈ t.children l)
    (hz : z ∈ t.children l) (hne : y ≠ z) : (t.branch l y).Disjoint (t.branch l z) := by
  intro x hxy hxz
  have hfront := List.prefix_of_prefix_length_le (prefix_of_mem_branch hxy)
    (prefix_of_mem_branch hxz) (by simp)
  have hsame : y.1 = z.1 :=
    List.singleton_inj.mp (List.append_cancel_left (hfront.eq_of_length (by simp)))
  obtain ⟨n, e⟩ := y
  obtain ⟨m, f⟩ := z
  obtain rfl : n = m := hsame
  have hentry := (h.mem_children_iff.mp hy).2
  rw [(h.mem_children_iff.mp hz).2] at hentry
  exact hne (Prod.ext rfl (Option.some.inj hentry).symm)

/-- The entries below a directory are those that it lists, each with the entries below it. -/
theorem Regular.inner_perm (h : t.Regular) (l : Location) :
    (t.inner l).Perm ((t.children l).flatMap (t.branch l)) := by
  refine (List.perm_ext_iff_of_nodup (h.nodup_inner l) ?_).mpr fun x => ?_
  · refine List.nodup_flatMap.mpr ⟨fun y _ => h.nodup_branch l y, ?_⟩
    exact (h.nodup_children l).pairwise_of_forall_ne fun y hy z hz hne =>
      h.disjoint_branch hy hz hne
  · rw [List.mem_flatMap]
    constructor
    · intro hx
      obtain ⟨y, hy, hcases⟩ := h.mem_inner_cases hx
      exact ⟨y, hy, List.mem_cons.mpr hcases⟩
    · rintro ⟨⟨n, e⟩, hy, hx⟩
      obtain ⟨hb, hg⟩ := h.mem_children_iff.mp hy
      rcases List.mem_cons.mp hx with rfl | hx
      · exact mem_inner_iff.mpr ⟨h.mem_entries_iff.mpr ⟨hb, hg⟩, inside_child hb⟩
      · obtain ⟨hm, hin⟩ := mem_inner_iff.mp hx
        exact mem_inner_iff.mpr ⟨hm, hin.of_child hb⟩

/-- Below a file there is nothing. -/
theorem Regular.inner_eq_nil (h : t.Regular) (hd : t.isDir l = false) : t.inner l = [] := by
  refine List.eq_nil_iff_forall_not_mem.mpr fun x hx => ?_
  obtain ⟨hm, n, ns, he, -⟩ := mem_inner_iff.mp hx
  obtain ⟨k, e⟩ := x
  obtain rfl : k = l ++ n :: ns := he
  have hnone := h.grounded.get?_eq_none hd (List.prefix_append l (n :: ns))
    fun hself => List.cons_ne_nil n ns (List.self_eq_append_right.mp hself)
  rw [(h.mem_entries_iff.mp hm).2] at hnone
  cases hnone

def subdirs (l : Location) (ys : List (String × Entry)) : List Location :=
  ys.filterMap fun y => if y.2 = .directory then some (l ++ [y.1]) else none

/-- What is taken of the entries below a directory is taken of those that it lists and of those
below each directory among them. -/
theorem Regular.filterMap_inner_perm {α : Type} (h : t.Regular) (l : Location)
    (f : Location × Entry → Option α) :
    ((t.inner l).filterMap f).Perm
      ((t.children l).filterMap (fun y => f (l ++ [y.1], y.2)) ++
        (subdirs l (t.children l)).flatMap fun d => (t.inner d).filterMap f) := by
  have hfiles : ∀ y ∈ t.children l, (t.inner (l ++ [y.1])).filterMap f =
      (if y.2 = .directory then some (l ++ [y.1]) else none).toList.flatMap
        fun d => (t.inner d).filterMap f := by
    intro y hy
    split
    · simp
    · next hfile =>
      have hd : t.isDir (l ++ [y.1]) = false := by
        refine Bool.eq_false_iff.mpr fun hd => hfile ?_
        have hentry := (h.mem_children_iff.mp (show (y.1, y.2) ∈ t.children l from hy)).2
        rw [isDir_iff.mp hd] at hentry
        exact (Option.some.inj hentry).symm
      rw [h.inner_eq_nil hd]
      rfl
  have hbranch : ∀ y, (t.branch l y).filterMap f =
      (f (l ++ [y.1], y.2)).toList ++ (t.inner (l ++ [y.1])).filterMap f := by
    intro y
    rw [branch, List.filterMap_cons]
    cases f (l ++ [y.1], y.2) <;> rfl
  have hall := (h.inner_perm l).filterMap f
  rw [List.filterMap_flatMap, List.flatMap_congr fun y _ => hbranch y] at hall
  have hparts := List.flatMap_append_perm (t.children l) (fun y => (f (l ++ [y.1], y.2)).toList)
    fun y => (t.inner (l ++ [y.1])).filterMap f
  rw [List.flatMap_congr hfiles, ← List.flatMap_assoc, ← List.filterMap_eq_flatMap_toList,
    ← List.filterMap_eq_flatMap_toList] at hparts
  exact hall.trans hparts.symm

/-! ## Finding what is listed -/

theorem find_eq_ok_iff :
    t.find p = .ok l ↔ p.Walkable ∧ t.follow p.start p.names = .ok l ∧
    (p.isSlashed = true → t.isDir l = true) := by
  unfold find
  cases hr : p.route with
  | error f =>
    refine ⟨nofun, fun hw => ?_⟩
    rw [Path.route_eq_ok_iff.mpr ⟨hw.1, rfl⟩] at hr
    cases hr
  | ok r =>
    obtain ⟨hw, rfl⟩ := Path.route_eq_ok_iff.mp hr
    cases hf : t.follow p.start p.names with
    | error f => simp [bind, Except.bind, hf]
    | ok m =>
      simp only [bind, Except.bind, hf, Bool.and_eq_true, Bool.not_eq_true']
      split
      · next hc =>
        refine ⟨nofun, fun hfound => ?_⟩
        obtain ⟨-, hm, hd⟩ := hfound
        obtain rfl := Except.ok.inj hm
        rw [hd hc.1] at hc
        cases hc.2
      · next hc =>
        constructor
        · intro hfound
          obtain rfl := Except.ok.inj hfound
          exact ⟨hw, rfl, by simpa using hc⟩
        · rintro ⟨-, hfound, -⟩
          exact hfound

/-- A name leads from a directory to what is there. -/
theorem sits_child (hf : t.find p = .ok l) (hd : t.isDir l = true) (hn : IsFileName n)
    (hw : (p.child n).Walkable) : t.Sits (p.child n) l n where
  walkable := hw
  leads := by
    refine ⟨p.names, p.names_child hn.toIsPlainName, ?_⟩
    rw [p.start_child hn.toIsPlainName]
    exact (find_eq_ok_iff.mp hf).2.1
  isDir := hd
  ne_here := hn.ne_here
  ne_up := hn.ne_up
  size := hn.size

theorem follow_of_dots {ns : List String} (hns : ∀ n ∈ ns, n = ".")
    (h : t.follow l ns = .ok m) : m = l := by
  induction ns generalizing l with
  | nil => exact (Except.ok.inj h).symm
  | cons n ns ih =>
    obtain rfl := hns n List.mem_cons_self
    rw [follow] at h
    split at h
    · cases h
    · exact ih (fun k hk => hns k (List.mem_cons_of_mem _ hk)) h

/-- What a name leads to from a directory, it leads to from the parent of the child. -/
theorem sits_child_of_parent? (hf : t.find p = .ok l) (hd : t.isDir l = true) (hn : IsFileName n)
    (hw : (p.child n).Walkable) (hq : (p.child n).parent? = some q) : t.Sits (q.child n) l n := by
  have hplain := hn.toIsPlainName
  obtain ⟨dots, hnames, hdots⟩ := Path.names_of_parent?_child hn.toIsStepName hq
  have hfollow := (find_eq_ok_iff.mp hf).2.1
  rw [hnames, follow_append] at hfollow
  have hstart : q.start = p.start := (Path.parent?_start hq).trans (p.start_child hplain)
  cases hfront : t.follow p.start q.names with
  | error f => rw [hfront] at hfollow; cases hfollow
  | ok m =>
    rw [hfront] at hfollow
    obtain rfl := follow_of_dots hdots hfollow
    have hsize := Path.utf8ByteSize_child_parent?_le hn.toIsStepName hq
    refine ⟨⟨?_, ?_, Nat.le_trans hsize hw.size⟩, ⟨q.names, q.names_child hplain, ?_⟩, hd,
      hn.ne_here, hn.ne_up, hn.size⟩
    · exact Path.join_text_ne_empty (.inr hn.ne_empty)
    · intro hz
      rcases Path.mem_text_child hplain.no_slash hz with hz | hz | hz
      · exact hw.no_zero ((Path.parent?_text hq).subset hz)
      · exact absurd hz (by decide)
      · exact hn.no_zero hz
    · rw [q.start_child hplain, hstart]
      exact hfront

end StudyFlow.FileTree
