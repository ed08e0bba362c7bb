import StudyFlow.Proofs.FileTree.Locations

/-!
# Making directories

Making a directory with those above it changes nothing but missing places on the way of its path,
and these become directories; what was made before a fault stays. The operations it consists of are
listed one by one, so that a statement can be made about every moment between them.
-/

namespace StudyFlow.FileTree

variable {t u : FileTree} {p q : Path} {l k : Location}

/-! ## Trees whose entries lie in directories -/

/-- Every entry lies in a directory. -/
def Grounded (t : FileTree) : Prop := ∀ l, (t.get? l).isSome → t.Solid l

theorem Solid.of_isPrefix (h : t.Solid l) (hk : k <+: l) : t.Solid k := by
  intro j hj hne
  refine h j (hj.trans hk) ?_
  rintro rfl
  exact hne (hj.eq_of_length_le hk.length_le)

/-- Below a place that is no directory there is nothing. -/
theorem Grounded.get?_eq_none (h : t.Grounded) (hd : t.isDir l = false) (hk : l <+: k)
    (hne : l ≠ k) :
    t.get? k = none := by
  refine Option.not_isSome_iff_eq_none.mp fun hs => ?_
  have hdir := h k hs l hk hne
  rw [hd] at hdir
  cases hdir

theorem KeepsDirs.solid (h : KeepsDirs t u) (hs : t.Solid l) : u.Solid l := fun k hk hne =>
  h k (hs.of_isPrefix hk) (hs k hk hne)

/-- Where directories are kept and new entries lie in directories, every entry still does. -/
theorem Grounded.of_keepsDirs (h : t.Grounded) (hk : KeepsDirs t u)
    (hnew : ∀ l, (u.get? l).isSome → (t.get? l).isSome ∨ t.Solid l) : u.Grounded := by
  intro l hl
  rcases hnew l hl with ht | hs
  · exact hk.solid (h l ht)
  · exact hk.solid hs

theorem grounded_empty : Grounded {} := by
  intro l hl
  by_cases hb : isBase l = true
  · intro k hk _
    refine isDir_of_isBase ?_
    rcases Bool.or_eq_true_iff.mp hb with hr | hu
    · obtain rfl := beq_iff_eq.mp hr
      cases k with
      | nil => rfl
      | cons x k =>
        obtain ⟨rfl, ht⟩ := List.cons_prefix_cons.mp hk
        obtain rfl := List.prefix_nil.mp ht
        rfl
    · exact isBase_of_all fun n hn => by simpa using List.all_eq_true.mp hu n (hk.subset hn)
  · simp [get?, hb] at hl

theorem Stores.grounded {c : ByteArray} (h : Stores t u l c) (hs : t.Solid l) (hg : t.Grounded) :
    u.Grounded := by
  refine hg.of_keepsDirs h.keepsDirs fun k hk => ?_
  by_cases he : k = l
  · exact .inr (he ▸ hs)
  · exact .inl (h.other k he ▸ hk)

/-! ## Single operations -/

/-- One operation on files that succeeds. -/
inductive Act : FileTree → FileTree → Prop
  | makeDir {t u : FileTree} {p : Path} : t.createDir p = .ok u → Act t u
  | write {t u : FileTree} {p : Path} {text : String} : t.writeText p text = .ok u → Act t u
  | move {t u : FileTree} {p q : Path} : t.rename p q = .ok u → Act t u

/-- Operations one after the other lead from the first tree to the last by way of the listed
ones. -/
inductive Traces : FileTree → List FileTree → FileTree → Prop
  | nil {t : FileTree} : Traces t [] t
  | cons {t u v : FileTree} {ms : List FileTree} : Act t u → Traces u ms v → Traces t (u :: ms) v

theorem Act.traces (h : Act t u) : Traces t [u] u := .cons h .nil

theorem Traces.append {v : FileTree} {ms ns : List FileTree} (h : Traces t ms u)
    (h' : Traces u ns v) :
    Traces t (ms ++ ns) v := by
  induction h with
  | nil => exact h'
  | cons ha _ ih => exact .cons ha (ih h')

/-! ## Making directories -/

/-- The trees while a directory and those above it are made, one after each directory. -/
def createDirsMomentsUpTo : Nat → FileTree → Path → List FileTree
  | 0, _, _ => []
  | fuel + 1, t, p =>
    if p.text.isEmpty then []
    else match t.createDir p with
      | .ok u => [u]
      | .error .notFound => match p.parent? with
        | none => []
        | some q => createDirsMomentsUpTo fuel t q ++ match createDirsUpTo fuel t q with
          | (.error _, _) => []
          | (.ok (), u) => match u.createDir p with
            | .ok v => [v]
            | .error _ => []
      | .error _ => []

def createDirsMoments (t : FileTree) (p : Path) : List FileTree :=
  createDirsMomentsUpTo (p.text.length + 2) t p

/-- A directory that is not made may be there already. -/
def refusal (t : FileTree) (p : Path) (f : Fault) : Except Fault Unit :=
  if t.isDirAt p then .ok () else .error f

/-- Making a directory and those above it, without a bound: the moments, the result and the tree at
the end. -/
inductive Makes : FileTree → Path → List FileTree → Except Fault Unit → FileTree → Prop
  | nothing {t : FileTree} {p : Path} : p.text = "" → Makes t p [] (.ok ()) t
  | made {t u : FileTree} {p : Path} : p.text ≠ "" → t.createDir p = .ok u →
    Makes t p [u] (.ok ()) u
  | refused {t : FileTree} {p : Path} {f : Fault} : p.text ≠ "" → t.createDir p = .error f →
    f ≠ .notFound → Makes t p [] (t.refusal p f) t
  | rootless {t : FileTree} {p : Path} : p.text ≠ "" → t.createDir p = .error .notFound →
    p.parent? = none → Makes t p [] (.error .notFound) t
  | blocked {t u : FileTree} {p q : Path} {ms : List FileTree} {f : Fault} : p.text ≠ "" →
    t.createDir p = .error .notFound → p.parent? = some q → Makes t q ms (.error f) u →
    Makes t p ms (.error f) u
  | madeBelow {t u v : FileTree} {p q : Path} {ms : List FileTree} : p.text ≠ "" →
    t.createDir p = .error .notFound → p.parent? = some q → Makes t q ms (.ok ()) u →
    u.createDir p = .ok v → Makes t p (ms ++ [v]) (.ok ()) v
  | refusedBelow {t u : FileTree} {p q : Path} {ms : List FileTree} {f : Fault} : p.text ≠ "" →
    t.createDir p = .error .notFound → p.parent? = some q → Makes t q ms (.ok ()) u →
    u.createDir p = .error f → Makes t p ms (u.refusal p f) u

/-- The bound is never used up, since each parent has a shorter text. -/
theorem createDirsUpTo_makes {fuel : Nat} (h : p.text.length < fuel) :
    Makes t p (createDirsMomentsUpTo fuel t p)
    (createDirsUpTo fuel t p).1 (createDirsUpTo fuel t p).2 := by
  induction fuel generalizing t p with
  | zero => exact absurd h (Nat.not_lt_zero _)
  | succ fuel ih =>
    have hsettled : ∀ (u : FileTree) (f : Fault),
        (if u.isDirAt p then (.ok (), u) else (.error f, u) : Except Fault Unit × FileTree) =
          (u.refusal p f, u) := by
      intro u f
      unfold refusal
      split <;> rfl
    rw [createDirsMomentsUpTo, createDirsUpTo]
    by_cases hp : p.text = ""
    · rw [if_pos (by simp [hp]), if_pos (by simp [hp])]
      exact .nothing hp
    rw [if_neg (by simpa using hp), if_neg (by simpa using hp)]
    simp only [hsettled]
    cases hc : t.createDir p with
    | ok u => exact .made hp hc
    | error f =>
      by_cases hf : f = .notFound
      · subst hf
        cases hq : p.parent? with
        | none => exact .rootless hp hc hq
        | some q =>
          have hm := ih (t := t) (p := q) (by have hlt := Path.parent?_length_lt hq; omega)
          cases hr : createDirsUpTo fuel t q with
          | mk r u =>
            rw [hr] at hm
            cases r with
            | error f =>
              simp only [hr, List.append_nil]
              exact .blocked hp hc hq hm
            | ok _ =>
              cases hv : u.createDir p with
              | ok v =>
                simp only [hr, hv]
                exact .madeBelow hp hc hq hm hv
              | error f =>
                simp only [hr, hv, List.append_nil]
                exact .refusedBelow hp hc hq hm hv
      · cases f with
        | notFound => exact absurd rfl hf
        | _ => exact .refused hp hc hf

theorem createDirs_makes (t : FileTree) (p : Path) :
    Makes t p (t.createDirsMoments p) (t.createDirs p).1 (t.createDirs p).2 :=
  createDirsUpTo_makes (by omega)

/-- The place holds what it held, or it was missing on the way of the path and is a directory
now. -/
def KeptOrOpened (t u : FileTree) (p : Path) (k : Location) : Prop :=
  u.get? k = t.get? k ∨ t.get? k = none ∧ u.get? k = some .directory ∧ p.Passes k

theorem KeptOrOpened.trans {v : FileTree} (h : KeptOrOpened t u p k) (h' : KeptOrOpened u v p k) :
    KeptOrOpened t v p k := by
  rcases h' with he | ⟨hn, hd, hp⟩
  · rw [KeptOrOpened, he]
    exact h
  · rcases h with he | ⟨-, hu, -⟩
    · exact .inr ⟨he ▸ hn, hd, hp⟩
    · rw [hu] at hn
      cases hn

/-- The second tree is the first one with directories at places on the way of the path that were
missing. -/
structure Opens (t u : FileTree) (p : Path) : Prop where
  view : ∀ k, KeptOrOpened t u p k
  grounded : t.Grounded → u.Grounded

theorem Opens.get?_eq (h : Opens t u p) (hk : ¬ p.Passes k) : u.get? k = t.get? k :=
  (h.view k).resolve_right fun hv => hk hv.2.2

theorem Opens.refl : Opens t t p := ⟨fun _ => .inl rfl, id⟩

theorem Opens.trans {v : FileTree} (h : Opens t u p) (h' : Opens u v p) : Opens t v p where
  view := fun k => (h.view k).trans (h'.view k)
  grounded := fun hg => h'.grounded (h.grounded hg)

theorem Opens.of_parent? (h : Opens t u q) (hq : p.parent? = some q) : Opens t u p where
  view := fun k => (h.view k).imp_right fun ⟨hn, hd, hp⟩ => ⟨hn, hd, hp.of_parent? hq⟩
  grounded := h.grounded

theorem createDir_eq_ok (h : t.createDir p = .ok u) :
    ∃ dir n, t.Sits p dir n ∧ t.get? (dir ++ [n]) = none ∧ u = t.put (dir ++ [n]) .directory := by
  unfold createDir at h
  cases hp : t.place p with
  | error f => rw [hp] at h; cases h
  | ok placed =>
    obtain ⟨o, slashed⟩ := placed
    rw [hp] at h
    simp only [bind, Except.bind] at h
    cases o with
    | none => cases h
    | some l =>
      obtain ⟨dir, n, hsit, rfl, -⟩ := place_eq_ok_iff.mp hp
      simp only at h
      split at h
      · cases h
      · next hn =>
        cases h
        exact ⟨dir, n, hsit, by simpa using hn, rfl⟩

theorem createDir_opens (h : t.createDir p = .ok u) : Opens t u p := by
  obtain ⟨dir, n, hsit, hnone, rfl⟩ := createDir_eq_ok h
  have hb : isBase (dir ++ [n]) = false := isBase_concat hsit.isEntryName
  have hself : (t.put (dir ++ [n]) .directory).get? (dir ++ [n]) = some .directory :=
    get?_put_self hb _
  have hother : ∀ k, k ≠ dir ++ [n] → (t.put (dir ++ [n]) .directory).get? k =
    t.get? k := fun k hk =>
    get?_put_of_ne hk _
  constructor
  · intro k
    by_cases hk : k = dir ++ [n]
    · exact .inr ⟨hk ▸ hnone, hk ▸ hself, hk ▸ hsit.location ▸ p.passes_location⟩
    · exact .inl (hother k hk)
  · intro hg
    refine hg.of_keepsDirs ?_ fun k hk => ?_
    · intro k _ hd
      have hne : k ≠ dir ++ [n] := by
        rintro rfl
        simp [isDir, hnone] at hd
      rw [isDir_iff] at hd ⊢
      rw [hother k hne, hd]
    · by_cases he : k = dir ++ [n]
      · exact .inr (he ▸ hsit.solid.concat hsit.isDir)
      · exact .inl (hother k he ▸ hk)

theorem Makes.traces {ms : List FileTree} {r : Except Fault Unit} (h : Makes t p ms r u) :
    Traces t ms u := by
  induction h with
  | nothing => exact .nil
  | made _ h => exact (Act.makeDir h).traces
  | refused => exact .nil
  | rootless => exact .nil
  | blocked _ _ _ _ ih => exact ih
  | madeBelow _ _ _ _ hv ih => exact ih.append (Act.makeDir hv).traces
  | refusedBelow _ _ _ _ _ ih => exact ih

/-- At every moment while directories are made, nothing has changed but missing places on the
way. -/
theorem Makes.opens {ms : List FileTree} {r : Except Fault Unit} (h : Makes t p ms r u) :
    (∀ m ∈ ms, Opens t m p) ∧ Opens t u p := by
  induction h with
  | nothing => exact ⟨nofun, .refl⟩
  | made _ h =>
    have hu := createDir_opens h
    exact ⟨by simpa using hu, hu⟩
  | refused => exact ⟨nofun, .refl⟩
  | rootless => exact ⟨nofun, .refl⟩
  | blocked _ _ hq _ ih => exact ⟨fun m hm => (ih.1 m hm).of_parent? hq, ih.2.of_parent? hq⟩
  | madeBelow _ _ hq _ hv ih =>
    have hu := (ih.2.of_parent? hq).trans (createDir_opens hv)
    refine ⟨fun m hm => ?_, hu⟩
    rcases List.mem_append.mp hm with hm | hm
    · exact (ih.1 m hm).of_parent? hq
    · exact List.mem_singleton.mp hm ▸ hu
  | refusedBelow _ _ hq _ _ ih => exact ⟨fun m hm => (ih.1 m hm).of_parent? hq, ih.2.of_parent? hq⟩

end StudyFlow.FileTree
