import StudyFlow.Proofs.FileTree.Passage
import StudyFlow.Proofs.Path.Components

/-!
# The view from a workspace

Two trees look the same from a workspace if they hold the same at and below it; above it one may
have directories that the other has not made yet. An operation inside of the workspace that is done
on both keeps that: it succeeds on both or on neither, and what it adds above the workspace to one
tree the other has by then.
-/

namespace StudyFlow.FileTree

variable {t s t' s' t'' s'' : FileTree} {w l k : Location} {ws p : Path}

/-- From the location, the first tree looks like the second; above it there may be more
directories. -/
structure Sees (w : Location) (t s : FileTree) : Prop where
  inside : ∀ k, w <+: k → t.get? k = s.get? k
  above : ∀ k, k <+: w → t.get? k = s.get? k ∨ s.get? k = none ∧ t.get? k = some .directory

/-- Outside of the location nothing changes but missing places above it, which become
directories. -/
def OpenedTo (w : Location) (t t' : FileTree) : Prop :=
  ∀ k, ¬ w <+: k → t'.get? k = t.get? k ∨ t.get? k = none ∧ t'.get? k = some .directory ∧ k <+: w

/-- What is done inside of the location to both trees at once. -/
structure Joint (w : Location) (t s t' s' : FileTree) : Prop where
  sees : Sees w t' s'
  opened : OpenedTo w t t'
  opened' : OpenedTo w s s'
  matched : ∀ k, ¬ w <+: k → t'.get? k = t.get? k ∨ s'.get? k = some .directory

theorem Sees.refl (w : Location) (t : FileTree) : Sees w t t :=
  ⟨fun _ _ => rfl, fun _ _ => .inl rfl⟩

theorem OpenedTo.refl (w : Location) (t : FileTree) : OpenedTo w t t := fun _ _ => .inl rfl

theorem OpenedTo.trans (h : OpenedTo w t t') (h' : OpenedTo w t' t'') : OpenedTo w t t'' := by
  intro k hk
  rcases h' k hk with he | ⟨hn, hd, hp⟩
  · rw [he]
    exact h k hk
  · rcases h k hk with he | ⟨-, hd', -⟩
    · exact .inr ⟨he ▸ hn, hd, hp⟩
    · rw [hd'] at hn
      cases hn

theorem OpenedTo.keeps_directory (h : OpenedTo w t t') (hk : ¬ w <+: k)
    (hd : t.get? k = some .directory) :
    t'.get? k = some .directory := by
  rcases h k hk with he | ⟨hn, -, -⟩
  · rw [he, hd]
  · rw [hd] at hn
    cases hn

theorem Joint.refl (h : Sees w t s) : Joint w t s t s :=
  ⟨h, .refl w t, .refl w s, fun _ _ => .inl rfl⟩

theorem Joint.trans (h : Joint w t s t' s') (h' : Joint w t' s' t'' s'') : Joint w t s t'' s'' where
  sees := h'.sees
  opened := h.opened.trans h'.opened
  opened' := h.opened'.trans h'.opened'
  matched := by
    intro k hk
    rcases h'.matched k hk with he | hd
    · rw [he]
      exact (h.matched k hk).imp_right (h'.opened'.keeps_directory hk)
    · exact .inr hd

/-- What changes nothing outside of the location and does the same inside of it. -/
theorem Joint.of_inside (h : Sees w t s) (hin : ∀ k, w <+: k → t'.get? k = s'.get? k)
    (ht : ∀ k, ¬ w <+: k → t'.get? k = t.get? k) (hs : ∀ k, ¬ w <+: k → s'.get? k = s.get? k) :
    Joint w t s t' s' where
  sees := by
    refine ⟨hin, fun k hk => ?_⟩
    by_cases hw : w <+: k
    · exact .inl (hin k hw)
    · rw [ht k hw, hs k hw]
      exact h.above k hk
  opened := fun k hk => .inl (ht k hk)
  opened' := fun k hk => .inl (hs k hk)
  matched := fun k hk => .inl (ht k hk)

theorem joint_put (h : Sees w t s) (hl : w <+: l) (hb : isBase l = false) (e : Entry) :
    Joint w t s (t.put l e) (s.put l e) := by
  have hout : ∀ k, ¬ w <+: k → k ≠ l := by
    rintro k hk rfl
    exact hk hl
  refine .of_inside h (fun k hk => ?_) (fun k hk => get?_put_of_ne (hout k hk) _)
    (fun k hk => get?_put_of_ne (hout k hk) _)
  by_cases he : k = l
  · rw [he, get?_put_self hb, get?_put_self hb]
  · rw [get?_put_of_ne he, get?_put_of_ne he]
    exact h.inside k hk

theorem joint_erase (h : Sees w t s) (hl : w <+: l) : Joint w t s (t.erase l) (s.erase l) := by
  have hout : ∀ k, ¬ w <+: k → isWithin l k = false := fun k hk =>
    Bool.eq_false_iff.mpr fun hc => hk (hl.trans (isWithin_iff.mp hc))
  refine .of_inside h (fun k hk => ?_) (fun k hk => get?_erase_of_not_within (hout k hk))
    (fun k hk => get?_erase_of_not_within (hout k hk))
  by_cases hb : isBase k = true
  · rw [get?_of_isBase hb, get?_of_isBase hb]
  · by_cases hc : isWithin l k = true
    · have hb : isBase k = false := by simpa using hb
      rw [get?_erase_of_within hb hc, get?_erase_of_within hb hc]
    · have hc : isWithin l k = false := by simpa using hc
      rw [get?_erase_of_not_within hc, get?_erase_of_not_within hc]
      exact h.inside k hk

/-! ## Making the workspace -/

/-- A path that the system does not take has nothing made for it. -/
theorem createDirs_of_not_walkable (hne : p.text ≠ "") (hw : ¬ p.Walkable) (t : FileTree) :
    (t.createDirs p).1 ≠ .ok () ∧ (t.createDirs p).2 = t := by
  cases hr : p.route with
  | ok r => exact absurd (Path.route_eq_ok_iff.mp hr).1 hw
  | error f =>
    have hplace : t.place p = .error f := by
      unfold place
      rw [hr]
      rfl
    have hfind : t.isDirAt p = false := by
      unfold isDirAt find
      rw [hr]
      rfl
    have hf : f ≠ .notFound := by
      rintro rfl
      unfold Path.route at hr
      rw [if_neg (by simpa using hne)] at hr
      split at hr
      · cases hr
      · split at hr <;> cases hr
    have hc := createDir_of_place_error hplace
    have hm := t.createDirs_makes p
    generalize t.createDirsMoments p = ms at hm
    generalize t.createDirs p = result at hm
    obtain ⟨r, u⟩ := result
    dsimp only at hm ⊢
    cases hm with
    | nothing hp => exact absurd hp hne
    | made _ h => rw [hc] at h; cases h
    | refused _ h _ =>
      refine ⟨fun he => ?_, rfl⟩
      rw [refusal_eq_ok.mp he] at hfind
      cases hfind
    | rootless _ h _ => exact absurd (Except.error.inj (hc.symm.trans h)) hf
    | blocked _ h _ _ => exact absurd (Except.error.inj (hc.symm.trans h)) hf
    | madeBelow _ h _ _ _ => exact absurd (Except.error.inj (hc.symm.trans h)) hf
    | refusedBelow _ h _ _ _ => exact absurd (Except.error.inj (hc.symm.trans h)) hf

theorem Sees.passable_iff (h : Sees w t s) (hk : k <+: w) : t.Passable k ↔ s.Passable k := by
  constructor <;> intro hp <;> refine ⟨hp.size, fun j hj => ?_⟩
  · rcases h.above j (hj.trans hk) with he | ⟨hn, -⟩
    · exact he ▸ hp.free j hj
    · exact .inl hn
  · rcases h.above j (hj.trans hk) with he | ⟨-, hd⟩
    · exact he ▸ hp.free j hj
    · exact .inr hd

theorem Opens.openedTo (h : Opens t t' ws) (hu : ".." ∉ ws.names) : OpenedTo ws.location t t' :=
  fun k _ => (h.view k).imp_right fun ⟨hn, hd, hp⟩ => ⟨hn, hd, hp.prefix_location hu⟩

/-- Below the workspace nothing is made. -/
theorem Opens.get?_below (h : Opens t t' ws) (hu : ".." ∉ ws.names) (hk : ws.location <+: k)
    (hne : k ≠ ws.location) : t'.get? k = t.get? k :=
  h.get?_eq fun hp => hne ((hp.prefix_location hu).eq_of_length_le hk.length_le)

/-- Making a workspace comes to the same on trees that look the same from it. -/
theorem Opening.joint {r r' : Except Fault Unit} (ho : Opening t ws r t') (ho' : Opening s ws r' s')
    (hv : Opens t t' ws) (hv' : Opens s s' ws) (hu : ".." ∉ ws.names) (h : Sees ws.location t s) :
    (r = .ok () ↔ r' = .ok ()) ∧ Joint ws.location t s t' s' := by
  have hhere := h.inside _ (List.prefix_refl _)
  have hiff : r = .ok () ↔ r' = .ok () := by
    rw [ho.ok_iff, ho'.ok_iff, h.passable_iff (List.prefix_refl _), isDir, isDir, hhere]
  have hsame : t'.get? ws.location = s'.get? ws.location := by
    by_cases hr : r = .ok ()
    · have hd := isDir_iff.mp ((ho.reached hr).isDir _ (List.prefix_refl _))
      have hd' := isDir_iff.mp ((ho'.reached (hiff.mp hr)).isDir _ (List.prefix_refl _))
      rw [hd, hd']
    · rw [ho.failed hr, ho'.failed fun he => hr (hiff.mpr he)]
      exact hhere
  refine ⟨hiff, ⟨⟨fun k hk => ?_, fun k hk => ?_⟩, hv.openedTo hu, hv'.openedTo hu, fun k hk => ?_⟩⟩
  · by_cases hne : k = ws.location
    · rw [hne, hsame]
    · rw [hv.get?_below hu hk hne, hv'.get?_below hu hk hne]
      exact h.inside k hk
  · by_cases hne : k = ws.location
    · exact .inl (hne ▸ hsame)
    · by_cases hp : t.Passable k
      · have hd := isDir_iff.mp (ho.opened k hk hne hp)
        have hd' := isDir_iff.mp (ho'.opened k hk hne ((h.passable_iff hk).mp hp))
        exact .inl (hd.trans hd'.symm)
      · rw [ho.closed k hk hp, ho'.closed k hk fun hs => hp ((h.passable_iff hk).mpr hs)]
        exact h.above k hk
  · rcases hv.openedTo hu k hk with he | ⟨hn, hd, hpre⟩
    · exact .inl he
    · have hne : k ≠ ws.location := by
        rintro rfl
        exact hk (List.prefix_refl _)
      have hp : t.Passable k := by
        refine Classical.byContradiction fun hp => ?_
        rw [ho.closed k hpre hp, hn] at hd
        cases hd
      exact .inr (isDir_iff.mp (ho'.opened k hpre hne ((h.passable_iff hpre).mp hp)))

/-- The workspace is made in both trees, or in neither; then it is reached in both. -/
theorem createDirs_joint (hu : ".." ∉ ws.names) (h : Sees ws.location t s) :
    ((t.createDirs ws).1 = .ok () ↔ (s.createDirs ws).1 = .ok ()) ∧
      Joint ws.location t s (t.createDirs ws).2 (s.createDirs ws).2 := by
  by_cases hw : ws.text ≠ "" → ws.Walkable
  · have hm := t.createDirs_makes ws
    have hm' := s.createDirs_makes ws
    exact (hm.opening hw hu).joint (hm'.opening hw hu) hm.opens.2 hm'.opens.2 hu h
  · obtain ⟨hne, hw⟩ := Classical.not_imp.mp hw
    obtain ⟨hr, ht⟩ := createDirs_of_not_walkable hne hw t
    obtain ⟨hr', hs⟩ := createDirs_of_not_walkable hne hw s
    rw [ht, hs]
    exact ⟨⟨fun he => absurd he hr, fun he => absurd he hr'⟩, .refl h⟩

theorem reached_createDirs (hu : ".." ∉ ws.names) (h : (t.createDirs ws).1 = .ok ()) :
    (t.createDirs ws).2.Reached ws.location := by
  by_cases hw : ws.text ≠ "" → ws.Walkable
  · exact ((t.createDirs_makes ws).opening hw hu).reached h
  · obtain ⟨hne, hw⟩ := Classical.not_imp.mp hw
    exact absurd h (createDirs_of_not_walkable hne hw t).1

/-! ## Entries of the workspace -/

/-- Whether and where an entry of a workspace may be does not depend on the tree, once the workspace
is reached. -/
theorem place_child {n : String} (hn : IsStepName n) (hu : ".." ∉ ws.names) :
    (∃ f, ∀ t : FileTree, t.Reached ws.location → t.place (ws.child n) = .error f) ∨
      ∀ t : FileTree, t.Reached ws.location →
        t.place (ws.child n) = .ok (some (ws.location ++ [n]), false) := by
  have hnames := Path.names_child ws hn.toIsPlainName
  cases hr : (ws.child n).route with
  | error f =>
    refine .inl ⟨f, fun t _ => ?_⟩
    unfold place
    rw [hr]
    rfl
  | ok r =>
    obtain ⟨hw, -⟩ := Path.route_eq_ok_iff.mp hr
    have hplace : ∀ t : FileTree, t.Reached ws.location → t.place (ws.child n) =
        if maxNameSize < n.utf8ByteSize then .error .nameTooLong
        else .ok (some (ws.location ++ [n]), false) := by
      intro t ht
      have hf : t.follow (ws.child n).start ws.names = .ok ws.location := by
        rw [Path.start_child ws hn.toIsPlainName]
        exact ht.follow hu
      rw [place_of_follow hw hnames hf, Path.isSlashed_child ws hn.toIsPlainName]
      simp [ht.isDir _ (List.prefix_refl _), hn.ne_here, hn.ne_up]
    by_cases hsize : maxNameSize < n.utf8ByteSize
    · refine .inl ⟨.nameTooLong, fun t ht => ?_⟩
      rw [hplace t ht, if_pos hsize]
    · refine .inr fun t ht => ?_
      rw [hplace t ht, if_neg hsize]

/-- What is found of an entry of a workspace depends on its place alone. -/
theorem find_child {n : String} (hn : IsStepName n) (hu : ".." ∉ ws.names) :
    (∃ f, ∀ t : FileTree, t.Reached ws.location → t.find (ws.child n) = .error f) ∨
      ∀ t : FileTree, t.Reached ws.location → t.find (ws.child n) =
        if (t.get? (ws.location ++ [n])).isNone then .error .notFound
          else .ok (ws.location ++ [n]) := by
  have hnames := Path.names_child ws hn.toIsPlainName
  cases hr : (ws.child n).route with
  | error f =>
    refine .inl ⟨f, fun t _ => ?_⟩
    unfold find
    rw [hr]
    rfl
  | ok r =>
    obtain ⟨-, rfl⟩ := Path.route_eq_ok_iff.mp hr
    have hfind : ∀ t : FileTree, t.Reached ws.location → t.find (ws.child n) =
        if maxNameSize < n.utf8ByteSize then .error .nameTooLong
        else if (t.get? (ws.location ++ [n])).isNone then .error .notFound
        else .ok (ws.location ++ [n]) := by
      intro t ht
      have hf : t.follow ws.start ws.names = .ok ws.location := ht.follow hu
      unfold find
      rw [hr]
      simp only [bind, Except.bind, hnames, Path.start_child ws hn.toIsPlainName,
        Path.isSlashed_child ws hn.toIsPlainName, follow_append, hf, Bool.false_and]
      simp only [follow, ht.isDir _ (List.prefix_refl _), hn.ne_here, hn.ne_up, Bool.not_true,
        Bool.false_eq_true, ↓reduceIte, beq_iff_eq]
      split
      · next he => exact he.symm
      · next he => exact he.symm
    by_cases hsize : maxNameSize < n.utf8ByteSize
    · refine .inl ⟨.nameTooLong, fun t ht => ?_⟩
      rw [hfind t ht, if_pos hsize]
    · refine .inr fun t ht => ?_
      rw [hfind t ht, if_neg hsize]

/-- Both operations fail, or both succeed and the view stays the same. -/
def Together (w : Location) (t s : FileTree) (x y : Except Fault FileTree) : Prop :=
  (∃ f g, x = .error f ∧ y = .error g) ∨
    ∃ t' s', x = .ok t' ∧ y = .ok s' ∧ Joint w t s t' s' ∧ t'.Reached w ∧ s'.Reached w

theorem Reached.of_above (h : t.Reached w) (he : ∀ k, k <+: w → t'.get? k = t.get? k) :
    t'.Reached w :=
  ⟨h.size, fun k hk => isDir_iff.mpr ((he k hk).trans (isDir_iff.mp (h.isDir k hk)))⟩

theorem Reached.put_child {n : String} (h : t.Reached w) (e : Entry) :
    (t.put (w ++ [n]) e).Reached w := by
  refine h.of_above fun k hk => get?_put_of_ne ?_ _
  rintro rfl
  exact not_prefix_of_concat rfl hk

theorem Reached.erase_child {n : String} (h : t.Reached w) : (t.erase (w ++ [n])).Reached w := by
  refine h.of_above fun k hk => get?_erase_of_not_within (Bool.eq_false_iff.mpr fun hc => ?_)
  exact not_prefix_of_concat rfl ((isWithin_iff.mp hc).trans hk)

theorem IsStepName.isBase {n : String} (h : IsStepName n) (w : Location) :
    isBase (w ++ [n]) = false := by
  refine isBase_concat ⟨h.ne_up, ?_⟩
  rintro rfl
  exact absurd h.no_slash (by decide)

/-- An entry of the workspace that is put in its place. -/
theorem together_put {n : String} (hn : IsStepName n) (h : Sees w t s) (ht : t.Reached w)
    (hs : s.Reached w) (e : Entry) : Together w t s (.ok (t.put (w ++ [n]) e))
    (.ok (s.put (w ++ [n]) e)) :=
  .inr ⟨_, _, rfl, rfl, joint_put h (List.prefix_append _ _) (IsStepName.isBase hn w) e,
    ht.put_child e, hs.put_child e⟩

theorem together_write {n : String} (hn : IsStepName n) (hu : ".." ∉ ws.names)
    (h : Sees ws.location t s) (ht : t.Reached ws.location) (hs : s.Reached ws.location)
    (c : ByteArray) :
    Together ws.location t s (t.write (ws.child n) c) (s.write (ws.child n) c) := by
  unfold write
  rcases place_child hn hu with ⟨f, hf⟩ | hplace
  · rw [hf t ht, hf s hs]
    exact .inl ⟨f, f, rfl, rfl⟩
  · rw [hplace t ht, hplace s hs]
    have he := h.inside (ws.location ++ [n]) (List.prefix_append _ _)
    simp only [bind, Except.bind, Bool.false_eq_true, ↓reduceIte, he]
    cases s.get? (ws.location ++ [n]) with
    | none => exact together_put hn h ht hs _
    | some e =>
      cases e with
      | directory => exact .inl ⟨_, _, rfl, rfl⟩
      | file d x => exact together_put hn h ht hs _

theorem together_makeExecutable {n : String} (hn : IsStepName n) (hu : ".." ∉ ws.names)
    (h : Sees ws.location t s) (ht : t.Reached ws.location) (hs : s.Reached ws.location) :
    Together ws.location t s (t.makeExecutable (ws.child n)) (s.makeExecutable (ws.child n)) := by
  unfold makeExecutable
  rcases find_child hn hu with ⟨f, hf⟩ | hfind
  · rw [hf t ht, hf s hs]
    exact .inl ⟨f, f, rfl, rfl⟩
  · rw [hfind t ht, hfind s hs, h.inside (ws.location ++ [n]) (List.prefix_append _ _)]
    cases hc : s.get? (ws.location ++ [n]) with
    | none => exact .inl ⟨_, _, rfl, rfl⟩
    | some e =>
      have he := (h.inside (ws.location ++ [n]) (List.prefix_append _ _)).trans hc
      simp only [bind, Except.bind, Option.isNone_some, Bool.false_eq_true, ↓reduceIte, he, hc]
      cases e with
      | directory => exact .inr ⟨t, s, rfl, rfl, .refl h, ht, hs⟩
      | file d x => exact together_put hn h ht hs _

theorem together_rename {n m : String} (hn : IsStepName n) (hm : IsStepName m)
    (hu : ".." ∉ ws.names) (h : Sees ws.location t s) (ht : t.Reached ws.location)
    (hs : s.Reached ws.location) :
    Together ws.location t s (t.rename (ws.child n) (ws.child m))
    (s.rename (ws.child n) (ws.child m)) := by
  unfold rename
  rcases find_child hn hu with ⟨f, hf⟩ | hfind
  · rw [hf t ht, hf s hs]
    exact .inl ⟨f, f, rfl, rfl⟩
  · rw [hfind t ht, hfind s hs, h.inside (ws.location ++ [n]) (List.prefix_append _ _)]
    cases hc : s.get? (ws.location ++ [n]) with
    | none => exact .inl ⟨_, _, rfl, rfl⟩
    | some e =>
      have he := (h.inside (ws.location ++ [n]) (List.prefix_append _ _)).trans hc
      simp only [bind, Except.bind, Option.isNone_some, Bool.false_eq_true, ↓reduceIte, he, hc]
      cases e with
      | directory => exact .inl ⟨_, _, rfl, rfl⟩
      | file d x =>
        dsimp only
        rcases place_child hm hu with ⟨f, hf⟩ | hplace
        · rw [hf t ht, hf s hs]
          exact .inl ⟨f, f, rfl, rfl⟩
        · rw [hplace t ht, hplace s hs]
          have hd : t.isDir (ws.location ++ [m]) = s.isDir (ws.location ++ [m]) := by
            rw [isDir, isDir, h.inside _ (List.prefix_append _ _)]
          simp only [hd, Bool.false_eq_true, ↓reduceIte]
          split
          · exact .inl ⟨_, _, rfl, rfl⟩
          · have hj := joint_erase h (List.prefix_append ws.location [n])
            have hput := joint_put hj.sees (List.prefix_append ws.location [m])
              (IsStepName.isBase hm _)
              (.file d x)
            exact .inr ⟨_, _, rfl, rfl, hj.trans hput, ht.erase_child.put_child _,
              hs.erase_child.put_child _⟩

/-! ## Two operations in turn -/

/-- The operation does the same on trees that look the same from the location. -/
def Local (w : Location) (op : FileTree → Except Fault FileTree) : Prop :=
  ∀ t s : FileTree, Sees w t s → t.Reached w → s.Reached w → Together w t s (op t) (op s)

/-- Two operations, of which the second is done if the first succeeds. What was done stays if one
fails. -/
def inTurn (first second : FileTree → Except Fault FileTree) (t : FileTree) :
    Except Fault Unit × FileTree :=
  match first t with
  | .error f => (.error f, t)
  | .ok u => match second u with
    | .error f => (.error f, u)
    | .ok v => (.ok (), v)

/-- Both trees are changed, or what could not be done left them as they were; the location stays
reached. -/
structure Abreast (w : Location) (t s : FileTree) (x y : Except Fault Unit × FileTree) : Prop where
  result : x.1.toOption = y.1.toOption
  joint : Joint w t s x.2 y.2
  reached : x.2.Reached w
  reached' : y.2.Reached w

theorem Local.inTurn {first second : FileTree → Except Fault FileTree} (hf : Local w first)
    (hs : Local w second) (h : Sees w t s) (ht : t.Reached w) (hs' : s.Reached w) :
    Abreast w t s (inTurn first second t) (inTurn first second s) := by
  unfold FileTree.inTurn
  rcases hf t s h ht hs' with ⟨f, g, hx, hy⟩ | ⟨t', s', hx, hy, hj, ht, hs'⟩
  · rw [hx, hy]
    exact ⟨rfl, .refl h, ht, hs'⟩
  · rw [hx, hy]
    dsimp only
    rcases hs t' s' hj.sees ht hs' with ⟨f, g, hx, hy⟩ | ⟨t'', s'', hx, hy, hj', ht, hs'⟩
    · rw [hx, hy]
      exact ⟨rfl, hj, ht, hs'⟩
    · rw [hx, hy]
      exact ⟨rfl, hj.trans hj', ht, hs'⟩

end StudyFlow.FileTree
