import StudyFlow.Proofs.FileTree.Directories

/-!
# How far a path can be opened

Making a directory with those above it makes all that can be made: a place on the way becomes a
directory exactly if no file is in the way to it and no name is too long. So what is made, and
whether all of it is, can be read off the places on the way. Paths with `..` are left out.
-/

namespace StudyFlow.FileTree

variable {t u : FileTree} {p q : Path} {l m k : Location} {f : Fault}

/-- No file is in the way to the location, and no name on the way is too long. -/
structure Passable (t : FileTree) (l : Location) : Prop where
  size : ∀ n ∈ l, n.utf8ByteSize ≤ maxNameSize
  free : ∀ k, k <+: l → t.get? k = none ∨ t.get? k = some .directory

/-- All the way to the location, and there, are directories. -/
structure Reached (t : FileTree) (l : Location) : Prop where
  size : ∀ n ∈ l, n.utf8ByteSize ≤ maxNameSize
  isDir : ∀ k, k <+: l → t.isDir k = true

theorem Passable.of_isPrefix (h : t.Passable l) (hk : k <+: l) : t.Passable k :=
  ⟨fun n hn => h.size n (hk.subset hn), fun j hj => h.free j (hj.trans hk)⟩

theorem Reached.passable (h : t.Reached l) : t.Passable l :=
  ⟨h.size, fun k hk => .inr (isDir_iff.mp (h.isDir k hk))⟩

/-- A place that exists and can be passed is a directory. -/
theorem Passable.isDir (h : t.Passable l) (hs : (t.get? l).isSome) : t.isDir l = true := by
  rcases h.free l (List.prefix_refl _) with hn | hd
  · rw [hn] at hs
    cases hs
  · exact isDir_iff.mpr hd

theorem isDir_of_prefix_start (hk : k <+: p.start) : t.isDir k = true := by
  refine isDir_of_isBase ?_
  unfold Path.start at hk
  split at hk
  · cases k with
    | nil => rfl
    | cons x k =>
      obtain ⟨rfl, ht⟩ := List.cons_prefix_cons.mp hk
      obtain rfl := List.prefix_nil.mp ht
      rfl
  · obtain rfl := List.prefix_nil.mp hk
    rfl

theorem get?_start_isSome (t : FileTree) (p : Path) : (t.get? p.start).isSome := by
  rw [isDir_iff.mp (isDir_of_prefix_start (List.prefix_refl _))]
  rfl

theorem size_of_mem_start {n : String} (hn : n ∈ p.start) : n.utf8ByteSize ≤ maxNameSize := by
  unfold Path.start at hn
  split at hn
  · obtain rfl := List.mem_singleton.mp hn
    decide
  · cases hn

/-! ## Following names -/

/-- Where a step that stays or names an entry leads. -/
theorem prefix_foldl_cons {n : String} {ns : List String} (h : ".." ∉ n :: ns) (hn : n ≠ ".") :
    l ++ [n] <+: (n :: ns).foldl Path.stepFrom l := by
  have hu : n ≠ ".." := fun he => h (he ▸ List.mem_cons_self)
  rw [List.foldl_cons, Path.stepFrom_name hn hu]
  exact Path.prefix_foldl_stepFrom (fun hm => h (List.mem_cons_of_mem _ hm)) _

/-- Names lead on as long as there are directories. -/
theorem Reached.follow {ns : List String} (hu : ".." ∉ ns)
    (h : t.Reached (ns.foldl Path.stepFrom l)) :
    t.follow l ns = .ok (ns.foldl Path.stepFrom l) := by
  induction ns generalizing l with
  | nil => rfl
  | cons n ns ih =>
    have hl : t.isDir l = true := h.isDir l (Path.prefix_foldl_stepFrom hu l)
    have hne : n ≠ ".." := fun he => hu (he ▸ List.mem_cons_self)
    rw [follow, if_neg (by simp [hl])]
    by_cases hn : n = "."
    · subst hn
      rw [if_pos (by decide)]
      exact ih (fun hm => hu (List.mem_cons_of_mem _ hm)) h
    · have hp := prefix_foldl_cons (l := l) hu hn
      have hd := isDir_iff.mp (h.isDir _ hp)
      have hsize := h.size n (hp.subset (by simp))
      rw [if_neg (by simpa using hn), if_neg (by simpa using hne), if_neg (Nat.not_lt.mpr hsize),
        if_neg (by simp [hd])]
      rw [List.foldl_cons, Path.stepFrom_name hn hne] at h ⊢
      exact ih (fun hm => hu (List.mem_cons_of_mem _ hm)) h

/-- What is found by following names exists, and no name on the way is too long. -/
theorem follow_exists {ns : List String} (hu : ".." ∉ ns) (hl : (t.get? l).isSome)
    (hs : ∀ n ∈ l, n.utf8ByteSize ≤ maxNameSize) (h : t.follow l ns = .ok m) :
    (t.get? m).isSome ∧ ∀ n ∈ m, n.utf8ByteSize ≤ maxNameSize := by
  induction ns generalizing l with
  | nil =>
    obtain rfl : l = m := by simpa [follow] using h
    exact ⟨hl, hs⟩
  | cons n ns ih =>
    have hne : n ≠ ".." := fun he => hu (he ▸ List.mem_cons_self)
    have hu' : ".." ∉ ns := fun hm => hu (List.mem_cons_of_mem _ hm)
    rw [follow] at h
    split at h
    · cases h
    · split at h
      · exact ih hu' hl hs h
      · rw [if_neg (by simpa using hne)] at h
        split at h
        · cases h
        · next hsize =>
          split at h
          · cases h
          · next hsome =>
            refine ih hu' (Option.isSome_iff_ne_none.mpr (by simpa using hsome)) ?_ h
            intro x hx
            rcases List.mem_append.mp hx with hx | hx
            · exact hs x hx
            · exact List.mem_singleton.mp hx ▸ Nat.not_lt.mp hsize

/-- Names that lead nowhere come to a place where nothing is. -/
theorem follow_notFound {ns : List String} (hu : ".." ∉ ns) (h : t.follow l ns = .error .notFound) :
    ∃ k, k <+: ns.foldl Path.stepFrom l ∧ t.get? k = none := by
  induction ns generalizing l with
  | nil => cases h
  | cons n ns ih =>
    have hne : n ≠ ".." := fun he => hu (he ▸ List.mem_cons_self)
    have hu' : ".." ∉ ns := fun hm => hu (List.mem_cons_of_mem _ hm)
    rw [follow] at h
    split at h
    · cases h
    · split at h
      · next hn =>
        rw [List.foldl_cons, Path.stepFrom, if_pos hn]
        exact ih hu' h
      · next hn =>
        rw [if_neg (by simpa using hne)] at h
        split at h
        · cases h
        · split at h
          · next hnone => exact ⟨l ++ [n], prefix_foldl_cons hu (by simpa using hn),
              by simpa using hnone⟩
          · rw [List.foldl_cons, Path.stepFrom_name (by simpa using hn) hne]
            exact ih hu' h

/-- Names that come to another fault have directories on the way as far as it can be passed. -/
theorem follow_error {ns : List String} (hu : ".." ∉ ns)
    (hl : ∀ k, k <+: l → t.Passable k → t.isDir k = true) (h : t.follow l ns = .error f)
    (hf : f ≠ .notFound) : ∀ k, k <+: ns.foldl Path.stepFrom l → t.Passable k →
    t.isDir k = true := by
  induction ns generalizing l with
  | nil => cases h
  | cons n ns ih =>
    have hne : n ≠ ".." := fun he => hu (he ▸ List.mem_cons_self)
    have hu' : ".." ∉ ns := fun hm => hu (List.mem_cons_of_mem _ hm)
    intro k hk hp
    rw [follow] at h
    split at h
    · next hnd =>
      -- a file in the way: what can be passed is above it
      rcases List.prefix_or_prefix_of_prefix hk (Path.prefix_foldl_stepFrom hu l) with hkl | hlk
      · exact hl k hkl hp
      · exact absurd (hl l (List.prefix_refl _) (hp.of_isPrefix hlk)) (by simpa using hnd)
    · split at h
      · next hn =>
        rw [List.foldl_cons, Path.stepFrom, if_pos hn] at hk
        exact ih hu' hl h k hk hp
      · next hn =>
        have hn : n ≠ "." := by simpa using hn
        rw [if_neg (by simpa using hne)] at h
        split at h
        · next hsize =>
          -- a name too long: what can be passed is above it
          have hlong : ∀ j, j <+: l ++ [n] → t.Passable j → j ≠ l ++ [n] := by
            rintro j - hj rfl
            exact absurd (hj.size n (by simp)) (Nat.not_le.mpr hsize)
          rcases List.prefix_or_prefix_of_prefix hk (prefix_foldl_cons hu hn) with hkl | hlk
          · exact hl k ((List.prefix_concat_iff.mp hkl).resolve_left (hlong k hkl hp)) hp
          · exact absurd rfl (hlong _ (List.prefix_refl _) (hp.of_isPrefix hlk))
        · split at h
          · cases h
            exact absurd rfl hf
          · next hsome =>
            have hl' : ∀ k, k <+: l ++ [n] → t.Passable k → t.isDir k = true := by
              intro k hk hp
              rcases List.prefix_concat_iff.mp hk with rfl | hk
              · exact hp.isDir (Option.isSome_iff_ne_none.mpr (by simpa using hsome))
              · exact hl k hk hp
            rw [List.foldl_cons, Path.stepFrom_name hn hne] at hk
            exact ih hu' hl' h k hk hp

/-! ## Making one directory -/

/-- A path whose way is made of directories is found. -/
theorem Reached.isDirAt (hw : p.Walkable) (hu : ".." ∉ p.names) (h : t.Reached p.location) :
    t.isDirAt p = true := by
  have hroute : p.route = .ok ⟨p.start, p.names, p.isSlashed⟩ := Path.route_eq_ok_iff.mpr ⟨hw, rfl⟩
  have hd := h.isDir _ (List.prefix_refl _)
  have hfollow : t.follow p.start p.names = .ok p.location := h.follow hu
  have hfind : t.find p = .ok p.location := by
    unfold find
    rw [hroute]
    simp [bind, Except.bind, hfollow, hd]
  unfold FileTree.isDirAt
  rw [hfind]
  exact hd

theorem reached_of_isDirAt (hu : ".." ∉ p.names) (h : t.isDirAt p = true) :
    t.Reached p.location := by
  unfold isDirAt at h
  cases hf : t.find p with
  | error f => rw [hf] at h; cases h
  | ok l =>
    rw [hf] at h
    unfold find at hf
    cases hr : p.route with
    | error f => rw [hr] at hf; cases hf
    | ok r =>
      obtain ⟨hw, rfl⟩ := Path.route_eq_ok_iff.mp hr
      rw [hr] at hf
      simp only [bind, Except.bind] at hf
      cases hfollow : t.follow p.start p.names with
      | error f => rw [hfollow] at hf; cases hf
      | ok m =>
        rw [hfollow] at hf
        simp only at hf
        split at hf
        · cases hf
        · obtain rfl : m = l := Except.ok.inj hf
          have hsolid := (Path.solid_start t p).follow hfollow
          have hsize :=
            (follow_exists hu (t.get?_start_isSome p) (fun n hn => size_of_mem_start hn) hfollow).2
          rw [Path.location, follow_location hfollow]
          refine ⟨hsize, fun k hk => ?_⟩
          by_cases he : k = m
          · rwa [he]
          · exact hsolid k hk he

/-- Where the names of a path lead, its last one apart. -/
theorem location_concat {ns : List String} {n : String} (hn : p.names = ns ++ [n]) :
    p.location = Path.stepFrom (ns.foldl Path.stepFrom p.start) n := by
  rw [Path.location, hn, List.foldl_append]
  rfl

theorem place_of_follow_error {ns : List String} {n : String} (hw : p.Walkable)
    (hn : p.names = ns ++ [n]) (h : t.follow p.start ns = .error f) : t.place p = .error f := by
  have hroute : p.route = .ok ⟨p.start, p.names, p.isSlashed⟩ := Path.route_eq_ok_iff.mpr ⟨hw, rfl⟩
  unfold place
  rw [hroute]
  simp [bind, Except.bind, hn, h]

theorem place_of_follow {ns : List String} {n : String} (hw : p.Walkable) (hn : p.names = ns ++ [n])
    (h : t.follow p.start ns = .ok m) :
    t.place p = if !t.isDir m then .error .notDirectory
      else if n == "." || n == ".." then .ok (none, p.isSlashed)
      else if maxNameSize < n.utf8ByteSize then .error .nameTooLong
      else .ok (some (m ++ [n]), p.isSlashed) := by
  have hroute : p.route = .ok ⟨p.start, p.names, p.isSlashed⟩ := Path.route_eq_ok_iff.mpr ⟨hw, rfl⟩
  unfold place
  rw [hroute]
  simp only [bind, Except.bind, hn, List.getLast?_concat, List.dropLast_concat, h]
  rfl

theorem place_of_names_eq_nil (hw : p.Walkable) (hn : p.names = []) :
    t.place p = .ok (none, p.isSlashed) := by
  have hroute : p.route = .ok ⟨p.start, p.names, p.isSlashed⟩ := Path.route_eq_ok_iff.mpr ⟨hw, rfl⟩
  unfold place
  rw [hroute, hn]
  rfl

theorem names_cases (p : Path) : p.names = [] ∨ ∃ ns n, p.names = ns ++ [n] := by
  by_cases h : p.names = []
  · exact .inl h
  · exact .inr ⟨_, _, (List.dropLast_concat_getLast h).symm⟩

theorem createDir_of_place_error (h : t.place p = .error f) : t.createDir p = .error f := by
  unfold createDir
  rw [h]
  rfl

/-- A directory that has a place is not missing another one. -/
theorem createDir_of_place {o : Option Location × Bool} (h : t.place p = .ok o) :
    t.createDir p ≠ .error .notFound := by
  obtain ⟨o, slashed⟩ := o
  unfold createDir
  rw [h]
  simp only [bind, Except.bind]
  split
  · nofun
  · split <;> nofun

/-- Nothing is at some place on the way to a directory that cannot be made for want of another
one. -/
theorem createDir_notFound (hw : p.Walkable) (hu : ".." ∉ p.names)
    (h : t.createDir p = .error .notFound) :
    ∃ k, k <+: p.location ∧ t.get? k = none := by
  rcases names_cases p with hn | ⟨ns, n, hn⟩
  · exact absurd h (createDir_of_place (place_of_names_eq_nil hw hn))
  · have hun : ".." ∉ ns := fun hm => hu (hn ▸ List.mem_append_left _ hm)
    have hlast : ".." ∉ [n] := fun hm => hu (hn ▸ List.mem_append_right _ hm)
    cases hf : t.follow p.start ns with
    | error f =>
      have hc := createDir_of_place_error (place_of_follow_error hw hn hf)
      rw [h] at hc
      obtain rfl := Except.error.inj hc
      obtain ⟨k, hk, hnone⟩ := follow_notFound hun hf
      refine ⟨k, hk.trans ?_, hnone⟩
      rw [location_concat hn]
      exact Path.prefix_foldl_stepFrom hlast _
    | ok m =>
      cases hp : t.place p with
      | ok o => exact absurd h (createDir_of_place hp)
      | error f =>
        have hc := createDir_of_place_error hp
        rw [h] at hc
        obtain rfl := Except.error.inj hc
        rw [place_of_follow hw hn hf] at hp
        split at hp
        · cases hp
        · split at hp
          · cases hp
          · split at hp <;> cases hp

/-- Before another fault there are directories on the way as far as it can be passed. -/
theorem createDir_error (hw : p.Walkable) (hu : ".." ∉ p.names) (h : t.createDir p = .error f)
    (hf : f ≠ .notFound) (hk : k <+: p.location) (hne : k ≠ p.location) (hp : t.Passable k) :
    t.isDir k = true := by
  have hstart : ∀ k, k <+: p.start → t.Passable k → t.isDir k = true := fun k hk _ =>
    isDir_of_prefix_start hk
  rcases names_cases p with hn | ⟨ns, n, hn⟩
  · have hl : p.location = p.start := by rw [Path.location, hn]; rfl
    exact hstart k (hl ▸ hk) hp
  · have hun : ".." ∉ ns := fun hm => hu (hn ▸ List.mem_append_left _ hm)
    -- the last name apart, the way ends before the location
    have hbefore : k <+: ns.foldl Path.stepFrom p.start := by
      rw [location_concat hn] at hk hne
      by_cases hh : n = "."
      · rw [hh] at hk
        exact hk
      · have hup : n ≠ ".." := fun he => hu (hn ▸ he ▸ List.mem_append_right _ List.mem_cons_self)
        rw [Path.stepFrom_name hh hup] at hk hne
        exact (List.prefix_concat_iff.mp hk).resolve_left hne
    cases hfollow : t.follow p.start ns with
    | error g =>
      have hc := createDir_of_place_error (place_of_follow_error hw hn hfollow)
      rw [h] at hc
      obtain rfl := Except.error.inj hc
      exact follow_error hun hstart hfollow hf k hbefore hp
    | ok m =>
      rw [follow_location hfollow] at hbefore
      by_cases he : k = m
      · have hexists :=
          follow_exists hun (t.get?_start_isSome p) (fun n hn => size_of_mem_start hn) hfollow
        exact hp.isDir (he ▸ hexists.1)
      · exact (Path.solid_start t p).follow hfollow k hbefore he

/-- A directory is made where nothing is, below directories. -/
theorem createDir_ok (hw : p.Walkable) (hu : ".." ∉ p.names) (he : ¬ p.EndsHere)
    (hp : t.Passable p.location) (hd : ∀ k, k <+: p.location → k ≠ p.location → t.isDir k = true)
    (hnone : t.get? p.location = none) : t.createDir p = .ok (t.put p.location .directory) := by
  rcases names_cases p with hn | ⟨ns, n, hn⟩
  · have hl : p.location = p.start := by rw [Path.location, hn]; rfl
    rw [hl, isDir_iff.mp (isDir_of_prefix_start (List.prefix_refl _))] at hnone
    cases hnone
  · have hun : ".." ∉ ns := fun hm => hu (hn ▸ List.mem_append_left _ hm)
    have hh : n ≠ "." := by
      rintro rfl
      exact he (by rw [Path.EndsHere, hn, List.getLast?_concat])
    have hup : n ≠ ".." := fun he => hu (hn ▸ he ▸ List.mem_append_right _ List.mem_cons_self)
    have hl : p.location = ns.foldl Path.stepFrom p.start ++ [n] := by
      rw [location_concat hn, Path.stepFrom_name hh hup]
    have hreached : t.Reached (ns.foldl Path.stepFrom p.start) := by
      refine ⟨fun x hx => hp.size x (by simp [hl, hx]), fun k hk => hd k ?_ ?_⟩
      · exact hl ▸ hk.trans (List.prefix_append _ _)
      · intro he
        have hlen := hk.length_le
        rw [he, hl, List.length_append, List.length_singleton] at hlen
        omega
    have hsits : t.Sits p (ns.foldl Path.stepFrom p.start) n :=
      ⟨hw, ⟨ns, hn, hreached.follow hun⟩, hreached.isDir _ (List.prefix_refl _), hh, hup,
        hp.size n (by simp [hl])⟩
    have hplace := place_eq_ok_iff.mpr ⟨_, _, hsits, rfl, rfl⟩
    rw [← hl] at hplace
    unfold createDir
    rw [hplace]
    simp [bind, Except.bind, hnone]

/-- Where a directory was made, and what was above it. -/
theorem createDir_made (hu : ".." ∉ p.names) (h : t.createDir p = .ok u) :
    ¬ p.EndsHere ∧ t.Passable p.location ∧ t.get? p.location = none ∧
      (∀ k, k <+: p.location → k ≠ p.location → t.isDir k = true) ∧
      u = t.put p.location .directory ∧ isBase p.location = false := by
  obtain ⟨dir, n, hsit, hnone, rfl⟩ := createDir_eq_ok h
  have hl := hsit.location
  obtain ⟨ns, hn, hfollow⟩ := hsit.leads
  have hun : ".." ∉ ns := fun hm => hu (hn ▸ List.mem_append_left _ hm)
  have hsize := (follow_exists hun (t.get?_start_isSome p)
    (fun n hn => size_of_mem_start hn) hfollow).2
  have hsolid : ∀ k, k <+: dir ++ [n] → k ≠ dir ++ [n] → t.isDir k = true :=
    hsit.solid.concat hsit.isDir
  rw [hl]
  refine ⟨?_, ⟨?_, ?_⟩, hnone, hsolid, rfl, isBase_concat hsit.isEntryName⟩
  · rw [Path.EndsHere, hn, List.getLast?_concat]
    exact fun he => hsit.ne_here (Option.some.inj he)
  · intro x hx
    rcases List.mem_append.mp hx with hx | hx
    · exact hsize x hx
    · exact List.mem_singleton.mp hx ▸ hsit.size
  · intro k hk
    by_cases he : k = dir ++ [n]
    · exact .inl (he ▸ hnone)
    · exact .inr (isDir_iff.mp (hsolid k hk he))

theorem reached_start (t : FileTree) (p : Path) : t.Reached p.start :=
  ⟨fun _ hn => size_of_mem_start hn, fun _ hk => isDir_of_prefix_start hk⟩

theorem Reached.put (hb : isBase l = false) (hs : ∀ n ∈ l, n.utf8ByteSize ≤ maxNameSize)
    (hd : ∀ k, k <+: l → k ≠ l → t.isDir k = true) : (t.put l .directory).Reached l := by
  refine ⟨hs, fun k hk => isDir_iff.mpr ?_⟩
  by_cases he : k = l
  · rw [he, get?_put_self hb]
  · rw [get?_put_of_ne he]
    exact isDir_iff.mp (hd k hk he)

theorem refusal_eq_ok : t.refusal p f = .ok () ↔ t.isDirAt p = true := by
  unfold refusal
  split
  · next h => simp [h]
  · next h => simp [h]

/-- A directory that is not made is there already if it can be passed, unless it is named by a `.`
in it. -/
theorem refusal_eq_ok_iff (hw : p.Walkable) (hu : ".." ∉ p.names) (h : t.createDir p = .error f)
    (hd : ∀ k, k <+: p.location → k ≠ p.location → t.Passable k → t.isDir k = true) :
    t.refusal p f = .ok () ↔ t.Passable p.location ∧ (p.EndsHere → t.isDir p.location = true) := by
  rw [refusal_eq_ok]
  constructor
  · intro hi
    have hr := reached_of_isDirAt hu hi
    exact ⟨hr.passable, fun _ => hr.isDir _ (List.prefix_refl _)⟩
  · rintro ⟨hp, he⟩
    have habove : ∀ k, k <+: p.location → k ≠ p.location → t.isDir k = true := fun k hk hne =>
      hd k hk hne (hp.of_isPrefix hk)
    have hdir : t.isDir p.location = true := by
      rcases hp.free _ (List.prefix_refl _) with hnone | hsome
      · -- nothing there: it would have been made
        have hends : ¬ p.EndsHere := fun hends => by
          have hdir := he hends
          rw [isDir, hnone] at hdir
          cases hdir
        rw [createDir_ok hw hu hends hp habove hnone] at h
        cases h
      · exact isDir_iff.mpr hsome
    refine Reached.isDirAt hw hu ⟨hp.size, fun k hk => ?_⟩
    by_cases hk' : k = p.location
    · rwa [hk']
    · exact habove k hk hk'

/-! ## Making directories -/

/-- What making a directory with those above it comes to. -/
structure Opening (t : FileTree) (p : Path) (r : Except Fault Unit) (u : FileTree) : Prop where
  ok_iff : r = .ok () ↔ t.Passable p.location ∧ (p.EndsHere → t.isDir p.location = true)
  reached : r = .ok () → u.Reached p.location
  failed : r ≠ .ok () → u.get? p.location = t.get? p.location
  opened : ∀ k, k <+: p.location → k ≠ p.location → t.Passable k → u.isDir k = true
  closed : ∀ k, k <+: p.location → ¬ t.Passable k → u.get? k = t.get? k

/-- A path that a directory is missing for leads further than its parent. -/
theorem location_of_notFound (hw : p.Walkable) (hu : ".." ∉ p.names)
    (h : t.createDir p = .error .notFound) :
    p.location ≠ p.start := by
  intro hl
  obtain ⟨k, hk, hnone⟩ := createDir_notFound hw hu h
  have hd := isDir_of_prefix_start (t := t) (hl ▸ hk)
  rw [isDir, hnone] at hd
  cases hd

theorem not_prefix_of_concat {n : String} (h : l = m ++ [n]) : ¬ l <+: m := by
  intro hp
  have hlen := hp.length_le
  rw [h, List.length_append, List.length_singleton] at hlen
  omega

/-- What stays of a place when directories are made on the way to the one above it. -/
theorem Opens.get?_location (h : Opens t u q) (hq : p.parent? = some q)
    (hu : ".." ∉ p.names) {n : String} (hl : p.location = q.location ++ [n]) :
    u.get? p.location = t.get? p.location := by
  refine h.get?_eq fun hp => not_prefix_of_concat hl (hp.prefix_location ?_)
  exact fun hm => hu ((Path.parent?_names hq).subset hm)

theorem Opening.blocked {r : Except Fault Unit} (h : Opening t q r u) (ho : Opens t u q)
    (hr : r ≠ .ok ()) (hq : p.parent? = some q) (hu : ".." ∉ p.names) {n : String}
    (hl : p.location = q.location ++ [n]) :
    Opening t p r u := by
  have hkept := ho.get?_location hq hu hl
  have hnot : ¬ t.Passable q.location := fun hp => hr (h.ok_iff.mpr ⟨hp, fun he => by
    rw [he.location_parent? hq hu]
    exact isDir_of_prefix_start (List.prefix_refl _)⟩)
  have habove : q.location <+: p.location := hl ▸ List.prefix_append _ _
  refine ⟨⟨fun he => absurd he hr, fun hp => absurd (hp.1.of_isPrefix habove) hnot⟩,
    fun he => absurd he hr,
    fun _ => hkept, fun k hk hne hp => ?_, fun k hk hp => ?_⟩
  · rw [hl] at hk hne
    have hk := (List.prefix_concat_iff.mp hk).resolve_left hne
    refine h.opened k hk ?_ hp
    rintro rfl
    exact hnot hp
  · rw [hl] at hk
    rcases List.prefix_concat_iff.mp hk with he | hk
    · rw [he, ← hl, hkept]
    · exact h.closed k hk hp

theorem Opening.madeBelow {v : FileTree} (h : Opening t q (.ok ()) u) (ho : Opens t u q)
    (hq : p.parent? = some q) (hu : ".." ∉ p.names) {n : String}
    (hl : p.location = q.location ++ [n]) (hv : u.createDir p = .ok v) :
    Opening t p (.ok ()) v := by
  obtain ⟨he, hpass, hnone, hd, rfl, hb⟩ := createDir_made hu hv
  have hr := Reached.put hb hpass.size hd
  have hpass' : t.Passable p.location := by
    refine ⟨hpass.size, fun k hk => ?_⟩
    rw [hl] at hk
    rcases List.prefix_concat_iff.mp hk with hk | hk
    · left
      rw [hk, ← hl, ← ho.get?_location hq hu hl, hnone]
    · exact (h.ok_iff.mp rfl).1.free k hk
  exact ⟨⟨fun _ => ⟨hpass', fun hends => absurd hends he⟩, fun _ => rfl⟩, fun _ => hr,
    fun hne => absurd rfl hne, fun k hk _ _ => hr.isDir k hk,
    fun k hk hnot => absurd (hpass'.of_isPrefix hk) hnot⟩

theorem Opening.refusedBelow (h : Opening t q (.ok ()) u) (ho : Opens t u q) (hw : p.Walkable)
    (hq : p.parent? = some q) (hu : ".." ∉ p.names) {n : String}
    (hl : p.location = q.location ++ [n]) (hf : u.createDir p = .error f) :
    Opening t p (u.refusal p f) u := by
  have hkept := ho.get?_location hq hu hl
  have hreached := h.reached rfl
  have habove : ∀ k, k <+: p.location → k ≠ p.location → k <+: q.location := by
    intro k hk hne
    rw [hl] at hk hne
    exact (List.prefix_concat_iff.mp hk).resolve_left hne
  have hiff := refusal_eq_ok_iff hw hu hf fun k hk hne _ => hreached.isDir k (habove k hk hne)
  have hpass : u.Passable p.location ↔ t.Passable p.location := by
    constructor <;> intro hp <;> refine ⟨hp.size, fun k hk => ?_⟩ <;> by_cases hne : k = p.location
    · rw [hne, ← hkept]
      exact hp.free _ (List.prefix_refl _)
    · exact (h.ok_iff.mp rfl).1.free k (habove k hk hne)
    · rw [hne, hkept]
      exact hp.free _ (List.prefix_refl _)
    · exact hreached.passable.free k (habove k hk hne)
  have hdir : u.isDir p.location = t.isDir p.location := by rw [isDir, isDir, hkept]
  rw [hpass, hdir] at hiff
  refine ⟨hiff, fun hr => reached_of_isDirAt hu (refusal_eq_ok.mp hr), fun _ => hkept,
    fun k hk hne _ => hreached.isDir k (habove k hk hne), fun k hk hnot => ?_⟩
  by_cases hne : k = p.location
  · rw [hne, hkept]
  · exact absurd ((h.ok_iff.mp rfl).1.of_isPrefix (habove k hk hne)) hnot

/-- All that can be made on the way is made, and it is all made if nothing stands in the way. -/
theorem Makes.opening {ms : List FileTree} {r : Except Fault Unit} (h : Makes t p ms r u)
    (hw : p.text ≠ "" → p.Walkable) (hu : ".." ∉ p.names) : Opening t p r u := by
  have hnext : ∀ {p q : Path}, p.Walkable → ".." ∉ p.names → t.createDir p = .error .notFound →
      p.parent? = some q → (∃ n, p.location = q.location ++ [n]) ∧ (q.text ≠ "" → q.Walkable) ∧
        ".." ∉ q.names := by
    intro p q hw hu hc hq
    refine ⟨?_, Path.parent?_walkable hq hw, fun hm => hu ((Path.parent?_names hq).subset hm)⟩
    obtain ⟨n, -, hl⟩ := (Path.parent?_location hq hu).resolve_left (location_of_notFound hw hu hc)
    exact ⟨n, hl⟩
  induction h with
  | @nothing p hp =>
    have hn : p.names = [] := by rw [Path.names, hp]; rfl
    have hl : p.location = p.start := by rw [Path.location, hn]; rfl
    have hr := t.reached_start p
    rw [← hl] at hr
    exact ⟨⟨fun _ => ⟨hr.passable, fun _ => hr.isDir _ (List.prefix_refl _)⟩, fun _ => rfl⟩,
      fun _ => hr,
      fun _ => rfl, fun k hk _ _ => hr.isDir k hk, fun _ _ _ => rfl⟩
  | @made u p hp hc =>
    obtain ⟨he, hpass, hnone, hd, rfl, hb⟩ := createDir_made hu hc
    have hr := Reached.put hb hpass.size hd
    exact ⟨⟨fun _ => ⟨hpass, fun h => absurd h he⟩, fun _ => rfl⟩, fun _ => hr,
      fun h => absurd rfl h,
      fun k hk _ _ => hr.isDir k hk, fun k hk hn => absurd (hpass.of_isPrefix hk) hn⟩
  | @refused p f hp hc hf =>
    have hd := fun k hk hne hpass => createDir_error (k := k) (hw hp) hu hc hf hk hne hpass
    exact ⟨refusal_eq_ok_iff (hw hp) hu hc hd, fun hr =>
      reached_of_isDirAt hu (refusal_eq_ok.mp hr),
      fun _ => rfl, hd, fun _ _ _ => rfl⟩
  | @rootless p hp hc hq =>
    exact absurd (Path.location_of_parent?_eq_none hq hu) (location_of_notFound (hw hp) hu hc)
  | @blocked u p q ms f hp hc hq hm ih =>
    obtain ⟨⟨n, hl⟩, hwq, huq⟩ := hnext (hw hp) hu hc hq
    exact (ih hwq huq).blocked hm.opens.2 (by rintro ⟨⟩) hq hu hl
  | @madeBelow u v p q ms hp hc hq hm hv ih =>
    obtain ⟨⟨n, hl⟩, hwq, huq⟩ := hnext (hw hp) hu hc hq
    exact (ih hwq huq).madeBelow hm.opens.2 hq hu hl hv
  | @refusedBelow u p q ms f hp hc hq hm hf ih =>
    obtain ⟨⟨n, hl⟩, hwq, huq⟩ := hnext (hw hp) hu hc hq
    exact (ih hwq huq).refusedBelow hm.opens.2 (hw hp) hq hu hl hf

end StudyFlow.FileTree
