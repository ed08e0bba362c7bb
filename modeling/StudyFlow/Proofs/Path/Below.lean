import StudyFlow.Proofs.Path.Components
import StudyFlow.Proofs.Path.Parents

/-!
# Paths below a root

A path is joined from a root and some parts. If none of the parts is absolute, the path leads to a
place below the root exactly if the parts have a step and none of their steps is a `..`. An absolute
part leaves the root behind.
-/

namespace StudyFlow.Path

/-- By its components, the path goes on behind the root, to a named place and without a way back.
Only behind the empty path can there be a leading `.`. -/
def IsBelow (p root : Path) : Prop :=
  ∃ rest, p.components = root.components ++ rest ∧ (∃ n, .name n ∈ rest) ∧
    ∀ c ∈ rest, c = .here ∨ ∃ n, c = .name n

/-! ## Leading components -/

theorem leadOf_cases (cs : List Char) : leadOf cs = [.root] ∨ leadOf cs = [.here] ∨
    leadOf cs = [] := by
  unfold leadOf
  split
  · exact .inl rfl
  · exact .inr (.inl rfl)
  · exact .inr (.inl rfl)
  · exact .inr (.inr rfl)

theorem leadOf_eq_root_iff {p : Path} : leadOf p.text.toList = [.root] ↔ p.isAbsolute = true := by
  unfold leadOf isAbsolute
  split
  · next h => simp [h]
  · next h => simp [h]
  · next h => simp [h]
  · next h _ _ =>
    split
    · next rest he => exact absurd he (h rest)
    · simp

/-- A step is a way back or a name. -/
theorem step_cases {cs : List Char} {c : Component} (h : c ∈ stepsOf cs) :
    c = .up ∨ ∃ n, c = .name n := by
  obtain ⟨w, -, rfl⟩ := List.mem_map.mp h
  unfold Component.ofPiece
  split
  · exact .inl rfl
  · exact .inr ⟨_, rfl⟩

theorem root_not_mem_stepsOf (cs : List Char) : .root ∉ stepsOf cs := by
  intro hm
  rcases step_cases hm with h | ⟨n, h⟩ <;> cases h

theorem ne_up_of_mem_stepsOf {cs : List Char} {n : String} (h : .name n ∈ stepsOf cs) :
    n ≠ ".." := by
  obtain ⟨w, -, hw⟩ := List.mem_map.mp h
  unfold Component.ofPiece at hw
  split at hw
  · cases hw
  · next hup =>
    cases hw
    intro he
    exact hup (by rw [← String.toList_ofList (l := w), he]; rfl)

theorem ne_root_of_mem_stepsOf {cs : List Char} {n : String} (h : .name n ∈ stepsOf cs) :
    n ≠ "/" := by
  obtain ⟨w, hw, he⟩ := List.mem_map.mp h
  have hno := slash_not_mem_of_mem_splitSlash cs w (List.mem_filter.mp hw).1
  unfold Component.ofPiece at he
  split at he
  · cases he
  · cases he
    intro hc
    have hlist : w = ['/'] := by rw [← String.toList_ofList (l := w), hc]; rfl
    exact hno (hlist ▸ List.mem_cons_self)

/-- A path that is not absolute adds its steps to those of a directory, behind a leading `.` if it
has one. -/
theorem components_of_relative {p : Path} (h : p.isAbsolute = false) :
    p.components = p.tail ∨ p.components = .here :: p.tail := by
  rw [components_eq]
  rcases leadOf_cases p.text.toList with hl | hl | hl
  · rw [leadOf_eq_root_iff.mp hl] at h
    cases h
  · exact .inr (by rw [hl]; rfl)
  · exact .inl (by rw [hl]; rfl)

theorem root_mem_components_iff {p : Path} : .root ∈ p.components ↔ p.isAbsolute = true := by
  have hsteps : Component.root ∉ stepsOf p.text.toList := root_not_mem_stepsOf _
  rw [components_eq, List.mem_append, ← leadOf_eq_root_iff]
  rcases leadOf_cases p.text.toList with hl | hl | hl <;> simp [hl, hsteps]

/-- A path below another one is absolute exactly if the other one is. -/
theorem IsBelow.isAbsolute_eq {p root : Path} (h : p.IsBelow root) :
    p.isAbsolute = root.isAbsolute := by
  obtain ⟨rest, hp, -, hrest⟩ := h
  have hroot : Component.root ∉ rest := by
    intro hm
    rcases hrest _ hm with h | ⟨n, h⟩
    · cases h
    · cases h
  rw [Bool.eq_iff_iff, ← root_mem_components_iff, ← root_mem_components_iff, hp, List.mem_append]
  simp [hroot]

/-! ## Joined parts -/

theorem join_of_empty {p q : Path} (hp : p.text = "") : p.join q = q := by
  unfold join
  split
  · rfl
  · rw [hp, if_pos (by simp), String.empty_append]

/-- A joined path is absolute if one of its parts is. -/
theorem isAbsolute_join (p q : Path) : (p.join q).isAbsolute = (q.isAbsolute || p.isAbsolute) := by
  cases hq : q.isAbsolute with
  | true =>
    rw [join, if_pos hq, hq]
    rfl
  | false =>
    by_cases hp : p.text = ""
    · have habs : p.isAbsolute = false := by
        unfold isAbsolute
        rw [hp]
        rfl
      rw [join_of_empty hp, hq, habs]
      rfl
    · have htail : Component.root ∉ q.tail := root_not_mem_stepsOf _
      rw [Bool.eq_iff_iff, ← root_mem_components_iff, components_join hp hq, List.mem_append]
      simp [htail, root_mem_components_iff]

theorem isAbsolute_foldl_join (p : Path) (parts : List Path) :
    (parts.foldl join p).isAbsolute = (parts.any isAbsolute || p.isAbsolute) := by
  induction parts generalizing p with
  | nil => rfl
  | cons q parts ih =>
    rw [List.foldl_cons, ih, isAbsolute_join, List.any_cons, ← Bool.or_assoc,
      Bool.or_comm q.isAbsolute]

theorem foldl_join_text_ne_empty {p : Path} (hp : p.text ≠ "") (parts : List Path) :
    (parts.foldl join p).text ≠ "" := by
  induction parts generalizing p with
  | nil => exact hp
  | cons part parts ih => exact ih (join_text_ne_empty (.inl hp))

/-- Relative parts add their steps one after the other. -/
theorem components_foldl_join {p : Path} (hp : p.text ≠ "") {parts : List Path}
    (h : ∀ q ∈ parts, q.isAbsolute = false) :
    (parts.foldl join p).components = p.components ++ parts.flatMap tail := by
  induction parts generalizing p with
  | nil => simp
  | cons q parts ih =>
    rw [List.foldl_cons, ih (join_text_ne_empty (.inl hp)) fun r hr =>
      h r (List.mem_cons_of_mem _ hr),
      components_join hp (h q List.mem_cons_self), List.flatMap_cons, List.append_assoc]

/-- Behind a root, and a leading `.` if the root is the empty path, the steps tell what is below
it. -/
theorem isBelow_iff_of_components {p root : Path} {front steps : List Component}
    (h : p.components = root.components ++ (front ++ steps)) (hfront : front = [] ∨ front = [.here])
    (hsteps : ∀ c ∈ steps, c = .up ∨ ∃ n, c = .name n) :
    p.IsBelow root ↔ steps ≠ [] ∧ .up ∉ steps := by
  have hhere : ∀ c ∈ front, c = .here := by rcases hfront with rfl | rfl <;> simp
  constructor
  · rintro ⟨rest, hp, ⟨n, hn⟩, hrest⟩
    obtain rfl := List.append_cancel_left (h.symm.trans hp)
    constructor
    · rintro rfl
      rw [List.append_nil] at hn
      cases hhere _ hn
    · intro hup
      rcases hrest _ (List.mem_append_right _ hup) with h | ⟨n, h⟩
      · cases h
      · cases h
  · rintro ⟨hne, hup⟩
    refine ⟨front ++ steps, h, ?_, fun c hc => ?_⟩
    · obtain ⟨c, hc⟩ := List.exists_mem_of_ne_nil steps hne
      rcases hsteps c hc with rfl | ⟨n, rfl⟩
      · exact absurd hc hup
      · exact ⟨n, List.mem_append_right _ hc⟩
    · rcases List.mem_append.mp hc with hc | hc
      · exact .inl (hhere c hc)
      · exact (hsteps c hc).imp (fun he => absurd (he ▸ hc) hup) id

/-- Relative parts lead to a place below the root exactly if they have steps and none of these leads
back. -/
theorem isBelow_foldl_join_iff {root q : Path} (hq : q.text ≠ "") {parts : List Path}
    (h : ∀ p ∈ q :: parts, p.isAbsolute = false) :
    ((q :: parts).foldl join root).IsBelow root ↔
      (q :: parts).flatMap tail ≠ [] ∧ .up ∉ (q :: parts).flatMap tail := by
  have hsteps : ∀ c ∈ (q :: parts).flatMap tail, c = .up ∨ ∃ n, c = .name n := by
    intro c hc
    obtain ⟨p, -, hp⟩ := List.mem_flatMap.mp hc
    exact step_cases hp
  by_cases hroot : root.text = ""
  · have hnil : root.components = [] := by
      rw [components_eq, hroot]
      rfl
    have hparts := components_foldl_join hq fun p hp => h p (List.mem_cons_of_mem _ hp)
    rw [List.foldl_cons, join_of_empty hroot]
    rcases components_of_relative (h q List.mem_cons_self) with hc | hc
    · exact isBelow_iff_of_components (by rw [hparts, hc, hnil]; rfl) (.inl rfl) hsteps
    · exact isBelow_iff_of_components (by rw [hparts, hc, hnil]; rfl) (.inr rfl) hsteps
  · exact isBelow_iff_of_components (components_foldl_join hroot h) (.inl rfl) hsteps

/-! ## The rest of a path below a root -/

/-- Without the first steps, the step pieces are left that follow them. -/
theorem stepPieces_dropSteps (n : Nat) (ws : List (List Char)) :
    stepPieces (dropSteps n ws) = (stepPieces ws).drop n := by
  induction ws generalizing n with
  | nil => simp [dropSteps, stepPieces]
  | cons w ws ih =>
    cases n with
    | zero => rfl
    | succ n =>
      rw [dropSteps]
      split
      · next hidle =>
        rw [ih]
        simp [stepPieces, hidle]
      · next hidle =>
        rw [ih]
        simp [stepPieces, hidle]

theorem dropSteps_subset (n : Nat) (ws : List (List Char)) : dropSteps n ws ⊆ ws := by
  induction ws generalizing n with
  | nil => simp [dropSteps]
  | cons w ws ih =>
    cases n with
    | zero => exact List.Subset.refl _
    | succ n =>
      rw [dropSteps]
      split
      · exact List.subset_cons_of_subset w (ih _)
      · exact List.subset_cons_of_subset w (ih _)

theorem stepPieces_dropWhile (ws : List (List Char)) :
    stepPieces (ws.dropWhile isIdlePiece) = stepPieces ws := by
  induction ws with
  | nil => rfl
  | cons w ws ih =>
    rw [List.dropWhile_cons]
    split
    · next hidle =>
      rw [ih]
      simp [stepPieces, hidle]
    · rfl

theorem leadOf_of_not_idle {w : List Char} (hs : '/' ∉ w) (h : isIdlePiece w = false) :
    leadOf w = [] := by
  unfold leadOf
  split
  · exact absurd List.mem_cons_self hs
  · cases h
  · exact absurd (List.mem_cons_of_mem _ List.mem_cons_self) hs
  · rfl

/-- Pieces that begin with a step are those of the path that is written with them. -/
theorem components_joinSlash {ws : List (List Char)} (hs : ∀ w ∈ ws, '/' ∉ w)
    (hhead : ∀ w ∈ ws.head?, isIdlePiece w = false) :
    (Path.mk (String.ofList (joinSlash ws))).components =
      (stepPieces ws).map Component.ofPiece := by
  rw [components_eq, String.toList_ofList]
  cases ws with
  | nil => rfl
  | cons w ws =>
    have hidle : isIdlePiece w = false := hhead w rfl
    have hlead : leadOf (joinSlash (w :: ws)) = [] := by
      have hw := leadOf_of_not_idle (hs w List.mem_cons_self) hidle
      by_cases hws : ws = []
      · rw [hws]
        exact hw
      · have hne : w ≠ [] := by
          rintro rfl
          cases hidle
        rw [joinSlash_cons w hws, leadOf_append_slash hne, hw]
    rw [hlead, stepsOf, splitSlash_joinSlash (List.cons_ne_nil w ws) hs]
    rfl

/-- A path that is written with the first pieces of another one, up to a step, has their
components. -/
theorem components_of_isPrefix {p q : Path} {vs : List (List Char)}
    (hq : q.text.toList = p.pieces.1 ++ joinSlash vs) (hv : vs <+: p.pieces.2)
    (hlast : ∀ w ∈ vs.getLast?, isIdlePiece w = false) :
    q.components = lead p.pieces.1 ++ (stepPieces vs).map Component.ofPiece := by
  obtain ⟨hcut, hs, ht⟩ := cut_pieces p
  have hc : p.components = lead p.pieces.1 ++ (stepPieces p.pieces.2).map Component.ofPiece := rfl
  obtain ⟨rest, hrest⟩ := hv
  rcases List.eq_nil_or_concat vs with rfl | ⟨us, w, rfl⟩
  · rw [components_eq, hq]
    generalize p.pieces.1 = first, p.pieces.2 = ws at hcut
    cases hcut <;> rfl
  rw [List.concat_eq_append] at *
  by_cases hr : rest = []
  · rw [hr, List.append_nil] at hrest
    rw [components_eq, hq, hrest, ← ht, ← components_eq, hc]
  · -- what is left out stands behind a slash
    have hno : ∀ v ∈ us ++ [w], '/' ∉ v := fun v hm => hs v (hrest ▸ List.mem_append_left _ hm)
    have hno' : ∀ v ∈ rest, '/' ∉ v := fun v hm => hs v (hrest ▸ List.mem_append_right _ hm)
    have hstep : isIdlePiece w = false := hlast w (by simp)
    have hne : q.text.toList ≠ [] := by
      intro hnil
      rw [hq] at hnil
      have hpieces := splitSlash_joinSlash (by simp) hno
      rw [(List.append_eq_nil_iff.mp hnil).2] at hpieces
      have hmem : w ∈ splitSlash [] :=
        hpieces ▸ List.mem_append_right us (List.mem_singleton_self w)
      obtain rfl := List.mem_singleton.mp hmem
      cases hstep
    have htext : p.text.toList = q.text.toList ++ '/' :: joinSlash rest := by
      rw [ht, hq, ← hrest, joinSlash_append (by simp) hr, List.append_assoc]
    have hsteps : stepsOf (joinSlash rest) = (stepPieces rest).map Component.ofPiece := by
      rw [stepsOf, splitSlash_joinSlash hr hno']
      rfl
    have hparts : stepPieces (us ++ [w] ++ rest) = stepPieces (us ++ [w]) ++ stepPieces rest :=
      List.filter_append _ _
    rw [components_eq p, htext, leadOf_append_slash hne, stepsOf_append_slash, hsteps,
      ← List.append_assoc,
      ← components_eq, ← hrest, hparts, List.map_append, ← List.append_assoc] at hc
    exact List.append_cancel_right hc

theorem not_idle_of_mem_getLast?_trimEnd {ws : List (List Char)} {w : List Char}
    (h : w ∈ (trimEnd ws).getLast?) :
    isIdlePiece w = false := by
  by_cases hk : trimEnd ws = []
  · rw [hk] at h
    cases h
  · obtain ⟨vs, v, hv, hidle⟩ := trimEnd_eq_concat hk
    rw [hv, List.getLast?_concat] at h
    exact Option.some.inj h ▸ hidle

/-- Idle pieces at the end of a path do not count. -/
theorem components_trimEnd (p : Path) :
    (Path.mk (String.ofList (p.pieces.1 ++ joinSlash (trimEnd p.pieces.2)))).components =
      p.components := by
  have hq : (Path.mk (String.ofList (p.pieces.1 ++ joinSlash (trimEnd p.pieces.2)))).text.toList =
      p.pieces.1 ++ joinSlash (trimEnd p.pieces.2) := String.toList_ofList
  rw [components_of_isPrefix hq (isPrefix_trimEnd _) fun _ => not_idle_of_mem_getLast?_trimEnd,
    stepPieces_trimEnd]
  rfl

/-- A path that goes on behind the components of a root has a rest below it with the other
components. -/
theorem exists_below? {p root : Path} {rest : List Component}
    (h : p.components = root.components ++ rest) :
    ∃ q, p.below? root = some q ∧ q.components = rest := by
  have htake : (p.components.take root.components.length == root.components) = true := by
    rw [h, List.take_left, beq_self_eq_true]
  unfold below?
  dsimp only
  rw [if_pos htake]
  split
  · next hzero =>
    have hnil : root.components = [] := List.length_eq_zero_iff.mp (by simpa using hzero)
    refine ⟨_, rfl, ?_⟩
    rw [components_trimEnd, h, hnil, List.nil_append]
  · next hsome =>
    refine ⟨_, rfl, ?_⟩
    obtain ⟨-, hs, -⟩ := cut_pieces p
    have hc : p.components = lead p.pieces.1 ++ (stepPieces p.pieces.2).map Component.ofPiece := rfl
    have hlead : (lead p.pieces.1).length ≤ root.components.length := by
      have hone : (lead p.pieces.1).length ≤ 1 := by
        unfold lead
        split <;> simp
      have hpos : root.components.length ≠ 0 := by simpa using hsome
      omega
    have hrest := congrArg (List.drop root.components.length) (h.symm.trans hc)
    rw [List.drop_left, List.drop_append, List.drop_eq_nil_of_le hlead, List.nil_append,
      ← List.map_drop] at hrest
    generalize root.components.length - (lead p.pieces.1).length = n at hrest ⊢
    rw [components_joinSlash, stepPieces_trimEnd, stepPieces_dropWhile, stepPieces_dropSteps, hrest]
    · intro w hw
      have hw := (List.dropWhile_suffix _).subset ((isPrefix_trimEnd _).subset hw)
      exact hs w (dropSteps_subset n p.pieces.2 hw)
    · intro w hw
      obtain ⟨vs, hvs⟩ := isPrefix_trimEnd ((dropSteps n p.pieces.2).dropWhile isIdlePiece)
      obtain ⟨ws, hws⟩ := List.head?_eq_some_iff.mp hw
      have hbegin : (dropSteps n p.pieces.2).dropWhile isIdlePiece = w :: (ws ++ vs) := by
        rw [← hvs, hws, List.cons_append]
      have hhead := List.head_dropWhile_not isIdlePiece (by rw [hbegin]; exact List.cons_ne_nil _ _)
      simpa only [hbegin, List.head_cons] using hhead

end StudyFlow.Path
