import StudyFlow.Proofs.FileTree.Routes

/-!
# Parents of paths

A path is cut into a leading component and pieces, and its parent is written with the first of them.
So a parent starts where the path does, has the first of its names, and is one step shorter.
-/

namespace StudyFlow

theorem joinSlash_cons (w : List Char) {ws : List (List Char)} (h : ws ≠ []) :
    joinSlash (w :: ws) = w ++ '/' :: joinSlash ws := by
  cases ws with
  | nil => exact absurd rfl h
  | cons v vs => rfl

theorem joinSlash_append {vs ws : List (List Char)} (hv : vs ≠ []) (hw : ws ≠ []) :
    joinSlash (vs ++ ws) = joinSlash vs ++ '/' :: joinSlash ws := by
  induction vs with
  | nil => exact absurd rfl hv
  | cons v vs ih =>
    by_cases hvs : vs = []
    · subst hvs
      exact joinSlash_cons v hw
    · rw [List.cons_append, joinSlash_cons v (by simp [hvs]), ih hvs, joinSlash_cons v hvs,
        List.append_assoc, List.cons_append]

theorem joinSlash_splitSlash (cs : List Char) : joinSlash (splitSlash cs) = cs := by
  induction cs with
  | nil => rfl
  | cons c cs ih =>
    by_cases hc : c = '/'
    · rw [hc, splitSlash_cons_slash, joinSlash_cons [] (splitSlash_ne_nil cs), ih]
      rfl
    · obtain ⟨w, ws, hw⟩ := List.exists_cons_of_ne_nil (splitSlash_ne_nil cs)
      rw [hw] at ih
      rw [splitSlash_cons hc hw, ← ih]
      cases ws with
      | nil => rfl
      | cons v vs => rfl

theorem splitSlash_joinSlash {ws : List (List Char)} (hne : ws ≠ []) (h : ∀ w ∈ ws, '/' ∉ w) :
    splitSlash (joinSlash ws) = ws := by
  induction ws with
  | nil => exact absurd rfl hne
  | cons w ws ih =>
    have hnil : splitSlash [] = [] ++ [[]] := rfl
    have hw : splitSlash w = [w] := splitSlash_append (h w List.mem_cons_self) hnil
    by_cases hws : ws = []
    · rw [hws]
      exact hw
    · rw [joinSlash_cons w hws, splitSlash_append_slash, hw,
        ih hws fun v hv => h v (List.mem_cons_of_mem _ hv)]
      rfl

theorem isPrefix_joinSlash {vs ws : List (List Char)} (h : vs <+: ws) :
    joinSlash vs <+: joinSlash ws := by
  induction ws generalizing vs with
  | nil =>
    obtain rfl := List.prefix_nil.mp h
    exact List.prefix_refl _
  | cons w ws ih =>
    cases vs with
    | nil => exact List.nil_prefix
    | cons v vs =>
      obtain ⟨rfl, hvs⟩ := List.cons_prefix_cons.mp h
      by_cases hv : vs = []
      · subst hv
        by_cases hw : ws = []
        · subst hw
          exact List.prefix_refl _
        · rw [joinSlash_cons v hw]
          exact List.prefix_append _ _
      · have hw : ws ≠ [] := by
          rintro rfl
          exact hv (List.prefix_nil.mp hvs)
        rw [joinSlash_cons v hv, joinSlash_cons v hw, List.prefix_append_right_inj,
          List.cons_prefix_cons]
        exact ⟨rfl, ih hvs⟩

namespace Path

/-! ## Pieces without their end -/

theorem isPrefix_trimEnd (ws : List (List Char)) : trimEnd ws <+: ws := by
  have h := List.dropWhile_suffix isIdlePiece (l := ws.reverse)
  rw [← List.reverse_prefix, List.reverse_reverse] at h
  exact h

theorem isPrefix_dropLastStep (ws : List (List Char)) : dropLastStep ws <+: ws :=
  (isPrefix_trimEnd _).trans ((List.dropLast_prefix _).trans (isPrefix_trimEnd ws))

theorem joinSlash_concat {vs : List (List Char)} (h : vs ≠ []) (w : List Char) :
    joinSlash (vs ++ [w]) = joinSlash vs ++ '/' :: w := joinSlash_append h (List.cons_ne_nil w [])

/-- What is left without the idle pieces at the end ends with a step. -/
theorem trimEnd_eq_concat {ws : List (List Char)} (h : trimEnd ws ≠ []) :
    ∃ vs w, trimEnd ws = vs ++ [w] ∧ isIdlePiece w = false := by
  have hne : ws.reverse.dropWhile isIdlePiece ≠ [] := by simpa [trimEnd] using h
  obtain ⟨w, vs, hw⟩ := List.exists_cons_of_ne_nil hne
  have hhead := List.head_dropWhile_not isIdlePiece hne
  exact ⟨vs.reverse, w, by simp [trimEnd, hw], by simpa [hw] using hhead⟩

def stepPieces (ws : List (List Char)) : List (List Char) := ws.filter fun w => !isIdlePiece w

theorem exists_trimEnd_append (ws : List (List Char)) :
    ∃ idle, ws = trimEnd ws ++ idle ∧ ∀ w ∈ idle, isIdlePiece w = true := by
  refine ⟨(ws.reverse.takeWhile isIdlePiece).reverse, ?_, fun w hw => ?_⟩
  · rw [trimEnd, ← List.reverse_append, List.takeWhile_append_dropWhile, List.reverse_reverse]
  · exact List.all_eq_true.mp List.all_takeWhile w (List.mem_reverse.mp hw)

theorem stepPieces_of_idle {ws : List (List Char)} (h : ∀ w ∈ ws, isIdlePiece w = true) :
    stepPieces ws = [] :=
  List.filter_eq_nil_iff.mpr fun w hw => by simp [h w hw]

theorem stepPieces_trimEnd (ws : List (List Char)) : stepPieces (trimEnd ws) = stepPieces ws := by
  obtain ⟨idle, hsplit, hidle⟩ := exists_trimEnd_append ws
  calc stepPieces (trimEnd ws)
      = stepPieces (trimEnd ws) ++ stepPieces idle := by
        rw [stepPieces_of_idle hidle, List.append_nil]
    _ = stepPieces (trimEnd ws ++ idle) := (List.filter_append _ _).symm
    _ = stepPieces ws := by rw [← hsplit]

theorem stepPieces_of_trimEnd_eq_nil {ws : List (List Char)} (h : trimEnd ws = []) :
    stepPieces ws = [] := by
  rw [← stepPieces_trimEnd, h]
  rfl

/-- Dropping the last step drops the last of the step pieces. -/
theorem stepPieces_dropLastStep {ws : List (List Char)} (h : trimEnd ws ≠ []) :
    ∃ w, isIdlePiece w = false ∧ stepPieces ws = stepPieces (dropLastStep ws) ++ [w] := by
  obtain ⟨vs, w, hw, hidle⟩ := trimEnd_eq_concat h
  refine ⟨w, hidle, ?_⟩
  rw [dropLastStep, stepPieces_trimEnd, ← stepPieces_trimEnd ws, hw,
    List.dropLast_concat, stepPieces, List.filter_append]
  simp [stepPieces, hidle]

/-- Without its last step a text is shorter. -/
theorem length_dropLastStep_lt {ws : List (List Char)} (h : trimEnd ws ≠ []) :
    (joinSlash (dropLastStep ws)).length < (joinSlash ws).length := by
  obtain ⟨vs, w, hkept, hidle⟩ := trimEnd_eq_concat h
  have hempty : w ≠ [] := by
    rintro rfl
    cases hidle
  have hdrop : dropLastStep ws <+: vs := by
    rw [dropLastStep, hkept, List.dropLast_concat]
    exact isPrefix_trimEnd _
  have hlt : (joinSlash vs).length < (joinSlash (vs ++ [w])).length := by
    by_cases hv : vs = []
    · simpa [hv, joinSlash, List.length_pos_iff] using hempty
    · rw [joinSlash_concat hv]
      simp only [List.length_append, List.length_cons]
      omega
  calc (joinSlash (dropLastStep ws)).length
      ≤ (joinSlash vs).length := (isPrefix_joinSlash hdrop).length_le
    _ < (joinSlash (vs ++ [w])).length := hlt
    _ ≤ (joinSlash ws).length := (isPrefix_joinSlash (hkept ▸ isPrefix_trimEnd ws)).length_le

/-! ## A path as it is cut into pieces -/

/-- A leading `.` is a name for the system. -/
def leadNames : List Char → List String
  | ['.'] => ["."]
  | _ => []

/-- The leading component and the pieces behind it, as a path is cut into them. -/
inductive Cut : List Char → List (List Char) → Prop
  | root {ws : List (List Char)} : Cut ['/'] ws
  | here {ws : List (List Char)} : Cut ['.'] ([] :: ws)
  | names {ws : List (List Char)} : Cut [] ws

theorem cut_pieces (p : Path) : Cut p.pieces.1 p.pieces.2 ∧ (∀ w ∈ p.pieces.2, '/' ∉ w) ∧
    p.text.toList = p.pieces.1 ++ joinSlash p.pieces.2 := by
  unfold pieces
  generalize p.text.toList = cs
  split
  · next rest =>
    exact ⟨.root, slash_not_mem_of_mem_splitSlash rest, by rw [joinSlash_splitSlash]; rfl⟩
  · exact ⟨.here, by simp, rfl⟩
  · next rest =>
    refine ⟨.here, ?_, ?_⟩
    · intro w hw
      rcases List.mem_cons.mp hw with rfl | hw
      · exact List.not_mem_nil
      · exact slash_not_mem_of_mem_splitSlash rest w hw
    · rw [joinSlash_cons [] (splitSlash_ne_nil rest), joinSlash_splitSlash]
      rfl
  · exact ⟨.names, slash_not_mem_of_mem_splitSlash cs, by rw [joinSlash_splitSlash]; rfl⟩

/-- The names on a path that starts as a cut path and goes on with some of its pieces. -/
theorem Cut.steps_isPrefix {first : List Char} {vs ws : List (List Char)} (h : Cut first ws)
    (hv : vs <+: ws) (hs : ∀ w ∈ ws, '/' ∉ w) :
    steps (first ++ joinSlash vs) = leadNames first ++
      (vs.filter fun w => w != []).map String.ofList := by
  have hplain : ∀ {vs : List (List Char)}, vs <+: ws →
      steps (joinSlash vs) = (vs.filter fun w => w != []).map String.ofList := by
    intro vs hv
    by_cases hne : vs = []
    · subst hne
      rfl
    · rw [steps, splitSlash_joinSlash hne fun w hw => hs w (hv.subset hw)]
  cases h with
  | root =>
    rw [← hplain hv, steps, List.singleton_append, splitSlash_cons_slash]
    rfl
  | names => exact hplain hv
  | @here ws =>
    cases vs with
    | nil => rfl
    | cons v vs =>
      obtain ⟨rfl, hvs⟩ := List.cons_prefix_cons.mp hv
      by_cases hne : vs = []
      · subst hne
        rfl
      · have hsplit : splitSlash (['.'] ++ joinSlash ([] :: vs)) = ['.'] :: vs := by
          rw [joinSlash_cons [] hne, List.nil_append, splitSlash_append_slash,
            splitSlash_joinSlash hne fun w hw => hs w (List.mem_cons_of_mem _ (hvs.subset hw))]
          rfl
        rw [steps, hsplit]
        rfl

theorem names_eq_pieces (p : Path) :
    p.names = leadNames p.pieces.1 ++ (p.pieces.2.filter fun w => w != []).map String.ofList := by
  obtain ⟨hcut, hs, ht⟩ := cut_pieces p
  rw [names, ht, hcut.steps_isPrefix (List.prefix_refl _) hs]

theorem isAbsolute_iff {p : Path} : p.isAbsolute = true ↔ ['/'] <+: p.text.toList := by
  unfold isAbsolute
  split
  · next rest h => simp [h]
  · next h =>
    refine ⟨nofun, fun hp => ?_⟩
    obtain ⟨rest, hr⟩ := hp
    exact absurd hr.symm (h rest)

theorem lead_of_isAbsolute {p : Path} (h : p.isAbsolute = true) : p.pieces.1 = ['/'] := by
  obtain ⟨rest, hr⟩ := isAbsolute_iff.mp h
  rw [pieces, ← hr]
  rfl

theorem filter_names_of_pieces (first : List Char) (vs : List (List Char)) :
    (leadNames first ++ (vs.filter fun w => w != []).map String.ofList).filter (· != ".") =
      (stepPieces vs).map String.ofList := by
  have hlead : (leadNames first).filter (· != ".") = [] := by
    unfold leadNames
    split
    · decide
    · rfl
  have hdot : ∀ w : List Char, String.ofList w = "." ↔ w = ['.'] := by
    intro w
    rw [← String.toList_inj, String.toList_ofList]
    rfl
  rw [List.filter_append, hlead, List.nil_append, List.filter_map, List.filter_filter, stepPieces]
  refine congrArg _ (List.filter_congr fun w _ => ?_)
  have hd : (String.ofList w == ".") = (w == ['.']) := by
    rw [Bool.eq_iff_iff, beq_iff_eq, beq_iff_eq, hdot]
  simp [isIdlePiece, hd, bne, Bool.and_comm]

/-! ## The parent of a path -/

/-- A parent is written with the first pieces of the path, or it is empty. -/
theorem parent?_cases {p q : Path} (h : p.parent? = some q) :
    trimEnd p.pieces.2 ≠ [] ∧ q.text.toList = p.pieces.1 ++ joinSlash (dropLastStep p.pieces.2) ∨
      trimEnd p.pieces.2 = [] ∧ p.pieces.1 = ['.'] ∧ q = empty := by
  unfold parent? at h
  dsimp only at h
  split at h
  · next hk =>
    obtain rfl := Option.some.inj h
    exact .inl ⟨by simpa using hk, String.toList_ofList⟩
  · next hk =>
    split at h
    · next hf => exact .inr ⟨by simpa using hk, by simpa using hf, (Option.some.inj h).symm⟩
    · cases h

theorem trimEnd_of_parent?_eq_none {p : Path} (h : p.parent? = none) : trimEnd p.pieces.2 = [] := by
  unfold parent? at h
  dsimp only at h
  split at h
  · cases h
  · next hk => simpa using hk

/-- The names of a parent that is written with pieces. -/
theorem names_of_dropLastStep {p q : Path}
    (h : q.text.toList = p.pieces.1 ++ joinSlash (dropLastStep p.pieces.2)) :
    q.names = leadNames p.pieces.1 ++
      ((dropLastStep p.pieces.2).filter fun w => w != []).map String.ofList := by
  obtain ⟨hcut, hs, -⟩ := cut_pieces p
  rw [names, h, hcut.steps_isPrefix (isPrefix_dropLastStep _) hs]

/-- The text of a parent is the first part of the text of the path. -/
theorem parent?_text {p q : Path} (h : p.parent? = some q) : q.text.toList <+: p.text.toList := by
  obtain ⟨-, -, ht⟩ := cut_pieces p
  rcases parent?_cases h with ⟨-, hq⟩ | ⟨-, -, rfl⟩
  · rw [ht, hq]
    exact (List.prefix_append_right_inj _).mpr (isPrefix_joinSlash (isPrefix_dropLastStep _))
  · exact List.nil_prefix

/-- A parent starts where the path does. -/
theorem parent?_start {p q : Path} (h : p.parent? = some q) : q.start = p.start := by
  have habs : q.isAbsolute = p.isAbsolute := by
    rw [Bool.eq_iff_iff]
    constructor
    · exact fun ha => isAbsolute_iff.mpr ((isAbsolute_iff.mp ha).trans (parent?_text h))
    · intro ha
      have hlead := lead_of_isAbsolute ha
      rcases parent?_cases h with ⟨-, hq⟩ | ⟨-, hf, -⟩
      · rw [isAbsolute_iff, hq, hlead]
        exact List.prefix_append _ _
      · rw [hlead] at hf
        exact absurd hf (by decide)
  rw [start, start, habs]

/-- A parent has the first of the names of the path. -/
theorem parent?_names {p q : Path} (h : p.parent? = some q) : q.names <+: p.names := by
  rcases parent?_cases h with ⟨-, hq⟩ | ⟨-, -, rfl⟩
  · rw [names_eq_pieces p, names_of_dropLastStep hq]
    exact (List.prefix_append_right_inj _).mpr (((isPrefix_dropLastStep _).filter _).map _)
  · exact List.nil_prefix

theorem parent?_length_lt {p q : Path} (h : p.parent? = some q) :
    q.text.length < p.text.length := by
  obtain ⟨-, -, ht⟩ := cut_pieces p
  rw [← String.length_toList, ← String.length_toList, ht]
  rcases parent?_cases h with ⟨hk, hq⟩ | ⟨-, hf, rfl⟩
  · have hlt := length_dropLastStep_lt hk
    rw [hq, List.length_append, List.length_append]
    omega
  · simp [hf, empty]

/-- A parent that is not empty is a path for the system if the path is. -/
theorem parent?_walkable {p q : Path} (h : p.parent? = some q) (hp : p.Walkable)
    (hq : q.text ≠ "") :
    q.Walkable := by
  obtain ⟨rest, hrest⟩ := parent?_text h
  have ht : p.text = q.text ++ String.ofList rest := by
    rw [← String.toList_inj, ← hrest]
    simp
  refine ⟨hq, fun hz => hp.no_zero (hrest ▸ List.mem_append_left _ hz), ?_⟩
  have hsize := hp.size
  rw [ht, String.utf8ByteSize_append] at hsize
  omega

/-- The path ends with a `.` that stays where it is. -/
def EndsHere (p : Path) : Prop := p.names.getLast? = some "."

/-- A parent that ends with a `.` is that name or nothing. -/
theorem EndsHere.parent? {p q : Path} (he : q.EndsHere) (h : p.parent? = some q) :
    q.names.filter (· != ".") = [] := by
  rcases parent?_cases h with ⟨-, hq⟩ | ⟨-, -, rfl⟩
  · have hn := names_of_dropLastStep hq
    rw [hn, filter_names_of_pieces, dropLastStep, stepPieces_trimEnd]
    by_cases hne : trimEnd (trimEnd p.pieces.2).dropLast = []
    · rw [stepPieces_of_trimEnd_eq_nil hne]
      rfl
    · -- the last piece is a step, and so is the last name
      obtain ⟨vs, w, hw, hidle⟩ := trimEnd_eq_concat hne
      have hempty : w ≠ [] := by
        rintro rfl
        cases hidle
      rw [EndsHere, hn, dropLastStep, hw, List.filter_append] at he
      simp only [List.filter_cons, bne_iff_ne, ne_eq, hempty, not_false_eq_true, ↓reduceIte,
        List.filter_nil, List.map_append, List.map_cons, List.map_nil, ← List.append_assoc,
        List.getLast?_concat, Option.some.injEq] at he
      have hdot : w = ['.'] := by rw [← String.toList_ofList (l := w), he]; rfl
      rw [hdot] at hidle
      cases hidle
  · cases he

end Path

end StudyFlow
