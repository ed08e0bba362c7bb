import StudyFlow.Proofs.Expansion.Workspaces
import StudyFlow.Proofs.Parameter.Validation
import StudyFlow.Proofs.Text.Search

/-!
# The outcomes of an expansion

An expansion is not needed, it fails with the first fault, or it gives one instance for each index
of the values. Parameters are judged before names. Which instances come out is said here in terms of
the labels of the parameters, for the indices they all have a value at.
-/

namespace StudyFlow

namespace Expansion

variable {t : Template} {ps : ParameterSet} {root : Path} {now : Millis} {n k : Nat}
  {e : ExpansionError}

/-- A label as a reader makes it who goes over its form once: two percent signs in a row make way
for the value, any other character stays. -/
def labelChars (value : List Char) : List Char → List Char
  | '%' :: '%' :: form => value ++ labelChars value form
  | c :: form => c :: labelChars value form
  | [] => []

/-- The label of a parameter at an index that it has a value at. -/
def labelText? (p : Parameter) (k : Nat) : Option String :=
  p.values[k]?.map fun value => String.ofList (labelChars value.toList p.label.toList)

/-- The labels of the parameters at an index, in the order of the set and without the empty ones. -/
def joinedLabels (ps : ParameterSet) (k : Nat) : String :=
  ".".intercalate ((ps.filterMap fun p => labelText? p k).filter fun label => label ≠ "")

def instanceName (t : Template) (ps : ParameterSet) (k : Nat) : String :=
  t.name ++ "_" ++ joinedLabels ps k

theorem substitute_percents (value form : List Char) :
    Text.substitute (· == ·) ['%', '%'] value 0 form = labelChars value form := by
  induction form using labelChars.induct with
  | case1 form ih =>
    rw [labelChars, ← ih]
    rfl
  | case2 c form hnot ih =>
    have hmatch : Text.matchesFront (· == ·) ['%', '%'] (c :: form) = false := by
      rw [← Bool.not_eq_true, Text.matchesFront_iff]
      rintro ⟨rest, hrest⟩
      obtain ⟨rfl, rfl⟩ := List.cons.inj hrest
      exact hnot rest rfl rfl
    rw [labelChars, Text.substitute, hmatch, ih]
    · rfl
    · exact hnot
  | case3 => rfl

theorem labelOf_eq (p : Parameter) (value : String) :
    p.labelOf value = String.ofList (labelChars value.toList p.label.toList) :=
  congrArg String.ofList (substitute_percents value.toList p.label.toList)

theorem labelAt?_eq (p : Parameter) (k : Nat) : p.labelAt? k = labelText? p k := by
  simp only [Parameter.labelAt?, labelText?, ← labelOf_eq]

/-- At an index that all parameters have a value at, each one has its label. -/
theorem labels_eq_joinedLabels (h : ps.Sound n) (hk : k < n) : labels ps k = joinedLabels ps k := by
  have hlabels : (ps.map fun p => p.labelOf (valueAt p k)) = ps.filterMap fun p =>
      labelText? p k := by
    rw [← List.filterMap_eq_map]
    refine List.filterMap_congr fun p hp => ?_
    have hlt : k < p.values.length := h.length_eq p hp ▸ hk
    simp [← labelAt?_eq, Parameter.labelAt?, valueAt, List.getElem?_eq_getElem hlt]
  unfold labels joinedLabels
  rw [hlabels]
  congr 2
  funext label
  by_cases hempty : label = "" <;> simp [hempty]

theorem nameAt_eq_instanceName (h : ps.Sound n) (hk : k < n) :
    nameAt t ps k = instanceName t ps k := by
  rw [nameAt, labels_eq_joinedLabels h hk, instanceName]

/-- What is wrong with the name at an index that comes after others. -/
inductive NameFault (step : String) (name : Nat → String) (before : List Nat) (k : Nat) :
    ExpansionError → Prop
  | spaced : Text.hasBlank (name k) = true →
    NameFault step name before k (.whitespaceInName step (name k))
  | repeated : Text.hasBlank (name k) = false → name k ∈ before.map name →
    NameFault step name before k (.duplicateInstance step (name k))

theorem NameFault.of_eq {step : String} {name name' : Nat → String} {before : List Nat}
    (h : NameFault step name before k e) (hk : name k = name' k)
    (hbefore : before.map name = before.map name') :
    NameFault step name' before k e := by
  cases h with
  | spaced h =>
    rw [hk] at h ⊢
    exact .spaced h
  | repeated h hm =>
    rw [hk] at h hm ⊢
    exact .repeated h (hbefore ▸ hm)

theorem NameFault.unique {step : String} {name : Nat → String} {before : List Nat}
    {e' : ExpansionError} (h : NameFault step name before k e)
    (h' : NameFault step name before k e') : e' = e := by
  cases h with
  | spaced hspaced =>
    cases h' with
    | spaced => rfl
    | repeated hword => simp [hspaced] at hword
  | repeated hword =>
    cases h' with
    | spaced hspaced => simp [hword] at hspaced
    | repeated => rfl

/-- The instances of a pass that has gone over some indices. -/
def pass (t : Template) (ps : ParameterSet) (root : Path) (now : Millis) (before rest : List Nat) :
    Except ExpansionError (List Instance) :=
  instancesAt t ps root now (before.map (nameAt t ps)).reverse rest

/-- An index ends the pass with the fault of its name, or the pass goes on behind it. -/
theorem pass_cons (before : List Nat) (k : Nat) (rest : List Nat) :
    (∃ e, NameFault t.name (nameAt t ps) before k e ∧
      pass t ps root now before (k :: rest) = .error e) ∨
      (∀ e, ¬NameFault t.name (nameAt t ps) before k e) ∧
        ∀ e, pass t ps root now before (k :: rest) = .error e ↔
        pass t ps root now (before ++ [k]) rest = .error e := by
  cases hspaced : Text.hasBlank (nameAt t ps k) with
  | true =>
    exact .inl ⟨_, .spaced hspaced, by simp [pass, instancesAt, checkName, hspaced, bind,
      Except.bind]⟩
  | false =>
    by_cases hm : nameAt t ps k ∈ before.map (nameAt t ps)
    · have hseen : (before.map (nameAt t ps)).reverse.contains (nameAt t ps k) = true := by
        simpa using hm
      refine .inl ⟨_, .repeated hspaced hm, ?_⟩
      simp only [pass, instancesAt, checkName, hspaced, hseen, bind, Except.bind,
        Bool.false_eq_true, if_false, if_true]
    · have hseen : (before.map (nameAt t ps)).reverse.contains (nameAt t ps k) = false := by
        simpa using hm
      refine .inr ⟨?_, fun e => ?_⟩
      · intro e h
        cases h with
        | spaced h => simp [hspaced] at h
        | repeated _ h => exact hm h
      · simp only [pass, instancesAt, checkName, hspaced, hseen, bind, Except.bind,
          Bool.false_eq_true, if_false,
          List.map_append, List.map_cons, List.map_nil, List.reverse_append, List.reverse_singleton,
          List.singleton_append]
        cases instancesAt t ps root now (nameAt t ps k ::
          (before.map (nameAt t ps)).reverse) rest <;>
          simp [pure, Except.pure]

/-- An expansion over indices ends with an error exactly if it is that of the first name at
fault. -/
theorem instancesAt_eq_error_iff {indices : List Nat} :
    instancesAt t ps root now [] indices = .error e ↔
    FirstFault (NameFault t.name (nameAt t ps)) indices e :=
  pass_eq_error_iff (NameFault t.name (nameAt t ps)) (pass t ps root now)
    (fun _ _ _ _ h h' => h.unique h')
    (fun _ _ h => by cases h) pass_cons [] indices e

/-- It succeeds exactly if the names are words and differ. -/
theorem exists_instancesAt_iff {indices : List Nat} :
    (∃ is, instancesAt t ps root now [] indices = .ok is) ↔
      (∀ k ∈ indices, Text.hasBlank (nameAt t ps k) = false) ∧
        (indices.map (nameAt t ps)).Nodup := by
  constructor
  · rintro ⟨is, h⟩
    obtain ⟨-, hnames, hdistinct⟩ := instancesAt_eq_ok h
    exact ⟨fun k hk => (hnames k hk).1, hdistinct⟩
  · rintro ⟨hwords, hdistinct⟩
    cases h : instancesAt t ps root now [] indices with
    | ok is => exact ⟨is, rfl⟩
    | error e =>
      obtain ⟨before, k, after, rfl, hfault, -⟩ := instancesAt_eq_error_iff.mp h
      cases hfault with
      | spaced hspaced => simp [hwords k (by simp)] at hspaced
      | repeated _ hm =>
        rw [List.map_append, List.map_cons, List.nodup_middle, List.nodup_cons] at hdistinct
        exact absurd (List.mem_append_left _ hm) hdistinct.1

end Expansion

/-- A fresh instance: it was made at the given time and nothing has happened to it. -/
structure Instance.Fresh (i : Instance) (now : Millis) : Prop where
  state : i.state = .initialized
  result : i.result = none
  restart : i.restart = false
  restarts : i.restarts = 0
  createdAt : i.createdAt = now
  startedAt : i.startedAt = none
  endedAt : i.endedAt = none
  runtime : i.runtime = none

namespace Template

open Expansion

variable {t : Template} {ps : ParameterSet} {root : Path} {now : Millis} {n k : Nat}
  {e : ExpansionError}

/-- The command or the restart command has the placeholder of a parameter or of a sample in it. -/
def Refers (t : Template) (ps : ParameterSet) : Prop :=
  ∃ cmd, (cmd = t.run.cmd ∨ t.run.restart = some cmd) ∧
    ∃ name ∈ ps.map Parameter.name ++
        ["MERLIN_SAMPLE_ID", "MERLIN_SAMPLE_PATH", "merlin_sample_id", "merlin_sample_path"],
      ("$(" ++ name ++ ")").toList <:+: cmd.toList

/-- The parameters can be used with the template: they are sound, and the names are words that
differ. -/
structure Usable (t : Template) (ps : ParameterSet) (n : Nat) : Prop where
  sound : ps.Sound n
  words : ∀ k < n, Text.hasBlank (instanceName t ps k) = false
  distinct : ((List.range n).map (instanceName t ps)).Nodup

/-- The instance is the one that the template has at an index. -/
structure InstanceAt (t : Template) (ps : ParameterSet) (root : Path) (now : Millis) (k : Nat)
    (i : Instance) : Prop where
  parameterIndex : i.parameterIndex = some k
  name : i.name = t.name ++ "_" ++ joinedLabels ps k
  workspace : i.workspace = (root.child t.name).child (joinedLabels ps k)
  restartCmd : i.restartCmd.isSome = t.run.restart.isSome
  templateName : i.templateName = t.name
  run : i.run = t.run
  restartLimit : i.restartLimit = t.run.maxRetries
  studyRoot : i.studyRoot = some root
  fresh : i.Fresh now

theorem referencesAny_iff {cmd : String} {names : List String} : referencesAny cmd names = true ↔
    ∃ name ∈ names, ("$(" ++ name ++ ")").toList <:+: cmd.toList := by
  simp only [referencesAny, List.any_eq_true, Text.contains_iff, placeholder]

theorem needsExpansion_iff : t.needsExpansion ps = true ↔ t.Refers ps := by
  unfold needsExpansion Refers sampleKeywords
  rw [Bool.or_eq_true, referencesAny_iff]
  cases hrestart : t.run.restart with
  | none => simp
  | some cmd =>
    rw [Option.map_some, Option.getD_some, referencesAny_iff]
    constructor
    · rintro (h | h)
      · exact ⟨_, .inl rfl, h⟩
      · exact ⟨_, .inr rfl, h⟩
    · rintro ⟨_, rfl | hcmd, h⟩
      · exact .inl h
      · exact .inr (Option.some.inj hcmd ▸ h)

theorem expand_of_not_refers (h : ps = [] ∨ ¬t.Refers ps) : t.expand ps root now = .ok none := by
  unfold expand
  rw [if_pos]
  rcases h with rfl | h
  · rfl
  · rw [Bool.or_eq_true]
    exact .inr (by simpa [← needsExpansion_iff] using h)

theorem expand_of_invalid (hne : ps ≠ []) (hrefers : t.Refers ps) (h : ps.validate = .error e) :
    t.expand ps root now = .error e := by
  unfold expand
  rw [if_neg (by simp [hne, needsExpansion_iff.mpr hrefers]), h]
  rfl

theorem expand_of_sound (hne : ps ≠ []) (hrefers : t.Refers ps) (h : ps.Sound n) :
    t.expand ps root now = some <$> instancesAt t ps root now [] (List.range n) := by
  unfold expand
  rw [if_neg (by simp [hne, needsExpansion_iff.mpr hrefers]),
    (ParameterSet.validate_eq_ok_iff hne).mpr h]
  rfl

theorem refers_of_expand {is : List Instance} (h : t.expand ps root now = .ok (some is)) :
    ps ≠ [] ∧ t.Refers ps := by
  by_contra hnot
  rw [expand_of_not_refers (by tauto)] at h
  cases h

theorem forall_hasBlank_iff (h : ps.Sound n) :
    (∀ k ∈ List.range n, Text.hasBlank (nameAt t ps k) = false) ↔
      ∀ k < n, Text.hasBlank (instanceName t ps k) = false := by
  simp only [List.mem_range]
  exact forall₂_congr fun k hk => by rw [nameAt_eq_instanceName h hk]

theorem map_nameAt (h : ps.Sound n) {indices : List Nat} (hlt : ∀ k ∈ indices, k < n) :
    indices.map (nameAt t ps) = indices.map (instanceName t ps) :=
  List.map_congr_left fun k hk => nameAt_eq_instanceName h (hlt k hk)

theorem firstFault_nameAt_iff (h : ps.Sound n) : FirstFault (NameFault t.name (nameAt t ps))
    (List.range n) e ↔
    FirstFault (NameFault t.name (instanceName t ps)) (List.range n) e := by
  refine FirstFault.congr fun before k after hsplit e => ?_
  have hlt : ∀ j ∈ before ++ k :: after, j < n := fun j hj => List.mem_range.mp (hsplit ▸ hj)
  have hk : nameAt t ps k = instanceName t ps k := nameAt_eq_instanceName h (hlt k (by simp))
  have hbefore := map_nameAt (t := t) h fun j hj => hlt j (List.mem_append_left _ hj)
  exact ⟨fun hfault => hfault.of_eq hk hbefore, fun hfault => hfault.of_eq hk.symm hbefore.symm⟩

theorem usable_iff (h : ps.Sound n) :
    (∃ is, instancesAt t ps root now [] (List.range n) = .ok is) ↔ t.Usable ps n := by
  rw [exists_instancesAt_iff, forall_hasBlank_iff h, map_nameAt h fun k hk => List.mem_range.mp hk]
  exact ⟨fun ⟨hwords, hdistinct⟩ => ⟨h, hwords, hdistinct⟩, fun h => ⟨h.words, h.distinct⟩⟩

theorem expand_eq_none_iff : t.expand ps root now = .ok none ↔ ps = [] ∨ ¬t.Refers ps := by
  refine ⟨fun h => ?_, expand_of_not_refers⟩
  by_contra hnot
  have hne : ps ≠ [] := fun hnil => hnot (.inl hnil)
  have hrefers : t.Refers ps := by
    by_contra hno
    exact hnot (.inr hno)
  cases hvalid : ps.validate with
  | error e =>
    rw [expand_of_invalid hne hrefers hvalid] at h
    cases h
  | ok n =>
    rw [expand_of_sound hne hrefers ((ParameterSet.validate_eq_ok_iff hne).mp hvalid)] at h
    cases hat : instancesAt t ps root now [] (List.range n) <;> rw [hat] at h <;> cases h

theorem exists_expand_eq_some_iff :
    (∃ is, t.expand ps root now = .ok (some is)) ↔ ps ≠ [] ∧ t.Refers ps ∧ ∃ n, t.Usable ps n := by
  constructor
  · rintro ⟨is, h⟩
    obtain ⟨hne, hrefers⟩ := refers_of_expand h
    obtain ⟨n, hvalid, hat⟩ := expand_eq_some h
    exact ⟨hne, hrefers, n,
      (usable_iff ((ParameterSet.validate_eq_ok_iff hne).mp hvalid)).mp ⟨is, hat⟩⟩
  · rintro ⟨hne, hrefers, n, husable⟩
    obtain ⟨is, hat⟩ : ∃ is, instancesAt t ps root now [] (List.range n) = .ok is :=
      (usable_iff husable.sound).mpr husable
    exact ⟨is, by rw [expand_of_sound hne hrefers husable.sound, hat]; rfl⟩

/-- There is one instance for each index that the parameters have values at. -/
theorem instanceAt_of_expand {is : List Instance} (h : t.expand ps root now = .ok (some is)) :
    t.Usable ps is.length ∧ ∀ k i, is[k]? = some i → t.InstanceAt ps root now k i := by
  obtain ⟨hne, -⟩ := refers_of_expand h
  obtain ⟨n, hvalid, hat⟩ := expand_eq_some h
  have hsound : ps.Sound n := (ParameterSet.validate_eq_ok_iff hne).mp hvalid
  have hlength : is.length = n := by
    rw [(instancesAt_eq_ok hat).1, List.length_map, List.length_range]
  refine ⟨hlength ▸ (usable_iff hsound).mp ⟨is, hat⟩, fun k i hi => ?_⟩
  have hk : k < n := hlength ▸ (List.getElem?_eq_some_iff.mp hi).1
  rw [getElem?_expand h hi]
  exact
    { parameterIndex := rfl
      name := nameAt_eq_instanceName hsound hk
      workspace := by rw [← labels_eq_joinedLabels hsound hk]; rfl
      restartCmd := by simp [instanceAt]
      templateName := rfl
      run := rfl
      restartLimit := rfl
      studyRoot := rfl
      fresh := ⟨rfl, rfl, rfl, rfl, rfl, rfl, rfl, rfl⟩ }

theorem expand_eq_error_iff : t.expand ps root now = .error e ↔ ps ≠ [] ∧ t.Refers ps ∧
    (FirstFault ParameterSet.Fault ps e ∨
      ∃ n, ps.Sound n ∧ FirstFault (NameFault t.name (instanceName t ps)) (List.range n) e) := by
  by_cases hneeded : ps = [] ∨ ¬t.Refers ps
  · rw [expand_of_not_refers hneeded]
    exact iff_of_false nofun (by tauto)
  have hne : ps ≠ [] := fun hnil => hneeded (.inl hnil)
  have hrefers : t.Refers ps := by
    by_contra hno
    exact hneeded (.inr hno)
  simp only [ne_eq, hne, not_false_eq_true, hrefers, true_and, ← ParameterSet.validate_eq_error_iff,
    ← ParameterSet.validate_eq_ok_iff hne]
  cases hvalid : ps.validate with
  | error e' => simp [expand_of_invalid hne hrefers hvalid]
  | ok n =>
    have hsound : ps.Sound n := (ParameterSet.validate_eq_ok_iff hne).mp hvalid
    have hstep : (some <$> instancesAt t ps root now [] (List.range n) = .error e) ↔
        instancesAt t ps root now [] (List.range n) = .error e := by
      cases instancesAt t ps root now [] (List.range n) <;> simp [Functor.map, Except.map]
    rw [expand_of_sound hne hrefers hsound, hstep, instancesAt_eq_error_iff,
      firstFault_nameAt_iff hsound]
    simp

/-- When a template is expanded, what comes out, and which error it is otherwise. Whether an
expansion is needed is asked before the parameters are looked at. They are judged in their order,
and names only if all of them are sound. -/
theorem expand_outcomes (t : Template) (ps : ParameterSet) (root : Path) (now : Millis) :
    (t.expand ps root now = .ok none ↔ ps = [] ∨ ¬t.Refers ps) ∧
    ((∃ is, t.expand ps root now = .ok (some is)) ↔ ps ≠ [] ∧ t.Refers ps ∧ ∃ n, t.Usable ps n) ∧
    (∀ is, t.expand ps root now = .ok (some is) →
      t.Usable ps is.length ∧ ∀ k i, is[k]? = some i → t.InstanceAt ps root now k i) ∧
    ∀ e, t.expand ps root now = .error e ↔ ps ≠ [] ∧ t.Refers ps ∧
      (FirstFault ParameterSet.Fault ps e ∨
        ∃ n, ps.Sound n ∧ FirstFault (NameFault t.name (instanceName t ps)) (List.range n) e) :=
  ⟨expand_eq_none_iff, exists_expand_eq_some_iff, fun _ h => instanceAt_of_expand h,
    fun _ => expand_eq_error_iff⟩

/-- A parameter with labels such as `X.a`. -/
def tagged (values : List String) : Parameter := ⟨"X", "X.%%", values⟩

def taggedInstance (values : List String) (k : Nat) : Instance :=
  instanceAt (Template.new "sim" "run $(X)") [tagged values] ⟨"study"⟩ 0 k

/-- Two values of one parameter: each instance has the label of its value in its name and in its
workspace. A value with a blank in it ends the expansion, and so does a value that comes again or a
parameter with a blank name. -/
theorem expand_outcomes_labelled :
    (Template.new "sim" "run $(X)").expand [tagged ["a", "b"]] ⟨"study"⟩ 0 =
        .ok (some [taggedInstance ["a", "b"] 0, taggedInstance ["a", "b"] 1]) ∧
      (Template.new "sim" "run $(X)").Usable [tagged ["a", "b"]] 2 ∧
      (Template.new "sim" "run $(X)").InstanceAt [tagged ["a", "b"]] ⟨"study"⟩ 0 1
        (taggedInstance ["a", "b"] 1) ∧
      joinedLabels [tagged ["a", "b"]] 1 = "X.b" ∧
      (taggedInstance ["a", "b"] 0).name = "sim_X.a" ∧
      (taggedInstance ["a", "b"] 1).name = "sim_X.b" ∧
      (taggedInstance ["a", "b"] 1).workspace.text = "study/sim/X.b" ∧
      FirstFault (NameFault "sim"
        (instanceName (Template.new "sim" "run $(X)") [tagged ["a", "b c"]]))
        (List.range 2) (.whitespaceInName "sim" "sim_X.b c") ∧
      FirstFault (NameFault "sim"
        (instanceName (Template.new "sim" "run $(X)") [tagged ["a", "a"]]))
        (List.range 2) (.duplicateInstance "sim" "sim_X.a") ∧
      FirstFault ParameterSet.Fault [⟨" ", "%%", ["a"]⟩] .emptyName := by
  have he : (Template.new "sim" "run $(X)").expand [tagged ["a", "b"]] ⟨"study"⟩ 0 =
      .ok (some [taggedInstance ["a", "b"] 0, taggedInstance ["a", "b"] 1]) := by rfl
  have hfault : ∀ {a b e}, ParameterSet.validate [tagged [a, b]] = .ok 2 →
      (Template.new "sim" "run $(X)").expand [tagged [a, b]] ⟨"study"⟩ 0 = .error e →
      FirstFault (NameFault "sim" (instanceName (Template.new "sim" "run $(X)") [tagged [a, b]]))
        (List.range 2) e := by
    intro a b e hvalid herror
    obtain ⟨-, -, -, hfailed⟩ :=
      expand_outcomes (Template.new "sim" "run $(X)") [tagged [a, b]] ⟨"study"⟩ 0
    obtain ⟨-, -, hparameters | ⟨n, hn, hnames⟩⟩ := (hfailed e).mp herror
    · rw [ParameterSet.validate_eq_error_iff.mpr hparameters] at hvalid
      cases hvalid
    · obtain rfl : n = 2 := (hn.length_eq _ List.mem_cons_self).symm
      exact hnames
  have hunnamed : (Template.new "sim" "run $( )").expand [⟨" ", "%%", ["a"]⟩] ⟨"study"⟩ 0 =
      .error .emptyName := by
    rfl
  obtain ⟨-, -, -, hfailed⟩ :=
    expand_outcomes (Template.new "sim" "run $( )") [⟨" ", "%%", ["a"]⟩] ⟨"study"⟩ 0
  have hblank : FirstFault ParameterSet.Fault [⟨" ", "%%", ["a"]⟩] .emptyName := by
    obtain ⟨-, -, hparameters | ⟨n, hn, -⟩⟩ := (hfailed _).mp hunnamed
    · exact hparameters
    · exact absurd (hn.named _ List.mem_cons_self) (by decide)
  obtain ⟨-, -, hshape, -⟩ :=
    expand_outcomes (Template.new "sim" "run $(X)") [tagged ["a", "b"]] ⟨"study"⟩ 0
  obtain ⟨husable, hat⟩ := hshape _ he
  exact ⟨he, husable, hat 1 _ rfl, by rfl, by rfl, by rfl, by rfl, hfault (by rfl) (by rfl),
    hfault (by rfl) (by rfl), hblank⟩

end Template

end StudyFlow
