import Mathlib.Data.List.Nodup
import StudyFlow.Parameter
import StudyFlow.Proofs.FirstFault

/-!
# What makes a set of parameters usable

A set can be expanded if its names are given and differ and all its parameters have one number of
values, at least one. Otherwise the first parameter that cannot be used with those before it is
named.
-/

namespace StudyFlow.ParameterSet

variable {ps : ParameterSet} {n : Nat} {e : ExpansionError}

/-- The parameters can be used together, and each one has the given number of values. -/
structure Sound (ps : ParameterSet) (n : Nat) : Prop where
  named : ∀ p ∈ ps, Text.isBlankText p.name = false
  distinct : (ps.map Parameter.name).Nodup
  valued : ∀ p ∈ ps, p.values ≠ []
  length_eq : ∀ p ∈ ps, p.values.length = n

theorem Sound.pos (h : Sound ps n) (hne : ps ≠ []) : 0 < n := by
  obtain ⟨p, rest, rfl⟩ := List.exists_cons_of_ne_nil hne
  rw [← h.length_eq p List.mem_cons_self]
  exact List.length_pos_iff.mpr (h.valued p List.mem_cons_self)

theorem sound_cons_iff {p : Parameter} : Sound (p :: ps) n ↔
    Text.isBlankText p.name = false ∧ p.name ∉ ps.map Parameter.name ∧ p.values ≠ [] ∧
      p.values.length = n ∧ Sound ps n := by
  constructor
  · intro h
    obtain ⟨hnew, hdistinct⟩ := List.nodup_cons.mp h.distinct
    obtain ⟨hnamed, hnameds⟩ := List.forall_mem_cons.mp h.named
    obtain ⟨hvalued, hvalueds⟩ := List.forall_mem_cons.mp h.valued
    obtain ⟨hlength, hlengths⟩ := List.forall_mem_cons.mp h.length_eq
    exact ⟨hnamed, hnew, hvalued, hlength, hnameds, hdistinct, hvalueds, hlengths⟩
  · rintro ⟨hnamed, hnew, hvalued, hlength, h⟩
    exact ⟨List.forall_mem_cons.mpr ⟨hnamed, h.named⟩, List.nodup_cons.mpr ⟨hnew, h.distinct⟩,
      List.forall_mem_cons.mpr ⟨hvalued, h.valued⟩, List.forall_mem_cons.mpr ⟨hlength, h.length_eq⟩⟩

/-- What is wrong with a parameter that comes after others. The faults are looked for in this
order. -/
inductive Fault (before : ParameterSet) (p : Parameter) : ExpansionError → Prop
  | unnamed : Text.isBlankText p.name = true → Fault before p .emptyName
  | repeated : Text.isBlankText p.name = false → p.name ∈ before.map Parameter.name →
    Fault before p (.duplicateParameter p.name)
  | unvalued : Text.isBlankText p.name = false → p.name ∉ before.map Parameter.name →
    p.values = [] → Fault before p (.emptyValues p.name)
  | uneven {first : Parameter} : Text.isBlankText p.name = false →
    p.name ∉ before.map Parameter.name →
    p.values ≠ [] → before.head? = some first → p.values.length ≠ first.values.length →
    Fault before p (.unequalLengths p.name first.values.length p.values.length)

/-- Only one fault counts. -/
theorem Fault.unique {before : ParameterSet} {p : Parameter} {e' : ExpansionError}
    (h : Fault before p e) (h' : Fault before p e') : e' = e := by
  cases h with
  | unnamed hblank =>
    cases h' with
    | unnamed => rfl
    | repeated hnamed => simp [hblank] at hnamed
    | unvalued hnamed => simp [hblank] at hnamed
    | uneven hnamed => simp [hblank] at hnamed
  | repeated hnamed hmem =>
    cases h' with
    | unnamed hblank => simp [hnamed] at hblank
    | repeated => rfl
    | unvalued _ hnew => exact absurd hmem hnew
    | uneven _ hnew => exact absurd hmem hnew
  | unvalued hnamed hnew hempty =>
    cases h' with
    | unnamed hblank => simp [hnamed] at hblank
    | repeated _ hmem => exact absurd hmem hnew
    | unvalued => rfl
    | uneven _ _ hvalued => exact absurd hempty hvalued
  | uneven hnamed hnew hvalued hfirst =>
    cases h' with
    | unnamed hblank => simp [hnamed] at hblank
    | repeated _ hmem => exact absurd hmem hnew
    | unvalued _ _ hempty => exact absurd hempty hvalued
    | uneven _ _ _ hfirst' =>
      obtain rfl := Option.some.inj (hfirst'.symm.trans hfirst)
      rfl

/-- The check of a set that has gone over some parameters. -/
def pass (before rest : ParameterSet) : Except ExpansionError Nat :=
  validateFrom (before.map Parameter.name).reverse (before.head?.map fun p => p.values.length) rest

theorem pass_concat {before : ParameterSet} {p : Parameter} {rest : ParameterSet} {n : Nat}
    (h : n = ((before.head?.map fun q => q.values.length).getD p.values.length)) :
    pass (before ++ [p]) rest =
      validateFrom (p.name :: (before.map Parameter.name).reverse) (some n) rest := by
  unfold pass
  rw [List.map_append, List.reverse_append]
  cases before <;> simp [h]

/-- A parameter ends the check with its fault, or the check goes on behind it. -/
theorem pass_cons (before : ParameterSet) (p : Parameter) (rest : ParameterSet) :
    (∃ e, Fault before p e ∧ pass before (p :: rest) = .error e) ∨
      (∀ e, ¬Fault before p e) ∧ pass before (p :: rest) = pass (before ++ [p]) rest := by
  cases hblank : Text.isBlankText p.name with
  | true => exact .inl ⟨_, .unnamed hblank, by rw [pass, validateFrom, if_pos hblank]⟩
  | false =>
    by_cases hmem : p.name ∈ before.map Parameter.name
    · exact .inl ⟨_, .repeated hblank hmem, by simp [pass, validateFrom, hblank, hmem]⟩
    by_cases hempty : p.values = []
    · exact .inl ⟨_, .unvalued hblank hmem hempty,
        by simp [pass, validateFrom, hblank, hmem, hempty]⟩
    cases hfirst : before.head? with
    | none =>
      right
      constructor
      · intro e h
        cases h with
        | unnamed h => simp [hblank] at h
        | repeated _ h => exact hmem h
        | unvalued _ _ h => exact hempty h
        | uneven _ _ _ h => simp [hfirst] at h
      · rw [pass_concat (n := p.values.length) (by simp [hfirst])]
        simp [pass, validateFrom, hblank, hmem, hempty, hfirst]
    | some first =>
      by_cases hlength : p.values.length = first.values.length
      · right
        constructor
        · intro e h
          cases h with
          | unnamed h => simp [hblank] at h
          | repeated _ h => exact hmem h
          | unvalued _ _ h => exact hempty h
          | uneven _ _ _ h hne =>
            obtain rfl := Option.some.inj (h.symm.trans hfirst)
            exact hne hlength
        · rw [pass_concat (n := first.values.length) (by simp [hfirst])]
          simp [pass, validateFrom, hblank, hmem, hempty, hfirst, hlength]
      · exact .inl ⟨_, .uneven hblank hmem hempty hfirst hlength,
          by simp [pass, validateFrom, hblank, hmem, hempty, hfirst, hlength]⟩

/-- The check of a set ends with an error exactly if it is that of the first parameter at fault. -/
theorem validate_eq_error_iff : ps.validate = .error e ↔ FirstFault Fault ps e := by
  refine pass_eq_error_iff Fault pass (fun _ _ _ _ h h' => h.unique h')
    (fun _ _ h => by cases h) ?_ [] ps e
  intro before p rest
  rcases pass_cons before p rest with h | ⟨hgood, hpass⟩
  · exact .inl h
  · exact .inr ⟨hgood, fun e => by rw [hpass]⟩

/-- Where names differ, no parameter is reported as defined again. -/
theorem validate_ne_duplicateParameter (h : (ps.map Parameter.name).Nodup) (name : String) :
    ps.validate ≠ .error (.duplicateParameter name) := by
  intro hvalidate
  obtain ⟨before, p, after, rfl, hfault, -⟩ := validate_eq_error_iff.mp hvalidate
  cases hfault with
  | repeated _ hmem =>
    rw [List.map_append, List.map_cons] at h
    exact (List.nodup_append.mp h).2.2 p.name hmem p.name List.mem_cons_self rfl

/-- Where names differ, a name leads to the one parameter that has it. -/
theorem get?_eq_some_iff (h : (ps.map Parameter.name).Nodup) {name : String} {p : Parameter} :
    get? ps name = some p ↔ p ∈ ps ∧ p.name = name := by
  have hfound : ∀ {q}, get? ps name = some q → q ∈ ps ∧ q.name = name := by
    intro q hget
    unfold get? at hget
    have hname := List.find?_some hget
    exact ⟨List.mem_of_find?_eq_some hget, beq_iff_eq.mp hname⟩
  constructor
  · exact hfound
  · rintro ⟨hp, hname⟩
    have hsome : (get? ps name).isSome = true := List.find?_isSome.mpr ⟨p, hp, beq_iff_eq.mpr hname⟩
    obtain ⟨q, hget⟩ := Option.isSome_iff_exists.mp hsome
    obtain ⟨hq, hnameq⟩ := hfound hget
    exact hget.trans (congrArg some (List.inj_on_of_nodup_map h hq hp (hnameq.trans hname.symm)))

/-- Behind the first parameter the number of values is settled. -/
theorem validateFrom_some_iff {seen : List String} {k : Nat} :
    validateFrom seen (some k) ps = .ok n ↔ n = k ∧ Sound ps k ∧ ∀ p ∈ ps, p.name ∉ seen := by
  induction ps generalizing seen with
  | nil =>
    simp only [validateFrom, Option.getD_some, Except.ok.injEq]
    exact ⟨fun h => ⟨h.symm, ⟨nofun, List.nodup_nil, nofun, nofun⟩, nofun⟩, fun h => h.1.symm⟩
  | cons p ps ih =>
    have hstep : validateFrom seen (some k) (p :: ps) = .ok n ↔
        Text.isBlankText p.name = false ∧ p.name ∉ seen ∧ p.values ≠ [] ∧ p.values.length = k ∧
          validateFrom (p.name :: seen) (some k) ps = .ok n := by
      rw [validateFrom]
      cases Text.isBlankText p.name <;> by_cases hseen : p.name ∈ seen <;>
        by_cases hvalues : p.values = [] <;>
        by_cases hlength : p.values.length = k <;> simp [hseen, hvalues, hlength]
    rw [hstep, ih, sound_cons_iff, List.forall_mem_cons]
    constructor
    · rintro ⟨hnamed, hseen, hvalued, hlength, rfl, hsound, hnew⟩
      refine ⟨rfl, ⟨hnamed, ?_, hvalued, hlength, hsound⟩, hseen,
        fun q hq hm => hnew q hq (List.mem_cons_of_mem _ hm)⟩
      intro hm
      obtain ⟨q, hq, hname⟩ := List.mem_map.mp hm
      exact hnew q hq (hname ▸ List.mem_cons_self)
    · rintro ⟨rfl, ⟨hnamed, hname, hvalued, hlength, hsound⟩, hseen, hnew⟩
      refine ⟨hnamed, hseen, hvalued, hlength, rfl, hsound, ?_⟩
      intro q hq hm
      rcases List.mem_cons.mp hm with he | hm
      · exact hname (he ▸ List.mem_map_of_mem hq)
      · exact hnew q hq hm

/-- The check of a set that is not empty succeeds with the common number of values. -/
theorem validate_eq_ok_iff (hne : ps ≠ []) : ps.validate = .ok n ↔ Sound ps n := by
  obtain ⟨p, rest, rfl⟩ := List.exists_cons_of_ne_nil hne
  have hstep : validate (p :: rest) = .ok n ↔ Text.isBlankText p.name = false ∧ p.values ≠ [] ∧
      validateFrom [p.name] (some p.values.length) rest = .ok n := by
    rw [validate, validateFrom]
    cases Text.isBlankText p.name <;> by_cases hvalues : p.values = [] <;> simp [hvalues]
  rw [hstep, validateFrom_some_iff, sound_cons_iff]
  constructor
  · rintro ⟨hnamed, hvalued, rfl, hsound, hnew⟩
    refine ⟨hnamed, ?_, hvalued, rfl, hsound⟩
    intro hm
    obtain ⟨q, hq, hname⟩ := List.mem_map.mp hm
    exact hnew q hq (hname ▸ List.mem_cons_self)
  · rintro ⟨hnamed, hname, hvalued, rfl, hsound⟩
    refine ⟨hnamed, hvalued, rfl, hsound, ?_⟩
    intro q hq hm
    exact hname (List.mem_singleton.mp hm ▸ List.mem_map_of_mem hq)

end StudyFlow.ParameterSet
