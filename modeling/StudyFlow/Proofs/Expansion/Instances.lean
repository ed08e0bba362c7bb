import StudyFlow.Expansion

/-!
# The instances of a template

Either a template is run as it is, or there is one instance for each index of the parameter values.
In both cases the name of each instance was checked.
-/

namespace StudyFlow

namespace Expansion

variable {t : Template} {ps : ParameterSet} {root : Path} {now : Millis}

theorem checkName_eq_ok {step name : String} (h : checkName step name = .ok ()) :
    Text.hasBlank name = false := by
  unfold checkName at h
  split at h
  · cases h
  · next hb => simpa using hb

/-- A successful expansion has one instance for each index; their names were checked and are
distinct. -/
theorem instancesAt_eq_ok {seen : List String} {indices : List Nat} {is : List Instance}
    (h : instancesAt t ps root now seen indices = .ok is) :
    is = indices.map (instanceAt t ps root now) ∧
      (∀ k ∈ indices, Text.hasBlank (nameAt t ps k) = false ∧ nameAt t ps k ∉ seen) ∧
      (indices.map (nameAt t ps)).Nodup := by
  induction indices generalizing seen is with
  | nil =>
    obtain rfl : [] = is := Except.ok.inj h
    simp
  | cons k ks ih =>
    simp only [instancesAt] at h
    cases hc : checkName t.name (nameAt t ps k) with
    | error e => rw [hc] at h; cases h
    | ok u =>
      rw [hc] at h
      simp only [bind, Except.bind] at h
      split at h
      · cases h
      · next hseen =>
        cases hr : instancesAt t ps root now (nameAt t ps k :: seen) ks with
        | error e => rw [hr] at h; cases h
        | ok others =>
          rw [hr] at h
          obtain rfl : instanceAt t ps root now k :: others = is := Except.ok.inj h
          obtain ⟨rfl, hnames, hnodup⟩ := ih hr
          have hk : nameAt t ps k ∉ seen := by simpa using hseen
          refine ⟨rfl, ?_, ?_⟩
          · intro j hj
            rcases List.mem_cons.mp hj with rfl | hj
            · exact ⟨checkName_eq_ok hc, hk⟩
            · exact ⟨(hnames j hj).1, fun hm => (hnames j hj).2 (List.mem_cons_of_mem _ hm)⟩
          · refine List.nodup_cons.mpr ⟨?_, hnodup⟩
            intro hm
            obtain ⟨j, hj, he⟩ := List.mem_map.mp hm
            exact (hnames j hj).2 (he ▸ List.mem_cons_self)

end Expansion

namespace Template

open Expansion

variable {t : Template} {ps : ParameterSet} {root : Path} {now : Millis}

/-- The instance of a template that is run as it is. -/
def soleInstance (t : Template) (root : Path) (now : Millis) : Instance :=
  (Instance.ofTemplate t (root.child t.name) now).withStudyRoot root

theorem expand_eq_some {is : List Instance} (h : t.expand ps root now = .ok (some is)) :
    ∃ count, ps.validate = .ok count ∧ instancesAt t ps root now []
      (List.range count) = .ok is := by
  unfold expand at h
  split at h
  · cases h
  · cases hv : ps.validate with
    | error e => rw [hv] at h; cases h
    | ok count =>
      rw [hv] at h
      simp only [bind, Except.bind] at h
      cases hi : instancesAt t ps root now [] (List.range count) with
      | error e => rw [hi] at h; cases h
      | ok js =>
        rw [hi] at h
        obtain rfl : js = is := Option.some.inj (Except.ok.inj h)
        exact ⟨count, rfl, hi⟩

/-- The instances are those of an expansion, or the one of the template as it is. -/
theorem instances_eq_ok {is : List Instance} (h : t.instances ps root now = .ok is) :
    t.expand ps root now = .ok (some is) ∨
      t.expand ps root now = .ok none ∧ is = [t.soleInstance root now] ∧
      Text.hasBlank t.name = false := by
  unfold instances at h
  cases he : t.expand ps root now with
  | error e => rw [he] at h; cases h
  | ok o =>
    rw [he] at h
    simp only [bind, Except.bind] at h
    cases o with
    | some js =>
      obtain rfl : js = is := Except.ok.inj h
      exact .inl rfl
    | none =>
      cases hc : checkName t.name t.name with
      | error e => rw [hc] at h; cases h
      | ok u =>
        rw [hc] at h
        obtain rfl : [t.soleInstance root now] = is := Except.ok.inj h
        exact .inr ⟨rfl, rfl, checkName_eq_ok hc⟩

/-- Each instance is the one of the template as it is or the one at some index. -/
theorem mem_instances {is : List Instance} (h : t.instances ps root now = .ok is) {i : Instance}
    (hi : i ∈ is) :
    i = t.soleInstance root now ∧ Text.hasBlank t.name = false ∨
      ∃ k, i = instanceAt t ps root now k ∧ Text.hasBlank (nameAt t ps k) = false := by
  rcases instances_eq_ok h with he | ⟨-, rfl, hb⟩
  · obtain ⟨count, -, hat⟩ := expand_eq_some he
    obtain ⟨rfl, hnames, -⟩ := instancesAt_eq_ok hat
    obtain ⟨k, hk, rfl⟩ := List.mem_map.mp hi
    exact .inr ⟨k, rfl, (hnames k hk).1⟩
  · exact .inl ⟨List.mem_singleton.mp hi, hb⟩

end Template

end StudyFlow
