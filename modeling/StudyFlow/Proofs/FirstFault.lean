/-!
# The first fault of a list

Checks go over a list and stop at the first element that cannot be used after those before it.
`FirstFault` says which error that is, for any idea of what a fault is.
-/

namespace StudyFlow

variable {α β ε : Type} {fault : List α → α → ε → Prop}

/-- The error of the first element that has a fault, where an element is judged by those before
it. -/
def FirstFault (fault : List α → α → ε → Prop) (xs : List α) (e : ε) : Prop :=
  ∃ before x after, xs = before ++ x :: after ∧ fault before x e ∧
    ∀ front y back, before = front ++ y :: back → ∀ e', ¬fault front y e'

theorem not_firstFault_nil {e : ε} : ¬FirstFault fault [] e := by
  rintro ⟨before, x, after, h, -⟩
  cases before <;> cases h

theorem firstFault_cons_iff {x : α} {xs : List α} {e : ε} :
    FirstFault fault (x :: xs) e ↔
      fault [] x e ∨ (∀ e', ¬fault [] x e') ∧
      FirstFault (fun before => fault (x :: before)) xs e := by
  constructor
  · rintro ⟨before, y, after, h, hfault, hfirst⟩
    cases before with
    | nil =>
      obtain ⟨rfl, -⟩ := List.cons.inj h
      exact .inl hfault
    | cons z before =>
      obtain ⟨rfl, rfl⟩ := List.cons.inj h
      refine .inr ⟨hfirst [] x before rfl, before, y, after, rfl, hfault, ?_⟩
      intro front w back hback
      exact hfirst (x :: front) w back (by rw [hback]; rfl)
  · rintro (hfault | ⟨hgood, before, y, after, rfl, hfault, hfirst⟩)
    · refine ⟨[], x, xs, rfl, hfault, ?_⟩
      intro front y back h
      cases front <;> cases h
    · refine ⟨x :: before, y, after, rfl, hfault, ?_⟩
      intro front w back hback
      cases front with
      | nil =>
        obtain ⟨rfl, -⟩ := List.cons.inj hback
        exact hgood
      | cons v front =>
        obtain ⟨rfl, rfl⟩ := List.cons.inj hback
        exact hfirst front w back rfl

/-- A first fault stays the first one where what counts as a fault is the same for all elements. -/
theorem FirstFault.of_iff {fault' : List α → α → ε → Prop} {xs : List α} {e : ε}
    (hfirst : FirstFault fault xs e)
    (h : ∀ before x after, xs = before ++ x :: after → ∀ e, fault before x e ↔ fault' before x e) :
    FirstFault fault' xs e := by
  obtain ⟨before, x, after, rfl, hfault, hgood⟩ := hfirst
  refine ⟨before, x, after, rfl, (h before x after rfl e).mp hfault, ?_⟩
  rintro front y back rfl e' hfault'
  exact hgood front y back rfl e' ((h front y (back ++ x :: after) (by simp) e').mpr hfault')

theorem FirstFault.congr {fault' : List α → α → ε → Prop} {xs : List α} {e : ε}
    (h : ∀ before x after, xs = before ++ x :: after → ∀ e, fault before x e ↔ fault' before x e) :
    FirstFault fault xs e ↔ FirstFault fault' xs e :=
  ⟨fun hfirst => hfirst.of_iff h, fun hfirst => hfirst.of_iff fun before x after hxs e =>
    (h before x after hxs e).symm⟩

/-- A pass over a list that knows what was before, and at each element ends with a fault of it or
goes on behind it, ends with the first fault. -/
theorem pass_eq_error_iff (fault : List α → α → ε → Prop) (pass : List α → List α → Except ε β)
    (hunique : ∀ before x e e', fault before x e → fault before x e' → e' = e)
    (hnil : ∀ before e, pass before [] ≠ .error e)
    (hcons : ∀ before x xs, (∃ e, fault before x e ∧ pass before (x :: xs) = .error e) ∨
      (∀ e, ¬fault before x e) ∧ ∀ e, pass before (x :: xs) = .error e ↔
        pass (before ++ [x]) xs = .error e)
    (before xs : List α) (e : ε) :
    pass before xs = .error e ↔ FirstFault (fun front => fault (before ++ front)) xs e := by
  induction xs generalizing before with
  | nil => exact iff_of_false (hnil before e) not_firstFault_nil
  | cons x xs ih =>
    have hsplit : (fun front => fault (before ++ [x] ++ front)) = fun front =>
        fault (before ++ x :: front) := by
      funext front
      rw [List.append_assoc]
      rfl
    rw [firstFault_cons_iff, List.append_nil, ← hsplit, ← ih]
    rcases hcons before x xs with ⟨e', hfault, hpass⟩ | ⟨hgood, hpass⟩
    · rw [hpass, Except.error.injEq]
      constructor
      · rintro rfl
        exact .inl hfault
      · rintro (h | ⟨hno, -⟩)
        · exact hunique before x e e' h hfault
        · exact absurd hfault (hno e')
    · rw [hpass]
      exact ⟨fun h => .inr ⟨hgood, h⟩, fun h => (h.resolve_left (hgood e)).2⟩

/-- Elements that are gone over for their values: the first one without a value gives the error. -/
theorem mapM_eq_error_iff {f : α → Except ε β} {xs : List α} {e : ε} :
    xs.mapM f = .error e ↔ FirstFault (fun _ x e => f x = .error e) xs e := by
  refine pass_eq_error_iff (fun _ x e => f x = .error e) (fun _ xs => xs.mapM f) ?_ ?_ ?_ [] xs e
  · intro _ x e e' h h'
    exact Except.error.inj (h'.symm.trans h)
  · intro _ e h
    cases h
  · intro _ x xs
    cases hx : f x with
    | error e =>
      refine .inl ⟨e, rfl, ?_⟩
      rw [List.mapM_cons, hx]
      rfl
    | ok y =>
      refine .inr ⟨nofun, fun e => ?_⟩
      rw [List.mapM_cons, hx]
      cases xs.mapM f <;> simp [bind, Except.bind, pure, Except.pure]

end StudyFlow
