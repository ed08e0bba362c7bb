import StudyFlow.Yaml.Decode

/-!
# Readers in step

What a reader gives, and how many references it has followed then, is read off its parts. `Mirrors`
says of two readers of one node that the second gives exactly what belongs to something that the
first gives: the first may read more than the second can use, and never less.
-/

namespace StudyFlow.Yaml.Decoded

variable {α β γ δ ι : Type} {x : Decoded α} {y : Decoded β} {R : α → β → Prop} {S : γ → δ → Prop}
  {a : α} {b : β} {k k' : Nat}

theorem run_bind_eq_ok_iff {f : α → Decoded β} :
    (x >>= f).run k = .ok (b, k') ↔ ∃ a k₁, x.run k = .ok (a, k₁) ∧ (f a).run k₁ = .ok (b, k') := by
  rw [StateT.run_bind]
  cases x.run k with
  | error e => simp [bind, Except.bind]
  | ok r =>
    obtain ⟨a, k₁⟩ := r
    constructor
    · intro h
      exact ⟨a, k₁, rfl, h⟩
    · rintro ⟨a', k₂, hx, h⟩
      cases hx
      exact h

theorem run_bind_of_run {f : α → Decoded β} (h : x.run k = .ok (a, k')) :
    (x >>= f).run k = (f a).run k' := by
  rw [StateT.run_bind, h]
  rfl

theorem run_pure_eq_ok_iff {a' : α} : (pure a : Decoded α).run k = .ok (a', k') ↔
    a' = a ∧ k' = k := by
  rw [StateT.run_pure]
  constructor
  · intro h
    cases h
    exact ⟨rfl, rfl⟩
  · rintro ⟨rfl, rfl⟩
    rfl

theorem run_map_eq_ok_iff {f : α → β} :
    (f <$> x).run k = .ok (b, k') ↔ ∃ a, x.run k = .ok (a, k') ∧ b = f a := by
  rw [map_eq_pure_bind, run_bind_eq_ok_iff]
  constructor
  · rintro ⟨a, k₁, hx, h⟩
    obtain ⟨rfl, rfl⟩ := run_pure_eq_ok_iff.mp h
    exact ⟨a, hx, rfl⟩
  · rintro ⟨a, hx, rfl⟩
    exact ⟨a, k', hx, run_pure_eq_ok_iff.mpr ⟨rfl, rfl⟩⟩

theorem run_bind_pure_eq_ok_iff {f : α → β} :
    (x >>= fun a => pure (f a)).run k = .ok (b, k') ↔ ∃ a, x.run k = .ok (a, k') ∧ b = f a := by
  rw [bind_pure_comp]
  exact run_map_eq_ok_iff

theorem run_throw_ne_ok {e : DecodeError} : (throw e : Decoded α).run k ≠ .ok (a, k') := nofun

theorem run_lift_eq_ok_iff {v : Except DecodeError α} :
    (liftM v : Decoded α).run k = .ok (a, k') ↔ v = .ok a ∧ k' = k := by
  cases v with
  | error e => exact iff_of_false nofun nofun
  | ok a' =>
    constructor
    · intro h
      cases h
      exact ⟨rfl, rfl⟩
    · rintro ⟨h, rfl⟩
      cases h
      rfl

theorem run_once_eq_ok_iff {slot o : Option α} {value : Decoded α} :
    (once slot value).run k = .ok (o, k') ↔ slot = none ∧ ∃ a, value.run k = .ok (a, k') ∧
    o = some a := by
  cases slot with
  | none =>
    rw [once, run_map_eq_ok_iff]
    simp
  | some a => exact iff_of_false nofun nofun

/-! ## What readers keep -/

/-- What each element of a list keeps, the pass over the list keeps. -/
theorem foldlM_keeps {I : α → Prop} {f : α → ι → Decoded α}
    (hstep : ∀ a i k a' k', I a → (f a i).run k = .ok (a', k') → I a') {is : List ι}
    {a' : α} (ha : I a) (h : (is.foldlM f a).run k = .ok (a', k')) : I a' := by
  induction is generalizing a k with
  | nil =>
    rw [List.foldlM_nil, run_pure_eq_ok_iff] at h
    exact h.1 ▸ ha
  | cons i is ih =>
    rw [List.foldlM_cons, run_bind_eq_ok_iff] at h
    obtain ⟨a₁, k₁, hfirst, hrest⟩ := h
    exact ih (hstep a i k a₁ k₁ ha hfirst) hrest

/-- What each field keeps, the section keeps. -/
theorem section_keeps {I : α → Prop} {start : α}
    {field : Scope → α → String → Node → Decoded α} {s : Scope} {n : Node} (hstart : I start)
    (hfield : ∀ s a key n k a' k', I a → (field s a key n).run k = .ok (a', k') → I a')
    (h : (decodeSection start field s n).run k = .ok (a, k')) : I a := by
  obtain ⟨m, k₁, -, hm⟩ := run_bind_eq_ok_iff.mp h
  split at hm
  · obtain ⟨s, k₂, -, hentries⟩ := run_bind_eq_ok_iff.mp hm
    refine foldlM_keeps (fun a e k a' k' ha hrun => ?_) hstart hentries
    obtain ⟨key, k₃, -, hrun⟩ := run_bind_eq_ok_iff.mp hrun
    exact hfield s a key e.2 k₃ a' k' ha hrun
  · split at hm
    · exact (run_pure_eq_ok_iff.mp hm).1 ▸ hstart
    · cases hm

/-! ## Readers in step -/

/-- The second reader gives what belongs to something that the first one gives. -/
def Mirrors (R : α → β → Prop) (x : Decoded α) (y : Decoded β) : Prop :=
  ∀ k b k', y.run k = .ok (b, k') ↔ ∃ a, x.run k = .ok (a, k') ∧ R a b

theorem Mirrors.pure (hunique : ∀ a b b', R a b → R a b' → b' = b) (h : R a b) :
    Mirrors R (pure a : Decoded α) (pure b : Decoded β) := by
  intro k b' k'
  simp only [run_pure_eq_ok_iff]
  constructor
  · rintro ⟨rfl, rfl⟩
    exact ⟨a, ⟨rfl, rfl⟩, h⟩
  · rintro ⟨a', ⟨rfl, rfl⟩, hr⟩
    exact ⟨hunique a' b b' h hr, rfl⟩

/-- Two readers that start alike. -/
theorem Mirrors.bind_same {f : ι → Decoded α} {g : ι → Decoded β} {z : Decoded ι}
    (h : ∀ i, Mirrors R (f i) (g i)) : Mirrors R (z >>= f) (z >>= g) := by
  intro k b k'
  simp only [run_bind_eq_ok_iff, h _ _ _ _]
  constructor
  · rintro ⟨i, k₁, hz, a, hf, hr⟩
    exact ⟨a, ⟨i, k₁, hz, hf⟩, hr⟩
  · rintro ⟨a, ⟨i, k₁, hz, hf⟩, hr⟩
    exact ⟨i, k₁, hz, a, hf, hr⟩

theorem mirrors_throw {e e' : DecodeError} : Mirrors R (throw e) (throw e') := fun _ _ _ =>
  iff_of_false run_throw_ne_ok fun ⟨_, h, _⟩ => run_throw_ne_ok h

/-- Two readers in step that go on in step. What the first one gives has to be of use if what comes
of it is. -/
theorem Mirrors.bind {f : α → Decoded γ} {g : β → Decoded δ} (h : Mirrors R x y)
    (hnext : ∀ a b, R a b → Mirrors S (f a) (g b))
    (huse : ∀ a k c k', (f a).run k = .ok (c, k') → (∃ d, S c d) → ∃ b, R a b) :
    Mirrors S (x >>= f) (y >>= g) := by
  intro k d k'
  simp only [run_bind_eq_ok_iff]
  constructor
  · rintro ⟨b, k₁, hy, hg⟩
    obtain ⟨a, hx, hr⟩ := (h k b k₁).mp hy
    obtain ⟨c, hf, hs⟩ := (hnext a b hr k₁ d k').mp hg
    exact ⟨c, ⟨a, k₁, hx, hf⟩, hs⟩
  · rintro ⟨c, ⟨a, k₁, hx, hf⟩, hs⟩
    obtain ⟨b, hr⟩ := huse a k₁ c k' hf ⟨d, hs⟩
    exact ⟨b, k₁, (h k b k₁).mpr ⟨a, hx, hr⟩, (hnext a b hr k₁ d k').mpr ⟨c, hf, hs⟩⟩

/-- Two passes in step over one list. -/
theorem Mirrors.foldlM {f : α → ι → Decoded α} {g : β → ι → Decoded β}
    (hunique : ∀ a b b', R a b → R a b' → b' = b)
    (hstep : ∀ a b i, R a b → Mirrors R (f a i) (g b i))
    (huse : ∀ a i k a₁ k₁, (f a i).run k = .ok (a₁, k₁) → (∃ b₁, R a₁ b₁) → ∃ b, R a b)
    (is : List ι) (h : R a b) : Mirrors R (is.foldlM f a) (is.foldlM g b) := by
  have huses : ∀ (is : List ι) a k a' k', (is.foldlM f a).run k = .ok (a', k') → (∃ b', R a' b') →
      ∃ b, R a b := by
    intro is a k a' k' hrun hr
    refine Classical.byContradiction fun hnone => ?_
    exact foldlM_keeps (I := fun a => ¬∃ b, R a b)
      (fun a i k a₁ k₁ hno hstep hr₁ => hno (huse a i k a₁ k₁ hstep hr₁)) hnone hrun hr
  induction is generalizing a b with
  | nil => exact .pure hunique h
  | cons i is ih =>
    rw [List.foldlM_cons, List.foldlM_cons]
    exact (hstep a b i h).bind (fun _ _ => ih) (huses is)

/-! ## Values on the way -/

/-- What a start becomes by a list of values, one after the other. -/
inductive Through (P : β → α → β → Prop) : β → List α → β → Prop
  | nil (b : β) : Through P b [] b
  | cons {b b₁ b' : β} {a : α} {as : List α} : P b a b₁ → Through P b₁ as b' →
    Through P b (a :: as) b'

/-- One reader gives a value for each element of a list, the other one makes use of these values on
its way. -/
theorem Mirrors.through {P : β → α → β → Prop} {f : ι → Decoded α} {g : β → ι → Decoded β}
    (hstep : ∀ b i, Mirrors (P b) (f i) (g b i)) (is : List ι) :
    Mirrors (Through P b) (is.mapM f) (is.foldlM g b) := by
  induction is generalizing b with
  | nil =>
    intro k b' k'
    simp only [List.foldlM_nil, List.mapM_nil, run_pure_eq_ok_iff]
    constructor
    · rintro ⟨rfl, rfl⟩
      exact ⟨[], ⟨rfl, rfl⟩, .nil _⟩
    · rintro ⟨_, ⟨rfl, rfl⟩, hthrough⟩
      cases hthrough
      exact ⟨rfl, rfl⟩
  | cons i is ih =>
    intro k b' k'
    simp only [List.foldlM_cons, List.mapM_cons, run_bind_eq_ok_iff, run_pure_eq_ok_iff]
    constructor
    · rintro ⟨b₁, k₁, hfirst, hrest⟩
      obtain ⟨a, ha, hp⟩ := (hstep b i k b₁ k₁).mp hfirst
      obtain ⟨as, has, hthrough⟩ := (ih k₁ b' k').mp hrest
      exact ⟨a :: as, ⟨a, k₁, ha, as, k', has, rfl, rfl⟩, .cons hp hthrough⟩
    · rintro ⟨_, ⟨a, k₁, ha, as, _, has, rfl, rfl⟩, hthrough⟩
      cases hthrough with
      | @cons _ b₁ _ _ _ hp hthrough =>
        exact ⟨b₁, k₁, (hstep b i k b₁ k₁).mpr ⟨a, ha, hp⟩, (ih k₁ b' _).mpr ⟨as, has, hthrough⟩⟩

end StudyFlow.Yaml.Decoded
