import StudyFlow.Proofs.Drive.Isolation
import StudyFlow.Proofs.Path.Ordinary
import StudyFlow.Proofs.Pool.Ledger

/-!
# Each instance of a pool is as if alone

Instances whose names differ and whose workspaces are apart do not notice one another. However far
the events of a pool have come, each of its instances stands where its drive alone stands after as
many moves, and finds in its workspace what it left there alone. Outside of all workspaces there are
directories that some instance made, and else what was there at first.
-/

namespace StudyFlow

open FileTree

variable {σ : Type}

/-- The instances have names of their own, workspaces of ordinary components of which none is at or
below another, and scripts in their workspaces. -/
structure Separate (is : List Instance) : Prop where
  names : (is.map Instance.name).Nodup
  ordinary : ∀ i ∈ is, i.workspace.IsOrdinary
  apart : is.Pairwise fun i j => i.workspace.Apart j.workspace
  scripts : ∀ i ∈ is, '/' ∉ i.templateName.toList

namespace Separate

variable {is : List Instance} {i j : Instance} {k l : Nat}

theorem isPlain (h : Separate is) (hi : i ∈ is) : i.IsPlain :=
  ⟨(h.ordinary i hi).no_up, h.scripts i hi⟩

theorem name_ne (h : Separate is) (hi : is[k]? = some i) (hj : is[l]? = some j) (hne : k ≠ l) :
    i.name ≠ j.name := by
  obtain ⟨hk, rfl⟩ := List.getElem?_eq_some_iff.mp hi
  obtain ⟨hl, rfl⟩ := List.getElem?_eq_some_iff.mp hj
  have hpairs := List.pairwise_iff_getElem.mp (List.pairwise_map.mp h.names)
  rcases Nat.lt_or_gt_of_ne hne with hlt | hlt
  · exact hpairs k l hk hl hlt
  · exact (hpairs l k hl hk hlt).symm

theorem not_isPrefix (h : Separate is) (hi : is[k]? = some i) (hj : is[l]? = some j) (hne : k ≠ l) :
    ¬ i.workspace.location <+: j.workspace.location := by
  have hi' := h.ordinary i (List.mem_of_getElem? hi)
  have hj' := h.ordinary j (List.mem_of_getElem? hj)
  obtain ⟨hk, rfl⟩ := List.getElem?_eq_some_iff.mp hi
  obtain ⟨hl, rfl⟩ := List.getElem?_eq_some_iff.mp hj
  have hpairs := List.pairwise_iff_getElem.mp h.apart
  rcases Nat.lt_or_gt_of_ne hne with hlt | hlt
  · exact ((hpairs k l hk hl hlt).not_prefix_location hi' hj').1
  · exact ((hpairs l k hl hk hlt).not_prefix_location hj' hi').2

end Separate

/-! ## An instance alone -/

/-- The drive of an instance alone after some moves, and its surroundings. -/
def solo (b : Bridge σ) (st : σ) (s : Site) (i : Instance) (n : Nat) :
    Drive × (σ × List Call) × Site :=
  Drive.moves b.logged n (Drive.begin i) (st, []) s

/-- The surroundings of an instance alone after some moves, and after its report if that was
made. -/
def soloLeft (b : Bridge σ) (st : σ) (s : Site) (i : Instance) (stage : Nat × Bool) :
    (σ × List Call) × Site :=
  let (d, st, s) := solo b st s i stage.1
  if stage.2 then (st, (Runner.settle d.item (d.ending?.getD .crashed) s).2) else (st, s)

variable {b : Bridge σ} {st : σ} {s : Site} {i : Instance} {n m : Nat}

theorem solo_succ (b : Bridge σ) (st : σ) (s : Site) (i : Instance) (n : Nat) :
    solo b st s i (n + 1) =
      (solo b st s i n).1.step b.logged (solo b st s i n).2.1 (solo b st s i n).2.2 :=
  Drive.moves_succ' n _ _ _

/-- A drive that has ended stays where it is. -/
theorem solo_of_done {ending : Ending} (h : (solo b st s i n).1.phase = .done ending) (hm : n ≤ m) :
    solo b st s i m = solo b st s i n := by
  obtain ⟨k, rfl⟩ := Nat.exists_eq_add_of_le hm
  unfold solo at h ⊢
  rw [Drive.moves_add, Drive.moves_of_done h]

/-- Two points at which a drive has ended are the same. -/
theorem solo_eq_of_done {ending ending' : Ending} (h : (solo b st s i n).1.phase = .done ending)
    (h' : (solo b st s i m).1.phase = .done ending') : solo b st s i n = solo b st s i m := by
  rcases Nat.le_total n m with hle | hle
  · exact (solo_of_done h hle).symm
  · exact solo_of_done h' hle

theorem soloLeft_unsent {stage : Nat × Bool} (h : stage.2 = false) :
    soloLeft b st s i stage = (solo b st s i stage.1).2 := by
  rw [soloLeft, h]
  rfl

theorem soloLeft_sent {ending : Ending} (h : (solo b st s i n).1.phase = .done ending) :
    soloLeft b st s i (n, true) = ((solo b st s i n).2.1,
      (Runner.settle (solo b st s i n).1.item ending (solo b st s i n).2.2).2) := by
  have he : (solo b st s i n).1.ending? = some ending := by rw [Drive.ending?, h]
  simp only [soloLeft, he, ↓reduceIte, Option.getD_some]

/-! ## What each instance sees -/

/-- The surroundings of the pool are to each instance those that it has alone at its stage. -/
structure AsAlone (b : Bridge σ) (st : σ) (s : Site) (is : List Instance) (stage : Nat → Nat × Bool)
    (x : (σ × List Call) × Site) : Prop where
  near : ∀ k i, is[k]? = some i → Near b.adapter st i x (soloLeft b st s i (stage k))
  outside : ∀ l, (∀ i ∈ is, ¬ i.workspace.location <+: l) → x.2.files.get? l = s.files.get? l ∨
    s.files.get? l = none ∧ x.2.files.get? l = some .directory ∧
      ∃ k i, is[k]? = some i ∧ l <+: i.workspace.location ∧
        (soloLeft b st s i (stage k)).2.files.get? l = some .directory

namespace AsAlone

variable {is : List Instance} {stage stage' : Nat → Nat × Bool}
  {x x' : (σ × List Call) × Site} {k : Nat}

theorem start (b : Bridge σ) (st : σ) (s : Site) (is : List Instance) :
    AsAlone b st s is (fun _ => (0, false)) ((st, []), s) where
  near := fun _ _ _ => .refl .start
  outside := fun _ _ => .inl rfl

/-- What only changes the journal is not seen. -/
theorem congr (h : AsAlone b st s is stage x) {s₁ : Site}
    (hs : s₁.files = x.2.files ∧ s₁.clock = x.2.clock) : AsAlone b st s is stage (x.1, s₁) where
  near := fun k i hi => (h.near k i hi).congr hs
  outside := fun l hl => by
    rw [show (x.1, s₁).2.files = x.2.files from hs.1]
    exact h.outside l hl

/-- One instance goes on, in the pool and alone; the others notice nothing. -/
theorem advance (h : AsAlone b st s is stage x) (hsep : Separate is) (hi : is[k]? = some i)
    (hadv : Advanced b.adapter st i x (soloLeft b st s i (stage k)) x'
      (soloLeft b st s i (stage' k)))
    (hothers : ∀ j, j ≠ k → stage' j = stage j) : AsAlone b st s is stage' x' where
  near := by
    intro j a ha
    by_cases hj : j = k
    · subst hj
      obtain rfl : i = a := Option.some.inj (hi.symm.trans ha)
      exact hadv.near
    · rw [hothers j hj]
      exact (h.near j a ha).of_other hadv (hsep.name_ne ha hi hj)
        (hsep.not_isPrefix hi ha (Ne.symm hj))
        (hsep.not_isPrefix ha hi hj)
  outside := by
    intro l hl
    have hout := hl i (List.mem_of_getElem? hi)
    -- a directory that the instance made alone is in the pool as well
    rcases hadv.sites.files.opened l hout with he | ⟨hn, hd, hp⟩
    · rw [he]
      refine (h.outside l hl).imp_right fun ⟨hs, hx, j, a, ha, hpa, hsolo⟩ =>
        ⟨hs, hx, j, a, ha, hpa, ?_⟩
      by_cases hj : j = k
      · subst hj
        obtain rfl : i = a := Option.some.inj (hi.symm.trans ha)
        exact hadv.sites.files.opened'.keeps_directory hout hsolo
      · rw [hothers j hj]
        exact hsolo
    · rcases h.outside l hl with he | ⟨-, hx, -⟩
      · refine .inr ⟨he ▸ hn, hd, k, i, hi, hp, ?_⟩
        rcases hadv.sites.files.matched l hout with he | hsolo
        · rw [hd, hn] at he
          cases he
        · exact hsolo
      · rw [hn] at hx
        cases hx

/-- A directory that an instance makes alone above its workspace is in the pool as well. -/
theorem directory (h : AsAlone b st s is stage x) {l : Location}
    (hsolo : ∃ k i, is[k]? = some i ∧ l <+: i.workspace.location ∧
      (soloLeft b st s i (stage k)).2.files.get? l = some .directory) :
    x.2.files.get? l = some .directory := by
  obtain ⟨k, i, hi, hl, hd⟩ := hsolo
  rcases (h.near k i hi).sees.above l hl with he | ⟨hn, -⟩
  · rw [he, hd]
  · rw [hd] at hn
    cases hn

/-- Surroundings in which each instance is as if alone at the same stage hold the same files. -/
theorem get?_eq (h : AsAlone b st s is stage x) (h' : AsAlone b st s is stage x') (l : Location) :
    x.2.files.get? l = x'.2.files.get? l := by
  by_cases hin : ∃ (k : Nat) (i : Instance), is[k]? = some i ∧ i.workspace.location <+: l
  · obtain ⟨k, i, hi, hl⟩ := hin
    rw [(h.near k i hi).sees.inside l hl, (h'.near k i hi).sees.inside l hl]
  · have hout : ∀ i ∈ is, ¬ i.workspace.location <+: l := fun i hi hl =>
      (List.mem_iff_getElem?.mp hi).elim fun k hk => hin ⟨k, i, hk, hl⟩
    rcases h.outside l hout with he | ⟨-, hd, hsolo⟩
    · rcases h'.outside l hout with he' | ⟨-, hd', hsolo'⟩
      · rw [he, he']
      · rw [hd', h.directory hsolo']
    · rw [hd, h'.directory hsolo]

end AsAlone

namespace Pool

variable {r : Runner σ} {is : List Instance} {p q : Pool σ} {e : Event} {es : List Event} {k : Nat}

/-! ## How far each instance has come -/

def movings : List Event → List Nat :=
  List.filterMap fun
    | .moved k => some k
    | _ => none

/-- The moves of an instance, and whether it has reported. -/
def stage (es : List Event) (k : Nat) : Nat × Bool :=
  ((movings es).count k, decide (k ∈ (sendings es).map Prod.fst))

theorem movings_append (es fs : List Event) : movings (es ++ fs) = movings es ++ movings fs :=
  List.filterMap_append

theorem movings_concat (h : movings [e] = []) : movings (es ++ [e]) = movings es := by
  rw [movings_append, h, List.append_nil]

theorem stage_nil : stage [] = fun _ => (0, false) := by
  funext k
  simp [stage, movings, sendings]

theorem stage_concat (hm : movings [e] = []) (hs : sendings [e] = []) :
    stage (es ++ [e]) = stage es := by
  funext j
  rw [stage, stage, movings_concat hm, sendings_concat hs]

theorem stage_moved (es : List Event) (k : Nat) :
    stage (es ++ [.moved k]) k = ((stage es k).1 + 1, (stage es k).2) := by
  rw [stage, stage, movings_append, sendings_concat rfl, List.count_append]
  simp [movings]

theorem stage_moved_of_ne {j : Nat} (h : j ≠ k) (es : List Event) :
    stage (es ++ [.moved k]) j = stage es j := by
  rw [stage, stage, movings_append, sendings_concat rfl, List.count_append]
  simp [movings, Ne.symm h]

theorem stage_sent (es : List Event) (k : Nat) (m : Message) :
    stage (es ++ [.sent k m]) k = ((stage es k).1, true) := by
  have hs : sendings [.sent k m] = [(k, m)] := rfl
  rw [stage, stage, movings_concat rfl, sendings_append, hs]
  simp

theorem stage_sent_of_ne {j : Nat} (h : j ≠ k) (es : List Event) (m : Message) :
    stage (es ++ [.sent k m]) j = stage es j := by
  have hs : sendings [.sent k m] = [(k, m)] := rfl
  rw [stage, stage, movings_concat rfl, sendings_append, hs]
  simp [h]

/-- A report is no move. -/
theorem moves_sent (es : List Event) (k j : Nat) (m : Message) :
    (stage (es ++ [.sent k m]) j).1 = (stage es j).1 := by
  rw [stage, stage, movings_concat rfl]

/-- No instance is in two places. -/
theorem Books.nodup (h : Books r is es p) :
    (dispatches es ++ p.pending.map Prod.fst).Nodup ∧
      ((sendings es).map Prod.fst ++ p.workers.map Prod.fst).Nodup := by
  have hall : (dispatches es ++ p.pending.map Prod.fst).Nodup := h.dispatched ▸ List.nodup_range
  exact ⟨hall, h.handed.nodup_iff.mpr (List.nodup_append.mp hall).1⟩

/-- A worker that is still there has not reported, and it is the only one of its instance. -/
theorem Books.worker {before after : List (Nat × Drive)} {d : Drive} (h : Books r is es p)
    (hw : p.workers = before ++ (k, d) :: after) :
    k ∈ dispatches es ∧ k ∉ (sendings es).map Prod.fst ∧ (∀ x ∈ before ++ after, x.1 ≠ k) := by
  obtain ⟨-, hnodup⟩ := h.nodup
  have hmem : k ∈ p.workers.map Prod.fst := by
    rw [hw]
    simp
  refine ⟨h.handed.subset (List.mem_append_right _ hmem), ?_, ?_⟩
  · exact fun hs => (List.nodup_append.mp hnodup).2.2 k hs k hmem rfl
  · have hworkers := (List.nodup_append.mp hnodup).2.1
    rw [hw, List.map_append, List.map_cons, List.perm_middle.nodup_iff, List.nodup_cons] at hworkers
    rintro x hx rfl
    refine hworkers.1 ?_
    rw [← List.map_append]
    exact List.mem_map.mpr ⟨x, hx, rfl⟩

/-- An instance whose turn it is to be dispatched has no worker before. -/
theorem Books.fresh {i : Instance} {rest : List (Nat × Instance)} (h : Books r is es p)
    (hp : p.pending = (k, i) :: rest) :
    ∀ a, is[k]? = some a → Drive.begin i = Drive.begin a ∧ k ∉ dispatches es := by
  have hpending : (k, i) ∈ p.pending := hp ▸ List.mem_cons_self
  refine fun a ha => ⟨?_, fun hm => ?_⟩
  · obtain rfl : i = a := Option.some.inj ((h.pending _ hpending).symm.trans ha)
    rfl
  · exact (List.nodup_append.mp h.nodup.1).2.2 k hm k (List.mem_map_of_mem hpending) rfl

section Moved

variable {before after : List (Nat × Drive)} {d d' : Drive} {i : Instance}

/-- The workers that are left when one of them reports. -/
theorem mem_workers_of_left (hw : p.workers = before ++ (k, d) :: after) {x : Nat × Drive}
    (hx : x ∈ before ++ after) : x ∈ p.workers := by
  rw [hw]
  exact List.mem_append.mpr ((List.mem_append.mp hx).imp_right (List.mem_cons_of_mem _))

/-- A move takes the instance of its worker one move on, and no other one. -/
theorem Books.workers_moved {Q : Instance → Nat → Drive → Prop} (h : Books r is es p)
    (hw : p.workers = before ++ (k, d) :: after) (hi : is[k]? = some i)
    (hall : ∀ x ∈ p.workers, ∀ a, is[x.1]? = some a → Q a (stage es x.1).1 x.2)
    (hmoved : Q i ((stage es k).1 + 1) d') :
    ∀ x ∈ before ++ (k, d') :: after, ∀ a, is[x.1]? = some a →
      Q a (stage (es ++ [.moved k]) x.1).1 x.2 := by
  obtain ⟨-, -, hne⟩ := h.worker hw
  have hothers : ∀ x ∈ before ++ after, ∀ a, is[x.1]? = some a →
      Q a (stage (es ++ [.moved k]) x.1).1 x.2 := by
    intro x hx a ha
    rw [stage_moved_of_ne (hne x hx)]
    exact hall x (mem_workers_of_left hw hx) a ha
  intro x hx a ha
  rcases List.mem_append.mp hx with hx | hx
  · exact hothers x (List.mem_append_left _ hx) a ha
  · rcases List.mem_cons.mp hx with rfl | hx
    · obtain rfl : i = a := Option.some.inj (hi.symm.trans ha)
      rw [stage_moved]
      exact hmoved
    · exact hothers x (List.mem_append_right _ hx) a ha

theorem Books.movings_moved (h : Books r is es p) (hw : p.workers = before ++ (k, d) :: after)
    (hm : ∀ j ∈ movings es, j ∈ dispatches es) :
    ∀ j ∈ movings (es ++ [.moved k]), j ∈ dispatches (es ++ [.moved k]) := by
  obtain ⟨hdispatched, -, -⟩ := h.worker hw
  intro j hj
  rw [movings_append] at hj
  rw [dispatches_concat rfl]
  rcases List.mem_append.mp hj with hj | hj
  · exact hm j hj
  · obtain rfl := List.mem_singleton.mp hj
    exact hdispatched

/-- A move leaves the instances alone that have reported. -/
theorem Books.stage_of_sent (h : Books r is es p) (hw : p.workers = before ++ (k, d) :: after)
    {x : Nat × Message} (hx : x ∈ sendings es) : stage (es ++ [.moved k]) x.1 = stage es x.1 := by
  obtain ⟨-, hunsent, -⟩ := h.worker hw
  refine stage_moved_of_ne ?_ es
  rintro rfl
  exact hunsent (List.mem_map_of_mem hx)

end Moved

/-! ## What every event keeps -/

/-- The pool after the events, in which each instance is as if alone. -/
structure Follows (b : Bridge σ) (st : σ) (s : Site) (is : List Instance) (es : List Event)
    (p : Pool (σ × List Call)) : Prop where
  moved : ∀ k ∈ movings es, k ∈ dispatches es
  asAlone : AsAlone b st s is (stage es) (p.state, p.site)
  workers : ∀ x ∈ p.workers, ∀ i, is[x.1]? = some i → x.2.Like (solo b st s i (stage es x.1).1).1
  sent : ∀ x ∈ sendings es, ∀ i, is[x.1]? = some i → ∃ ending,
    (solo b st s i (stage es x.1).1).1.phase = .done ending ∧
      x.2.Like (Runner.settle (solo b st s i (stage es x.1).1).1.item ending
        (solo b st s i (stage es x.1).1).2.2).1
  bounded : ∀ k i n ending, is[k]? = some i → (solo b st s i n).1.phase = .done ending →
    (stage es k).1 ≤ n

variable {b : Bridge σ} {st : σ} {s : Site} {p q : Pool (σ × List Call)}
  {r : Runner (σ × List Call)} {answers : String → Nat → Reply}

theorem follows_start (b : Bridge σ) (st : σ) (s : Site) (is : List Instance) :
    Follows b st s is [] (start is (st, []) s) where
  moved := fun _ hk => absurd hk List.not_mem_nil
  asAlone := stage_nil ▸ .start b st s is
  workers := fun _ hx => absurd hx List.not_mem_nil
  sent := fun _ hx => absurd hx List.not_mem_nil
  bounded := fun k _ _ _ _ _ => by
    rw [stage_nil]
    exact Nat.zero_le _

/-- An event in which no instance moves or reports. -/
theorem Follows.other (h : Follows b st s is es p) (hm : movings [e] = []) (hs : sendings [e] = [])
    (hsub : dispatches es ⊆ dispatches (es ++ [e])) (hst : q.state = p.state)
    (hsite : q.site.files = p.site.files ∧ q.site.clock = p.site.clock)
    (hw : ∀ x ∈ q.workers, x ∈ p.workers ∨ ∀ i, is[x.1]? = some i →
      x.2 = Drive.begin i ∧ x.1 ∉ dispatches es) :
    Follows b st s is (es ++ [e]) q where
  moved := fun k hk => hsub (h.moved k (movings_concat hm ▸ hk))
  asAlone := by
    rw [stage_concat hm hs, hst]
    exact h.asAlone.congr hsite
  workers := by
    intro x hx i hi
    rw [stage_concat hm hs]
    rcases hw x hx with hx | hfresh
    · exact h.workers x hx i hi
    · -- an instance that was not dispatched has not moved
      obtain ⟨hd, hnot⟩ := hfresh i hi
      have hzero : (stage es x.1).1 = 0 := List.count_eq_zero_of_not_mem fun hm =>
        hnot (h.moved _ hm)
      rw [hd, hzero]
      exact ⟨rfl, .same _⟩
  sent := by
    rw [stage_concat hm hs, sendings_concat hs]
    exact h.sent
  bounded := by
    rw [stage_concat hm hs]
    exact h.bounded

/-- A worker stands where the drive of its instance alone does, and finds what that one finds. -/
theorem Follows.worker {before after : List (Nat × Drive)} {d : Drive} (h : Follows b st s is es p)
    (hb : Books r is es p) (hw : p.workers = before ++ (k, d) :: after) :
    ∃ i, is[k]? = some i ∧ i.Resumes d.item ∧ d.Like (solo b st s i (stage es k).1).1 ∧
      (stage es k).2 = false ∧ Near b.adapter st i (p.state, p.site)
      (solo b st s i (stage es k).1).2 := by
  obtain ⟨-, hunsent, -⟩ := hb.worker hw
  have hmem : (k, d) ∈ p.workers := hw ▸ List.mem_append_right _ List.mem_cons_self
  obtain ⟨i, hi, hreach⟩ := hb.workers (k, d) hmem
  have hflag : (stage es k).2 = false := decide_eq_false hunsent
  have hnear := h.asAlone.near k i hi
  rw [soloLeft_unsent hflag] at hnear
  exact ⟨i, hi, hreach.resumes, h.workers (k, d) hmem i hi, hflag, hnear⟩

/-- An instance whose drive alone has not ended may make one more move. -/
theorem Follows.bounded_moved {i : Instance} (h : Follows b st s is es p) (hi : is[k]? = some i)
    (hopen : (solo b st s i (stage es k).1).1.ending? = none) :
    ∀ j a n ending, is[j]? = some a → (solo b st s a n).1.phase = .done ending →
      (stage (es ++ [.moved k]) j).1 ≤ n := by
  intro j a n ending hj hdone
  by_cases hk : j = k
  · subst hk
    obtain rfl : i = a := Option.some.inj (hi.symm.trans hj)
    rw [stage_moved]
    refine Nat.lt_of_le_of_ne (h.bounded j i n ending hi hdone) ?_
    rintro rfl
    rw [Drive.ending?, hdone] at hopen
    cases hopen
  · rw [stage_moved_of_ne hk]
    exact h.bounded j a n ending hj hdone

/-- A worker makes the move that its drive makes alone. -/
theorem Follows.move (h : Follows b st s is es p) (hr : r.bridge = b.logged) (hb : Books r is es p)
    (hsep : Separate is) (ha : b.adapter.AnswersByName st answers)
    {before after : List (Nat × Drive)} {d d' : Drive} {state : σ × List Call} {site : Site}
    (hw : p.workers = before ++ (k, d) :: after) (hd : d.ending? = none)
    (hstep : d.step r.bridge p.state p.site = (d', state, site)) :
    Follows b st s is (es ++ [.moved k])
      { p with workers := before ++ (k, d') :: after, state := state, site := site } := by
  obtain ⟨i, hi, hresumes, hlike, hflag, hnear⟩ := h.worker hb hw
  obtain ⟨hlike', hadv⟩ := hnear.step ha (hsep.isPlain (List.mem_of_getElem? hi)) hresumes hlike
  rw [hr] at hstep
  rw [hstep, ← solo_succ] at hlike' hadv
  have halone : AsAlone b st s is (stage (es ++ [.moved k])) (state, site) := by
    refine h.asAlone.advance hsep hi ?_ fun j hj => stage_moved_of_ne hj es
    have hnext : (stage (es ++ [.moved k]) k).2 = false := by rw [stage_moved, hflag]
    rw [soloLeft_unsent hflag, soloLeft_unsent hnext, stage_moved]
    exact hadv
  have hopen : (solo b st s i (stage es k).1).1.ending? = none := by
    rw [← Option.isNone_iff_eq_none, ← Option.not_isSome, ← hlike.ending?_isSome, hd]
    rfl
  have hworkers := hb.workers_moved (Q := fun a n d => d.Like (solo b st s a n).1) hw hi
    h.workers hlike'
  refine ⟨hb.movings_moved hw h.moved, halone, hworkers, ?_, h.bounded_moved hi hopen⟩
  rw [sendings_concat rfl]
  intro x hx a hxa
  rw [hb.stage_of_sent hw hx]
  exact h.sent x hx a hxa

/-- A worker whose drive has ended reports what it reports alone. -/
theorem Follows.send (h : Follows b st s is es p) (hb : Books r is es p) (hsep : Separate is)
    {before after : List (Nat × Drive)} {d : Drive} {ending : Ending} {m : Message} {site : Site}
    (hw : p.workers = before ++ (k, d) :: after) (hd : d.ending? = some ending)
    (hsettle : Runner.settle d.item ending p.site = (m, site)) :
    Follows b st s is (es ++ [.sent k m])
      { p with workers := before ++ after, channel := p.channel ++ [(k, m)], site := site } := by
  obtain ⟨i, hi, hresumes, hlike, hflag, hnear⟩ := h.worker hb hw
  -- alone the drive has ended as well
  obtain ⟨ending', hending'⟩ : ∃ ending', (solo b st s i (stage es k).1).1.ending? =
      some ending' := by
    rw [← Option.isSome_iff_exists, ← hlike.ending?_isSome, hd]
    rfl
  have hdone := Drive.phase_of_ending? hending'
  obtain ⟨hlike', hadv⟩ := hnear.settle (hsep.isPlain (List.mem_of_getElem? hi)) hresumes hlike
    (Drive.phase_of_ending? hd) hdone
  rw [hsettle] at hlike' hadv
  have halone : AsAlone b st s is (stage (es ++ [.sent k m])) (p.state, site) := by
    refine h.asAlone.advance hsep hi ?_ fun j hj => stage_sent_of_ne hj es m
    rw [soloLeft_unsent hflag, stage_sent, soloLeft_sent hdone]
    exact hadv
  refine ⟨?_, halone, ?_, ?_, ?_⟩
  · rw [movings_concat rfl, dispatches_concat rfl]
    exact h.moved
  · intro x hx
    rw [moves_sent]
    exact h.workers x (mem_workers_of_left hw hx)
  · rw [sendings_append]
    intro x hx a hxa
    rw [moves_sent]
    rcases List.mem_append.mp hx with hx | hx
    · exact h.sent x hx a hxa
    · obtain rfl := List.mem_singleton.mp hx
      obtain rfl : i = a := Option.some.inj (hi.symm.trans hxa)
      exact ⟨ending', hdone, hlike'⟩
  · intro j a n e hj hdone
    rw [moves_sent]
    exact h.bounded j a n e hj hdone

/-- Every event leaves each instance as if alone. -/
theorem Follows.step (h : Follows b st s is es p) (hr : r.bridge = b.logged) (hb : Books r is es p)
    (hsep : Separate is) (ha : b.adapter.AnswersByName st answers) (hs : Step r p e q) :
    Follows b st s is (es ++ [e]) q := by
  have hkept : ∀ e, dispatches es ⊆ dispatches (es ++ [e]) := fun e => by
    rw [dispatches_append]
    exact List.subset_append_left _ _
  cases hs with
  | dispatch hc hd hp =>
    refine h.other rfl rfl (hkept _) rfl ⟨rfl, rfl⟩ fun x hx => ?_
    rcases List.mem_append.mp hx with hx | hx
    · exact .inl hx
    · obtain rfl := List.mem_singleton.mp hx
      exact .inr (hb.fresh hp)
  | wait hc hd hrun => exact h.other rfl rfl (hkept _) rfl ⟨rfl, rfl⟩ fun x hx => .inl hx
  | finish hc hd hrun => exact h.other rfl rfl (hkept _) rfl ⟨rfl, rfl⟩ fun x hx => .inl hx
  | move hw hd hstep => exact h.move hr hb hsep ha hw hd hstep
  | send hw hd hsettle => exact h.send hb hsep hw hd hsettle
  | receive hc hch =>
    refine h.other rfl rfl (hkept _) rfl ?_ fun x hx => .inl hx
    dsimp only [Runner.receiptNotice]
    split <;> exact ⟨rfl, rfl⟩
  | close hc hch hsend hw => exact h.other rfl rfl (hkept _) rfl ⟨rfl, rfl⟩ fun x hx => .inl hx

/-- In every run each instance is as if alone. -/
theorem Run.follows (hr : r.bridge = b.logged) (hmax : 0 < r.maxParallel) (hsep : Separate is)
    (ha : b.adapter.AnswersByName st answers) (h : Run r (start is (st, []) s) es p) :
    Follows b st s is es p := by
  induction h with
  | nil => exact follows_start b st s is
  | snoc hrun hs ih => exact ih.step hr (hrun.ledger hmax).2 hsep ha hs

end Pool

end StudyFlow
