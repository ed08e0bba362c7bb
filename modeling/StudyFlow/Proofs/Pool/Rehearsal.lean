import StudyFlow.Proofs.Drive.Rehearsal
import StudyFlow.Proofs.Pool.Independence

/-!
# Pools that hand nothing over

Where the settings of all instances ask for a dry run, a pool goes through the same events with any
adapter. Each of its workers makes three moves at most, and reports a dry run unless a file could
not be written.
-/

namespace StudyFlow

open FileTree

variable {σ τ : Type}

def Runner.withAdapter (r : Runner σ) (a : Adapter τ) : Runner τ where
  bridge := r.bridge.withAdapter a
  queues := r.queues
  root := r.root
  maxParallel := r.maxParallel
  worker := r.worker

namespace Pool

def withState (p : Pool σ) (z : τ) : Pool τ where
  pending := p.pending
  workers := p.workers
  channel := p.channel
  running := p.running
  holdsSender := p.holdsSender
  control := p.control
  inbox := p.inbox
  state := z
  site := p.site

variable {r : Runner σ} {is : List Instance} {p q : Pool σ} {e : Event} {es : List Event}
  {st : σ} {s : Site} {k : Nat}

/-- The instances that workers drive are those of the run. -/
theorem Books.isDry (hb : Books r is es p) (hdry : ∀ i ∈ is, i.IsDry r.bridge.settings) :
    ∀ x ∈ p.workers, x.2.item.IsDry r.bridge.settings := by
  intro x hx
  obtain ⟨i, hi, hreach⟩ := hb.workers x hx
  rw [Instance.IsDry, hreach.resumes.run]
  exact hdry i (List.mem_of_getElem? hi)

/-! ## Another adapter -/

theorem Step.withAdapter (h : Step r p e q)
    (hdry : ∀ x ∈ p.workers, x.2.item.IsDry r.bridge.settings) (a : Adapter τ) (z : τ) :
    Step (r.withAdapter a) (p.withState z) e (q.withState z) ∧ q.state = p.state := by
  cases h with
  | dispatch hc hd hp => exact ⟨.dispatch hc hd hp, rfl⟩
  | wait hc hd hrun => exact ⟨.wait hc hd hrun, rfl⟩
  | finish hc hd hrun => exact ⟨.finish hc hd hrun, rfl⟩
  | @move before after k d d' state site hw hd hstep =>
    have hitem : d.item.IsDry r.bridge.settings :=
      hdry (k, d) (hw ▸ List.mem_append_right _ List.mem_cons_self)
    obtain ⟨hsame, hstate⟩ := Drive.step_withAdapter hitem a z p.state p.site
    rw [hstep] at hsame hstate
    exact ⟨.move hw hd hsame, hstate⟩
  | send hw hd hsettle => exact ⟨.send hw hd hsettle, rfl⟩
  | receive hc hch => exact ⟨.receive hc hch, rfl⟩
  | close hc hch hsend hw => exact ⟨.close hc hch hsend hw, rfl⟩

/-- Whatever happens with one adapter happens with any other one, and the adapter is left in its
state. -/
theorem Run.withAdapter (h : Run r (start is st s) es p) (hmax : 0 < r.maxParallel)
    (hdry : ∀ i ∈ is, i.IsDry r.bridge.settings) (a : Adapter τ) (z : τ) :
    Run (r.withAdapter a) (start is z s) es (p.withState z) ∧ p.state = st := by
  induction h with
  | nil => exact ⟨.nil, rfl⟩
  | snoc hrun hs ih =>
    obtain ⟨hsame, hstate⟩ := hs.withAdapter ((hrun.ledger hmax).2.isDry hdry) a z
    exact ⟨ih.1.snoc hsame, hstate.trans ih.2⟩

/-! ## What every event keeps -/

/-- The pool after the events, in which each worker has come as far as its moves. -/
structure Rehearsal (is : List Instance) (s : Site) (es : List Event) (p : Pool σ) : Prop where
  clock : p.site.clock = s.clock
  moved : ∀ k ∈ movings es, k ∈ dispatches es
  workers : ∀ x ∈ p.workers, ∀ i, is[x.1]? = some i → x.2.Rehearses i s.clock (stage es x.1).1
  sent : ∀ x ∈ sendings es, (stage es x.1).1 ≤ 3 ∧ ∀ i, is[x.1]? = some i →
    x.2.result = .ok (i.dryReport s.clock) ∨ ∃ e, x.2.result = .error e

theorem rehearsal_start (is : List Instance) (st : σ) (s : Site) :
    Rehearsal is s [] (start is st s) where
  clock := rfl
  moved := fun _ hk => absurd hk List.not_mem_nil
  workers := fun _ hx => absurd hx List.not_mem_nil
  sent := fun _ hx => absurd hx List.not_mem_nil

/-- An event in which no instance moves or reports. -/
theorem Rehearsal.other (h : Rehearsal is s es p) (hm : movings [e] = []) (hs : sendings [e] = [])
    (hsub : dispatches es ⊆ dispatches (es ++ [e])) (hclock : q.site.clock = p.site.clock)
    (hw : ∀ x ∈ q.workers, x ∈ p.workers ∨ ∀ i, is[x.1]? = some i → x.2 = Drive.begin i ∧
      x.1 ∉ dispatches es) :
    Rehearsal is s (es ++ [e]) q where
  clock := hclock.trans h.clock
  moved := fun k hk => hsub (h.moved k (movings_concat hm ▸ hk))
  workers := by
    intro x hx i hi
    rw [stage_concat hm hs]
    rcases hw x hx with hx | hfresh
    · exact h.workers x hx i hi
    · obtain ⟨hd, hnot⟩ := hfresh i hi
      have hzero : (stage es x.1).1 = 0 := List.count_eq_zero_of_not_mem fun hm =>
        hnot (h.moved _ hm)
      rw [hd, hzero]
      exact .start
  sent := by
    rw [stage_concat hm hs, sendings_concat hs]
    exact h.sent

theorem Rehearsal.move (h : Rehearsal is s es p) (hb : Books r is es p)
    (hdry : ∀ i ∈ is, i.IsDry r.bridge.settings) {before after : List (Nat × Drive)}
    {d d' : Drive} {state : σ} {site : Site} (hw : p.workers = before ++ (k, d) :: after)
    (hd : d.ending? = none) (hstep : d.step r.bridge p.state p.site = (d', state, site)) :
    Rehearsal is s (es ++ [.moved k])
      { p with workers := before ++ (k, d') :: after, state := state, site := site } := by
  have hmem : (k, d) ∈ p.workers := hw ▸ List.mem_append_right _ List.mem_cons_self
  obtain ⟨i, hi, -⟩ := hb.workers (k, d) hmem
  obtain ⟨hmoved, hclock⟩ :=
    (h.workers (k, d) hmem i hi).step hd (hdry i (List.mem_of_getElem? hi)) p.state h.clock
  rw [hstep] at hmoved hclock
  refine ⟨hclock, hb.movings_moved hw h.moved,
    hb.workers_moved (Q := fun a n d => d.Rehearses a s.clock n) hw hi h.workers hmoved, ?_⟩
  rw [sendings_concat rfl]
  intro x hx
  rw [hb.stage_of_sent hw hx]
  exact h.sent x hx

theorem Rehearsal.send (h : Rehearsal is s es p) (hb : Books r is es p)
    {before after : List (Nat × Drive)} {d : Drive} {ending : Ending} {m : Message} {site : Site}
    (hw : p.workers = before ++ (k, d) :: after) (hd : d.ending? = some ending)
    (hsettle : Runner.settle d.item ending p.site = (m, site)) :
    Rehearsal is s (es ++ [.sent k m])
      { p with workers := before ++ after, channel := p.channel ++ [(k, m)], site := site } := by
  have hmem : (k, d) ∈ p.workers := hw ▸ List.mem_append_right _ List.mem_cons_self
  obtain ⟨i, hi, -⟩ := hb.workers (k, d) hmem
  have hrehearses := h.workers (k, d) hmem i hi
  obtain ⟨hresult, hsite⟩ := hrehearses.settle (Drive.phase_of_ending? hd) h.clock
  rw [hsettle] at hresult hsite
  refine ⟨(congrArg Site.clock hsite).trans h.clock, ?_, ?_, ?_⟩
  · rw [movings_concat rfl, dispatches_concat rfl]
    exact h.moved
  · intro x hx
    rw [moves_sent]
    exact h.workers x (mem_workers_of_left hw hx)
  · rw [sendings_append]
    intro x hx
    rw [moves_sent]
    rcases List.mem_append.mp hx with hx | hx
    · exact h.sent x hx
    · obtain rfl := List.mem_singleton.mp hx
      refine ⟨hrehearses.le, fun a ha => ?_⟩
      obtain rfl : i = a := Option.some.inj (hi.symm.trans ha)
      exact hresult

theorem Rehearsal.step (h : Rehearsal is s es p) (hb : Books r is es p)
    (hdry : ∀ i ∈ is, i.IsDry r.bridge.settings) (hs : Step r p e q) :
    Rehearsal is s (es ++ [e]) q := by
  have hkept : ∀ e, dispatches es ⊆ dispatches (es ++ [e]) := fun e => by
    rw [dispatches_append]
    exact List.subset_append_left _ _
  cases hs with
  | dispatch hc hd hp =>
    refine h.other rfl rfl (hkept _) rfl fun x hx => ?_
    rcases List.mem_append.mp hx with hx | hx
    · exact .inl hx
    · obtain rfl := List.mem_singleton.mp hx
      exact .inr (hb.fresh hp)
  | wait hc hd hrun => exact h.other rfl rfl (hkept _) rfl fun x hx => .inl hx
  | finish hc hd hrun => exact h.other rfl rfl (hkept _) rfl fun x hx => .inl hx
  | move hw hd hstep => exact h.move hb hdry hw hd hstep
  | send hw hd hsettle => exact h.send hb hw hd hsettle
  | receive hc hch =>
    refine h.other rfl rfl (hkept _) ?_ fun x hx => .inl hx
    dsimp only [Runner.receiptNotice]
    split <;> rfl
  | close hc hch hsend hw => exact h.other rfl rfl (hkept _) rfl fun x hx => .inl hx

theorem Run.rehearsal (h : Run r (start is st s) es p) (hmax : 0 < r.maxParallel)
    (hdry : ∀ i ∈ is, i.IsDry r.bridge.settings) : Rehearsal is s es p := by
  induction h with
  | nil => exact rehearsal_start is st s
  | snoc hrun hs ih => exact ih.step (hrun.ledger hmax).2 hdry hs

/-! ## How long it takes, and what is reported -/

/-- No instance makes more than three moves. -/
theorem Rehearsal.stage_le (h : Rehearsal is s es p) (hb : Books r is es p) (k : Nat) :
    (stage es k).1 ≤ 3 := by
  by_cases hk : k ∈ dispatches es
  · rcases List.mem_append.mp (hb.handed.mem_iff.mpr hk) with hm | hm
    · obtain ⟨x, hx, rfl⟩ := List.mem_map.mp hm
      exact (h.sent x hx).1
    · obtain ⟨x, hx, rfl⟩ := List.mem_map.mp hm
      obtain ⟨i, hi, -⟩ := hb.workers x hx
      exact (h.workers x hx i hi).le
  · have hzero : (stage es k).1 = 0 := List.count_eq_zero_of_not_mem fun hm => hk (h.moved k hm)
    omega

theorem Run.length_le_of_dry (h : Run r (start is st s) es p) (hmax : 0 < r.maxParallel)
    (hdry : ∀ i ∈ is, i.IsDry r.bridge.settings) : es.length ≤ 7 * is.length + 2 := by
  obtain ⟨-, hbooks⟩ := h.ledger hmax
  have hrehearsal := h.rehearsal hmax hdry
  have hlength := h.length_le_movings hbooks
  have hmoves : (movings es).length ≤ ∑ _k ∈ Finset.range is.length, 3 := by
    refine length_movings_le (fun k hk => ?_) fun k _ => hrehearsal.stage_le hbooks k
    have hmem : k ∈ List.range is.length := by
      rw [← hbooks.dispatched]
      exact List.mem_append_left _ (hrehearsal.moved k hk)
    exact List.mem_range.mp hmem
  rw [Finset.sum_const_nat fun _ _ => rfl, Finset.card_range] at hmoves
  omega

theorem filterMap_range_getElem? {α β : Type} (xs : List α) (f : α → β) :
    ((List.range xs.length).map fun k => xs[k]?.map f).filterMap id = xs.map f := by
  have hsome : (List.range xs.length).map (fun k => xs[k]?.map f) = (xs.map f).map some := by
    refine List.ext_getElem (by simp) fun k hk _ => ?_
    have hlt : k < xs.length := by simpa using hk
    simp [List.getElem?_eq_getElem hlt]
  rw [hsome, List.filterMap_map]
  simp

/-- Reports of a run without failures are those of dry runs, one of each instance. -/
theorem Rehearsal.reports (h : Rehearsal is s es p) (hc : Counts r p) (hb : Books r is es p)
    (hf : p.control = .finished) {summary : Summary} (hr : p.inbox.result = .ok summary) :
    summary.reports.Perm (is.map fun i => i.dryReport s.clock) := by
  obtain ⟨-, -, hreceived, hall⟩ := hb.finished hc hf
  obtain ⟨hreports, herror⟩ := foldl_receive (receptions es) {}
  rw [← hb.inbox] at hreports herror
  have hok : ((receptions es).map fun x => x.2.result.toOption).all Option.isSome = true := by
    have hnone := isOk_result p.inbox
    rw [hr, herror] at hnone
    exact hnone.symm
  have hmessages : (receptions es).map (fun x => x.2.result.toOption) =
      ((receptions es).map Prod.fst).map fun k => is[k]?.map fun i => i.dryReport s.clock := by
    rw [List.map_map]
    refine List.map_congr_left fun x hx => ?_
    have hsome := List.all_eq_true.mp hok _ (List.mem_map_of_mem hx)
    rw [hreceived] at hx
    obtain ⟨i, hi, -⟩ := hb.told x hx
    rcases (h.sent x hx).2 i hi with hresult | ⟨e, hresult⟩
    · simp [hresult, hi, Except.toOption]
    · rw [hresult] at hsome
      cases hsome
  rw [← summary_of_result hr, hreports, hmessages]
  have hperm := (hall.map fun k => is[k]?.map fun i => i.dryReport s.clock).filterMap id
  rw [filterMap_range_getElem?] at hperm
  exact hperm

/-! ## What is written -/

theorem Step.confined (hs : Step r p e q) (hb : Books r is es p)
    (hdry : ∀ i ∈ is, i.IsDry r.bridge.settings) (hg : p.site.files.Grounded) :
    Confined (· ∈ is) p.site.files q.site.files := by
  cases hs with
  | dispatch hc hd hp => exact .refl hg
  | wait hc hd hrun => exact .refl hg
  | finish hc hd hrun => exact .refl hg
  | @move before after k d d' state site hw hd hstep =>
    obtain ⟨i, hi, hreach⟩ := hb.workers (k, d) (hw ▸ List.mem_append_right _ List.mem_cons_self)
    have hmem := List.mem_of_getElem? hi
    have hconfined : Confined (· ∈ is) p.site.files (d.step r.bridge p.state p.site).2.2.files :=
      Drive.step_confined hmem hreach.resumes (hdry i hmem) p.state hg
    rw [hstep] at hconfined
    exact hconfined
  | @send before after k d ending m site hw hd hsettle =>
    obtain ⟨i, hi, hreach⟩ := hb.workers (k, d) (hw ▸ List.mem_append_right _ List.mem_cons_self)
    have hmem := List.mem_of_getElem? hi
    have hconfined : Confined (· ∈ is) p.site.files (Runner.settle d.item ending p.site).2.files :=
      Runner.settle_confined hmem hreach.resumes.workspace hg
    rw [hsettle] at hconfined
    exact hconfined
  | receive hc hch =>
    dsimp only [Runner.receiptNotice]
    split <;> exact .refl hg
  | close hc hch hsend hw => exact .refl hg

/-- A run writes the status files and the scripts of its instances. -/
theorem Run.confined (h : Run r (start is st s) es p) (hmax : 0 < r.maxParallel)
    (hdry : ∀ i ∈ is, i.IsDry r.bridge.settings) (hg : s.files.Grounded) :
    Confined (· ∈ is) s.files p.site.files := by
  induction h with
  | nil => exact .refl hg
  | snoc hrun hs ih => exact ih.trans (hs.confined (hrun.ledger hmax).2 hdry ih.grounded)

end Pool

end StudyFlow
