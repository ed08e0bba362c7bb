import StudyFlow.Proofs.Drive.Limit
import StudyFlow.Proofs.Pool.Ledger

/-!
# One worker after the other

The order that `Runner.runInstances` follows is one that a pool leaves open, for any bound on
workers: the main loop dispatches what it can, but only the first worker moves until its message is
received.
-/

namespace StudyFlow

variable {σ : Type}

/-- Each instance comes to its end when they are driven one after the other. -/
def Runner.DrivesEnd (r : Runner σ) : List Instance → σ → Site → Prop
  | [], _, _ => True
  | i :: rest, st, s =>
    (∃ ending, (Drive.moves r.bridge Drive.moveBound (Drive.begin i) st s).1.phase = .done ending) ∧
      r.DrivesEnd rest (r.work i st s).2.1
        (Runner.receiptNotice (r.work i st s).1 (r.work i st s).2.2)

theorem Runner.drivesEnd_of_forall {r : Runner σ} {is : List Instance}
    (h : ∀ i ∈ is, ∀ st s, ∃ ending,
      (Drive.moves r.bridge Drive.moveBound (Drive.begin i) st s).1.phase = .done ending)
      (st : σ) (s : Site) :
    r.DrivesEnd is st s := by
  induction is generalizing st s with
  | nil => trivial
  | cons i is ih =>
    obtain ⟨hi, his⟩ := List.forall_mem_cons.mp h
    exact ⟨hi st s, ih his _ _⟩

namespace Pool

variable {r : Runner σ} {p q : Pool σ} {e : Event}

/-- Some events lead from one pool to another. -/
def Leads (r : Runner σ) (p q : Pool σ) : Prop := ∃ es, Run r p es q

theorem Leads.refl (r : Runner σ) (p : Pool σ) : Leads r p p := ⟨[], Run.nil⟩

theorem Leads.step {q' : Pool σ} (h : Leads r p q) (hs : Step r q e q') : Leads r p q' := by
  obtain ⟨es, hrun⟩ := h
  exact ⟨es ++ [e], hrun.snoc hs⟩

theorem Leads.trans {q' : Pool σ} (h : Leads r p q) (h' : Leads r q q') : Leads r p q' := by
  obtain ⟨fs, hrun⟩ := h'
  induction hrun with
  | nil => exact h
  | snoc _ hs ih => exact ih.step hs

theorem Leads.counts (h : Leads r p q) (hmax : 0 < r.maxParallel) (hp : Counts r p) :
    Counts r q := by
  obtain ⟨es, hrun⟩ := h
  induction hrun with
  | nil => exact hp
  | snoc _ hs ih => exact ih.step hmax hs

/-- A worker that has not moved yet. -/
def fresh (x : Nat × Instance) : Nat × Drive := (x.1, Drive.begin x.2)

/-- The main loop dispatches until it can dispatch no more. -/
theorem leads_dispatched (hc : p.control = .dispatching) :
    ∃ q, Leads r p q ∧ q.canDispatch r = false ∧ q.control = .dispatching ∧ q.channel = p.channel ∧
      q.inbox = p.inbox ∧ q.state = p.state ∧ q.site = p.site ∧
      q.workers ++ q.pending.map fresh = p.workers ++ p.pending.map fresh := by
  generalize hjobs : p.pending = jobs
  induction jobs generalizing p with
  | nil =>
    refine ⟨p, Leads.refl r p, ?_, hc, rfl, rfl, rfl, rfl, by rw [hjobs]⟩
    simp [canDispatch, hjobs]
  | cons x rest ih =>
    cases hd : p.canDispatch r with
    | false => exact ⟨p, Leads.refl r p, hd, hc, rfl, rfl, rfl, rfl, by rw [hjobs]⟩
    | true =>
      have hstep := Step.dispatch hc hd hjobs
      generalize hnext : { p with
        pending := rest
        workers := p.workers ++ [(x.1, Drive.begin x.2)]
        running := p.running + 1 } = p' at hstep
      have hcontrol : p'.control = .dispatching := by rw [← hnext]; exact hc
      obtain ⟨q, hleads, hrest⟩ := ih hcontrol (by rw [← hnext])
      refine ⟨q, ((Leads.refl r p).step hstep).trans hleads, ?_⟩
      subst hnext
      rw [List.append_assoc] at hrest
      exact hrest

/-- A worker moves on while the others wait. -/
theorem leads_moves (p : Pool σ) (before after : List (Nat × Drive)) (k n : Nat)
    (d : Drive) (st : σ) (s : Site) :
    Leads r { p with workers := before ++ (k, d) :: after, state := st, site := s }
      { p with
        workers := before ++ (k, (d.moves r.bridge n st s).1) :: after
        state := (d.moves r.bridge n st s).2.1
        site := (d.moves r.bridge n st s).2.2 } := by
  induction n generalizing d st s with
  | zero => exact Leads.refl r _
  | succ n ih =>
    cases hd : d.ending? with
    | some ending =>
      rw [Drive.moves_of_done (Drive.phase_of_ending? hd)]
      exact Leads.refl r _
    | none =>
      rw [Drive.moves_succ]
      refine Leads.trans ?_ (ih _ _ _)
      exact (Leads.refl r _).step (Step.move rfl hd rfl)

/-- The first worker comes to its end and is heard of before any other one moves. -/
theorem leads_received {k : Nat} {i : Instance} {rest : List (Nat × Drive)} {ending : Ending}
    (hc : p.control = .receiving) (hch : p.channel = [])
    (hw : p.workers = (k, Drive.begin i) :: rest)
    (hd : (Drive.moves r.bridge Drive.moveBound (Drive.begin i) p.state p.site).1.phase =
      .done ending) :
    Leads r p
      { p with
        workers := rest
        running := p.running - 1
        control := .dispatching
        inbox := p.inbox.receive (r.work i p.state p.site).1
        state := (r.work i p.state p.site).2.1
        site := Runner.receiptNotice (r.work i p.state p.site).1
          (r.work i p.state p.site).2.2 } := by
  have hmoves := leads_moves (r := r) p [] rest k Drive.moveBound (Drive.begin i) p.state p.site
  generalize hm : Drive.moves r.bridge Drive.moveBound (Drive.begin i) p.state p.site =
    result at hmoves hd
  obtain ⟨⟨j, phase⟩, st, s⟩ := result
  obtain rfl : phase = .done ending := hd
  obtain ⟨m, s', hsettle⟩ : ∃ m s', Runner.settle j ending s = (m, s') := ⟨_, _, rfl⟩
  have hwork : r.work i p.state p.site = (m, st, s') := by
    rw [Runner.work, Drive.run_eq hm]
    simp only [hsettle]
  rw [hwork]
  have hp : p = { p with workers := [] ++
      (k, Drive.begin i) :: rest, state := p.state, site := p.site } := by
    rw [List.nil_append, ← hw]
  rw [← hp] at hmoves
  have hsend : Leads r p
      { p with workers := rest, channel := [(k, m)], state := st, site := s' } := by
    have hstep := hmoves.step (Step.send rfl rfl hsettle)
    rw [hch] at hstep
    exact hstep
  have hreceive := hsend.step (Step.receive hc rfl)
  rw [← hch] at hreceive
  exact hreceive

/-- The instances that are left are run as `Runner.gather` runs them. -/
theorem leads_gather (hmax : 0 < r.maxParallel) (jobs : List (Nat × Instance))
    (hcounts : Counts r p) (hends : r.DrivesEnd (jobs.map Prod.snd) p.state p.site)
    (hc : p.control = .dispatching) (hch : p.channel = [])
    (hjobs : p.workers ++ p.pending.map fresh = jobs.map fresh) :
    ∃ q, Leads r p q ∧ q.control = .finished ∧
      r.gather (jobs.map Prod.snd) p.inbox p.state p.site = (q.inbox, q.state, q.site) := by
  induction jobs generalizing p with
  | nil =>
    obtain ⟨hworkers, hpending⟩ := List.append_eq_nil_iff.mp hjobs
    have hrun : p.running = 0 := by
      rw [hcounts.running, hworkers, hch]
      rfl
    have hd : p.canDispatch r = false := by
      have hnone : p.pending = [] := List.map_eq_nil_iff.mp hpending
      simp [canDispatch, hnone]
    exact ⟨p.turn .finished, (Leads.refl r p).step (Step.finish hc hd hrun), rfl, rfl⟩
  | cons x jobs ih =>
    obtain ⟨k, i⟩ := x
    obtain ⟨p₁, hleads, hd, hc₁, hch₁, hinbox, hstate, hsite, hall⟩ := leads_dispatched (r := r) hc
    have hcounts₁ := hleads.counts hmax hcounts
    rw [hjobs] at hall
    rw [hch] at hch₁
    have hrun := hcounts₁.running
    rw [hch₁, List.length_nil, Nat.add_zero] at hrun
    -- the first of the instances has a worker, or the main loop could dispatch it
    obtain ⟨rest, hworkers⟩ : ∃ rest, p₁.workers = (k, Drive.begin i) :: rest := by
      cases hw : p₁.workers with
      | nil =>
        rw [hw] at hall hrun
        have hne : p₁.pending ≠ [] := by
          rintro hnone
          rw [hnone] at hall
          cases hall
        have hsender : p₁.holdsSender = true := by
          rw [← Bool.not_eq_false]
          exact fun hf => hne (hcounts₁.sender hf)
        rw [canDispatch_iff.mpr ⟨by rw [hrun]; exact hmax, hsender, hne⟩] at hd
        cases hd
      | cons y rest =>
        rw [hw] at hall
        obtain ⟨hy, -⟩ := List.cons.inj hall
        exact ⟨rest, by rw [hy]; rfl⟩
    have hne : p₁.running ≠ 0 := by
      rw [hrun, hworkers]
      exact Nat.succ_ne_zero _
    have hwait := hleads.step (Step.wait hc₁ hd hne)
    have hends : r.DrivesEnd (i :: jobs.map Prod.snd) (p₁.turn .receiving).state
        (p₁.turn .receiving).site := by
      change r.DrivesEnd _ p₁.state p₁.site
      rw [hstate, hsite]
      exact hends
    obtain ⟨⟨ending, hending⟩, hmore⟩ := hends
    have hreceived := hwait.trans
      (leads_received (p := p₁.turn .receiving) rfl hch₁ hworkers hending)
    rw [hworkers, List.map_cons, List.cons_append] at hall
    obtain ⟨q, hq, hf, hgather⟩ :=
      ih (hreceived.counts hmax hcounts) hmore rfl hch₁ (List.cons.inj hall).2
    refine ⟨q, hreceived.trans hq, hf, ?_⟩
    rw [← hgather]
    simp only [List.map_cons, Runner.gather, turn, hinbox, hstate, hsite]

/-- Running instances one after the other is one of the ways in which a pool may run them. -/
theorem exists_run_of_drivesEnd (hmax : 0 < r.maxParallel) {is : List Instance} {st : σ} {s : Site}
    (hends : r.DrivesEnd is st s) :
    ∃ es p, Run r (start is st s) es p ∧ p.control = .finished ∧
      r.runInstances is st s = (p.inbox.result, p.state, p.site) := by
  have hitems : (is.zipIdx.map Prod.swap).map Prod.snd = is := by
    rw [List.map_map]
    exact List.zipIdx_map_fst _ _
  obtain ⟨q, ⟨es, hrun⟩, hf, hgather⟩ :=
    leads_gather (p := start is st s) hmax (is.zipIdx.map Prod.swap)
    (counts_start r is st s) (hitems.symm ▸ hends) rfl rfl rfl
  refine ⟨es, q, hrun, hf, ?_⟩
  rw [hitems] at hgather
  unfold Runner.runInstances
  rw [show r.gather is {} st s = _ from hgather]

theorem exists_run_of_runInstances (hmax : 0 < r.maxParallel) {is : List Instance}
    (hends : ∀ i ∈ is, ∀ st s, ∃ ending,
      (Drive.moves r.bridge Drive.moveBound (Drive.begin i) st s).1.phase = .done ending)
    (st : σ) (s : Site) :
    ∃ es p, Run r (start is st s) es p ∧ p.control = .finished ∧
      r.runInstances is st s = (p.inbox.result, p.state, p.site) :=
  exists_run_of_drivesEnd hmax (Runner.drivesEnd_of_forall hends st s)

end Pool

end StudyFlow
