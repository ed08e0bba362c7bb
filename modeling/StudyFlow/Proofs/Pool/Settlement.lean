import StudyFlow.Proofs.Pool.Schedule

/-!
# A pool settles all of its instances

Every event brings a pool whose instances have restart limits closer to its end; `effort` bounds the
events that are left. Together with the books this settles what a run of instances does, in whatever
order.
-/

namespace StudyFlow.Pool

variable {σ : Type} {r : Runner σ} {is : List Instance} {p q : Pool σ} {e : Event} {es : List Event}

attribute [local instance (high)] Zero.ofOfNat0

/-- The events that are left at most, where all instances have restart limits. -/
def effort (p : Pool σ) : Nat :=
  (p.pending.map fun x => (Drive.begin x.2).movesLeft + 4).sum +
    (p.workers.map fun x => x.2.movesLeft + 3).sum + 2 * p.channel.length +
    match p.control with
    | .dispatching => 2
    | .receiving => 1
    | _ => 0

theorem Step.effort_lt (hs : Step r p e q) (hl : ∀ x ∈ p.workers, x.2.item.restartLimit ≠ 0) :
    q.effort < p.effort := by
  cases hs with
  | dispatch hc hd hp =>
    simp only [effort, hc, hp, List.map_append, List.sum_append, List.map_cons, List.sum_cons,
      List.map_nil, List.sum_nil]
    omega
  | wait hc hd hrun =>
    simp only [effort, turn, hc]
    omega
  | finish hc hd hrun =>
    simp only [effort, turn, hc]
    omega
  | @move before after k d d' st s hw hd hstep =>
    have hlt : d'.movesLeft < d.movesLeft := by
      have hstepped := Drive.movesLeft_step (hl (k, d) (by simp [hw])) hd r.bridge p.state p.site
      rw [hstep] at hstepped
      exact hstepped
    simp only [effort, hw, List.map_append, List.sum_append, List.map_cons, List.sum_cons]
    omega
  | send hw hd hsettle =>
    simp only [effort, hw, List.map_append, List.sum_append, List.map_cons, List.sum_cons,
      List.length_append, List.length_cons, List.length_nil]
    omega
  | receive hc hch =>
    simp only [effort, hc, hch, List.length_cons]
    omega
  | close hc hch hsend hw =>
    simp only [effort, hc]
    omega

/-- The events so far use up what the pool started with. -/
theorem Run.effort {st : σ} {s : Site} (h : Run r (start is st s) es p) (hmax : 0 < r.maxParallel)
    (hl : ∀ i ∈ is, i.restartLimit ≠ 0) : es.length + p.effort ≤ (start is st s).effort := by
  induction h with
  | nil => exact Nat.le_of_eq (Nat.zero_add _)
  | snoc hrun hs ih =>
    obtain ⟨-, hbooks⟩ := hrun.ledger hmax
    have hlt := hs.effort_lt fun x hx => by
      obtain ⟨i, hi, hreach⟩ := hbooks.workers x hx
      rw [hreach.resumes.restartLimit]
      exact hl i (List.mem_of_getElem? hi)
    rw [List.length_append, List.length_singleton]
    omega

/-- Whatever the order of events: the bound on workers holds, each instance is dispatched once and
answered by one message about its own drive, and the channel is never found closed. The main loop
can always go on until it has received all messages, and with restart limits it gets there; its
result is then all reports, or the error that came in first. -/
theorem run_settles_all {st : σ} {s : Site} (hmax : 0 < r.maxParallel)
    (h : Run r (start is st s) es p) :
    p.workers.length ≤ r.maxParallel ∧
    dispatches es ++ p.pending.map Prod.fst = List.range is.length ∧
    ((sendings es).map Prod.fst ++ p.workers.map Prod.fst).Perm (dispatches es) ∧
    (∀ x ∈ sendings es, ∃ i, is[x.1]? = some i ∧ x.2.Tells r.bridge i) ∧
    p.control ≠ .closed ∧ (p.control ≠ .finished → ∃ e q, Step r p e q) ∧
    ((∀ i ∈ is, i.restartLimit ≠ 0) → es.length ≤ (start is st s).effort) ∧
    (p.control = .finished →
      p.pending = [] ∧ p.workers = [] ∧ receptions es = sendings es ∧
      ((receptions es).map Prod.fst).Perm (List.range is.length) ∧
      (∀ reports : List Report, (receptions es).map (fun x => x.2.result) = reports.map Except.ok →
        p.inbox.result = .ok ⟨reports⟩) ∧
      ∀ earlier later k m cause, ∀ reports : List Report,
        receptions es = earlier ++ (k, m) :: later →
        earlier.map (fun x => x.2.result) = reports.map Except.ok → m.result = .error cause →
        p.inbox.result = .error cause) := by
  obtain ⟨hcounts, hbooks⟩ := h.ledger hmax
  have hrun := hcounts.running
  have hbound := hcounts.bound
  refine ⟨by omega, hbooks.dispatched, hbooks.handed, hbooks.told, hcounts.open_,
    hcounts.progress, ?_, ?_⟩
  · intro hl
    have heffort := h.effort hmax hl
    omega
  · intro hf
    obtain ⟨hzero, hpending⟩ := hcounts.finished hf
    have hworkers : p.workers = [] := List.length_eq_zero_iff.mp (by omega)
    have hchannel : p.channel = [] := List.length_eq_zero_iff.mp (by omega)
    have hall := hbooks.channel
    rw [hchannel, List.append_nil] at hall
    have hdispatched := hbooks.dispatched
    rw [hpending, List.map_nil, List.append_nil] at hdispatched
    have hhanded := hbooks.handed
    rw [hworkers, List.map_nil, List.append_nil, hdispatched, hall] at hhanded
    exact ⟨hpending, hworkers, hall.symm, hhanded, fun _ hr => hbooks.result_of_reports hr,
      fun _ _ _ _ _ _ hr he hm => hbooks.result_of_error hr he hm⟩

/-- The first submission loses the adapter, the other one succeeds. -/
def crashThenOk : Nat → Reply
  | 0 => .crashed
  | _ => .submitted ⟨.ok, "2"⟩

/-- A runner with room for two workers. -/
def pair : Runner (List Script) where
  bridge := ⟨{ shell := "/bin/sh" }, .replay crashThenOk⟩
  queues := {}
  root := ⟨"study"⟩
  maxParallel := 2
  worker := "local"

def twins : List Instance :=
  [Instance.ofTemplate (Template.new "sim" "run") ⟨"a"⟩ 0,
    Instance.ofTemplate (Template.new "sim" "run") ⟨"b"⟩ 0]

theorem run_settles_all_twins :
    ∃ es p, 0 < pair.maxParallel ∧ Run pair (start twins [] {}) es p ∧ p.control = .finished ∧
      p.inbox.result = .error (.workerLost "sim") ∧ p.workers = [] ∧
      ((receptions es).map Prod.fst).Perm [0, 1] := by
  have hlimits : ∀ i ∈ twins, i.restartLimit ≠ 0 := by decide
  obtain ⟨es, p, hrun, hf, hresult⟩ := exists_run_of_runInstances (r := pair) (by decide)
    (fun i hi st s => Drive.run_ends (hlimits i hi) pair.bridge st s) [] {}
  obtain ⟨-, -, -, -, -, -, -, hfinished⟩ := run_settles_all (by decide) hrun
  obtain ⟨-, hworkers, -, hperm, -⟩ := hfinished hf
  have hlost : (pair.runInstances twins [] {}).1 = .error (.workerLost "sim") := by rfl
  rw [hresult] at hlost
  exact ⟨es, p, by decide, hrun, hf, hlost, hworkers, hperm⟩

end StudyFlow.Pool
