import Mathlib.Algebra.BigOperators.Group.Finset.Basic
import Mathlib.Algebra.Order.BigOperators.Group.Finset
import StudyFlow.Proofs.Pool.Alone
import StudyFlow.Proofs.Pool.Schedule

/-!
# The order of events makes no difference

When all is done each instance stands where its drive alone ends, whatever the bound on workers was
and in whatever order they moved. So any two runs end with the same files, the same verdict, the
same scripts handed over for each instance and, if no instance failed, the same reports, perhaps in
another order.
-/

namespace StudyFlow

open FileTree

variable {σ : Type}

/-- The runner with an adapter that keeps its calls. -/
def Runner.logged (r : Runner σ) : Runner (σ × List Call) where
  bridge := r.bridge.logged
  queues := r.queues
  root := r.root
  maxParallel := r.maxParallel
  worker := r.worker

theorem Runner.maxParallel_setMaxParallel_pos (r : Runner σ) (m : Nat) :
    0 < (r.setMaxParallel m).logged.maxParallel := Nat.le_max_right m 1

/-- The events of the main loop that are not matched by one of an instance. -/
def Control.lag : Control → Nat
  | .dispatching => 0
  | .receiving => 1
  | .finished => 1
  | .closed => 2

theorem Drive.moves_logged (b : Bridge σ) (n : Nat) (d : Drive) (st : σ)
    (calls : List Call) (s : Site) :
    ∃ more, moves b.logged n d (st, calls) s =
      ((moves b n d st s).1, ((moves b n d st s).2.1, more), (moves b n d st s).2.2) := by
  induction n generalizing d st calls s with
  | zero => exact ⟨calls, rfl⟩
  | succ n ih =>
    obtain ⟨new, -, hstep⟩ := d.step_logged b st s
    obtain ⟨rest, hmoves⟩ := ih (d.step b st s).1 (d.step b st s).2.1 (calls ++ new)
      (d.step b st s).2.2
    exact ⟨rest, by rw [moves_succ, moves_succ, hstep, hmoves]⟩

namespace Pool

/-! ## Keeping the calls leaves the runs as they are -/

def withCalls (p : Pool σ) (calls : List Call) : Pool (σ × List Call) where
  pending := p.pending
  workers := p.workers
  channel := p.channel
  running := p.running
  holdsSender := p.holdsSender
  control := p.control
  inbox := p.inbox
  state := (p.state, calls)
  site := p.site

variable {r : Runner σ} {is : List Instance} {p p' q : Pool σ} {e : Event}
  {es es' : List Event} {st : σ} {s : Site}

/-- An event appends the calls that it makes, each for an instance that a worker has. -/
theorem Step.logged (h : Step r p e q) :
    ∃ new : List Call, (∀ c ∈ new, ∃ x ∈ p.workers, c.script = x.2.item.script) ∧
      ∀ calls, Step r.logged (p.withCalls calls) e (q.withCalls (calls ++ new)) := by
  -- only moves of drives reach the adapter
  have hquiet : (∀ calls, Step r.logged (p.withCalls calls) e (q.withCalls calls)) →
      ∃ new : List Call, (∀ c ∈ new, ∃ x ∈ p.workers, c.script = x.2.item.script) ∧
        ∀ calls, Step r.logged (p.withCalls calls) e (q.withCalls (calls ++ new)) := by
    intro hsame
    refine ⟨[], fun _ hc => absurd hc List.not_mem_nil, fun calls => ?_⟩
    rw [List.append_nil]
    exact hsame calls
  cases h with
  | dispatch hc hd hp => exact hquiet fun _ => .dispatch hc hd hp
  | wait hc hd hrun => exact hquiet fun _ => .wait hc hd hrun
  | finish hc hd hrun => exact hquiet fun _ => .finish hc hd hrun
  | @move before after k d d' st s hw hd hstep =>
    obtain ⟨new, hnew, hm⟩ := d.step_logged r.bridge p.state p.site
    rw [hstep] at hm
    have hworker : (k, d) ∈ p.workers := hw ▸ List.mem_append_right _ List.mem_cons_self
    exact ⟨new, fun c hc => ⟨(k, d), hworker, hnew c hc⟩, fun calls => .move hw hd (hm calls)⟩
  | send hw hd hsettle => exact hquiet fun _ => .send hw hd hsettle
  | receive hc hch => exact hquiet fun _ => .receive hc hch
  | close hc hch hsend hw => exact hquiet fun _ => .close hc hch hsend hw

/-- Each run is one of the same events in which the adapter keeps its calls, which are all for the
instances. -/
theorem Run.logged (h : Run r (start is st s) es p) :
    ∃ new : List Call, (∀ c ∈ new, ∃ i ∈ is, c.IsFor i) ∧
      ∀ calls, Run r.logged (start is (st, calls) s) es (p.withCalls (calls ++ new)) := by
  induction h with
  | nil =>
    refine ⟨[], fun _ hc => absurd hc List.not_mem_nil, fun calls => ?_⟩
    rw [List.append_nil]
    exact .nil
  | @snoc p q es e hrun hs ih =>
    obtain ⟨before, hbefore, hlogged⟩ := ih
    obtain ⟨new, hnew, hstep⟩ := hs.logged
    refine ⟨before ++ new, fun c hc => ?_, fun calls => ?_⟩
    · rcases List.mem_append.mp hc with hc | hc
      · exact hbefore c hc
      · obtain ⟨x, hx, hscript⟩ := hnew c hc
        obtain ⟨i, hi, hreach⟩ := hrun.books.workers x hx
        exact ⟨i, List.mem_of_getElem? hi, x.2.item, hreach.resumes, hscript⟩
    · rw [← List.append_assoc]
      exact (hlogged calls).snoc (hstep (calls ++ before))

/-! ## How long runs are -/

/-- Events are dispatches, moves, reports and their receptions; the main loop waits before each of
these. -/
theorem Run.length_eq (h : Run r (start is st s) es p) :
    es.length = (dispatches es).length + (movings es).length + (sendings es).length +
      2 * (receptions es).length + p.control.lag := by
  induction h with
  | nil => rfl
  | @snoc p q es e _ hs ih =>
    have hone : (dispatches [e]).length + (movings [e]).length + (sendings [e]).length +
        2 * (receptions [e]).length + q.control.lag = p.control.lag + 1 := by
      cases hs with
      | dispatch hc => rw [hc]; rfl
      | wait hc => rw [hc]; rfl
      | finish hc => rw [hc]; rfl
      | move => exact Nat.add_comm 1 _
      | send => exact Nat.add_comm 1 _
      | receive hc => rw [hc]; rfl
      | close hc => rw [hc]; rfl
    rw [dispatches_append, movings_append, sendings_append, receptions_append]
    simp only [List.length_append, List.length_singleton]
    omega

/-- The moves bound the events of a run. -/
theorem Run.length_le_movings (h : Run r (start is st s) es p) (hb : Books r is es p) :
    es.length ≤ (movings es).length + 4 * is.length + 2 := by
  have hlength := h.length_eq
  have hdispatched := congrArg List.length hb.dispatched
  have hhanded := hb.handed.length_eq
  have hchannel := congrArg List.length hb.channel
  simp only [List.length_append, List.length_map, List.length_range] at hdispatched hhanded hchannel
  have hlag : p.control.lag ≤ 2 := by cases p.control <;> decide
  omega

section Solo

variable {b : Bridge σ} {r : Runner (σ × List Call)} {p p' : Pool (σ × List Call)}
  {ends : Nat → Nat} {answers : String → Nat → Reply}

/-- The drives of the instances alone end with the given numbers of moves. -/
def Ends (b : Bridge σ) (st : σ) (s : Site) (is : List Instance) (ends : Nat → Nat) : Prop :=
  ∀ k i, is[k]? = some i → ∃ ending, (solo b st s i (ends k)).1.phase = .done ending

theorem exists_ends {b : Bridge σ}
    (h : ∀ i ∈ is, ∃ n ending, (Drive.moves b n (Drive.begin i) st s).1.phase = .done ending) :
    ∃ ends, Ends b st s is ends := by
  have hpoint : ∀ k : Nat, ∃ n, ∀ i, is[k]? = some i → ∃ ending,
      (solo b st s i n).1.phase = .done ending := by
    intro k
    cases hi : is[k]? with
    | none => exact ⟨0, fun i hn => absurd hn.symm (Option.some_ne_none i)⟩
    | some i =>
      obtain ⟨n, ending, hdone⟩ := h i (List.mem_of_getElem? hi)
      obtain ⟨more, hmoves⟩ := Drive.moves_logged b n (Drive.begin i) st [] s
      refine ⟨n, fun a ha => ⟨ending, ?_⟩⟩
      obtain rfl := Option.some.inj ha
      rw [solo, hmoves]
      exact hdone
  exact Classical.skolem.mp hpoint

theorem length_movings_le {bounds : Nat → Nat} {n : Nat} {es : List Event}
    (hlt : ∀ k ∈ movings es, k < n) (hle : ∀ k < n, (stage es k).1 ≤ bounds k) :
    (movings es).length ≤ ∑ k ∈ Finset.range n, bounds k := by
  have hcard : ∑ k ∈ Finset.range n, (movings es).count k = (movings es).length := by
    have hmem : ∀ k ∈ (movings es : Multiset Nat), k ∈ Finset.range n := fun k hk =>
      Finset.mem_range.mpr (hlt k (Multiset.mem_coe.mp hk))
    simpa using Multiset.sum_count_eq_card hmem
  rw [← hcard]
  exact Finset.sum_le_sum fun k hk => hle k (Finset.mem_range.mp hk)

/-- The drives alone bound the events of every run. -/
theorem Run.length_le (h : Run r (start is (st, []) s) es p) (hb : Books r is es p)
    (hf : Follows b st s is es p) (hends : Ends b st s is ends) :
    es.length ≤ (∑ k ∈ Finset.range is.length, ends k) + 4 * is.length + 2 := by
  have hlength := h.length_le_movings hb
  have hmoves : (movings es).length ≤ ∑ k ∈ Finset.range is.length, ends k := by
    refine length_movings_le (fun k hk => ?_) fun k hk => ?_
    · have hmem : k ∈ List.range is.length := by
        rw [← hb.dispatched]
        exact List.mem_append_left _ (hf.moved k hk)
      exact List.mem_range.mp hmem
    · have hi := List.getElem?_eq_getElem hk
      obtain ⟨ending, hdone⟩ := hends k _ hi
      exact hf.bounded k _ _ ending hi hdone
  omega

/-! ## What is left when all is done -/

/-- An instance of which the message was sent has come to its end. -/
theorem Follows.reported (h : Follows b st s is es p)
    (hall : ((sendings es).map Prod.fst).Perm (List.range is.length)) {k : Nat} {i : Instance}
    (hi : is[k]? = some i) :
    (stage es k).2 = true ∧ ∃ ending, (solo b st s i (stage es k).1).1.phase = .done ending := by
  have hlt : k < is.length := (List.getElem?_eq_some_iff.mp hi).1
  have hmem : k ∈ (sendings es).map Prod.fst := hall.mem_iff.mpr (List.mem_range.mpr hlt)
  obtain ⟨x, hx, rfl⟩ := List.mem_map.mp hmem
  obtain ⟨ending, hdone, -⟩ := h.sent x hx i hi
  exact ⟨decide_eq_true hmem, ending, hdone⟩

/-- When all messages were sent, each instance is where it ends alone. -/
theorem Follows.asAlone_atEnd (h : Follows b st s is es p) (hends : Ends b st s is ends)
    (hall : ((sendings es).map Prod.fst).Perm (List.range is.length)) :
    AsAlone b st s is (fun k => (ends k, true)) (p.state, p.site) := by
  have heq : ∀ k i, is[k]? = some i → soloLeft b st s i (stage es k) =
      soloLeft b st s i (ends k, true) := by
    intro k i hi
    obtain ⟨hflag, ending, hdone⟩ := h.reported hall hi
    obtain ⟨ending', hdone'⟩ := hends k i hi
    rw [soloLeft, soloLeft, solo_eq_of_done hdone hdone', hflag]
  refine ⟨fun k i hi => heq k i hi ▸ h.asAlone.near k i hi, fun l hl => ?_⟩
  rcases h.asAlone.outside l hl with he | ⟨hs, hx, k, i, hi, hpre, hsolo⟩
  · exact .inl he
  · exact .inr ⟨hs, hx, k, i, hi, hpre, heq k i hi ▸ hsolo⟩

/-- What an instance alone reports at its end, if it is no failure. -/
def soloReport (b : Bridge σ) (st : σ) (s : Site) (is : List Instance)
    (ends : Nat → Nat) (k : Nat) : Option Report :=
  is[k]?.bind fun i =>
    let (d, _, s) := solo b st s i (ends k)
    (Runner.settle d.item (d.ending?.getD .crashed) s).1.result.toOption

theorem Follows.toOption_eq (h : Follows b st s is es p) (hb : Books r is es p)
    (hends : Ends b st s is ends) :
    (sendings es).map (fun x => x.2.result.toOption) =
      ((sendings es).map Prod.fst).map (soloReport b st s is ends) := by
  rw [List.map_map]
  refine List.map_congr_left fun x hx => ?_
  obtain ⟨i, hi, -⟩ := hb.told x hx
  obtain ⟨ending, hdone, hlike⟩ := h.sent x hx i hi
  obtain ⟨ending', hdone'⟩ := hends x.1 i hi
  have he : (solo b st s i (ends x.1)).1.ending? = some ending := by
    rw [← solo_eq_of_done hdone hdone', Drive.ending?, hdone]
  rw [hlike.result, solo_eq_of_done hdone hdone', Function.comp_apply, soloReport, hi]
  simp only [Option.bind_some, he, Option.getD_some]

/-! ## The result -/

/-- The reports that came in, and whether all messages were reports. -/
theorem foldl_receive (ms : List (Nat × Message)) (inbox : Runner.Inbox) :
    (ms.foldl (fun b x => b.receive x.2) inbox).summary.reports =
        inbox.summary.reports ++ (ms.map fun x => x.2.result.toOption).filterMap id ∧
      ((ms.foldl (fun b x => b.receive x.2) inbox).firstError.isNone =
        (inbox.firstError.isNone && (ms.map fun x => x.2.result.toOption).all Option.isSome)) := by
  induction ms generalizing inbox with
  | nil => simp
  | cons x ms ih =>
    obtain ⟨hreports, herror⟩ := ih (inbox.receive x.2)
    rw [List.foldl_cons, hreports, herror]
    unfold Runner.Inbox.receive
    cases hr : x.2.result with
    | error e => simp [hr, Except.toOption]
    | ok report => simp [hr, Except.toOption]

theorem isOk_result (inbox : Runner.Inbox) : inbox.result.isOk = inbox.firstError.isNone := by
  unfold Runner.Inbox.result
  cases inbox.firstError <;> rfl

theorem summary_of_result {inbox : Runner.Inbox} {summary : Summary}
    (h : inbox.result = .ok summary) :
    inbox.summary = summary := by
  unfold Runner.Inbox.result at h
  split at h
  · cases h
  · exact Except.ok.inj h

/-- Messages that say the same in another order lead to the same verdict and the same reports. -/
theorem result_of_perm {ms ms' : List (Nat × Message)}
    (h : (ms.map fun x => x.2.result.toOption).Perm (ms'.map fun x => x.2.result.toOption))
    {inbox inbox' : Runner.Inbox} (hi : inbox = ms.foldl (fun b x => b.receive x.2) {})
    (hi' : inbox' = ms'.foldl (fun b x => b.receive x.2) {}) :
    inbox.result.isOk = inbox'.result.isOk ∧
      ∀ summary summary', inbox.result = .ok summary → inbox'.result = .ok summary' →
        summary.reports.Perm summary'.reports := by
  obtain ⟨hreports, herror⟩ := foldl_receive ms {}
  obtain ⟨hreports', herror'⟩ := foldl_receive ms' {}
  rw [← hi] at hreports herror
  rw [← hi'] at hreports' herror'
  refine ⟨by rw [isOk_result, isOk_result, herror, herror', h.all_eq],
    fun summary summary' hs hs' => ?_⟩
  obtain rfl := summary_of_result hs
  obtain rfl := summary_of_result hs'
  rw [hreports, hreports']
  exact h.filterMap id

end Solo

/-- Instances with names and workspaces of their own, an adapter that answers them by name and
leaves files and clock alone, and drives that end when made alone: then no run goes on for ever, and
any two that come to their end, whatever bounds on workers they are made with and in whatever order
events happen, end with the same files, the same verdict, the same scripts handed over for each
instance in the same order, and the same reports if there was no failure. -/
theorem schedule_independent {r : Runner σ} {is : List Instance} {st : σ} {s : Site}
    {answers : String → Nat → Reply} (hsep : Separate is)
    (ha : r.bridge.adapter.AnswersByName st answers)
    (hends : ∀ i ∈ is, ∃ n ending, (Drive.moves r.bridge n (Drive.begin i) st s).1.phase =
      .done ending) :
    (∃ bound, ∀ m es p, Run (r.setMaxParallel m).logged (start is (st, []) s) es p →
      es.length ≤ bound ∧ (p.control ≠ .finished → ∃ e q, Step (r.setMaxParallel m).logged p e q)) ∧
    ∀ m m' es es' p p', Run (r.setMaxParallel m).logged (start is (st, []) s) es p →
      Run (r.setMaxParallel m').logged (start is (st, []) s) es' p' →
      p.control = .finished → p'.control = .finished →
      (∀ l, p.site.files.get? l = p'.site.files.get? l) ∧
      p.inbox.result.isOk = p'.inbox.result.isOk ∧
      (∀ i ∈ is, scriptsOf i.name (p.state.2.map Call.script) =
        scriptsOf i.name (p'.state.2.map Call.script)) ∧
      ∀ summary summary', p.inbox.result = .ok summary → p'.inbox.result = .ok summary' →
        summary.reports.Perm summary'.reports := by
  have hmax := r.maxParallel_setMaxParallel_pos
  obtain ⟨ends, hends⟩ := exists_ends hends
  refine ⟨⟨(∑ k ∈ Finset.range is.length, ends k) + 4 * is.length + 2, fun m es p hrun => ?_⟩,
    fun m m' es es' p p' hrun hrun' hf hf' => ?_⟩
  · obtain ⟨hcounts, hbooks⟩ := hrun.ledger (hmax m)
    have hfollows : Follows r.bridge st s is es p := hrun.follows rfl (hmax m) hsep ha
    exact ⟨hrun.length_le hbooks hfollows hends, hcounts.progress⟩
  · obtain ⟨hcounts, hbooks⟩ := hrun.ledger (hmax m)
    obtain ⟨hcounts', hbooks'⟩ := hrun'.ledger (hmax m')
    have hfollows : Follows r.bridge st s is es p := hrun.follows rfl (hmax m) hsep ha
    have hfollows' : Follows r.bridge st s is es' p' := hrun'.follows rfl (hmax m') hsep ha
    obtain ⟨-, -, hreceived, hall⟩ := hbooks.finished hcounts hf
    obtain ⟨-, -, hreceived', hall'⟩ := hbooks'.finished hcounts' hf'
    rw [hreceived] at hall
    rw [hreceived'] at hall'
    have halone := hfollows.asAlone_atEnd hends hall
    have halone' := hfollows'.asAlone_atEnd hends hall'
    have hmessages : ((receptions es).map fun x => x.2.result.toOption).Perm
        ((receptions es').map fun x => x.2.result.toOption) := by
      rw [hreceived, hreceived', hfollows.toOption_eq hbooks hends,
        hfollows'.toOption_eq hbooks' hends]
      exact (hall.trans hall'.symm).map _
    obtain ⟨hverdict, hreports⟩ := result_of_perm hmessages hbooks.inbox hbooks'.inbox
    refine ⟨halone.get?_eq halone', hverdict, fun i hi => ?_, hreports⟩
    obtain ⟨k, hk⟩ := List.mem_iff_getElem?.mp hi
    exact (halone.near k i hk).scripts.trans (halone'.near k i hk).scripts.symm

/-- The first submission of one instance asks for another attempt, all others succeed. -/
def retryOnce : String → Nat → Reply
  | "a", 0 => .submitted ⟨.retry, "1"⟩
  | _, _ => .submitted ⟨.ok, "2"⟩

/-- A runner whose adapter gives these answers. -/
def patient : Runner (List Script) where
  bridge := ⟨{ shell := "/bin/sh" }, .byName retryOnce⟩
  queues := {}
  root := ⟨"study"⟩
  worker := "local"

/-- An instance in a workspace below the directory of the study. -/
def sibling (name : String) : Instance :=
  Instance.ofTemplate (Template.new name "run") ⟨"study/" ++ name⟩ 0

def siblings : List Instance := [sibling "a", sibling "b"]

theorem separate_siblings : Separate siblings := by
  have ha : (sibling "a").workspace.components = [.name "study", .name "a"] := by decide +kernel
  have hb : (sibling "b").workspace.components = [.name "study", .name "b"] := by decide +kernel
  have hboth : ∀ i ∈ siblings, ∃ n, i.workspace.components = [.name "study", .name n] := by
    intro i hi
    rcases List.mem_pair.mp hi with rfl | rfl
    · exact ⟨"a", ha⟩
    · exact ⟨"b", hb⟩
  refine ⟨by decide, fun i hi c hc => ?_, List.pairwise_pair.mpr ⟨?_, ?_⟩, by decide⟩
  · obtain ⟨n, hn⟩ := hboth i hi
    rw [hn] at hc
    rcases List.mem_pair.mp hc with rfl | rfl
    · exact .inr ⟨"study", rfl⟩
    · exact .inr ⟨n, rfl⟩
  · rw [ha, hb]
    decide
  · rw [ha, hb]
    decide

theorem schedule_independent_siblings :
    ∃ es es' p p', Run (patient.setMaxParallel 1).logged (start siblings ([], []) {}) es p ∧
      Run (patient.setMaxParallel 2).logged (start siblings ([], []) {}) es' p' ∧
      p.control = .finished ∧ p'.control = .finished ∧
      (∀ l, p.site.files.get? l = p'.site.files.get? l) ∧
      p.inbox.result.isOk = true ∧ p'.inbox.result.isOk = true ∧
      (∀ i ∈ siblings,
        scriptsOf i.name (p.state.2.map Call.script) =
          scriptsOf i.name (p'.state.2.map Call.script)) ∧
      ∀ summary summary', p.inbox.result = .ok summary → p'.inbox.result = .ok summary' →
        summary.reports.Perm summary'.reports := by
  have hlimits : ∀ i ∈ siblings, i.restartLimit ≠ 0 := by decide
  have hends : ∀ i ∈ siblings, ∃ n ending,
      (Drive.moves patient.bridge n (Drive.begin i) [] {}).1.phase = .done ending := fun i hi =>
    ⟨_, Drive.run_ends (hlimits i hi) patient.bridge [] {}⟩
  have hrun : ∀ m, ∃ es p, Run (patient.setMaxParallel m).logged (start siblings ([], []) {}) es p ∧
      p.control = .finished ∧ (patient.setMaxParallel m).logged.runInstances siblings ([], []) {} =
        (p.inbox.result, p.state, p.site) := fun m =>
    exists_run_of_runInstances (patient.maxParallel_setMaxParallel_pos m)
      (fun i hi st s => Drive.run_ends (hlimits i hi) patient.bridge.logged st s) ([], []) {}
  obtain ⟨es, p, hes, hf, hresult⟩ := hrun 1
  obtain ⟨es', p', hes', hf', -⟩ := hrun 2
  obtain ⟨-, hagree⟩ := schedule_independent separate_siblings
    (Adapter.answersByName_byName retryOnce) hends
  obtain ⟨hfiles, hverdict, hscripts, hreports⟩ := hagree 1 2 es es' p p' hes hes' hf hf'
  have hok : ((patient.setMaxParallel 1).logged.runInstances siblings ([], []) {}).1.isOk =
      true := by
    decide +kernel
  rw [hresult] at hok
  exact ⟨es, es', p, p', hes, hes', hf, hf', hfiles, hok, hverdict ▸ hok, hscripts, hreports⟩

end Pool

end StudyFlow
