import StudyFlow.Proofs.Pool.Alone

/-!
# When a pool succeeds

The result of a pool is put together from the messages that came in. It is a success exactly if the
drives of all its instances came to their ends with success: a drive that has ended stays as it is
until its worker sends what it came to, and nothing else is sent.
-/

namespace StudyFlow

variable {σ : Type}

/-! ## Success of a drive, a message and a result -/

/-- The drive has ended with success, and its instance shows that. -/
inductive Drive.Succeeded (d : Drive) : Prop
  | ok : d.phase = .done (.code .ok) → d.item.state = .finished →
    d.item.result = some "SUCCESS" → Succeeded d
  | dryOk : d.phase = .done (.code .dryOk) → d.item.state = .dryRun →
    d.item.result = some "DRY_SUCCESS" → Succeeded d

theorem ReturnCode.isSuccess_iff {code : ReturnCode} : code.isSuccess = true ↔
    code = .ok ∨ code = .dryOk := by
  cases code <;> simp [isSuccess]

theorem Drive.succeeded_iff {b : Bridge σ} {i : Instance} {d : Drive} (h : Reaches b i d) :
    d.Succeeded ↔ ∃ code, d.phase = .done (.code code) ∧ code.isSuccess = true := by
  constructor
  · rintro (⟨hd, -, -⟩ | ⟨hd, -, -⟩)
    · exact ⟨_, hd, rfl⟩
    · exact ⟨_, hd, rfl⟩
  · rintro ⟨code, hd, hcode⟩
    obtain ⟨hitLimit, hstate, hresult⟩ := h.shows hd
    rcases ReturnCode.isSuccess_iff.mp hcode with rfl | rfl
    · exact .ok hd hstate hresult
    · exact .dryOk hd hstate hresult

def Message.Succeeded (m : Message) : Prop := ∃ report, m.result = .ok report ∧
    report.code.isSuccess = true

theorem Runner.succeeded_settle_iff {i : Instance} {ending : Ending} {s : Site} :
    (Runner.settle i ending s).1.Succeeded ↔ ∃ code, ending = .code code ∧
    code.isSuccess = true := by
  unfold Message.Succeeded Runner.settle
  cases ending <;> simp

/-- A drive succeeded exactly if its worker reports success. -/
theorem Drive.succeeded_iff_settle {b : Bridge σ} {i : Instance} {d : Drive} {ending : Ending}
    (h : Reaches b i d) (hd : d.ending? = some ending) (s : Site) :
    d.Succeeded ↔ (Runner.settle d.item ending s).1.Succeeded := by
  rw [succeeded_iff h, Runner.succeeded_settle_iff, phase_of_ending? hd]
  simp

/-- The result is a summary without failures. -/
def Succeeds (result : Except ExecutionError Summary) : Prop :=
  ∃ summary, result = .ok summary ∧ summary.failed = []

theorem Summary.failed_append_iff {s t : Summary} : (s.append t).failed = [] ↔
    s.failed = [] ∧ t.failed = [] := by
  unfold failed append
  rw [List.filter_append, List.append_eq_nil_iff]

theorem succeeds_ok_iff {summary : Summary} : Succeeds (.ok summary) ↔ summary.failed = [] := by
  constructor
  · rintro ⟨_, h, hfailed⟩
    obtain rfl := Except.ok.inj h
    exact hfailed
  · exact fun h => ⟨summary, rfl, h⟩

theorem not_succeeds_error {e : ExecutionError} : ¬Succeeds (.error e) := by
  rintro ⟨_, h, -⟩
  cases h

namespace Runner.Inbox

theorem succeeds_receive_iff (b : Inbox) (m : Message) :
    Succeeds (b.receive m).result ↔ Succeeds b.result ∧ m.Succeeded := by
  unfold receive Message.Succeeded result
  cases hm : m.result with
  | error e => simp [not_succeeds_error]
  | ok report =>
    cases hb : b.firstError with
    | some e => simp [not_succeeds_error]
    | none =>
      have hfailed : (b.summary.append ⟨[report]⟩).failed = [] ↔
          b.summary.failed = [] ∧ report.code.isSuccess = true := by
        rw [Summary.failed_append_iff]
        simp [Summary.failed]
      simp only [succeeds_ok_iff, Except.ok.injEq, exists_eq_left']
      exact hfailed

/-- Messages that are received make for a success exactly if each one reports success. -/
theorem succeeds_foldl_receive_iff (ms : List (Nat × Message)) (b : Inbox) :
    Succeeds (ms.foldl (fun b x => b.receive x.2) b).result ↔
    Succeeds b.result ∧ ∀ x ∈ ms, x.2.Succeeded := by
  induction ms generalizing b with
  | nil => simp
  | cons x ms ih => rw [List.foldl_cons, ih, succeeds_receive_iff, List.forall_mem_cons, and_assoc]

end Runner.Inbox

namespace Pool

variable {r : Runner σ} {is : List Instance} {p q q' : Pool σ} {e : Event} {es : List Event}
  {st : σ} {s : Site} {k : Nat} {d : Drive} {m : Message} {ending : Ending}

/-! ## Drives that end on the way -/

/-- The run from one pool to another leads through a third one. -/
def Passes (r : Runner σ) (p : Pool σ) (es : List Event) (q' q : Pool σ) : Prop :=
  ∃ before after, es = before ++ after ∧ Run r p before q ∧ Run r q after q'

/-- On the way from one pool to another the worker of a ticket comes to its end with a drive. -/
def EndsAs (r : Runner σ) (p : Pool σ) (es : List Event) (q' : Pool σ) (k : Nat)
    (d : Drive) : Prop :=
  ∃ q, Passes r p es q' q ∧ (k, d) ∈ q.workers ∧ d.ending?.isSome = true

/-- All instances are driven to their ends, and wherever a drive ends it does so with success. -/
def AllSucceed (r : Runner σ) (is : List Instance) (st : σ) (s : Site) (es : List Event)
    (q : Pool σ) : Prop :=
  ∀ k i, is[k]? = some i → (∃ d, EndsAs r (start is st s) es q k d) ∧
    ∀ d, EndsAs r (start is st s) es q k d → d.Succeeded

theorem EndsAs.snoc (h : EndsAs r p es q k d) (hs : Step r q e q') :
    EndsAs r p (es ++ [e]) q' k d := by
  obtain ⟨q₀, ⟨before, after, rfl, hbefore, hafter⟩, hmem, hd⟩ := h
  exact ⟨q₀, ⟨before, after ++ [e], (List.append_assoc ..), hbefore, hafter.snoc hs⟩, hmem, hd⟩

/-- A drive that has ended stays with its worker until its message is sent. -/
theorem Step.keeps_ended (h : Step r p e q) (hmem : (k, d) ∈ p.workers)
    (hd : d.ending? = some ending) : (k, d) ∈ q.workers ∨
    ∃ s, e = .sent k (Runner.settle d.item ending s).1 := by
  cases h with
  | dispatch => exact .inl (List.mem_append_left _ hmem)
  | wait => exact .inl hmem
  | finish => exact .inl hmem
  | move hw hopen =>
    rw [hw] at hmem
    refine .inl ?_
    rcases List.mem_append.mp hmem with hm | hm
    · exact List.mem_append_left _ hm
    · rcases List.mem_cons.mp hm with he | hm
      · obtain ⟨rfl, rfl⟩ := Prod.mk.inj he
        rw [hd] at hopen
        cases hopen
      · exact List.mem_append_right _ (List.mem_cons_of_mem _ hm)
  | send hw hending hsettle =>
    rw [hw] at hmem
    rcases List.mem_append.mp hmem with hm | hm
    · exact .inl (List.mem_append_left _ hm)
    · rcases List.mem_cons.mp hm with he | hm
      · obtain ⟨rfl, rfl⟩ := Prod.mk.inj he
        obtain rfl := Option.some.inj (hd.symm.trans hending)
        exact .inr ⟨_, by rw [hsettle]⟩
      · exact .inl (List.mem_append_right _ hm)
  | receive => exact .inl hmem
  | close => exact .inl hmem

theorem Run.keeps_ended (h : Run r p es q) (hmem : (k, d) ∈ p.workers)
    (hd : d.ending? = some ending) : (k, d) ∈ q.workers ∨
    ∃ s, (k, (Runner.settle d.item ending s).1) ∈ sendings es := by
  induction h with
  | nil => exact .inl hmem
  | snoc _ hs ih =>
    rw [sendings_append]
    rcases ih with hm | ⟨s, hm⟩
    · rcases hs.keeps_ended hm hd with hm | ⟨s, rfl⟩
      · exact .inl hm
      · exact .inr ⟨s, List.mem_append_right _ (List.mem_singleton_self _)⟩
    · exact .inr ⟨s, List.mem_append_left _ hm⟩

/-- What is sent tells how the drive of the worker ended. -/
theorem Run.sent_inv (h : Run r p es q) (hmem : (k, m) ∈ sendings es) :
    ∃ d ending s, EndsAs r p es q k d ∧ d.ending? = some ending ∧
      (Runner.settle d.item ending s).1 = m := by
  induction h with
  | nil => cases hmem
  | @snoc q₀ q es e hrun hs ih =>
    rw [sendings_append] at hmem
    rcases List.mem_append.mp hmem with hm | hm
    · obtain ⟨d, ending, s, hends, hd, hsettle⟩ := ih hm
      exact ⟨d, ending, s, hends.snoc hs, hd, hsettle⟩
    · cases hs with
      | @send before after k' d ending m' s' hw hd hsettle =>
        obtain ⟨rfl, rfl⟩ := Prod.mk.inj (List.mem_singleton.mp hm)
        have hworker : (k, d) ∈ q₀.workers := by simp [hw]
        have hnow : EndsAs r p es q₀ k d :=
          ⟨q₀, ⟨es, [], (List.append_nil _).symm, hrun, .nil⟩, hworker, by rw [hd]; rfl⟩
        exact ⟨d, ending, _, hnow.snoc (.send hw hd hsettle), hd, by rw [hsettle]⟩
      | _ => cases hm

/-- Once there are no workers any more, each drive that has ended was told of. -/
theorem EndsAs.sent (h : EndsAs r p es q k d) (hworkers : q.workers = []) :
    ∃ ending s, d.ending? = some ending ∧ (k, (Runner.settle d.item ending s).1) ∈ sendings es := by
  obtain ⟨q₀, ⟨before, after, rfl, -, hafter⟩, hmem, hd⟩ := h
  obtain ⟨ending, hd⟩ := Option.isSome_iff_exists.mp hd
  rcases hafter.keeps_ended hmem hd with hm | ⟨s, hm⟩
  · rw [hworkers] at hm
    cases hm
  · refine ⟨ending, s, hd, ?_⟩
    rw [sendings_append]
    exact List.mem_append_right _ hm

/-! ## The result -/

/-- A drive that ends is that of an instance. -/
theorem EndsAs.reaches (h : EndsAs r (start is st s) es q k d) (hmax : 0 < r.maxParallel) :
    ∃ i, is[k]? = some i ∧ Drive.Reaches r.bridge i d := by
  obtain ⟨q₀, ⟨before, after, -, hbefore, -⟩, hmem, -⟩ := h
  exact (hbefore.ledger hmax).2.workers (k, d) hmem

/-- A pool succeeds exactly if all of its instances do, in whatever order things happen. -/
theorem Run.succeeds_iff (h : Run r (start is st s) es q) (hmax : 0 < r.maxParallel)
    (hf : q.control = .finished) :
    Succeeds q.inbox.result ↔ AllSucceed r is st s es q := by
  obtain ⟨hcounts, hbooks⟩ := h.ledger hmax
  obtain ⟨-, hworkers, hreceived, hall⟩ := hbooks.finished hcounts hf
  have hresult : Succeeds q.inbox.result ↔ ∀ x ∈ sendings es, x.2.Succeeded := by
    rw [hbooks.inbox, Runner.Inbox.succeeds_foldl_receive_iff, hreceived]
    exact and_iff_right (succeeds_ok_iff.mpr rfl)
  rw [hresult]
  constructor
  · intro hgood k i hi
    have hk : k ∈ (sendings es).map Prod.fst :=
      hreceived ▸ hall.mem_iff.mpr (List.mem_range.mpr (List.getElem?_eq_some_iff.mp hi).1)
    obtain ⟨x, hx, rfl⟩ := List.mem_map.mp hk
    obtain ⟨d, -, -, hends, -⟩ := h.sent_inv hx
    refine ⟨⟨d, hends⟩, fun d' hends' => ?_⟩
    obtain ⟨ending, s', hd', hm⟩ := hends'.sent hworkers
    obtain ⟨i', -, hreach⟩ := hends'.reaches hmax
    exact (Drive.succeeded_iff_settle hreach hd' s').mpr (hgood _ hm)
  · intro hgood x hx
    obtain ⟨d, ending, s', hends, hd, hsettle⟩ := h.sent_inv hx
    obtain ⟨i, hi, hreach⟩ := hends.reaches hmax
    rw [← hsettle]
    exact (Drive.succeeded_iff_settle hreach hd s').mp ((hgood x.1 i hi).2 d hends)

end Pool

end StudyFlow
