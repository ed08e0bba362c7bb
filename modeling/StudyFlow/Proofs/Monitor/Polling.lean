import StudyFlow.Proofs.Monitor.Sample

/-!
# What a sample depends on

A sample polls until the first answer that tells something, or until its attempts are spent. Of the
queues it uses the totals only, of those alive and of those expected only who they are: the same
queues in other parts or the same names in another order make no difference to what it comes to, nor
to the number of polls.
-/

namespace StudyFlow

/-- Two answers to one question that are the same error, or whose contents are related. -/
inductive AnswersAlike {α : Type} (alike : α → α → Prop) : Except MonitorError α →
    Except MonitorError α → Prop
  | error (e : MonitorError) : AnswersAlike alike (.error e) (.error e)
  | ok {a b : α} : alike a b → AnswersAlike alike (.ok a) (.ok b)

namespace Monitor

variable {m m' : Monitor} {s s' : Server} {qs qs' rs : List QueueStats}

/-! ## Totals -/

attribute [local instance (high)] Zero.ofOfNat0

/-- As many tasks and as many consumers altogether. -/
structure SameTotals (qs qs' : List QueueStats) : Prop where
  pending : (qs'.map (·.pending)).sum = (qs.map (·.pending)).sum
  consumers : (qs'.map (·.consumers)).sum = (qs.map (·.consumers)).sum

/-- The same queues in another order, or with one of them in parts that have its tasks and its
consumers, or such parts put together. -/
inductive Regrouped : List QueueStats → List QueueStats → Prop
  | reordered {qs qs' : List QueueStats} : qs.Perm qs' → Regrouped qs qs'
  | split {q : QueueStats} {parts : List QueueStats} (rest : List QueueStats) :
    (parts.map (·.pending)).sum = q.pending → (parts.map (·.consumers)).sum = q.consumers →
    Regrouped (q :: rest) (parts ++ rest)
  | undone {qs qs' : List QueueStats} : Regrouped qs qs' → Regrouped qs' qs
  | next {qs rs qs' : List QueueStats} : Regrouped qs rs → Regrouped rs qs' → Regrouped qs qs'

theorem Regrouped.sameTotals (h : Regrouped qs qs') : SameTotals qs qs' := by
  induction h with
  | reordered h => exact ⟨(h.map _).sum_nat.symm, (h.map _).sum_nat.symm⟩
  | @split q parts rest hpending hconsumers =>
    constructor
    · rw [List.map_append, List.sum_append_nat, hpending, List.map_cons, List.sum_cons]
    · rw [List.map_append, List.sum_append_nat, hconsumers, List.map_cons, List.sum_cons]
  | undone _ ih => exact ⟨ih.pending.symm, ih.consumers.symm⟩
  | next _ _ ih ih' => exact ⟨ih'.pending.trans ih.pending, ih'.consumers.trans ih.consumers⟩

/-! ## The polls -/

/-- A sample does not poll more often than it may. -/
theorem Sample.le_maxAttempts {k p n : Nat} {result : Except MonitorError Nat}
    (h : m.Sample s k p result n) :
    n ≤ m.maxAttempts := by
  cases h with
  | unanswered => exact Nat.zero_le _
  | idle => exact Nat.zero_le _
  | served => exact Nat.zero_le _
  | manned _ _ _ hn => exact hn
  | unpolled _ _ _ hn => exact hn
  | unmanned => exact Nat.le_refl _

theorem polls_check_le (m : Monitor) (s : Server) :
    (m.check s).2.polls ≤ s.polls + m.maxAttempts := by
  obtain ⟨result, n, h⟩ := m.exists_sample s s.samples s.polls
  rw [h.check_eq]
  exact Nat.add_le_add_left h.le_maxAttempts _

/-- Without expected workers no answer shows one. -/
theorem absent_of_expected_nil {p n : Nat} (h : m.expected = [])
    (hanswers : ∀ j < n, ∃ alive, s.workers (p + j) = .ok alive) : m.Absent s p n := by
  intro j hj
  obtain ⟨alive, hanswer⟩ := hanswers j hj
  refine ⟨alive, hanswer, ?_⟩
  rintro ⟨name, hname, -⟩
  rw [h] at hname
  cases hname

/-- Work that no queue has a consumer for: either no answer tells anything, or the first one that
does ends the sample. -/
theorem check_cases (hstats : s.stats s.samples = .ok qs) (hpending : 0 < (qs.map (·.pending)).sum)
    (hconsumers : (qs.map (·.consumers)).sum = 0) :
    (m.Absent s s.polls m.maxAttempts ∧ m.check s = (.ok 0, s.advanced 1 m.maxAttempts)) ∨
      ∃ n < m.maxAttempts, m.Absent s s.polls n ∧
        ((∃ e, s.workers (s.polls + n) = .error e ∧ m.check s = (.error e, s.advanced 1 (n + 1))) ∨
          ∃ alive, s.workers (s.polls + n) = .ok alive ∧ m.Expects alive ∧
            m.check s = (.ok ((qs.map (·.pending)).sum), s.advanced 1 (n + 1))) := by
  rcases m.absent_or_first s s.polls m.maxAttempts with habsent | ⟨n, hn, habsent, hfirst⟩
  · exact .inl ⟨habsent, (Sample.unmanned hstats hpending hconsumers habsent).check_eq⟩
  · refine .inr ⟨n, hn, habsent, ?_⟩
    rcases hfirst with ⟨e, hanswer⟩ | ⟨alive, hanswer, hexpects⟩
    · exact .inl ⟨e, hanswer,
        (Sample.unpolled hstats hpending hconsumers hn habsent hanswer).check_eq⟩
    · exact .inr ⟨alive, hanswer, hexpects,
        (Sample.manned hstats hpending hconsumers hn habsent hanswer hexpects).check_eq⟩

/-! ## Samples that cannot be told apart -/

/-- Nothing that a sample depends on differs: the names of the expected workers and of those alive
may stand in another order, and the queues need only agree in their totals. -/
structure Interchangeable (m m' : Monitor) (s s' : Server) : Prop where
  expected : m'.expected.Perm m.expected
  maxAttempts : m'.maxAttempts = m.maxAttempts
  stats : AnswersAlike SameTotals (s.stats s.samples) (s'.stats s'.samples)
  workers : ∀ n, AnswersAlike List.Perm (s.workers (s.polls + n)) (s'.workers (s'.polls + n))

namespace Interchangeable

theorem expects (h : Interchangeable m m' s s') {alive alive' : List String}
    (hp : alive.Perm alive') (hexpects : m.Expects alive) : m'.Expects alive' := by
  obtain ⟨name, hname, identity, hidentity, hcontains⟩ := hexpects
  exact ⟨name, h.expected.mem_iff.mpr hname, identity, hp.mem_iff.mp hidentity, hcontains⟩

theorem not_expects (h : Interchangeable m m' s s') {alive alive' : List String}
    (hp : alive.Perm alive') (hexpects : ¬m.Expects alive) : ¬m'.Expects alive' := by
  rintro ⟨name, hname, identity, hidentity, hcontains⟩
  exact hexpects ⟨name, h.expected.mem_iff.mp hname, identity, hp.mem_iff.mpr hidentity, hcontains⟩

theorem stats_ok (h : Interchangeable m m' s s') (hstats : s.stats s.samples = .ok qs) :
    ∃ qs', s'.stats s'.samples = .ok qs' ∧ SameTotals qs qs' := by
  have halike := h.stats
  rw [hstats] at halike
  generalize s'.stats s'.samples = answer at halike ⊢
  cases halike with
  | ok hsame => exact ⟨_, rfl, hsame⟩

theorem stats_error (h : Interchangeable m m' s s') {e : MonitorError}
    (hstats : s.stats s.samples = .error e) :
    s'.stats s'.samples = .error e := by
  have halike := h.stats
  rw [hstats] at halike
  generalize s'.stats s'.samples = answer at halike ⊢
  cases halike with
  | error => rfl

theorem workers_ok (h : Interchangeable m m' s s') {n : Nat} {alive : List String}
    (hanswer : s.workers (s.polls + n) = .ok alive) :
    ∃ alive', s'.workers (s'.polls + n) = .ok alive' ∧ alive.Perm alive' := by
  have halike := h.workers n
  rw [hanswer] at halike
  generalize s'.workers (s'.polls + n) = answer at halike ⊢
  cases halike with
  | ok hperm => exact ⟨_, rfl, hperm⟩

theorem workers_error (h : Interchangeable m m' s s') {n : Nat} {e : MonitorError}
    (hanswer : s.workers (s.polls + n) = .error e) : s'.workers (s'.polls + n) = .error e := by
  have halike := h.workers n
  rw [hanswer] at halike
  generalize s'.workers (s'.polls + n) = answer at halike ⊢
  cases halike with
  | error => rfl

theorem absent (h : Interchangeable m m' s s') {n : Nat} (habsent : m.Absent s s.polls n) :
    m'.Absent s' s'.polls n := by
  intro j hj
  obtain ⟨alive, hanswer, hexpects⟩ := habsent j hj
  obtain ⟨alive', hanswer', hperm⟩ := h.workers_ok hanswer
  exact ⟨alive', hanswer', h.not_expects hperm hexpects⟩

/-- What one sample comes to, the other one does with the same number of polls. -/
theorem sample (h : Interchangeable m m' s s') {result : Except MonitorError Nat} {n : Nat}
    (hsample : m.Sample s s.samples s.polls result n) :
    m'.Sample s' s'.samples s'.polls result n := by
  cases hsample with
  | unanswered hstats => exact .unanswered (h.stats_error hstats)
  | idle hstats hpending =>
    obtain ⟨qs', hstats', hsame⟩ := h.stats_ok hstats
    exact .idle hstats' (hsame.pending.trans hpending)
  | served hstats hpending hconsumers =>
    obtain ⟨qs', hstats', hsame⟩ := h.stats_ok hstats
    rw [← hsame.pending] at hpending ⊢
    rw [← hsame.consumers] at hconsumers
    exact .served hstats' hpending hconsumers
  | manned hstats hpending hconsumers hn habsent hanswer hexpects =>
    obtain ⟨qs', hstats', hsame⟩ := h.stats_ok hstats
    obtain ⟨alive', hanswer', hperm⟩ := h.workers_ok hanswer
    rw [← hsame.pending] at hpending ⊢
    exact .manned hstats' hpending (hsame.consumers.trans hconsumers) (h.maxAttempts ▸ hn)
      (h.absent habsent)
      hanswer' (h.expects hperm hexpects)
  | unpolled hstats hpending hconsumers hn habsent hanswer =>
    obtain ⟨qs', hstats', hsame⟩ := h.stats_ok hstats
    rw [← hsame.pending] at hpending
    exact .unpolled hstats' hpending (hsame.consumers.trans hconsumers) (h.maxAttempts ▸ hn)
      (h.absent habsent)
      (h.workers_error hanswer)
  | unmanned hstats hpending hconsumers habsent =>
    obtain ⟨qs', hstats', hsame⟩ := h.stats_ok hstats
    rw [← hsame.pending] at hpending
    rw [← h.maxAttempts] at habsent ⊢
    exact .unmanned hstats' hpending (hsame.consumers.trans hconsumers) (h.absent habsent)

end Interchangeable

/-! ## One sample -/

/-- One sample of any monitor at any answers. An error about the queues is the result, and nothing
is polled. With no work, or with consumers, the result is the number of tasks, and nothing is polled
either. Else the polls go on up to the first that meets an error, which is the result, or that shows
an expected worker, for which the result is the number of tasks; if there is none among as many as
may be made, all of these are made and the result is zero. Never are there more. Where no worker is
expected all polls are made, unless one meets an error. Other parts of the same queues, another
order of those alive or of those expected change neither the result nor the number of polls. -/
theorem check_polls_to_first (m : Monitor) (s : Server) :
    (∀ e, s.stats s.samples = .error e → m.check s = (.error e, s.advanced 1 0)) ∧
    (∀ qs, s.stats s.samples = .ok qs →
      ((qs.map (·.pending)).sum = 0 ∨ 0 < (qs.map (·.consumers)).sum →
        m.check s = (.ok ((qs.map (·.pending)).sum), s.advanced 1 0)) ∧
      (0 < (qs.map (·.pending)).sum → (qs.map (·.consumers)).sum = 0 →
        ((m.Absent s s.polls m.maxAttempts ∧ m.check s = (.ok 0, s.advanced 1 m.maxAttempts)) ∨
          ∃ n < m.maxAttempts, m.Absent s s.polls n ∧
            ((∃ e, s.workers (s.polls + n) = .error e ∧
              m.check s = (.error e, s.advanced 1 (n + 1))) ∨
              ∃ alive, s.workers (s.polls + n) = .ok alive ∧ m.Expects alive ∧
                m.check s = (.ok ((qs.map (·.pending)).sum), s.advanced 1 (n + 1)))) ∧
        (m.expected = [] → (∀ j < m.maxAttempts, ∃ alive, s.workers (s.polls + j) = .ok alive) →
          m.check s = (.ok 0, s.advanced 1 m.maxAttempts)))) ∧
    (m.check s).2.polls ≤ s.polls + m.maxAttempts ∧
    (∀ qs qs', Regrouped qs qs' → SameTotals qs qs') ∧
    ∀ m' s', Interchangeable m m' s s' →
      ∃ result n, m.check s = (result, s.advanced 1 n) ∧
        m'.check s' = (result, s'.advanced 1 n) := by
  refine ⟨fun e => check_of_error, fun qs hstats =>
    ⟨check_of_settled hstats, fun hpending hconsumers =>
    ⟨check_cases hstats hpending hconsumers, fun hexpected hanswers => ?_⟩⟩, m.polls_check_le s,
    fun qs qs' => Regrouped.sameTotals, fun m' s' h => ?_⟩
  · have habsent := absent_of_expected_nil hexpected hanswers
    exact (Sample.unmanned hstats hpending hconsumers habsent).check_eq
  · obtain ⟨result, n, hsample⟩ := m.exists_sample s s.samples s.polls
    exact ⟨result, n, hsample.check_eq, (h.sample hsample).check_eq⟩

/-- Two workers are waited for, in two polls. -/
def rota : Monitor := ⟨["q"], ["sim", "post"], 2⟩

/-- Tasks without a consumer; one of the workers shows up at the second poll. -/
def backlog : Server := .ofAnswers [.ok [⟨"a", 2, 0⟩, ⟨"b", 3, 0⟩]]
    [.ok ["x", "y"], .ok ["x", "sim@node"]]

/-- The same tasks in three queues, and the same workers the other way round. -/
def backlogInParts : Server :=
  .ofAnswers [.ok [⟨"b", 1, 0⟩, ⟨"b", 2, 0⟩, ⟨"a", 2, 0⟩]] [.ok ["y", "x"], .ok ["sim@node", "x"]]

/-- The same tasks, and one of the queues has two consumers. -/
def backlogServed : Server := .ofAnswers [.ok [⟨"a", 2, 0⟩, ⟨"b", 3, 2⟩]] [.ok ["x", "sim@node"]]

/-- The last poll that may be made shows a worker. The parts and the other order make no difference,
and without expected workers the same polls are made for nothing. With consumers there is no
poll. -/
theorem check_polls_to_first_lastAttempt :
    Interchangeable rota { rota with expected := ["post", "sim"] } backlog backlogInParts ∧
      rota.check backlog = (.ok 5, backlog.advanced 1 2) ∧
      ({ rota with expected := ["post", "sim"] } : Monitor).check backlogInParts =
        (.ok 5, backlogInParts.advanced 1 2) ∧
      ({ rota with expected := [] } : Monitor).check backlog = (.ok 0, backlog.advanced 1 2) ∧
      rota.check backlogServed = (.ok 5, backlogServed.advanced 1 0) := by
  have hsplit : Regrouped [⟨"b", 3, 0⟩, ⟨"a", 2, 0⟩]
    ([⟨"b", 1, 0⟩, ⟨"b", 2, 0⟩] ++ [⟨"a", 2, 0⟩]) :=
    .split _ rfl rfl
  have hparts : Regrouped [⟨"a", 2, 0⟩, ⟨"b", 3, 0⟩] [⟨"b", 1, 0⟩, ⟨"b", 2, 0⟩, ⟨"a", 2, 0⟩] :=
    .next (.reordered (List.Perm.swap _ _ _)) hsplit
  have hworkers : ∀ n, AnswersAlike List.Perm (backlog.workers n) (backlogInParts.workers n) := by
    intro n
    match n with
    | 0 => exact .ok (by decide)
    | 1 => exact .ok (by decide)
    | _ + 2 => exact .ok (List.Perm.refl _)
  obtain ⟨-, -, -, hsame, hinterchange⟩ := check_polls_to_first rota backlog
  have h : Interchangeable rota { rota with expected := ["post", "sim"] } backlog backlogInParts :=
    ⟨by decide, rfl, .ok (hsame _ _ hparts), fun n => hworkers (0 + n)⟩
  have hcheck : rota.check backlog = (.ok 5, backlog.advanced 1 2) := by rfl
  obtain ⟨-, hanswered, -⟩ := check_polls_to_first { rota with expected := [] } backlog
  obtain ⟨result, n, hone, hother⟩ := hinterchange _ _ h
  obtain ⟨rfl, hserver⟩ := Prod.mk.inj (hone.symm.trans hcheck)
  obtain rfl : n = 2 := Nat.add_left_cancel (congrArg Server.polls hserver)
  obtain ⟨-, hunexpected⟩ := (hanswered _ rfl).2 (by decide) (by decide)
  obtain ⟨-, hserved, -⟩ := check_polls_to_first rota backlogServed
  refine ⟨h, hcheck, hother, hunexpected rfl fun j hj => ?_, (hserved _ rfl).1 (by decide)⟩
  match j, hj with
  | 0, _ => exact ⟨_, rfl⟩
  | 1, _ => exact ⟨_, rfl⟩

end Monitor

end StudyFlow
