import Mathlib.Order.Basic
import StudyFlow.Monitor
import StudyFlow.Proofs.Text.Search

/-!
# One sample of a monitor

The answers of a task server stand at fixed places, those on queues and those on workers each in a
row of their own. `Monitor.Sample` says what a sample at given places comes to and how many polls it
takes; it is the only thing that `Monitor.check` can do there.
-/

namespace StudyFlow

/-- The server after further questions. -/
def Server.advanced (s : Server) (samples polls : Nat) : Server :=
  { s with samples := s.samples + samples, polls := s.polls + polls }

namespace Server

variable (s : Server)

@[simp] theorem advanced_zero : s.advanced 0 0 = s := rfl

@[simp] theorem advanced_advanced (a b c d : Nat) :
    (s.advanced a b).advanced c d = s.advanced (a + c) (b + d) := by
  simp only [advanced, Nat.add_assoc]

theorem askStats_eq : s.askStats = (s.stats s.samples, s.advanced 1 0) := rfl

theorem askWorkers_eq : s.askWorkers = (s.workers s.polls, s.advanced 0 1) := rfl

end Server

namespace Monitor

variable {m : Monitor} {s : Server}

-- a sum begins with the plain zero here, as in the definitions that run
attribute [local instance (high)] Zero.ofOfNat0

theorem totalPending_eq (qs : List QueueStats) : totalPending qs = (qs.map (·.pending)).sum := rfl

theorem totalConsumers_eq (qs : List QueueStats) :
    totalConsumers qs = (qs.map (·.consumers)).sum := rfl

/-- One of those alive has the name of an expected worker in its identity. -/
def Expects (m : Monitor) (alive : List String) : Prop :=
  ∃ name ∈ m.expected, ∃ identity ∈ alive, name.toList <:+: identity.toList

theorem isPresent_iff (m : Monitor) (alive : List String) : m.isPresent alive = true ↔
    m.Expects alive := by
  simp only [isPresent, Expects, List.any_eq_true, Text.contains_iff]

instance (m : Monitor) (alive : List String) : Decidable (m.Expects alive) :=
  decidable_of_iff _ (m.isPresent_iff alive)

/-- The answers on workers from a place on, so many of them, come in and show no expected worker. -/
def Absent (m : Monitor) (s : Server) (p n : Nat) : Prop :=
  ∀ j < n, ∃ alive, s.workers (p + j) = .ok alive ∧ ¬m.Expects alive

/-- What the sample comes to that has the given places in the answers, and how many polls it takes.
Zero stands for a release. -/
inductive Sample (m : Monitor) (s : Server) (k p : Nat) : Except MonitorError Nat → Nat → Prop
  | unanswered {e : MonitorError} : s.stats k = .error e → Sample m s k p (.error e) 0
  | idle {qs : List QueueStats} :
    s.stats k = .ok qs → (qs.map (·.pending)).sum = 0 → Sample m s k p (.ok 0) 0
  | served {qs : List QueueStats} :
    s.stats k = .ok qs → 0 < (qs.map (·.pending)).sum → 0 < (qs.map (·.consumers)).sum →
    Sample m s k p (.ok (qs.map (·.pending)).sum) 0
  | manned {qs : List QueueStats} {n : Nat} {alive : List String} :
    s.stats k = .ok qs → 0 < (qs.map (·.pending)).sum → (qs.map (·.consumers)).sum = 0 →
    n < m.maxAttempts → m.Absent s p n → s.workers (p + n) = .ok alive → m.Expects alive →
    Sample m s k p (.ok (qs.map (·.pending)).sum) (n + 1)
  | unpolled {qs : List QueueStats} {n : Nat} {e : MonitorError} :
    s.stats k = .ok qs → 0 < (qs.map (·.pending)).sum → (qs.map (·.consumers)).sum = 0 →
    n < m.maxAttempts → m.Absent s p n → s.workers (p + n) = .error e →
    Sample m s k p (.error e) (n + 1)
  | unmanned {qs : List QueueStats} :
    s.stats k = .ok qs → 0 < (qs.map (·.pending)).sum → (qs.map (·.consumers)).sum = 0 →
    m.Absent s p m.maxAttempts → Sample m s k p (.ok 0) m.maxAttempts

/-! ## Polls -/

/-- Polls that show no expected worker use up attempts and nothing else. -/
theorem awaitWorker_of_absent {j : Nat} (h : m.Absent s s.polls j) (n : Nat) :
    m.awaitWorker (j + n) s = m.awaitWorker n (s.advanced 0 j) := by
  induction j generalizing s with
  | zero => rw [Nat.zero_add, Server.advanced_zero]
  | succ j ih =>
    obtain ⟨alive, hanswer, hexpects⟩ := h 0 (Nat.succ_pos j)
    rw [Nat.add_zero] at hanswer
    have hrest : m.Absent (s.advanced 0 1) (s.polls + 1) j := by
      intro i hi
      obtain ⟨alive', hanswer', hexpects'⟩ := h (i + 1) (Nat.succ_lt_succ hi)
      refine ⟨alive', ?_, hexpects'⟩
      rw [Nat.add_assoc, Nat.add_comm 1 i]
      exact hanswer'
    have hpresent : m.isPresent alive = false := by
      rw [← Bool.not_eq_true, isPresent_iff]
      exact hexpects
    rw [Nat.add_right_comm, awaitWorker, Server.askWorkers_eq, hanswer]
    dsimp only
    rw [hpresent, if_neg Bool.false_ne_true, ih hrest, Server.advanced_advanced, Nat.add_comm 1 j]

/-- The poll after those without an expected worker is made if an attempt is left. -/
theorem awaitWorker_of_lt {n : Nat} (h : m.Absent s s.polls n) (hn : n < m.maxAttempts) :
    ∃ left, m.awaitWorker m.maxAttempts s = m.awaitWorker (left + 1) (s.advanced 0 n) := by
  refine ⟨m.maxAttempts - n - 1, ?_⟩
  rw [← awaitWorker_of_absent h]
  congr 1
  omega

theorem awaitWorker_of_expects {n : Nat} {alive : List String} (h : m.Absent s s.polls n)
    (hn : n < m.maxAttempts) (hanswer : s.workers (s.polls + n) = .ok alive)
    (hexpects : m.Expects alive) :
    m.awaitWorker m.maxAttempts s = (.ok true, s.advanced 0 (n + 1)) := by
  obtain ⟨left, hleft⟩ := awaitWorker_of_lt h hn
  have hasked : (s.advanced 0 n).workers (s.advanced 0 n).polls = .ok alive := hanswer
  rw [hleft, awaitWorker, Server.askWorkers_eq, hasked]
  dsimp only
  rw [(isPresent_iff m alive).mpr hexpects, if_pos rfl, Server.advanced_advanced]

theorem awaitWorker_of_error {n : Nat} {e : MonitorError} (h : m.Absent s s.polls n)
    (hn : n < m.maxAttempts) (hanswer : s.workers (s.polls + n) = .error e) :
    m.awaitWorker m.maxAttempts s = (.error e, s.advanced 0 (n + 1)) := by
  obtain ⟨left, hleft⟩ := awaitWorker_of_lt h hn
  have hasked : (s.advanced 0 n).workers (s.advanced 0 n).polls = .error e := hanswer
  rw [hleft, awaitWorker, Server.askWorkers_eq, hasked]
  dsimp only
  rw [Server.advanced_advanced]

theorem awaitWorker_of_absent_all (h : m.Absent s s.polls m.maxAttempts) :
    m.awaitWorker m.maxAttempts s = (.ok false, s.advanced 0 m.maxAttempts) := by
  have hall := awaitWorker_of_absent h 0
  rwa [Nat.add_zero, awaitWorker] at hall

/-- Either no poll shows an expected worker, or there is a first one that is different. -/
theorem absent_or_first (m : Monitor) (s : Server) (p bound : Nat) :
    m.Absent s p bound ∨ ∃ n < bound, m.Absent s p n ∧
      ((∃ e, s.workers (p + n) = .error e) ∨ ∃ alive, s.workers (p + n) = .ok alive ∧
        m.Expects alive) := by
  induction bound with
  | zero => exact .inl fun j hj => absurd hj (Nat.not_lt_zero j)
  | succ bound ih =>
    rcases ih with habsent | ⟨n, hn, hfirst⟩
    · cases hanswer : s.workers (p + bound) with
      | error e => exact .inr ⟨bound, Nat.lt_succ_self bound, habsent, .inl ⟨e, hanswer⟩⟩
      | ok alive =>
        by_cases hexpects : m.Expects alive
        · exact .inr ⟨bound, Nat.lt_succ_self bound, habsent, .inr ⟨alive, hanswer, hexpects⟩⟩
        · left
          intro j hj
          rcases Nat.lt_succ_iff_lt_or_eq.mp hj with hj | rfl
          · exact habsent j hj
          · exact ⟨alive, hanswer, hexpects⟩
    · exact .inr ⟨n, Nat.lt_succ_of_lt hn, hfirst⟩

/-! ## The sample -/

theorem check_of_error {e : MonitorError} (h : s.stats s.samples = .error e) :
    m.check s = (.error e, s.advanced 1 0) := by
  rw [check, Server.askStats_eq, h]

theorem check_of_settled {qs : List QueueStats} (h : s.stats s.samples = .ok qs)
    (hsettled : (qs.map (·.pending)).sum = 0 ∨ 0 < (qs.map (·.consumers)).sum) :
    m.check s = (.ok (qs.map (·.pending)).sum, s.advanced 1 0) := by
  rw [check, Server.askStats_eq, h]
  dsimp only
  rw [totalPending_eq, totalConsumers_eq, if_pos (by simpa using hsettled)]

/-- Work that no queue has a consumer for is looked at through the polls. -/
theorem check_of_polls {qs : List QueueStats} (h : s.stats s.samples = .ok qs)
    (hpending : 0 < (qs.map (·.pending)).sum) (hconsumers : (qs.map (·.consumers)).sum = 0)
    {result : Except MonitorError Bool} {n : Nat}
    (hpolls : m.awaitWorker m.maxAttempts (s.advanced 1 0) =
      (result, (s.advanced 1 0).advanced 0 n)) :
    m.check s = (result.map fun present => if present then (qs.map (·.pending)).sum else 0,
      s.advanced 1 n) := by
  have hpolled : ¬((qs.map (·.pending)).sum == 0 || 0 < (qs.map (·.consumers)).sum) := by
    rw [hconsumers, Bool.or_eq_true, beq_iff_eq, decide_eq_true_iff]
    omega
  rw [check, Server.askStats_eq, h]
  dsimp only
  rw [totalPending_eq, totalConsumers_eq, if_neg hpolled, hpolls, Server.advanced_advanced,
    Nat.zero_add]
  cases result with
  | error e => rfl
  | ok present => rfl

/-- A check does what the sample at its place comes to. -/
theorem Sample.check_eq {result : Except MonitorError Nat} {n : Nat}
    (h : m.Sample s s.samples s.polls result n) : m.check s = (result, s.advanced 1 n) := by
  cases h with
  | unanswered hstats => exact check_of_error hstats
  | idle hstats hpending =>
    rw [check_of_settled hstats (.inl hpending), hpending]
  | served hstats hpending hconsumers => exact check_of_settled hstats (.inr hconsumers)
  | manned hstats hpending hconsumers hn habsent hanswer hexpects =>
    have hpolls := awaitWorker_of_expects (s := s.advanced 1 0) habsent hn hanswer hexpects
    exact check_of_polls hstats hpending hconsumers hpolls
  | unpolled hstats hpending hconsumers hn habsent hanswer =>
    have hpolls := awaitWorker_of_error (s := s.advanced 1 0) habsent hn hanswer
    exact check_of_polls hstats hpending hconsumers hpolls
  | unmanned hstats hpending hconsumers habsent =>
    have hpolls := awaitWorker_of_absent_all (s := s.advanced 1 0) habsent
    exact check_of_polls hstats hpending hconsumers hpolls

/-- At every place a sample comes to something. -/
theorem exists_sample (m : Monitor) (s : Server) (k p : Nat) :
    ∃ result n, m.Sample s k p result n := by
  cases hstats : s.stats k with
  | error e => exact ⟨_, _, .unanswered hstats⟩
  | ok qs =>
    rcases Nat.eq_zero_or_pos (qs.map (·.pending)).sum with hpending | hpending
    · exact ⟨_, _, .idle hstats hpending⟩
    rcases Nat.eq_zero_or_pos (qs.map (·.consumers)).sum with hconsumers | hconsumers
    · rcases m.absent_or_first s p m.maxAttempts with habsent | ⟨n, hn, habsent, hfirst⟩
      · exact ⟨_, _, .unmanned hstats hpending hconsumers habsent⟩
      · rcases hfirst with ⟨e, hanswer⟩ | ⟨alive, hanswer, hexpects⟩
        · exact ⟨_, _, .unpolled hstats hpending hconsumers hn habsent hanswer⟩
        · exact ⟨_, _, .manned hstats hpending hconsumers hn habsent hanswer hexpects⟩
    · exact ⟨_, _, .served hstats hpending hconsumers⟩

/-- A sample depends on the answers of the server and not on how many were asked for. -/
theorem Sample.congr {k p n : Nat} {result : Except MonitorError Nat} (h : m.Sample s k p result n)
    (s' : Server) (hstats : s'.stats = s.stats) (hworkers : s'.workers = s.workers) :
    m.Sample s' k p result n := by
  obtain ⟨stats, workers, _, _⟩ := s
  obtain ⟨stats', workers', _, _⟩ := s'
  obtain rfl : stats' = stats := hstats
  obtain rfl : workers' = workers := hworkers
  cases h with
  | unanswered hs => exact .unanswered hs
  | idle hs hpending => exact .idle hs hpending
  | served hs hpending hconsumers => exact .served hs hpending hconsumers
  | manned hs hpending hconsumers hn habsent hanswer hexpects =>
    exact .manned hs hpending hconsumers hn habsent hanswer hexpects
  | unpolled hs hpending hconsumers hn habsent hanswer =>
    exact .unpolled hs hpending hconsumers hn habsent hanswer
  | unmanned hs hpending hconsumers habsent => exact .unmanned hs hpending hconsumers habsent

/-- There is only one thing that a sample can come to, and one number of polls that it takes. -/
theorem Sample.unique {k p n n' : Nat} {result result' : Except MonitorError Nat}
    (h : m.Sample s k p result n) (h' : m.Sample s k p result' n') : result' = result ∧ n' = n := by
  have hcheck := (h.congr { s with samples := k, polls := p } rfl rfl).check_eq
  have hcheck' := (h'.congr { s with samples := k, polls := p } rfl rfl).check_eq
  obtain ⟨hresult, hserver⟩ := Prod.mk.inj (hcheck'.symm.trans hcheck)
  have hpolls : p + n' = p + n := congrArg Server.polls hserver
  exact ⟨hresult, Nat.add_left_cancel hpolls⟩

end Monitor

end StudyFlow
