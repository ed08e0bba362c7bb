import StudyFlow.Proofs.Monitor.Sample

/-!
# When an allocation is released

A run of a monitor takes one sample after the other as long as there is something to wait for.
`Monitor.Waited` counts the samples that found something and the polls they took, which say where
the next sample stands in the answers. The run ends with the first sample that is releasable or
meets an error, and asks nothing more; it goes on after some samples exactly if all of them found
something to wait for.
-/

namespace StudyFlow.Monitor

variable {m : Monitor} {s t : Server} {k p q n : Nat}

attribute [local instance (high)] Zero.ofOfNat0

/-- No queue has work, or no queue with work is served and none of the polls that are left to the
sample shows an expected worker. -/
def Releasable (m : Monitor) (s : Server) (k p : Nat) : Prop :=
  ∃ qs, s.stats k = .ok qs ∧
    ((qs.map (·.pending)).sum = 0 ∨
      0 < (qs.map (·.pending)).sum ∧ (qs.map (·.consumers)).sum = 0 ∧ m.Absent s p m.maxAttempts)

theorem releasable_iff (m : Monitor) (s : Server) (k p : Nat) :
    m.Releasable s k p ↔ ∃ q, m.Sample s k p (.ok 0) q := by
  constructor
  · rintro ⟨qs, hstats, hpending | ⟨hpending, hconsumers, habsent⟩⟩
    · exact ⟨0, .idle hstats hpending⟩
    · exact ⟨m.maxAttempts, .unmanned hstats hpending hconsumers habsent⟩
  · rintro ⟨q, h⟩
    generalize hresult : (Except.ok 0 : Except MonitorError Nat) = result at h
    cases h with
    | unanswered hstats => cases hresult
    | idle hstats hpending => exact ⟨_, hstats, .inl hpending⟩
    | served hstats hpending hconsumers => exact ⟨_, hstats, .inl (Except.ok.inj hresult).symm⟩
    | manned hstats hpending hconsumers hn habsent hanswer hexpects =>
      exact ⟨_, hstats, .inl (Except.ok.inj hresult).symm⟩
    | unpolled hstats hpending hconsumers hn habsent hanswer => cases hresult
    | unmanned hstats hpending hconsumers habsent =>
      exact ⟨_, hstats, .inr ⟨hpending, hconsumers, habsent⟩⟩

/-- So many samples were taken, all of which found work that a consumer or an expected worker takes
care of, and so many polls. -/
inductive Waited (m : Monitor) (s : Server) : Nat → Nat → Prop
  | none : Waited m s 0 0
  | more {k p pending q : Nat} : Waited m s k p →
    m.Sample s (s.samples + k) (s.polls + p) (.ok pending) q →
    0 < pending → Waited m s (k + 1) (p + q)

/-! ## One sample of a run -/

theorem runWithin_of_error {e : MonitorError}
    (h : m.Sample s s.samples s.polls (.error e) q) (n : Nat) :
    m.runWithin (n + 1) s = some (.error e, s.advanced 1 q) := by
  rw [runWithin, h.check_eq]

theorem runWithin_of_release (h : m.Sample s s.samples s.polls (.ok 0) q) (n : Nat) :
    m.runWithin (n + 1) s = some (.ok (), s.advanced 1 q) := by
  rw [runWithin, h.check_eq]
  rfl

theorem runWithin_of_wait {pending : Nat} (h : m.Sample s s.samples s.polls (.ok pending) q)
    (hp : 0 < pending) (n : Nat) : m.runWithin (n + 1) s = m.runWithin n (s.advanced 1 q) := by
  rw [runWithin, h.check_eq]
  dsimp only
  rw [if_neg]
  simpa using Nat.pos_iff_ne_zero.mp hp

/-- Nothing to wait for in a sample ends a run without an error. -/
theorem runWithin_of_last {result : Except MonitorError Unit}
    (h : m.Sample s s.samples s.polls (result.map fun _ => 0) q) (n : Nat) :
    m.runWithin (n + 1) s = some (result, s.advanced 1 q) := by
  cases result with
  | error e => exact runWithin_of_error h n
  | ok u => exact runWithin_of_release h n

/-! ## Samples in a row -/

/-- Samples that waited leave the run with what comes after them. -/
theorem Waited.runWithin_eq (h : m.Waited s k p) (n : Nat) :
    m.runWithin (k + n) s = m.runWithin n (s.advanced k p) := by
  induction h generalizing n with
  | none => rw [Nat.zero_add, Server.advanced_zero]
  | @more k p _ _ _ hsample hp ih =>
    have hnext := hsample.congr (s.advanced k p) rfl rfl
    rw [Nat.add_assoc, Nat.add_comm 1 n, ih, runWithin_of_wait hnext hp, Server.advanced_advanced]

/-! ## The run -/

/-- Within some samples a run ends with one that comes to nothing or to an error, after samples that
waited; or all of them waited, and it goes on. -/
theorem runWithin_cases (m : Monitor) (n : Nat) (s : Server) :
    (∃ p, m.Waited s n p) ∨ ∃ result k p q, k < n ∧ m.Waited s k p ∧
      m.Sample s (s.samples + k) (s.polls + p) (Except.map (fun _ : Unit => 0) result) q := by
  induction n with
  | zero => exact .inl ⟨0, .none⟩
  | succ n ih =>
    rcases ih with ⟨p, hwaited⟩ | ⟨result, k, p, q, hk, hrest⟩
    · obtain ⟨result, q, hsample⟩ := m.exists_sample s (s.samples + n) (s.polls + p)
      cases result with
      | error e => exact .inr ⟨.error e, n, p, q, Nat.lt_succ_self n, hwaited, hsample⟩
      | ok pending =>
        rcases Nat.eq_zero_or_pos pending with rfl | hpending
        · exact .inr ⟨.ok (), n, p, q, Nat.lt_succ_self n, hwaited, hsample⟩
        · exact .inl ⟨p + q, hwaited.more hsample hpending⟩
    · exact .inr ⟨result, k, p, q, Nat.lt_succ_of_lt hk, hrest⟩

/-- The sample after those that waited ends the run, if nothing is to be waited for in it. -/
theorem Waited.runWithin_last {result : Except MonitorError Unit} (h : m.Waited s k p) (hk : k < n)
    (hlast : m.Sample s (s.samples + k) (s.polls + p) (result.map fun _ => 0) q) :
    m.runWithin n s = some (result, s.advanced (k + 1) (p + q)) := by
  obtain ⟨j, rfl⟩ := Nat.exists_eq_add_of_lt hk
  have hplace := hlast.congr (s.advanced k p) rfl rfl
  rw [Nat.add_assoc, h.runWithin_eq, runWithin_of_last hplace, Server.advanced_advanced]

theorem runWithin_eq_some_iff {result : Except MonitorError Unit} :
    m.runWithin n s = some (result, t) ↔
      ∃ k p q, k < n ∧ m.Waited s k p ∧
        m.Sample s (s.samples + k) (s.polls + p) (result.map fun _ => 0) q ∧
        t = s.advanced (k + 1) (p + q) := by
  constructor
  · intro hrun
    rcases m.runWithin_cases n s with ⟨p, hwaited⟩ | ⟨result', k, p, q, hk, hwaited, hlast⟩
    · have hnone : m.runWithin n s = none := hwaited.runWithin_eq 0
      rw [hnone] at hrun
      cases hrun
    · rw [hwaited.runWithin_last hk hlast] at hrun
      obtain ⟨rfl, rfl⟩ := Prod.mk.inj (Option.some.inj hrun)
      exact ⟨k, p, q, hk, hwaited, hlast, rfl⟩
  · rintro ⟨k, p, q, hk, hwaited, hlast, rfl⟩
    exact hwaited.runWithin_last hk hlast

theorem runWithin_eq_none_iff : m.runWithin n s = none ↔ ∃ p, m.Waited s n p := by
  constructor
  · intro hrun
    refine (m.runWithin_cases n s).resolve_right ?_
    rintro ⟨result, k, p, q, hk, hwaited, hlast⟩
    rw [hwaited.runWithin_last hk hlast] at hrun
    cases hrun
  · rintro ⟨p, hwaited⟩
    exact hwaited.runWithin_eq 0

/-- At its place in the answers a sample comes to one result with one number of polls, and it is a
release exactly if it is releasable. The allocation is released at the first sample that is, after
samples that found work with a consumer or an expected worker, and the first error that is met ends
the run; in both cases the samples and the polls are those of the samples so far and no others. As
long as there is no such sample the run goes on. -/
theorem run_releases_at_first (m : Monitor) (s : Server) :
    (∀ k p, (∃! x : Except MonitorError Nat × Nat, m.Sample s k p x.1 x.2) ∧
      ((∃ q, m.Sample s k p (.ok 0) q) ↔ m.Releasable s k p)) ∧
    ∀ n,
      (∀ t, m.runWithin n s = some (.ok (), t) ↔
        ∃ k p q, k < n ∧ m.Waited s k p ∧ m.Sample s (s.samples + k) (s.polls + p) (.ok 0) q ∧
          t = s.advanced (k + 1) (p + q)) ∧
      (∀ e t, m.runWithin n s = some (.error e, t) ↔
        ∃ k p q, k < n ∧ m.Waited s k p ∧ m.Sample s (s.samples + k) (s.polls + p) (.error e) q ∧
          t = s.advanced (k + 1) (p + q)) ∧
      (m.runWithin n s = none ↔ ∃ p, m.Waited s n p) := by
  refine ⟨fun k p => ⟨?_, (releasable_iff m s k p).symm⟩, fun n =>
    ⟨fun t => runWithin_eq_some_iff, fun e t => runWithin_eq_some_iff, runWithin_eq_none_iff⟩⟩
  obtain ⟨result, q, h⟩ := m.exists_sample s k p
  refine ⟨(result, q), h, ?_⟩
  rintro ⟨result', q'⟩ h'
  obtain ⟨hresult, hq⟩ := h.unique h'
  exact Prod.ext hresult hq

/-- One worker is waited for, in two polls. -/
def keeper : Monitor := ⟨["q", "r"], ["sim"], 2⟩

/-- At first a queue has a consumer, then tasks are left that the worker shows up for at the second
poll. Those of the third answer nobody takes. -/
def shift : Server :=
  .ofAnswers [.ok [⟨"q", 2, 1⟩, ⟨"r", 1, 0⟩], .ok [⟨"q", 0, 0⟩, ⟨"r", 2, 0⟩], .ok [⟨"q", 1, 0⟩]]
    [.ok ["x"], .ok ["x", "sim@node"], .ok [], .ok ["x"]]

/-- After the sample with a consumer the queues cannot be asked any more. -/
def cutShift : Server := .ofAnswers [.ok [⟨"q", 2, 1⟩], .error (.query "q" "gone")] []

/-- Two samples wait, the second of them for two polls, and the third one spends two more before it
releases the allocation. An error ends a run after one sample that waits. -/
theorem run_releases_at_first_shift :
    keeper.Waited shift 2 2 ∧ ¬keeper.Releasable shift 0 0 ∧ ¬keeper.Releasable shift 1 0 ∧
      keeper.Releasable shift 2 2 ∧ keeper.runWithin 2 shift = none ∧
      keeper.runWithin 3 shift = some (.ok (), shift.advanced 3 4) ∧
      keeper.runWithin 5 cutShift = some (.error (.query "q" "gone"), cutShift.advanced 2 0) := by
  have hfree : keeper.Absent shift 0 1 := by
    intro j hj
    obtain rfl : j = 0 := Nat.lt_one_iff.mp hj
    exact ⟨["x"], rfl, by decide⟩
  have hgone : keeper.Absent shift 2 2 := by
    intro j hj
    match j, hj with
    | 0, _ => exact ⟨[], rfl, by decide⟩
    | 1, _ => exact ⟨["x"], rfl, by decide⟩
  have hexpects : keeper.Expects ["x", "sim@node"] := by decide
  have hfirst : shift.stats 0 = .ok [⟨"q", 2, 1⟩, ⟨"r", 1, 0⟩] := rfl
  have hsecond : shift.stats 1 = .ok [⟨"q", 0, 0⟩, ⟨"r", 2, 0⟩] := rfl
  have hserved : keeper.Sample shift 0 0 (.ok 3) 0 := .served hfirst (by decide) (by decide)
  have hmanned : keeper.Sample shift 1 0 (.ok 2) 2 :=
    .manned hsecond (by decide) (by decide) (by decide) hfree rfl hexpects
  have hunmanned : keeper.Sample shift 2 2 (.ok 0) 2 := .unmanned rfl (by decide) (by decide) hgone
  have hwaited : keeper.Waited shift 2 2 :=
    (Waited.none.more hserved (by decide)).more hmanned (by decide)
  have hstats : cutShift.stats 0 = .ok [⟨"q", 2, 1⟩] := rfl
  have hcut : keeper.Sample cutShift 0 0 (.ok 2) 0 := .served hstats (by decide) (by decide)
  obtain ⟨hsample, hruns⟩ := run_releases_at_first keeper shift
  obtain ⟨-, hcuts⟩ := run_releases_at_first keeper cutShift
  have hwaits : ∀ {k p pending q}, keeper.Sample shift k p (.ok (pending + 1)) q →
      ¬keeper.Releasable shift k p := by
    intro k p pending q hwork hreleasable
    obtain ⟨⟨x, -, hunique⟩, hreleases⟩ := hsample k p
    obtain ⟨q', hrelease⟩ := hreleases.mpr hreleasable
    have hsame : (Except.ok (pending + 1), q) = (Except.ok 0, q') :=
      (hunique (_, _) hwork).trans (hunique (_, _) hrelease).symm
    cases hsame
  refine ⟨hwaited, hwaits hserved, hwaits hmanned, (hsample 2 2).2.mp ⟨2, hunmanned⟩, ?_, ?_, ?_⟩
  · exact (hruns 2).2.2.mpr ⟨2, hwaited⟩
  · exact ((hruns 3).1 _).mpr ⟨2, 2, 2, by decide, hwaited, hunmanned, rfl⟩
  · exact ((hcuts 5).2.1 _ _).mpr ⟨1, 0, 0, by decide, Waited.none.more hcut (by decide),
      .unanswered rfl, rfl⟩

end StudyFlow.Monitor
