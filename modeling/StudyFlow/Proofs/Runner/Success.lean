import StudyFlow.Proofs.Pool.Success
import StudyFlow.Proofs.Runner.Sequence

/-!
# When a sequence of templates succeeds

A sequence succeeds exactly if each of its templates is prepared and all instances of each one come
to their ends with success. The summary has only the templates that were run; but a sequence that
stops before its end has a report in its summary that is no success.
-/

namespace StudyFlow

variable {σ : Type}

theorem Summary.stopRequested_of_failed {summary : Summary} (h : summary.failed = []) :
    summary.stopRequested = false := by
  have hall : ∀ x ∈ summary.reports, x.code.isSuccess = true := by simpa [failed] using h
  refine List.any_eq_false.mpr fun x hx hstop => ?_
  have hcode := hall x hx
  rw [beq_iff_eq.mp hstop] at hcode
  cases hcode

namespace Runner

/-- The templates are prepared one after the other, and all instances of each one come to their ends
with success. The events of each template tell in which order things happen. -/
inductive AllSucceed (r : Runner σ) (ps : ParameterSet) :
    List Template → σ → Site → List (List Event) → Prop
  | nil {st : σ} {s : Site} : AllSucceed r ps [] st s []
  | cons {t : Template} {ts : List Template} {st : σ} {s s' : Site} {is : List Instance}
    {es : List Event} {ess : List (List Event)} {p : Pool σ} :
    r.prepare t ps s = (.ok is, s') → Pool.Run r (Pool.start is st s') es p →
    p.control = .finished →
    Pool.AllSucceed r is st s' es p → AllSucceed r ps ts p.state p.site ess →
    AllSucceed r ps (t :: ts) st s (es :: ess)

variable {r : Runner σ} {t : Template} {ts : List Template} {ps : ParameterSet}
  {done : Summary} {st : σ} {s : Site} {es : List Event} {ess : List (List Event)} {o : Outcome σ}

/-- The first one of some templates succeeds exactly if its result does. -/
theorem TemplateRuns.cons_succeed_iff (h : r.TemplateRuns t ps st s es o)
    (hmax : 0 < r.maxParallel) :
    r.AllSucceed ps (t :: ts) st s (es :: ess) ↔ Succeeds o.1 ∧
    r.AllSucceed ps ts o.2.1 o.2.2 ess := by
  constructor
  · intro hall
    cases hall with
    | cons hp hrun hf hgood hmore =>
      obtain ⟨-, rfl⟩ := h.unique (.finished hp hrun hf) hmax rfl
      exact ⟨(hrun.succeeds_iff hmax hf).mpr hgood, hmore⟩
  · rintro ⟨hsucceeds, hmore⟩
    cases h with
    | unprepared hp => exact absurd hsucceeds not_succeeds_error
    | finished hp hrun hf => exact .cons hp hrun hf ((hrun.succeeds_iff hmax hf).mp hsucceeds) hmore

/-- However templates go one after the other, they succeed exactly if all instances of all of them
do. -/
theorem Runs.succeeds_iff (h : r.Runs ps ts done st s ess o) (hmax : 0 < r.maxParallel) :
    Succeeds o.1 ↔ done.failed = [] ∧ r.AllSucceed ps ts st s ess := by
  induction h with
  | nil =>
    rw [succeeds_ok_iff]
    exact (and_iff_left .nil).symm
  | failed hone =>
    rw [hone.cons_succeed_iff hmax]
    exact iff_of_false not_succeeds_error fun h => not_succeeds_error h.2.1
  | stopped hone hstop =>
    have hfailed : ∀ {x : Summary}, x.stopRequested = true → x.failed ≠ [] := by
      intro x hx hnil
      rw [Summary.stopRequested_of_failed hnil] at hx
      cases hx
    rw [hone.cons_succeed_iff hmax, succeeds_ok_iff, succeeds_ok_iff, Summary.failed_append_iff]
    exact iff_of_false (fun h => hfailed hstop h.2) fun h => hfailed hstop h.2.1
  | next hone hgo hmore ih =>
    rw [ih, hone.cons_succeed_iff hmax, succeeds_ok_iff, Summary.failed_append_iff, and_assoc]

/-! ## One worker after the other -/

end Runner

end StudyFlow
