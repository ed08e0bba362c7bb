import StudyFlow.Proofs.Pool.Schedule
import StudyFlow.Proofs.Pool.Turns

/-!
# Templates one after the other

Each template is prepared and its instances are run by a pool, whose events may come in any order
that it leaves open. `Runner.Runs` says how a sequence of templates may go, told by the events of
each one. `Runner.runAll` is one of these ways, and the turns of the events settle the others.
-/

namespace StudyFlow

variable {σ : Type}

/-- What a run leaves: its result, the state of the adapter and the site. -/
abbrev Outcome (σ : Type) := Except ExecutionError Summary × σ × Site

namespace Runner

/-- How one template may go. -/
inductive TemplateRuns (r : Runner σ) (t : Template) (ps : ParameterSet) (st : σ) (s : Site) :
    List Event → Outcome σ → Prop
  | unprepared {e : ExecutionError} {s' : Site} :
    r.prepare t ps s = (.error e, s') → TemplateRuns r t ps st s [] (.error e, st, s')
  | finished {is : List Instance} {s' : Site} {es : List Event} {p : Pool σ} :
    r.prepare t ps s = (.ok is, s') → Pool.Run r (Pool.start is st s') es p →
    p.control = .finished → TemplateRuns r t ps st s es (p.inbox.result, p.state, p.site)

/-- How templates may go one after the other, after what `done` sums up. -/
inductive Runs (r : Runner σ) (ps : ParameterSet) :
    List Template → Summary → σ → Site → List (List Event) → Outcome σ → Prop
  | nil {done : Summary} {st : σ} {s : Site} : Runs r ps [] done st s [] (.ok done, st, s)
  | failed {t : Template} {ts : List Template} {done : Summary} {st st' : σ} {s s' : Site}
    {es : List Event} {e : ExecutionError} :
    TemplateRuns r t ps st s es (.error e, st', s') →
    Runs r ps (t :: ts) done st s [es] (.error e, st', s')
  | stopped {t : Template} {ts : List Template} {done summary : Summary} {st st' : σ} {s s' : Site}
      {es : List Event} :
    TemplateRuns r t ps st s es (.ok summary, st', s') → summary.stopRequested = true →
    Runs r ps (t :: ts) done st s [es]
      (.ok (done.append summary), st', s'.warn ("Step '" ++ t.name ++ "' requested a worker stop"))
  | next {t : Template} {ts : List Template} {done summary : Summary} {st st' : σ} {s s' : Site}
      {es : List Event} {ess : List (List Event)} {o : Outcome σ} :
    TemplateRuns r t ps st s es (.ok summary, st', s') → summary.stopRequested = false →
    Runs r ps ts (done.append summary) st' s' ess o → Runs r ps (t :: ts) done st s (es :: ess) o

variable {r : Runner σ} {t : Template} {ts : List Template} {ps : ParameterSet}
  {done : Summary} {st : σ}
  {s : Site} {es es' : List Event} {ess ess' : List (List Event)} {o o' : Outcome σ}

/-! ## The turns settle the rest -/

theorem TemplateRuns.unique (h : r.TemplateRuns t ps st s es o)
    (h' : r.TemplateRuns t ps st s es' o') (hmax : 0 < r.maxParallel)
    (ht : es'.map Event.turn = es.map Event.turn) : es' = es ∧ o' = o := by
  cases h with
  | unprepared hp =>
    cases h' with
    | unprepared hp' =>
      cases hp.symm.trans hp'
      exact ⟨rfl, rfl⟩
    | finished hp' hrun' hf' => cases hp.symm.trans hp'
  | finished hp hrun hf =>
    cases h' with
    | unprepared hp' => cases hp.symm.trans hp'
    | finished hp' hrun' hf' =>
      cases hp.symm.trans hp'
      obtain ⟨rfl, rfl⟩ := hrun.unique hmax hrun' ht
      exact ⟨rfl, rfl⟩

/-- What follows a template that went in some way. -/
def After (r : Runner σ) (ps : ParameterSet) (t : Template) (ts : List Template) (done : Summary)
    (rest : List (List Event)) (o : Outcome σ) : Outcome σ → Prop
  | (.error e, st, s) => rest = [] ∧ o = (.error e, st, s)
  | (.ok summary, st, s) =>
    if summary.stopRequested = true then
      rest = [] ∧ o = (.ok (done.append summary), st,
        s.warn ("Step '" ++ t.name ++ "' requested a worker stop"))
    else r.Runs ps ts (done.append summary) st s rest o

theorem Runs.cons_inv (h : r.Runs ps (t :: ts) done st s ess o) :
    ∃ es rest first, ess = es :: rest ∧ r.TemplateRuns t ps st s es first ∧
      r.After ps t ts done rest o first := by
  cases h with
  | failed hone => exact ⟨_, [], _, rfl, hone, rfl, rfl⟩
  | stopped hone hstop => exact ⟨_, [], _, rfl, hone, by rw [After, if_pos hstop]; exact ⟨rfl, rfl⟩⟩
  | next hone hgo hmore =>
    exact ⟨_, _, _, rfl, hone, by rw [After, if_neg (by simp [hgo])]; exact hmore⟩

/-- Runs of the same templates in which the turns are the same are the same. -/
theorem Runs.unique (h : r.Runs ps ts done st s ess o) (h' : r.Runs ps ts done st s ess' o')
    (hmax : 0 < r.maxParallel) (ht : ess'.map (·.map Event.turn) = ess.map (·.map Event.turn)) :
    ess' = ess ∧ o' = o := by
  -- the second run is read back template by template, so that it cannot stop where the first one
  -- goes on
  induction h generalizing ess' o' with
  | nil =>
    cases h' with
    | nil => exact ⟨rfl, rfl⟩
  | failed hone =>
    obtain ⟨es', rest, first, rfl, hone', hafter⟩ := h'.cons_inv
    obtain ⟨rfl, rfl⟩ := hone.unique hone' hmax (List.cons.inj ht).1
    obtain ⟨rfl, rfl⟩ := hafter
    exact ⟨rfl, rfl⟩
  | stopped hone hstop =>
    obtain ⟨es', rest, first, rfl, hone', hafter⟩ := h'.cons_inv
    obtain ⟨rfl, rfl⟩ := hone.unique hone' hmax (List.cons.inj ht).1
    rw [After, if_pos hstop] at hafter
    obtain ⟨rfl, rfl⟩ := hafter
    exact ⟨rfl, rfl⟩
  | next hone hgo hmore ih =>
    obtain ⟨es', rest, first, rfl, hone', hafter⟩ := h'.cons_inv
    obtain ⟨hes, hrest⟩ := List.cons.inj ht
    obtain ⟨rfl, rfl⟩ := hone.unique hone' hmax hes
    rw [After, if_neg (by simp [hgo])] at hafter
    obtain ⟨rfl, rfl⟩ := ih hafter hrest
    exact ⟨rfl, rfl⟩

/-! ## One way to run them -/

/-- Every instance that is prepared of the template comes to its end, whatever it meets. -/
def Settles (r : Runner σ) (ps : ParameterSet) (t : Template) : Prop :=
  ∀ s is, (r.prepare t ps s).1 = .ok is → ∀ i ∈ is, ∀ st s', ∃ ending,
    (Drive.moves r.bridge Drive.moveBound (Drive.begin i) st s').1.phase = .done ending

theorem exists_templateRuns (hmax : 0 < r.maxParallel) (ht : r.Settles ps t) (st : σ) (s : Site) :
    ∃ es, r.TemplateRuns t ps st s es (r.runTemplate t ps st s) := by
  obtain ⟨prepared, s', hp⟩ : ∃ prepared s', r.prepare t ps s = (prepared, s') := ⟨_, _, rfl⟩
  unfold runTemplate
  rw [hp]
  cases prepared with
  | error e => exact ⟨[], .unprepared hp⟩
  | ok is =>
    obtain ⟨es, p, hrun, hf, hresult⟩ :=
      Pool.exists_run_of_runInstances hmax (ht s is (congrArg Prod.fst hp)) st s'
    change ∃ es, r.TemplateRuns t ps st s es (r.runInstances is st s')
    rw [hresult]
    exact ⟨es, .finished hp hrun hf⟩

/-- To run templates with one worker after the other is one of the ways in which they may go. -/
theorem exists_runs_of_runFrom (hmax : 0 < r.maxParallel) (ht : ∀ t ∈ ts, r.Settles ps t)
    (done : Summary) (st : σ) (s : Site) : ∃ ess,
    r.Runs ps ts done st s ess (r.runFrom ps ts done st s) := by
  induction ts generalizing done st s with
  | nil => exact ⟨[], .nil⟩
  | cons t ts ih =>
    obtain ⟨es, hone⟩ := exists_templateRuns hmax (ht t List.mem_cons_self) st s
    unfold runFrom
    obtain ⟨result, st', s', hrun⟩ : ∃ result st' s', r.runTemplate t ps st s = (result, st', s') :=
      ⟨_, _, _, rfl⟩
    rw [hrun] at hone ⊢
    cases result with
    | error e => exact ⟨[es], .failed hone⟩
    | ok summary =>
      cases hstop : summary.stopRequested with
      | true =>
        simp only [hstop, ↓reduceIte]
        exact ⟨[es], .stopped hone hstop⟩
      | false =>
        obtain ⟨ess, hmore⟩ := ih (fun t ht' => ht t (List.mem_cons_of_mem _ ht'))
          (done.append summary) st' s'
        simp only [hstop, Bool.false_eq_true, ↓reduceIte]
        exact ⟨es :: ess, .next hone hstop hmore⟩

end Runner

end StudyFlow
