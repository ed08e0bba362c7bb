import StudyFlow.Proofs.Pool.Independence
import StudyFlow.Proofs.Runner.Preparation
import StudyFlow.Proofs.Runner.Sequence

/-!
# Where a sequence of templates ends

Templates are run leg by leg. A leg begins with what the one before it left, once every instance of
that template was heard of. The sequence ends with the first leg that is an error or asks for a
stop, or with the last template; templates that come later have no part in it.
-/

namespace StudyFlow

variable {σ : Type}

/-- One template of a run: where it began, what happened, the calls of the adapter, and what was
left. -/
structure Leg (σ : Type) where
  template : Template
  state : σ
  site : Site
  events : List Event
  calls : List Call
  outcome : Outcome σ

namespace Leg

/-- The next template is run after the leg. -/
def GoesOn (leg : Leg σ) : Prop := ∃ summary, leg.outcome.1 = .ok summary ∧
    summary.stopRequested = false

/-- What the instances reported, if none of them met an error. -/
def reports (leg : Leg σ) : List Report :=
  match leg.outcome.1 with
  | .ok summary => summary.reports
  | .error _ => []

/-- The site after the leg. That a stop was asked for is noted there. -/
def closing (leg : Leg σ) : Site :=
  match leg.outcome.1 with
  | .ok summary =>
    if summary.stopRequested then
      leg.outcome.2.2.warn ("Step '" ++ leg.template.name ++ "' requested a worker stop")
    else leg.outcome.2.2
  | .error _ => leg.outcome.2.2

/-- The template was not prepared, and the adapter was not called and no file changed. -/
structure Unprepared (r : Runner σ) (ps : ParameterSet) (leg : Leg σ) : Prop where
  error : ∃ e, (r.prepare leg.template ps leg.site).1 = .error e ∧ leg.outcome.1 = .error e
  events : leg.events = []
  calls : leg.calls = []
  state : leg.outcome.2.1 = leg.state
  files : leg.outcome.2.2.files = leg.site.files

/-- The template was prepared, and the leg ended when each of its instances had been run to its end
and heard of. -/
structure Settled (r : Runner σ) (ps : ParameterSet) (leg : Leg σ) (is : List Instance)
    (p : Pool σ) : Prop where
  prepared : (r.prepare leg.template ps leg.site).1 = .ok is
  run : Pool.Run r (Pool.start is leg.state (r.prepare leg.template ps leg.site).2) leg.events p
  finished : p.control = .finished ∧ p.pending = [] ∧ p.workers = [] ∧ p.channel = []
  dispatched : Pool.dispatches leg.events = List.range is.length
  received : Pool.receptions leg.events = Pool.sendings leg.events
  all : ((Pool.receptions leg.events).map Prod.fst).Perm (List.range is.length)
  told : ∀ x ∈ Pool.receptions leg.events, ∃ i, is[x.1]? = some i ∧ x.2.Tells r.bridge i
  calls : ∀ c ∈ leg.calls, ∃ i ∈ is, c.IsFor i
  outcome : leg.outcome = (p.inbox.result, p.state, p.site)

/-- Nothing of the leg is left to be done. -/
def Complete (r : Runner σ) (ps : ParameterSet) (leg : Leg σ) : Prop :=
  leg.Unprepared r ps ∨ ∃ is p, leg.Settled r ps is p

/-- The leg is one way in which its template may go, and its calls are those of an adapter that
keeps them. -/
structure Runs (r : Runner σ) (ps : ParameterSet) (leg : Leg σ) : Prop where
  plain : r.TemplateRuns leg.template ps leg.state leg.site leg.events leg.outcome
  logged : ∀ calls, r.logged.TemplateRuns leg.template ps (leg.state, calls) leg.site leg.events
    (leg.outcome.1, (leg.outcome.2.1, calls ++ leg.calls), leg.outcome.2.2)
  complete : leg.Complete r ps

/-- What a run leaves that has these legs, after what `done` sums up. -/
def outcomeOf (done : Summary) (st : σ) (s : Site) (legs : List (Leg σ)) : Outcome σ :=
  match legs.getLast? with
  | none => (.ok done, st, s)
  | some leg =>
    (leg.outcome.1.map fun _ => ⟨done.reports ++ legs.flatMap reports⟩,
      leg.outcome.2.1, leg.closing)

end Leg

namespace Runner

variable {r : Runner σ} {t : Template} {ts : List Template} {ps : ParameterSet}
  {done : Summary} {st : σ} {s : Site} {es : List Event} {ess : List (List Event)}
  {o : Outcome σ} {leg : Leg σ} {legs : List (Leg σ)}

/-- The legs are those of the first templates, each beginning where the one before it ended. All but
the last go on, and the last one does not if a template comes after it. -/
structure Sequenced (r : Runner σ) (ps : ParameterSet) (ts : List Template) (st : σ) (s : Site)
    (legs : List (Leg σ)) : Prop where
  templates : legs.map Leg.template = ts.take legs.length
  runs : ∀ leg ∈ legs, leg.Runs r ps
  first : ∀ leg ∈ legs.head?, leg.state = st ∧ leg.site = s
  next : legs.IsChain fun leg later =>
    leg.GoesOn ∧ later.state = leg.outcome.2.1 ∧ later.site = leg.outcome.2.2
  last : legs.length < ts.length → ∃ leg ∈ legs.getLast?, ¬leg.GoesOn

/-- A template with a restart limit settles. -/
theorem settles_of_maxRetries (h : t.run.maxRetries ≠ 0) : r.Settles ps t := by
  intro s is hprepare i hi st s'
  obtain ⟨queue, hprepared⟩ := prepare_ok_iff.mp hprepare
  obtain ⟨-, js, hjs, rfl⟩ := prepared_eq_ok hprepared
  obtain ⟨j, hj, rfl⟩ := List.mem_map.mp hi
  have hlimit : (j.withRuntime queue r.worker).restartLimit = t.run.maxRetries := by
    rcases Template.mem_instances hjs hj with ⟨rfl, -⟩ | ⟨k, rfl, -⟩ <;> rfl
  exact Drive.run_ends (hlimit ▸ h) r.bridge st s'

/-! ## One leg -/

/-- However a template goes, it is a complete leg. -/
theorem TemplateRuns.exists_leg (h : r.TemplateRuns t ps st s es o) (hmax : 0 < r.maxParallel) :
    ∃ calls, Leg.Runs r ps ⟨t, st, s, es, calls, o⟩ := by
  cases h with
  | @unprepared e s' hp =>
    have hlogged : r.logged.prepare t ps s = (.error e, s') := hp
    refine ⟨[], .unprepared hp, fun calls => ?_,
      .inl ⟨⟨e, congrArg Prod.fst hp, rfl⟩, rfl, rfl, rfl, ?_⟩⟩
    · rw [List.append_nil]
      exact .unprepared hlogged
    · exact (site_of_prepare hp).1
  | @finished is s' es p hp hrun hf =>
    have hlogged : r.logged.prepare t ps s = (.ok is, s') := hp
    obtain ⟨calls, hcalls, hkept⟩ := hrun.logged
    obtain ⟨hcounts, hbooks⟩ := hrun.ledger hmax
    obtain ⟨hpending, hworkers, hreceived, hall⟩ := hbooks.finished hcounts hf
    refine ⟨calls, .finished hp hrun hf, fun before => .finished hlogged (hkept before) hf,
      .inr ⟨is, p, ?_⟩⟩
    have hdispatched := hbooks.dispatched
    rw [hpending, List.map_nil, List.append_nil] at hdispatched
    have hchannel := hbooks.channel
    rw [hreceived, List.self_eq_append_right] at hchannel
    have hsite : (r.prepare t ps s).2 = s' := congrArg Prod.snd hp
    exact {
      prepared := congrArg Prod.fst hp
      run := hsite ▸ hrun
      finished := ⟨hf, hpending, hworkers, hchannel⟩
      dispatched := hdispatched
      received := hreceived
      all := hall
      told := hreceived ▸ hbooks.told
      calls := hcalls
      outcome := rfl }

/-! ## One leg after the other -/

theorem Sequenced.nil : r.Sequenced ps [] st s [] where
  templates := rfl
  runs := fun _ hm => absurd hm List.not_mem_nil
  first := fun _ hm => absurd hm (Option.not_mem_none _)
  next := .nil
  last := fun hlt => absurd hlt (Nat.lt_irrefl 0)

/-- A leg that does not go on is the last one. -/
theorem Sequenced.single (h : leg.Runs r ps) (hlast : ¬leg.GoesOn) :
    r.Sequenced ps (leg.template :: ts) leg.state leg.site [leg] where
  templates := rfl
  runs := fun _ hm => List.mem_singleton.mp hm ▸ h
  first := fun _ hm => Option.some.inj hm ▸ ⟨rfl, rfl⟩
  next := .singleton leg
  last := fun _ => ⟨leg, rfl, hlast⟩

/-- A leg that goes on comes before the others. -/
theorem Sequenced.cons (h : leg.Runs r ps) (hgo : leg.GoesOn)
    (hlegs : r.Sequenced ps ts leg.outcome.2.1 leg.outcome.2.2 legs) :
    r.Sequenced ps (leg.template :: ts) leg.state leg.site (leg :: legs) where
  templates := congrArg (leg.template :: ·) hlegs.templates
  runs := List.forall_mem_cons.mpr ⟨h, hlegs.runs⟩
  first := fun _ hm => Option.some.inj hm ▸ ⟨rfl, rfl⟩
  next := List.isChain_cons.mpr ⟨fun later hm => ⟨hgo, hlegs.first later hm⟩, hlegs.next⟩
  last := by
    intro hlt
    obtain ⟨last, hm, hends⟩ := hlegs.last (Nat.lt_of_succ_lt_succ hlt)
    exact ⟨last, List.mem_getLast?_cons hm, hends⟩

theorem outcomeOf_single (done : Summary) (st : σ) (s : Site) (leg : Leg σ) :
    Leg.outcomeOf done st s [leg] =
      (leg.outcome.1.map fun _ => ⟨done.reports ++ leg.reports⟩, leg.outcome.2.1, leg.closing) := by
  simp only [Leg.outcomeOf, List.getLast?_singleton, List.flatMap_cons, List.flatMap_nil,
    List.append_nil]

/-- What the legs leave that come after one that goes on is what all of them leave. -/
theorem outcomeOf_cons (leg : Leg σ) (legs : List (Leg σ)) {summary : Summary}
    (hok : leg.outcome.1 = .ok summary) (hgo : summary.stopRequested = false) :
    Leg.outcomeOf done st s (leg :: legs) =
      Leg.outcomeOf (done.append summary) leg.outcome.2.1 leg.outcome.2.2 legs := by
  have hreports : leg.reports = summary.reports := by rw [Leg.reports, hok]
  cases legs with
  | nil =>
    have hclosing : leg.closing = leg.outcome.2.2 := by
      simp only [Leg.closing, hok, hgo, Bool.false_eq_true, ↓reduceIte]
    rw [outcomeOf_single, hok, hreports, hclosing]
    rfl
  | cons later legs =>
    obtain ⟨last, hlast⟩ : ∃ last, (later :: legs).getLast? = some last :=
      ⟨_, List.getLast?_eq_some_getLast (List.cons_ne_nil later legs)⟩
    simp only [Leg.outcomeOf, List.getLast?_cons_cons, hlast, Summary.append,
      List.append_assoc, ← hreports]
    rfl

/-- A sequence of templates goes leg by leg, and an adapter that keeps its calls has those of the
legs. -/
theorem Runs.exists_legs (h : r.Runs ps ts done st s ess o) (hmax : 0 < r.maxParallel) :
    ∃ legs, r.Sequenced ps ts st s legs ∧ legs.map Leg.events = ess ∧
      o = Leg.outcomeOf done st s legs ∧
      ∀ calls, r.logged.Runs ps ts done (st, calls) s ess
        (o.1, (o.2.1, calls ++ legs.flatMap Leg.calls), o.2.2) := by
  induction h with
  | nil =>
    exact ⟨[], .nil, rfl, rfl, fun calls => by rw [List.flatMap_nil, List.append_nil]; exact .nil⟩
  | failed hone =>
    obtain ⟨calls, hleg⟩ := hone.exists_leg hmax
    refine ⟨[_], .single hleg ?_, rfl, ?_, fun before => ?_⟩
    · rintro ⟨summary, hok, -⟩
      cases hok
    · rw [outcomeOf_single]
      rfl
    · rw [List.flatMap_singleton]
      exact .failed (hleg.logged before)
  | @stopped t ts done summary st st' s s' es hone hstop =>
    obtain ⟨calls, hleg⟩ := hone.exists_leg hmax
    refine ⟨[_], .single hleg ?_, rfl, ?_, fun before => ?_⟩
    · rintro ⟨_, hok, hgo⟩
      cases hok
      rw [hstop] at hgo
      cases hgo
    · rw [outcomeOf_single]
      simp only [Leg.closing, Leg.reports, hstop, ↓reduceIte]
      rfl
    · rw [List.flatMap_singleton]
      exact .stopped (hleg.logged before) hstop
  | @next t ts done summary st st' s s' es ess o hone hgo hmore ih =>
    obtain ⟨calls, hleg⟩ := hone.exists_leg hmax
    obtain ⟨legs, hlegs, hevents, houtcome, hlogged⟩ := ih
    refine ⟨_ :: legs, .cons hleg ⟨_, rfl, hgo⟩ hlegs, congrArg (List.cons _) hevents, ?_,
      fun before => ?_⟩
    · rw [houtcome]
      exact (outcomeOf_cons ⟨t, st, s, es, calls, (.ok summary, st', s')⟩ legs rfl hgo).symm
    · have hrest := hlogged (before ++ calls)
      rw [List.append_assoc] at hrest
      rw [List.flatMap_cons]
      exact .next (hleg.logged before) hgo hrest

/-- Templates that a run does not come to may be replaced by any others. -/
theorem Runs.later (h : r.Runs ps ts done st s ess o) (hlt : ess.length < ts.length)
    (later : List Template) :
    r.Runs ps (ts.take ess.length ++ later) done st s ess o := by
  induction h with
  | nil => cases hlt
  | failed hone => exact .failed hone
  | stopped hone hstop => exact .stopped hone hstop
  | next hone hgo _ ih => exact .next hone hgo (ih (Nat.lt_of_succ_lt_succ hlt))

/-- However a list of templates goes, with any parameters and any adapter: the first templates are
run in order, one leg each. A leg begins with the files and the adapter as the one before left them,
when all instances of that one had been run to their ends and heard of. The last leg is the first
that is an error or asks for a stop, or that of the last template. The run ends with that error, or
with the reports of all legs in order; the adapter got the calls of these legs, the files are those
that the last one left, and any templates may stand in the place of the later ones. If all instances
come to their ends, running all templates is one of these runs. -/
theorem templates_in_sequence (hmax : 0 < r.maxParallel) (ts : List Template)
    (ps : ParameterSet) (st : σ) (s : Site) :
    ((∀ t ∈ ts, r.Settles ps t) → ∃ ess, r.Runs ps ts {} st s ess (r.runAll ts ps st s)) ∧
    ∀ ess o, r.Runs ps ts {} st s ess o →
      ∃ legs, r.Sequenced ps ts st s legs ∧ legs.map Leg.events = ess ∧
        o = Leg.outcomeOf {} st s legs ∧
        r.logged.Runs ps ts {} (st, []) s ess (o.1, (o.2.1, legs.flatMap Leg.calls), o.2.2) ∧
        (legs.length < ts.length → ∀ later,
          r.Runs ps (ts.take legs.length ++ later) {} st s ess o) := by
  refine ⟨fun ht => exists_runs_of_runFrom hmax ht {} st s, fun ess o h => ?_⟩
  obtain ⟨legs, hlegs, hevents, houtcome, hlogged⟩ := h.exists_legs hmax
  refine ⟨legs, hlegs, hevents, houtcome, hlogged [], fun hlt later => ?_⟩
  have hlength : legs.length = ess.length := by rw [← hevents, List.length_map]
  rw [hlength] at hlt ⊢
  exact h.later hlt later

/-- The first submission succeeds, the others ask for a stop. -/
def okThenStop : Nat → Reply
  | 0 => .submitted ⟨.ok, "1"⟩
  | _ => .submitted ⟨.stopWorkers, "2"⟩

/-- A runner whose adapter asks for a stop the second time. -/
def stopping : Runner (List Script) where
  bridge := ⟨{ shell := "/bin/sh" }, .replay okThenStop⟩
  queues := {}
  root := ⟨"demo"⟩
  worker := "local"

theorem stopRequested_eq (summary : Summary) :
    summary.stopRequested = (summary.reports.map Report.code).any (· == .stopWorkers) := by
  rw [Summary.stopRequested, List.any_map]
  rfl

theorem templates_in_sequence_stopping :
    0 < stopping.maxParallel ∧ ∃ ess legs summary st s,
      stopping.Runs [] [.new "prepare" "run", .new "sim" "run", .new "post" "run"] {} [] {} ess
        (.ok summary, st, s) ∧
      stopping.Sequenced [] [.new "prepare" "run", .new "sim" "run", .new "post" "run"] [] {} legs ∧
      legs.map (fun leg => leg.template.name) = ["prepare", "sim"] ∧
      summary.reports.map Report.code = [.ok, .stopWorkers] ∧
      st.map Script.step = ["prepare", "sim"] ∧
      stopping.Runs [] [.new "prepare" "run", .new "sim" "run"] {} []
      {} ess (.ok summary, st, s) := by
  have hsettles : ∀ name, stopping.Settles [] (.new name "run") := by
    intro name
    apply settles_of_maxRetries
    show (30 : UInt32) ≠ 0
    decide
  obtain ⟨es₁, hfirst⟩ := exists_templateRuns (by decide) (hsettles "prepare") [] {}
  obtain ⟨es₂, hsecond⟩ := exists_templateRuns (by decide) (hsettles "sim")
    (stopping.runTemplate (.new "prepare" "run") [] [] {}).2.1
    (stopping.runTemplate (.new "prepare" "run") [] [] {}).2.2
  have hcodes : (stopping.runTemplate (.new "prepare" "run") [] [] {}).1.toOption.map
      (fun summary => summary.reports.map Report.code) = some [.ok] := by decide +kernel
  have hafter : ∀ first, first = stopping.runTemplate (.new "prepare" "run") [] [] {} →
      (stopping.runTemplate (.new "sim" "run") [] first.2.1 first.2.2).1.toOption.map
        (fun summary => summary.reports.map Report.code) = some [.stopWorkers] ∧
      (stopping.runTemplate (.new "sim" "run") [] first.2.1 first.2.2).2.1.map Script.step =
        ["prepare", "sim"] := by
    intro first hrun
    rw [hrun]
    decide +kernel
  obtain ⟨hcodes', hscripts⟩ := hafter _ rfl
  clear hafter
  generalize stopping.runTemplate (.new "prepare" "run") [] [] {} = first at *
  obtain ⟨_ | summary, st, s⟩ := first
  · cases hcodes
  generalize stopping.runTemplate (.new "sim" "run") [] st s = second at *
  obtain ⟨_ | summary', st', s'⟩ := second
  · cases hcodes'
  have hok : summary.reports.map Report.code = [.ok] := Option.some.inj hcodes
  have hstops : summary'.reports.map Report.code = [.stopWorkers] := Option.some.inj hcodes'
  have hgo : summary.stopRequested = false := by rw [stopRequested_eq, hok]; rfl
  have hstop : summary'.stopRequested = true := by rw [stopRequested_eq, hstops]; rfl
  have hruns : stopping.Runs [] [.new "prepare" "run", .new "sim" "run",
    .new "post" "run"] {} [] {} [es₁, es₂]
      _ := .next hfirst hgo (.stopped hsecond hstop)
  obtain ⟨-, hall⟩ := templates_in_sequence (r := stopping) (by decide)
    [.new "prepare" "run", .new "sim" "run", .new "post" "run"] [] [] {}
  obtain ⟨legs, hlegs, hevents, -, -, hlater⟩ := hall _ _ hruns
  have hlength : legs.length = 2 := by
    have hcount := congrArg List.length hevents
    rwa [List.length_map] at hcount
  have htemplates := hlegs.templates
  have hshort := hlater (by rw [hlength]; decide) []
  rw [hlength] at htemplates hshort
  refine ⟨by decide, _, legs, _, _, _, hruns, hlegs, ?_, ?_, hscripts, hshort⟩
  · have hnames := congrArg (List.map Template.name) htemplates
    rwa [List.map_map] at hnames
  · change (summary.reports ++ summary'.reports).map Report.code = _
    rw [List.map_append, hok, hstops]
    rfl

end Runner

end StudyFlow
