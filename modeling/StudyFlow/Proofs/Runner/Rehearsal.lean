import StudyFlow.Proofs.Pool.Rehearsal
import StudyFlow.Proofs.Runner.Preparation
import StudyFlow.Proofs.Runner.Sequence

/-!
# Runs that hand nothing over

Where a dry run is asked for by the settings of a study, or by each of its templates, a run of the
templates goes the same way with any adapter, one that fails, one that asks for restarts or a stop,
or one that is lost. It ends with the report of a dry run for each instance, or with an error, and
leaves status files and scripts.
-/

namespace StudyFlow

open FileTree

variable {σ τ : Type}

/-- The report of a dry run of an instance that was not restarted. -/
def Report.IsDry (x : Report) : Prop :=
  x.code = .dryOk ∧ x.status.state = .dryRun ∧ x.status.result = "DRY_SUCCESS" ∧
    x.status.restarts = 0

namespace Runner

/-- A dry run is asked for, by the settings of the template or by those that hold for all. -/
def IsDry (r : Runner σ) (t : Template) : Prop :=
  (r.bridge.settings.effectiveFor t.run).dryRun = true

/-- The instance is one that some template is prepared to at the given time. -/
def Prepares (r : Runner σ) (ps : ParameterSet) (now : Millis) (ts : List Template)
    (i : Instance) : Prop :=
  ∃ t ∈ ts, ∃ queue is, r.prepared t ps now = .ok (queue, is) ∧ i ∈ is

/-- The reports are those of a dry run of each instance of the template, in some order. -/
def Rehearsed (r : Runner σ) (ps : ParameterSet) (now : Millis) (t : Template)
    (reports : List Report) : Prop :=
  ∃ queue is, r.prepared t ps now = .ok (queue, is) ∧ reports.Perm (is.map fun i => i.dryReport now)

variable {r : Runner σ} {t : Template} {ts : List Template} {ps : ParameterSet}
  {done : Summary} {st : σ}
  {s : Site} {now : Millis} {es : List Event} {ess : List (List Event)} {o : Outcome σ}

theorem Prepares.first {i : Instance} (h : r.Prepares ps now [t] i) :
    r.Prepares ps now (t :: ts) i := by
  obtain ⟨t', ht', hi⟩ := h
  obtain rfl := List.mem_singleton.mp ht'
  exact ⟨t', List.mem_cons_self, hi⟩

theorem Prepares.rest {i : Instance} (h : r.Prepares ps now ts i) :
    r.Prepares ps now (t :: ts) i := by
  obtain ⟨t', ht', hi⟩ := h
  exact ⟨t', List.mem_cons_of_mem _ ht', hi⟩

theorem isDry_of_settings
    (h : r.bridge.settings.dryRun = true ∨ ∀ t ∈ ts, t.run.dryRun = true) :
    ∀ t ∈ ts, r.IsDry t := by
  intro t ht
  rw [IsDry, AdapterSettings.effectiveFor, Bool.or_eq_true]
  exact h.imp_right fun hall => hall t ht

theorem isDry_of_prepared {queue : String} {is : List Instance} (ht : r.IsDry t)
    (h : r.prepared t ps now = .ok (queue, is)) : ∀ i ∈ is, i.IsDry r.bridge.settings := by
  intro i hi
  rw [Instance.IsDry, (new_of_prepared h hi).1]
  exact ht

/-- The instances that come out of preparing ask for a dry run, and find files and clock as they
were. -/
theorem prepared_dry {is : List Instance} {s' : Site} (ht : r.IsDry t)
    (h : r.prepare t ps s = (.ok is, s')) : (∃ queue, r.prepared t ps s.clock = .ok (queue, is)) ∧
    (∀ i ∈ is, i.IsDry r.bridge.settings) ∧
      s'.files = s.files ∧ s'.clock = s.clock := by
  obtain ⟨queue, hprepared⟩ := prepare_ok_iff.mp (congrArg Prod.fst h)
  exact ⟨⟨queue, hprepared⟩, isDry_of_prepared ht hprepared, site_of_prepare h⟩

theorem settles_of_isDry (ht : r.IsDry t) : r.Settles ps t := by
  intro s is h i hi st s'
  obtain ⟨queue, hprepared⟩ := prepare_ok_iff.mp h
  exact Drive.Rehearses.start.moves_end (isDry_of_prepared ht hprepared i hi)
    (Nat.le_trans (Nat.le_add_left 3 _) (Nat.le_add_left _ 0)) st rfl

/-! ## One template -/

namespace TemplateRuns

/-- A template goes the same way with any adapter, which is left in its state. -/
theorem withAdapter (h : r.TemplateRuns t ps st s es o) (hmax : 0 < r.maxParallel) (ht : r.IsDry t)
    (a : Adapter τ) (z : τ) : (r.withAdapter a).TemplateRuns t ps z s es (o.1, z, o.2.2) ∧
    o.2.1 = st := by
  cases h with
  | unprepared hp => exact ⟨.unprepared hp, rfl⟩
  | finished hp hrun hf =>
    obtain ⟨-, hdry, -, -⟩ := prepared_dry ht hp
    obtain ⟨hsame, hstate⟩ := hrun.withAdapter hmax hdry a z
    -- preparing does not look at the adapter
    have hp' : (r.withAdapter a).prepare t ps s = _ := hp
    exact ⟨.finished hp' hsame hf, hstate⟩

theorem clock (h : r.TemplateRuns t ps st s es o) (hmax : 0 < r.maxParallel) (ht : r.IsDry t) :
    o.2.2.clock = s.clock := by
  cases h with
  | unprepared hp => exact (site_of_prepare hp).2
  | finished hp hrun hf =>
    obtain ⟨-, hdry, -, hclock⟩ := prepared_dry ht hp
    exact (hrun.rehearsal hmax hdry).clock.trans hclock

theorem reports (h : r.TemplateRuns t ps st s es o) (hmax : 0 < r.maxParallel) (ht : r.IsDry t)
    {summary : Summary} (hr : o.1 = .ok summary) : r.Rehearsed ps s.clock t summary.reports := by
  cases h with
  | unprepared hp => cases hr
  | finished hp hrun hf =>
    obtain ⟨⟨queue, hprepared⟩, hdry, -, hclock⟩ := prepared_dry ht hp
    obtain ⟨hcounts, hbooks⟩ := hrun.ledger hmax
    have hreports := (hrun.rehearsal hmax hdry).reports hcounts hbooks hf hr
    rw [hclock] at hreports
    exact ⟨queue, _, hprepared, hreports⟩

theorem confined (h : r.TemplateRuns t ps st s es o) (hmax : 0 < r.maxParallel) (ht : r.IsDry t)
    (hg : s.files.Grounded) : Confined (r.Prepares ps s.clock [t]) s.files o.2.2.files := by
  cases h with
  | unprepared hp =>
    rw [(site_of_prepare hp).1]
    exact .refl hg
  | finished hp hrun hf =>
    obtain ⟨⟨queue, hprepared⟩, hdry, hfiles, -⟩ := prepared_dry ht hp
    have hconfined := hrun.confined hmax hdry (hfiles.symm ▸ hg)
    rw [hfiles] at hconfined
    exact hconfined.mono fun i hi => ⟨t, List.mem_cons_self, queue, _, hprepared, hi⟩

end TemplateRuns

/-- Reports of a dry run show it. -/
theorem Rehearsed.isDry {reports : List Report} (h : r.Rehearsed ps now t reports) :
    ∀ report ∈ reports, report.IsDry := by
  obtain ⟨queue, is, hprepared, hperm⟩ := h
  intro report hm
  obtain ⟨i, hi, rfl⟩ := List.mem_map.mp (hperm.mem_iff.mp hm)
  obtain ⟨hcode, hstate, hresult, hrestarts⟩ := i.dryReport_shows now
  exact ⟨hcode, hstate, hresult, hrestarts.trans (new_of_prepared hprepared hi).2⟩

/-- No instance of a dry run asks for workers to stop. -/
theorem Rehearsed.stopRequested {summary : Summary} (h : r.Rehearsed ps now t summary.reports) :
    summary.stopRequested = false := by
  rw [Summary.stopRequested, List.any_eq_false]
  intro report hm
  rw [(h.isDry report hm).1]
  decide

theorem isDry_of_rehearsed {blocks : List (List Report)}
    (h : List.Forall₂ (r.Rehearsed ps now) ts blocks) :
    ∀ report ∈ blocks.flatten, report.IsDry := by
  induction h with
  | nil => nofun
  | cons ht _ ih =>
    intro report hm
    rcases List.mem_append.mp hm with hm | hm
    · exact ht.isDry report hm
    · exact ih report hm

/-! ## One template after the other -/

namespace Runs

theorem withAdapter (h : r.Runs ps ts done st s ess o) (hmax : 0 < r.maxParallel)
    (hts : ∀ t ∈ ts, r.IsDry t) (a : Adapter τ) (z : τ) :
    (r.withAdapter a).Runs ps ts done z s ess (o.1, z, o.2.2) ∧ o.2.1 = st := by
  induction h with
  | nil => exact ⟨.nil, rfl⟩
  | failed hone =>
    obtain ⟨hsame, hstate⟩ := hone.withAdapter hmax (hts _ List.mem_cons_self) a z
    exact ⟨.failed hsame, hstate⟩
  | stopped hone hstop =>
    obtain ⟨hsame, hstate⟩ := hone.withAdapter hmax (hts _ List.mem_cons_self) a z
    exact ⟨.stopped hsame hstop, hstate⟩
  | next hone hgo hmore ih =>
    obtain ⟨hsame, hstate⟩ := hone.withAdapter hmax (hts _ List.mem_cons_self) a z
    obtain ⟨hsame', hstate'⟩ := ih fun t ht => hts t (List.mem_cons_of_mem _ ht)
    exact ⟨.next hsame hgo hsame', hstate'.trans hstate⟩

/-- Without an error there are reports of each template in order, and none is left out. -/
theorem reports (h : r.Runs ps ts done st s ess o) (hmax : 0 < r.maxParallel)
    (hts : ∀ t ∈ ts, r.IsDry t) (hs : s.clock = now) {summary : Summary} (hr : o.1 = .ok summary) :
    ∃ blocks, summary.reports = done.reports ++ blocks.flatten ∧
      List.Forall₂ (r.Rehearsed ps now) ts blocks := by
  induction h with
  | nil =>
    obtain rfl := Except.ok.inj hr
    exact ⟨[], (List.append_nil _).symm, .nil⟩
  | failed hone => cases hr
  | stopped hone hstop =>
    -- whoever asks for a stop has not reported a dry run
    have hrehearsed := hone.reports hmax (hts _ List.mem_cons_self) rfl
    rw [hrehearsed.stopRequested] at hstop
    cases hstop
  | next hone hgo hmore ih =>
    have ht := hts _ List.mem_cons_self
    have hrehearsed := hone.reports hmax ht rfl
    obtain ⟨blocks, hreports, hblocks⟩ :=
      ih (fun t ht => hts t (List.mem_cons_of_mem _ ht)) ((hone.clock hmax ht).trans hs) hr
    refine ⟨_ :: blocks, ?_, .cons (hs ▸ hrehearsed) hblocks⟩
    rw [hreports, List.flatten_cons, ← List.append_assoc]
    rfl

theorem confined (h : r.Runs ps ts done st s ess o) (hmax : 0 < r.maxParallel)
    (hts : ∀ t ∈ ts, r.IsDry t) (hs : s.clock = now) (hg : s.files.Grounded) :
    Confined (r.Prepares ps now ts) s.files o.2.2.files := by
  induction h with
  | nil => exact .refl hg
  | failed hone =>
    subst hs
    exact (hone.confined hmax (hts _ List.mem_cons_self) hg).mono fun i => .first
  | stopped hone hstop =>
    subst hs
    exact (hone.confined hmax (hts _ List.mem_cons_self) hg).mono fun i => .first
  | next hone hgo hmore ih =>
    subst hs
    have ht := hts _ List.mem_cons_self
    have hfirst := hone.confined hmax ht hg
    have hrest := ih (fun t ht => hts t (List.mem_cons_of_mem _ ht))
      (hone.clock hmax ht) hfirst.grounded
    exact (hfirst.mono fun i => .first).trans (hrest.mono fun i => .rest)

end Runs

/-- Templates for which a dry run is asked, by the settings of the study or by those of each
template. The runs of their instances are bounded and come to their ends. However they go, the
adapter is not called: with any other one, in any state, the same turns lead to the same events, the
same result and the same site. A result that is no error has the reports of dry runs, one of each
instance, in the order of the templates. Where entries lie in directories, what is written are
status files and scripts of the instances, and the draft of a status file if a directory is in the
place of that file. -/
theorem dry_runs_alike (ts : List Template) (ps : ParameterSet) (hmax : 0 < r.maxParallel)
    (hdry : r.bridge.settings.dryRun = true ∨ ∀ t ∈ ts, t.run.dryRun = true) (st : σ) (s : Site) :
    (∀ t ∈ ts, ∀ now queue is, r.prepared t ps now = .ok (queue, is) → ∀ s es p,
      Pool.Run r (Pool.start is st s) es p →
        es.length ≤ 7 * is.length + 2 ∧ (p.control ≠ .finished → ∃ e q, Pool.Step r p e q)) ∧
    (∃ ess, r.Runs ps ts {} st s ess (r.runAll ts ps st s)) ∧
    ∀ ess o, r.Runs ps ts {} st s ess o →
      r.logged.Runs ps ts {} (st, []) s ess (o.1, (st, []), o.2.2) ∧
      (∀ (τ : Type) (a : Adapter τ) (z : τ),
        (r.withAdapter a).Runs ps ts {} z s ess (o.1, z, o.2.2) ∧
        ∀ ess' o', (r.withAdapter a).Runs ps ts {} z s ess' o' →
          ess'.map (·.map Event.turn) = ess.map (·.map Event.turn) → ess' = ess ∧
            o' = (o.1, z, o.2.2)) ∧
      (∀ summary, o.1 = .ok summary →
        (∃ blocks, summary.reports = blocks.flatten ∧
          List.Forall₂ (r.Rehearsed ps s.clock) ts blocks) ∧
          ∀ report ∈ summary.reports, report.IsDry) ∧
      (s.files.Grounded →
        (∀ k, Touched (r.Prepares ps s.clock ts) s.files o.2.2.files k) ∧
          ∀ dir n c x, IsOutputName n → o.2.2.files.get? (dir ++ [n]) = some (.file c x) →
            s.files.get? (dir ++ [n]) = some (.file c x)) := by
  have hts := isDry_of_settings hdry
  refine ⟨fun t ht now queue is hprepared s es p hrun => ?_, ?_, fun ess o h => ⟨?_, ?_, ?_, ?_⟩⟩
  · exact ⟨hrun.length_le_of_dry hmax (isDry_of_prepared (hts t ht) hprepared),
      (hrun.ledger hmax).1.progress⟩
  · exact exists_runs_of_runFrom hmax (fun t ht => settles_of_isDry (hts t ht)) {} st s
  · exact (h.withAdapter hmax hts r.bridge.adapter.logged (st, [])).1
  · intro τ a z
    have hsame := (h.withAdapter hmax hts a z).1
    exact ⟨hsame, fun ess' o' h' hturns => hsame.unique h' hmax hturns⟩
  · intro summary hr
    obtain ⟨blocks, hreports, hblocks⟩ := h.reports hmax hts rfl hr
    have hflat : summary.reports = blocks.flatten := hreports
    exact ⟨⟨blocks, hflat, hblocks⟩, hflat ▸ isDry_of_rehearsed hblocks⟩
  · intro hg
    have hconfined := h.confined hmax hts rfl hg
    exact ⟨hconfined.touched, fun dir n c x hn hf => (hconfined.touched _).output hn hf⟩

/-- A runner whose settings ask for a dry run, with an adapter that asks for a stop each time. -/
def rehearsing : Runner (List Script) where
  bridge := ⟨{ shell := "/bin/sh", dryRun := true }, .replay fun _ =>
    .submitted ⟨.stopWorkers, "1"⟩⟩
  queues := {}
  root := ⟨"demo"⟩
  worker := "local"

theorem dry_runs_alike_rehearsing :
    0 < rehearsing.maxParallel ∧ rehearsing.bridge.settings.dryRun = true ∧
    ({} : Site).files.Grounded ∧
      ∃ ess summary s,
        rehearsing.Runs [] [Template.new "prepare" "run", Template.new "sim" "run"] {} [] {} ess
          (.ok summary, [], s) ∧
        (rehearsing.withAdapter (.replay fun _ => .crashed)).Runs []
          [Template.new "prepare" "run", Template.new "sim" "run"] {} []
          {} ess (.ok summary, [], s) ∧
        rehearsing.logged.Runs [] [Template.new "prepare" "run", Template.new "sim" "run"] {}
        ([], []) {} ess
          (.ok summary, ([], []), s) ∧
        summary.reports.map Report.name = ["prepare", "sim"] ∧
        (∀ report ∈ summary.reports, report.IsDry) ∧
        (s.files.readStatus ⟨"demo/sim"⟩).toOption.map StatusRecord.state = some .dryRun ∧
        ∀ dir n c x, IsOutputName n → s.files.get? (dir ++ [n]) ≠ some (.file c x) := by
  generalize hsteps : [Template.new "prepare" "run", Template.new "sim" "run"] = steps
  obtain ⟨-, ⟨ess, hruns⟩, hall⟩ :=
    dry_runs_alike (r := rehearsing) steps [] (by decide) (.inl rfl) [] {}
  have hends : (fun o : Outcome (List Script) =>
    (o.1.toOption.map fun x => x.reports.map Report.name,
      (o.2.2.files.readStatus ⟨"demo/sim"⟩).toOption.map StatusRecord.state))
        (rehearsing.runAll steps [] [] {}) = (some ["prepare", "sim"], some .dryRun) := by
    subst hsteps
    decide +kernel
  obtain ⟨hlogged, hother, hreports, hfiles⟩ := hall ess _ hruns
  have hstate := congrArg (fun o => o.2.1)
    ((hother _ rehearsing.bridge.adapter []).2 ess _ hruns rfl).2
  generalize rehearsing.runAll steps [] [] {} = o at *
  obtain ⟨result, st, s⟩ := o
  obtain rfl : st = [] := hstate
  obtain ⟨hnames, hstatus⟩ := Prod.mk.inj hends
  cases result with
  | error e => cases hnames
  | ok summary =>
    refine ⟨by decide, rfl, grounded_empty, ess, summary, s, hruns, (hother _ _ []).1, hlogged,
      Option.some.inj hnames, (hreports summary rfl).2, hstatus, fun dir n c x hn hf => ?_⟩
    have hbefore := (hfiles grounded_empty).2 dir n c x hn hf
    unfold get? at hbefore
    split at hbefore <;> cases hbefore

/-- A site where a directory is in the place of the status file of a step. -/
def blockedSite : Site where
  files := (({} : FileTree).createDirs ⟨"demo/sim/STATUS"⟩).2

/-- Of a step whose status file is blocked, a dry run leaves the draft of that file, which is
neither the status file nor the script of an instance. -/
theorem dry_run_leaves_draft :
    let run := rehearsing.runAll [Template.new "sim" "run"] [] [] blockedSite
    rehearsing.bridge.settings.dryRun = true ∧
      run.1 = .error (.status (.write ⟨"demo/sim/STATUS"⟩ .isDirectory)) ∧
      blockedSite.files.get? ["demo", "sim", ".STATUS.tmp"] = none ∧
      (∃ c x, run.2.2.files.get? ["demo", "sim", ".STATUS.tmp"] = some (.file c x)) ∧
      ∀ i, rehearsing.Prepares [] 0 [Template.new "sim" "run"] i →
        i.workspace.statusPlace ≠ ["demo", "sim", ".STATUS.tmp"] ∧
          i.script.path.location ≠ ["demo", "sim", ".STATUS.tmp"] := by
  have hleft : ∃ c x, (rehearsing.runAll [Template.new "sim" "run"] [] []
    blockedSite).2.2.files.get?
      ["demo", "sim", ".STATUS.tmp"] = some (.file c x) := ⟨_, _, rfl⟩
  refine ⟨rfl, by rfl, by rfl, hleft, ?_⟩
  rintro i ⟨t, ht, queue, is, hprepared, hi⟩
  obtain rfl := List.mem_singleton.mp ht
  have hone : rehearsing.prepared (Template.new "sim" "run") [] 0 = .ok (_, [_]) := rfl
  cases hone.symm.trans hprepared
  obtain rfl := List.mem_singleton.mp hi
  exact ⟨by decide +kernel, by decide +kernel⟩

end Runner

end StudyFlow
