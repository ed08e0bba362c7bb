import StudyFlow.Proofs.Drive.Course
import StudyFlow.Proofs.FileTree.Views

/-!
# Drives in different surroundings

The drive of an instance makes the same moves wherever its workspace looks the same and the adapter
answers the same, up to the cause of a failure. Its surroundings differ by what others did:
directories above the workspace, scripts for other instances, notes in the journal. `Near` says that
the difference is no more than that, and what a move does in both surroundings keeps it so.
-/

namespace StudyFlow

open FileTree

/-! ## Writing to a workspace -/

/-- Results that are the same up to the error. -/
theorem toOption_cases {ε ε' α : Type} {x : Except ε α} {y : Except ε' α}
    (h : x.toOption = y.toOption) : (∃ e e', x = .error e ∧ y = .error e') ∨ ∃ v, x = .ok v ∧
    y = .ok v := by
  cases x with
  | error e =>
    cases y with
    | error e' => exact .inl ⟨e, e', rfl, rfl⟩
    | ok v => cases h
  | ok v =>
    cases y with
    | error e' => cases h
    | ok v' => exact .inr ⟨v, rfl, by rw [Option.some.inj h]⟩

/-- What is done at two sites on behalf of one workspace. -/
structure Site.Matched (w : Location) (s z s' z' : Site) : Prop where
  files : Joint w s.files z.files s'.files z'.files
  clock : s'.clock = s.clock
  clock' : z'.clock = z.clock

namespace Site.Matched

variable {w : Location} {s z s' z' s'' z'' : Site}

theorem refl (h : Sees w s.files z.files) : Matched w s z s z := ⟨.refl h, rfl, rfl⟩

theorem trans (h : Matched w s z s' z') (h' : Matched w s' z' s'' z'') : Matched w s z s'' z'' :=
  ⟨h.files.trans h'.files, h'.clock.trans h.clock, h'.clock'.trans h.clock'⟩

/-- What is noted in a journal makes no difference. -/
theorem congr {s₁ z₁ s₂ z₂ : Site} (h : Matched w s₁ z₁ s₂ z₂)
    (hs : s₁.files = s.files ∧ s₁.clock = s.clock) (hz : z₁.files = z.files ∧ z₁.clock = z.clock)
    (hs' : s'.files = s₂.files ∧ s'.clock = s₂.clock)
    (hz' : z'.files = z₂.files ∧ z'.clock = z₂.clock) : Matched w s z s' z' := by
  refine ⟨?_, by rw [hs'.2, h.clock, hs.2], by rw [hz'.2, h.clock', hz.2]⟩
  rw [← hs.1, ← hz.1, hs'.1, hz'.1]
  exact h.files

end Site.Matched

theorem isStepName_statusFileName : IsStepName statusFileName :=
  ⟨isPlainName_statusFileName, by decide, by decide⟩

theorem isStepName_statusDraftName : IsStepName statusDraftName :=
  ⟨isPlainName_statusDraftName, by decide, by decide⟩

variable {t u : FileTree} {ws : Path} {i j : Instance} {s z : Site}

theorem FileTree.replaceStatus_abreast (hu : ".." ∉ ws.names) (h : Sees ws.location t u)
    (ht : t.Reached ws.location) (hu' : u.Reached ws.location) (r : StatusRecord) :
    Abreast ws.location t u (t.replaceStatus ws r) (u.replaceStatus ws r) := by
  have hwrite : Local ws.location fun t => t.writeText (ws.child statusDraftName)
    (r.line ++ "\n") :=
    fun _ _ h ht hs => together_write isStepName_statusDraftName hu h ht hs _
  have hrename : Local ws.location fun t => t.rename (ws.child statusDraftName) (statusPath ws) :=
    fun _ _ h ht hs => together_rename isStepName_statusDraftName
      isStepName_statusFileName hu h ht hs
  exact hwrite.inTurn hrename h ht hu'

/-- The name of the script of an instance leads from the workspace to an entry of it. -/
theorem Instance.isStepName_script (h : '/' ∉ i.templateName.toList) :
    IsStepName (i.templateName ++ ".sh") := by
  have hlast : ∀ n : String, n.toList.getLast? ≠ some 'h' → i.templateName ++ ".sh" ≠ n := by
    rintro n hn rfl
    exact hn (by simp)
  exact ⟨⟨hlast "" (by decide), by simpa using h⟩, hlast "." (by decide), hlast ".." (by decide)⟩

theorem Instance.write_abreast (hi : '/' ∉ i.templateName.toList) (hw : i.workspace = ws)
    (hu : ".." ∉ ws.names) (h : Sees ws.location t u) (ht : t.Reached ws.location)
    (hu' : u.Reached ws.location) (shell : String) :
    Abreast ws.location t u (i.script.write shell t) (i.script.write shell u) := by
  subst hw
  have hn := i.isStepName_script hi
  have hwrite : Local i.workspace.location fun t =>
    t.writeText i.script.path (i.script.text shell) :=
    fun _ _ h ht hs => together_write hn hu h ht hs _
  have hmark : Local i.workspace.location fun t => t.makeExecutable i.script.path :=
    fun _ _ h ht hs => together_makeExecutable hn hu h ht hs
  exact hwrite.inTurn hmark h ht hu'

/-- An instance is saved at both sites or at neither one. -/
theorem Instance.persist_matched (hw : i.workspace = ws) (hu : ".." ∉ ws.names)
    (hc : s.clock = z.clock) (h : Sees ws.location s.files z.files) :
    (i.persist s).1.toOption = (i.persist z).1.toOption ∧
      Site.Matched ws.location s z (i.persist s).2 (i.persist z).2 ∧
      ((i.persist s).1 = .ok () →
        (i.persist s).2.files.Reached ws.location ∧ (i.persist z).2.files.Reached ws.location) := by
  subst hw
  obtain ⟨hiff, hj⟩ := createDirs_joint hu h
  have hreach := reached_createDirs (t := s.files) hu
  have hreach' := reached_createDirs (t := z.files) hu
  unfold persist
  generalize s.files.createDirs i.workspace = made at hiff hj hreach
  generalize z.files.createDirs i.workspace = made' at hiff hj hreach'
  obtain ⟨r, t⟩ := made
  obtain ⟨r', t'⟩ := made'
  dsimp only at hiff hj hreach hreach'
  cases r with
  | error f =>
    cases r' with
    | ok _ => exact nomatch hiff.mpr rfl
    | error g => exact ⟨rfl, ⟨hj, rfl, rfl⟩, nofun⟩
  | ok _ =>
    obtain rfl := hiff.mp rfl
    have ha := replaceStatus_abreast hu hj.sees (hreach rfl) (hreach' rfl) (i.status z.clock)
    rw [hc]
    unfold writeStatus
    dsimp only
    generalize t.replaceStatus i.workspace (i.status z.clock) = wrote at ha
    generalize t'.replaceStatus i.workspace (i.status z.clock) = wrote' at ha
    obtain ⟨r, v⟩ := wrote
    obtain ⟨r', v'⟩ := wrote'
    have hfiles := hj.trans ha.joint
    rcases toOption_cases ha.result with ⟨f, g, rfl, rfl⟩ | ⟨_, rfl, rfl⟩
    · exact ⟨rfl, ⟨hfiles, hc.symm, rfl⟩, nofun⟩
    · exact ⟨rfl, ⟨hfiles, hc.symm, rfl⟩, fun _ => ⟨ha.reached, ha.reached'⟩⟩

/-- What an instance needs for a submission is made at both sites or at neither one. -/
theorem Bridge.prepare_matched {σ : Type} (b : Bridge σ) (hi : '/' ∉ i.templateName.toList)
    (hw : i.workspace = ws) (hu : ".." ∉ ws.names) (hc : s.clock = z.clock)
    (h : Sees ws.location s.files z.files) :
    (b.prepare i s).1.toOption = (b.prepare i z).1.toOption ∧
      Site.Matched ws.location s z (b.prepare i s).2 (b.prepare i z).2 := by
  obtain ⟨hresult, hm, hreach⟩ := Instance.persist_matched hw hu hc h
  unfold prepare
  generalize i.persist s = saved at hresult hm hreach
  generalize i.persist z = saved' at hresult hm hreach
  obtain ⟨r, s₁⟩ := saved
  obtain ⟨r', z₁⟩ := saved'
  dsimp only at hresult hm hreach
  rcases toOption_cases hresult with ⟨e, e', rfl, rfl⟩ | ⟨_, rfl, rfl⟩
  · exact ⟨rfl, hm⟩
  · obtain ⟨hr, hr'⟩ := hreach rfl
    have ha := Instance.write_abreast hi hw hu hm.files.sees hr hr'
      (b.settings.effectiveFor i.run).shell
    dsimp only
    generalize i.script.write (b.settings.effectiveFor i.run).shell s₁.files = wrote at ha
    generalize i.script.write (b.settings.effectiveFor i.run).shell z₁.files = wrote' at ha
    have hboth : Site.Matched ws.location s z { s₁ with files := wrote.2 }
      { z₁ with files := wrote'.2 } :=
      hm.trans ⟨ha.joint, rfl, rfl⟩
    obtain ⟨r, v⟩ := wrote
    obtain ⟨r', v'⟩ := wrote'
    rcases toOption_cases ha.result with ⟨f, g, rfl, rfl⟩ | ⟨_, rfl, rfl⟩
    · exact ⟨rfl, hboth⟩
    · exact ⟨rfl, hboth⟩

/-! ## Answers by name -/

variable {σ : Type} {a : Adapter σ} {b : Bridge σ} {st₀ : σ} {answers : String → Nat → Reply}

/-- The scripts that an adapter took one after the other, and the state that it came to. -/
inductive Adapter.Took (a : Adapter σ) (st₀ : σ) : List Script → σ → Prop
  | start : Took a st₀ [] st₀
  | submit {scripts : List Script} {st : σ} (script : Script)
    (settings : EffectiveSettings) (s : Site) :
    Took a st₀ scripts st → Took a st₀ (scripts ++ [script]) (a.submit script settings st s).2.1

/-- The scripts of the instance with the name. -/
def scriptsOf (name : String) (scripts : List Script) : List Script :=
  scripts.filter fun c => c.step == name

/-- What the adapter answers to a script is told by the name of the instance and how many scripts
the adapter took for it before. It leaves files and clock alone. -/
structure Adapter.AnswersByName (a : Adapter σ) (st₀ : σ)
    (answers : String → Nat → Reply) : Prop where
  reply : ∀ scripts st script settings s, a.Took st₀ scripts st →
    (a.submit script settings st s).1 = answers script.step (scriptsOf script.step scripts).length
  files : ∀ scripts st script settings s, a.Took st₀ scripts st →
    (a.submit script settings st s).2.2.files = s.files
  clock : ∀ scripts st script settings s, a.Took st₀ scripts st →
    (a.submit script settings st s).2.2.clock = s.clock

def Adapter.byName (answers : String → Nat → Reply) : Adapter (List Script) where
  submit script _ log s := (answers script.step (scriptsOf script.step log).length,
    log ++ [script], s)

theorem Adapter.Took.eq_of_byName {scripts log : List Script}
    (h : (Adapter.byName answers).Took [] scripts log) : log = scripts := by
  induction h with
  | start => rfl
  | submit script settings s _ ih =>
    rw [ih]
    rfl

theorem Adapter.answersByName_byName (answers : String → Nat → Reply) :
    (Adapter.byName answers).AnswersByName [] answers where
  reply := fun _ _ _ _ _ h => by
    rw [h.eq_of_byName]
    rfl
  files := fun _ _ _ _ _ _ => rfl
  clock := fun _ _ _ _ _ _ => rfl

def handed (x : (σ × List Call) × Site) : List Script := x.1.2.map Call.script

/-- The instance cannot tell the first surroundings from the second. -/
structure Near (a : Adapter σ) (st₀ : σ) (i : Instance) (x y : (σ × List Call) × Site) : Prop where
  sees : Sees i.workspace.location x.2.files y.2.files
  clock : x.2.clock = y.2.clock
  scripts : scriptsOf i.name (handed x) = scriptsOf i.name (handed y)
  took : a.Took st₀ (handed x) x.1.1
  took' : a.Took st₀ (handed y) y.1.1

/-- What is done on behalf of the instance in both surroundings. -/
structure Advanced (a : Adapter σ) (st₀ : σ) (i : Instance)
    (x y x' y' : (σ × List Call) × Site) : Prop where
  near : Near a st₀ i x' y'
  sites : Site.Matched i.workspace.location x.2 y.2 x'.2 y'.2
  others : ∀ name, name ≠ i.name → scriptsOf name (handed x') = scriptsOf name (handed x)

variable {x y x' y' : (σ × List Call) × Site}

/-- The path of the workspace nowhere leads up, and the script lies in the workspace itself. -/
structure Instance.IsPlain (i : Instance) : Prop where
  no_up : ".." ∉ i.workspace.names
  no_slash : '/' ∉ i.templateName.toList

theorem Near.advanced (h : Near a st₀ i x y) {s z : Site}
    (hm : Site.Matched i.workspace.location x.2 y.2 s z) : Advanced a st₀ i x y (x.1, s) (y.1, z) :=
  ⟨⟨hm.files.sees, by rw [hm.clock, hm.clock', h.clock], h.scripts, h.took, h.took'⟩, hm,
    fun _ _ => rfl⟩

theorem Advanced.trans {x'' y'' : (σ × List Call) × Site} (h : Advanced a st₀ i x y x' y')
    (h' : Advanced a st₀ i x' y' x'' y'') : Advanced a st₀ i x y x'' y'' :=
  ⟨h'.near, h.sites.trans h'.sites, fun name hn => (h'.others name hn).trans (h.others name hn)⟩

theorem Near.refl (hs : a.Took st₀ (handed x) x.1.1) : Near a st₀ i x x :=
  ⟨.refl _ _, rfl, rfl, hs, hs⟩

theorem scriptsOf_concat (name : String) (scripts : List Script) (c : Script) :
    scriptsOf name (scripts ++ [c]) = scriptsOf name scripts ++ scriptsOf name [c] :=
  List.filter_append scripts [c]

/-- The adapter answers the instance the same in both surroundings. -/
theorem Near.logged_submit (h : Near a st₀ i x y) (ha : a.AnswersByName st₀ answers)
    {script : Script} (hs : script.step = i.name) (settings : EffectiveSettings) :
    (a.logged.submit script settings x.1 x.2).1 = (a.logged.submit script settings y.1 y.2).1 ∧
      Advanced a st₀ i x y (a.logged.submit script settings x.1 x.2).2
        (a.logged.submit script settings y.1 y.2).2 := by
  have hreply := ha.reply _ _ script settings x.2 h.took
  have hreply' := ha.reply _ _ script settings y.2 h.took'
  have hfiles := ha.files _ _ script settings x.2 h.took
  have hfiles' := ha.files _ _ script settings y.2 h.took'
  have hclock := ha.clock _ _ script settings x.2 h.took
  have hclock' := ha.clock _ _ script settings y.2 h.took'
  have hm : Site.Matched i.workspace.location x.2 y.2 (a.submit script settings x.1.1 x.2).2.2
      (a.submit script settings y.1.1 y.2).2.2 :=
    (Site.Matched.refl h.sees).congr ⟨rfl, rfl⟩ ⟨rfl, rfl⟩ ⟨hfiles, hclock⟩ ⟨hfiles', hclock'⟩
  have htook := h.took.submit script settings x.2
  have htook' := h.took'.submit script settings y.2
  have hhanded : handed (a.logged.submit script settings x.1 x.2).2 = handed x ++ [script] :=
    List.map_append
  have hhanded' : handed (a.logged.submit script settings y.1 y.2).2 = handed y ++ [script] :=
    List.map_append
  refine ⟨?_, ⟨hm.files.sees, ?_, ?_, ?_, ?_⟩, hm, fun name hn => ?_⟩
  · exact hreply.trans (by rw [hs, h.scripts, ← hs, ← hreply'] : _ =
      (a.submit script settings y.1.1 y.2).1)
  · exact hclock.trans (h.clock.trans hclock'.symm)
  · rw [hhanded, hhanded', scriptsOf_concat, scriptsOf_concat, h.scripts]
  · rw [hhanded]
    exact htook
  · rw [hhanded']
    exact htook'
  · have hne : (script.step == name) = false :=
      beq_eq_false_iff_ne.mpr fun he => hn (he.symm.trans hs)
    rw [hhanded, scriptsOf_concat]
    simp [scriptsOf, hne]

/-! ## The moves of a drive -/

/-- The ends of a submission that differ at most in the cause of a failure. -/
inductive SubmitResult.Like : SubmitResult → SubmitResult → Prop
  | same (r : SubmitResult) : Like r r
  | failed (e e' : ExecutionError) : Like (.failed e) (.failed e')

/-- Phases that differ at most in the cause of a failure. -/
inductive Phase.Like : Phase → Phase → Prop
  | same (phase : Phase) : Like phase phase
  | abandon (e e' : ExecutionError) : Like (.abandon e) (.abandon e')
  | failed (e e' : ExecutionError) : Like (.done (.failed e)) (.done (.failed e'))

/-- Drives that differ at most in the cause of a failure. -/
structure Drive.Like (d d' : Drive) : Prop where
  item : d.item = d'.item
  phase : d.phase.Like d'.phase

/-- Messages that differ at most in the cause of a failure. -/
structure Message.Like (m m' : Message) : Prop where
  name : m.name = m'.name
  result : m.result.toOption = m'.result.toOption

theorem Drive.written_like {r r' : Except StatusError Unit} (h : r.toOption = r'.toOption)
    (next : Phase) : (Drive.written r next).Like (Drive.written r' next) := by
  rcases toOption_cases h with ⟨e, e', rfl, rfl⟩ | ⟨_, rfl, rfl⟩
  · exact .failed _ _
  · exact .same next

theorem Drive.answered_like {r r' : SubmitResult} (h : r.Like r') (i : Instance) :
    (Drive.answered i r).Like (Drive.answered i r') := by
  cases h with
  | same => exact ⟨rfl, .same _⟩
  | failed e e' => exact ⟨rfl, .abandon e e'⟩

/-- A drive has come to its end when the other one has. -/
theorem Drive.Like.ending?_isSome {d d' : Drive} (h : d.Like d') :
    d.ending?.isSome = d'.ending?.isSome := by
  obtain ⟨i, phase⟩ := d
  obtain ⟨i', phase'⟩ := d'
  cases h.phase with
  | same => rfl
  | abandon => rfl
  | failed => rfl

/-- With workspace and script made, the submission ends the same in both surroundings. -/
theorem Near.submit_prepared (h : Near b.adapter st₀ i x y)
    (ha : b.adapter.AnswersByName st₀ answers) (hj : i.Resumes j) {script : Script}
    (hp : b.logged.prepare j x.2 = (.ok script, s)) (hp' : b.logged.prepare j y.2 = (.ok script, z))
    (hm : Site.Matched i.workspace.location x.2 y.2 s z) :
    (b.logged.submit j x.1 x.2).1.Like (b.logged.submit j y.1 y.2).1 ∧
      Advanced b.adapter st₀ i x y (b.logged.submit j x.1 x.2).2 (b.logged.submit j y.1 y.2).2 := by
  have hnoted (text : String) :
      Site.Matched i.workspace.location x.2 y.2 (s.info text) (z.info text) :=
    hm.congr ⟨rfl, rfl⟩ ⟨rfl, rfl⟩ ⟨rfl, rfl⟩ ⟨rfl, rfl⟩
  cases hd : (b.logged.settings.effectiveFor j.run).dryRun with
  | true =>
    rw [Bridge.submit_of_dry hd hp, Bridge.submit_of_dry hd hp']
    exact ⟨.same _, h.advanced (hnoted _)⟩
  | false =>
    have hready := h.advanced (hnoted j.executionNotice)
    have hstep : script.step = i.name := by
      rw [(Bridge.prepare_eq_ok hp).1]
      exact hj.name
    obtain ⟨hreply, hafter⟩ := hready.near.logged_submit ha hstep
      (b.logged.settings.effectiveFor j.run)
    obtain ⟨reply, st, s₁, hs⟩ : ∃ reply st s₁, b.adapter.logged.submit script
      (b.logged.settings.effectiveFor j.run) x.1 (s.info j.executionNotice) = (reply, st, s₁) :=
      ⟨_, _, _, rfl⟩
    obtain ⟨reply', st', z₁, hs'⟩ : ∃ reply st z₁, b.adapter.logged.submit script
      (b.logged.settings.effectiveFor j.run) y.1 (z.info j.executionNotice) = (reply, st, z₁) :=
      ⟨_, _, _, rfl⟩
    rw [hs, hs'] at hreply hafter
    obtain rfl : reply = reply' := hreply
    rw [Bridge.submit_of_reply hd hp hs, Bridge.submit_of_reply hd hp' hs']
    exact ⟨.same _, hready.trans hafter⟩

/-- A submission ends the same in both surroundings. -/
theorem Near.submit (h : Near b.adapter st₀ i x y) (ha : b.adapter.AnswersByName st₀ answers)
    (hi : i.IsPlain) (hj : i.Resumes j) :
    (b.logged.submit j x.1 x.2).1.Like (b.logged.submit j y.1 y.2).1 ∧
      Advanced b.adapter st₀ i x y (b.logged.submit j x.1 x.2).2 (b.logged.submit j y.1 y.2).2 := by
  have hslash : '/' ∉ j.templateName.toList := (congrArg Instance.templateName hj :) ▸ hi.no_slash
  obtain ⟨hresult, hm⟩ := b.logged.prepare_matched hslash hj.workspace hi.no_up h.clock h.sees
  obtain ⟨r, s, hp⟩ : ∃ r s, b.logged.prepare j x.2 = (r, s) := ⟨_, _, rfl⟩
  obtain ⟨r', z, hp'⟩ : ∃ r z, b.logged.prepare j y.2 = (r, z) := ⟨_, _, rfl⟩
  rw [hp, hp'] at hresult hm
  rcases toOption_cases hresult with ⟨e, e', rfl, rfl⟩ | ⟨script, rfl, rfl⟩
  · rw [Bridge.submit_of_error hp, Bridge.submit_of_error hp']
    exact ⟨.failed e e', h.advanced hm⟩
  · exact h.submit_prepared ha hj hp hp' hm

/-- A write of the instance, in both surroundings. -/
theorem Near.persist (h : Near a st₀ i x y) (hi : i.IsPlain) (hj : i.Resumes j) {s₁ z₁ s₂ z₂ : Site}
    (hs : s₁.files = x.2.files ∧ s₁.clock = x.2.clock)
    (hz : z₁.files = y.2.files ∧ z₁.clock = y.2.clock)
    (hs' : s₂.files = (j.persist s₁).2.files ∧ s₂.clock = (j.persist s₁).2.clock)
    (hz' : z₂.files = (j.persist z₁).2.files ∧ z₂.clock = (j.persist z₁).2.clock) :
    (j.persist s₁).1.toOption = (j.persist z₁).1.toOption ∧ Advanced a st₀ i x y (x.1, s₂)
    (y.1, z₂) := by
  have hclock : s₁.clock = z₁.clock := by rw [hs.2, hz.2, h.clock]
  have hsees : Sees i.workspace.location s₁.files z₁.files := by
    rw [hs.1, hz.1]
    exact h.sees
  obtain ⟨hresult, hm, -⟩ := Instance.persist_matched hj.workspace hi.no_up hclock hsees
  exact ⟨hresult, h.advanced (hm.congr hs hz hs' hz')⟩

/-- A failure is recorded in both surroundings. -/
theorem Near.recordFailure (h : Near a st₀ i x y) (hi : i.IsPlain) (hj : i.Resumes j) {s₁ z₁ : Site}
    (hs : s₁.files = x.2.files ∧ s₁.clock = x.2.clock)
    (hz : z₁.files = y.2.files ∧ z₁.clock = y.2.clock) :
    (Drive.recordFailure j s₁).1 = (Drive.recordFailure j z₁).1 ∧
      Advanced a st₀ i x y (x.1, (Drive.recordFailure j s₁).2)
      (y.1, (Drive.recordFailure j z₁).2) := by
  obtain ⟨s₂, s₃, hf, hc, hf', hc', heq⟩ := Drive.recordFailure_eq j s₁
  obtain ⟨z₂, z₃, hg, hk, hg', hk', heq'⟩ := Drive.recordFailure_eq j z₁
  have hclock : z₁.clock = s₁.clock := by rw [hs.2, hz.2, h.clock]
  rw [hclock] at hg' hk' heq'
  obtain ⟨-, hadv⟩ := h.persist hi (hj.ended _ _ _) ⟨hf.trans hs.1, hc.trans hs.2⟩
    ⟨hg.trans hz.1, hk.trans hz.2⟩ ⟨hf', hc'⟩ ⟨hg', hk'⟩
  rw [heq, heq']
  exact ⟨rfl, hadv⟩

/-- The instance ends with a code in both surroundings. -/
theorem Near.step_end (h : Near a st₀ i x y) (hi : i.IsPlain) (hj : i.Resumes j) (b : Bridge σ)
    {phase : Phase} {code : ReturnCode} {hitLimit : Bool}
    (hp : phase = .close code ∧ hitLimit = false ∨ phase = .exhaust ∧ code = .softFail ∧
      hitLimit = true) :
    (Drive.step b.logged ⟨j, phase⟩ x.1 x.2).1.Like (Drive.step b.logged ⟨j, phase⟩ y.1 y.2).1 ∧
      Advanced a st₀ i x y (Drive.step b.logged ⟨j, phase⟩ x.1 x.2).2
        (Drive.step b.logged ⟨j, phase⟩ y.1 y.2).2 := by
  obtain ⟨s₁, hf, hc, hs⟩ := Drive.step_end b.logged j x.1 x.2 hp
  obtain ⟨z₁, hg, hk, hz⟩ := Drive.step_end b.logged j y.1 y.2 hp
  rw [← h.clock] at hz
  obtain ⟨hresult, hadv⟩ := h.persist hi (hj.ended (some code) hitLimit x.2.clock) ⟨hf, hc⟩ ⟨hg, hk⟩
    ⟨rfl, rfl⟩ ⟨rfl, rfl⟩
  rw [hs, hz]
  exact ⟨⟨rfl, Drive.written_like hresult _⟩, hadv⟩

/-- What a drive does next is the same in both surroundings. -/
theorem Near.step (h : Near b.adapter st₀ i x y) (ha : b.adapter.AnswersByName st₀ answers)
    (hi : i.IsPlain) {d d' : Drive} (hd : i.Resumes d.item) (hl : d.Like d') :
    (d.step b.logged x.1 x.2).1.Like (d'.step b.logged y.1 y.2).1 ∧
      Advanced b.adapter st₀ i x y (d.step b.logged x.1 x.2).2 (d'.step b.logged y.1 y.2).2 := by
  obtain ⟨j, phase⟩ := d
  obtain ⟨j', phase'⟩ := d'
  obtain ⟨hitem, hphase⟩ := hl
  obtain rfl : j = j' := hitem
  have habandon : ∀ e e', (Drive.step b.logged ⟨j, .abandon e⟩ x.1 x.2).1.Like
      (Drive.step b.logged ⟨j, .abandon e'⟩ y.1 y.2).1 ∧ Advanced b.adapter st₀ i x y
        (Drive.step b.logged ⟨j, .abandon e⟩ x.1 x.2).2
            (Drive.step b.logged ⟨j, .abandon e'⟩ y.1 y.2).2 := by
    intro e e'
    obtain ⟨hitem, hadv⟩ := h.recordFailure hi hd ⟨rfl, rfl⟩ ⟨rfl, rfl⟩
    exact ⟨⟨hitem, .failed e e'⟩, hadv⟩
  have hrest : Advanced b.adapter st₀ i x y x y := h.advanced (.refl h.sees)
  cases hphase with
  | abandon e e' => exact habandon e e'
  | failed e e' => exact ⟨⟨rfl, .failed e e'⟩, hrest⟩
  | same =>
    cases phase with
    | start =>
      obtain ⟨hresult, hadv⟩ := h.persist hi (hd.started x.2.clock) ⟨rfl, rfl⟩ ⟨rfl, rfl⟩
        ⟨rfl, rfl⟩ ⟨rfl, rfl⟩
      rw [Drive.step_start, Drive.step_start, ← h.clock]
      exact ⟨⟨rfl, Drive.written_like hresult _⟩, hadv⟩
    | submit =>
      obtain ⟨s₁, hf, hc, hs⟩ := Drive.step_submit b.logged j x.1 x.2
      obtain ⟨z₁, hg, hk, hz⟩ := Drive.step_submit b.logged j y.1 y.2
      obtain ⟨hresult, hadv⟩ := h.submit ha hi hd
      have hnoted := hadv.near.advanced
        ((Site.Matched.refl hadv.near.sees).congr ⟨rfl, rfl⟩ ⟨rfl, rfl⟩ ⟨hf, hc⟩ ⟨hg, hk⟩)
      rw [hs, hz]
      exact ⟨Drive.answered_like hresult j, hadv.trans hnoted⟩
    | count code =>
      obtain ⟨s₁, hf, hc, hs⟩ := Drive.step_count b.logged j code x.1 x.2
      obtain ⟨z₁, hg, hk, hz⟩ := Drive.step_count b.logged j code y.1 y.2
      obtain ⟨hresult, hadv⟩ := h.persist hi hd.recounted ⟨rfl, rfl⟩ ⟨rfl, rfl⟩ ⟨hf, hc⟩ ⟨hg, hk⟩
      rw [hs, hz]
      exact ⟨⟨rfl, Drive.written_like hresult _⟩, hadv⟩
    | exhaust => exact h.step_end hi hd b (.inr ⟨rfl, rfl, rfl⟩)
    | close code => exact h.step_end hi hd b (.inl ⟨rfl, rfl⟩)
    | abandon e => exact habandon e e
    | done ending => exact ⟨⟨rfl, .same _⟩, hrest⟩

/-- A worker whose drive has ended reports the same in both surroundings. -/
theorem Near.settle (h : Near a st₀ i x y) (hi : i.IsPlain) {d d' : Drive} (hd : i.Resumes d.item)
    (hl : d.Like d') {ending ending' : Ending} (he : d.phase = .done ending)
    (he' : d'.phase = .done ending') :
    (Runner.settle d.item ending x.2).1.Like (Runner.settle d'.item ending' y.2).1 ∧
      Advanced a st₀ i x y (x.1, (Runner.settle d.item ending x.2).2)
        (y.1, (Runner.settle d'.item ending' y.2).2) := by
  obtain ⟨j, phase⟩ := d
  obtain ⟨j', phase'⟩ := d'
  obtain ⟨hitem, hphase⟩ := hl
  obtain rfl : j = j' := hitem
  obtain rfl : phase = .done ending := he
  obtain rfl : phase' = .done ending' := he'
  have hrest : Advanced a st₀ i x y x y := h.advanced (.refl h.sees)
  cases hphase with
  | failed e e' => exact ⟨⟨rfl, rfl⟩, hrest⟩
  | same =>
    cases ending with
    | code code =>
      refine ⟨⟨rfl, ?_⟩, hrest⟩
      simp only [Runner.settle, h.clock]
    | failed e => exact ⟨⟨rfl, rfl⟩, hrest⟩
    | crashed =>
      have hnoted : ∀ s : Site,
        (s.error ("Worker for '" ++ j.name ++ "' panicked")).files = s.files ∧
          (s.error ("Worker for '" ++ j.name ++ "' panicked")).clock = s.clock :=
            fun s => ⟨rfl, rfl⟩
      obtain ⟨-, hadv⟩ := h.recordFailure hi hd (hnoted x.2) (hnoted y.2)
      exact ⟨⟨rfl, rfl⟩, hadv⟩

/-! ## The moves of others -/

/-- What is done on behalf of one instance is not seen by another one, if neither workspace is at or
below the other and the names differ. -/
theorem Near.of_other {y₁ y₁' : (σ × List Call) × Site} (h : Near a st₀ j x y)
    (hadv : Advanced a st₀ i x y₁ x' y₁') (hname : j.name ≠ i.name)
    (hij : ¬ i.workspace.location <+: j.workspace.location)
    (hji : ¬ j.workspace.location <+: i.workspace.location) : Near a st₀ j x' y where
  sees := by
    have hopened := hadv.sites.files.opened
    constructor
    · intro k hk
      have hout : ¬ i.workspace.location <+: k := fun hc =>
        (List.prefix_or_prefix_of_prefix hc hk).elim hij hji
      rcases hopened k hout with he | ⟨-, -, hp⟩
      · exact he.trans (h.sees.inside k hk)
      · exact absurd (hk.trans hp) hji
    · intro k hk
      rcases hopened k fun hc => hij (hc.trans hk) with he | ⟨hn, hd, -⟩
      · rw [he]
        exact h.sees.above k hk
      · rcases h.sees.above k hk with he | ⟨hy, -⟩
        · exact .inr ⟨he ▸ hn, hd⟩
        · exact .inr ⟨hy, hd⟩
  clock := hadv.sites.clock.trans h.clock
  scripts := (hadv.others _ hname).trans h.scripts
  took := hadv.near.took
  took' := h.took'

/-- Notes in the journal are not seen. -/
theorem Near.congr (h : Near a st₀ i x y) {s₁ : Site}
    (hs : s₁.files = x.2.files ∧ s₁.clock = x.2.clock) :
    Near a st₀ i (x.1, s₁) y :=
  ⟨hs.1 ▸ h.sees, hs.2.trans h.clock, h.scripts, h.took, h.took'⟩

end StudyFlow
