import StudyFlow.Proofs.Lifecycle.Family

/-!
# State and result label

An instance has an end time exactly in a terminal state, and there its label is the one that came
with the state. A start takes the end time away and leaves the label. So the label belongs to the
state unless the instance had ended and was started again; a drive that comes to its end with a code
puts that right.
-/

namespace StudyFlow

def Operation.ends : Operation → Bool
  | finish _ _ => true
  | finishNumber _ _ => true
  | _ => false

/-- After an end came a start, and since then no end. -/
def Reopened (os : List Operation) : Prop :=
  ∃ before after, os = before ++ .start :: after ∧ (∃ o ∈ before, o.ends = true) ∧
    ∀ o ∈ after, o.ends = false

theorem reopened_concat {os : List Operation} {o : Operation} :
    Reopened (os ++ [o]) ↔ o = .start ∧ (∃ p ∈ os, p.ends = true) ∨ o.ends = false ∧
    Reopened os := by
  constructor
  · rintro ⟨before, after, he, hbefore, hafter⟩
    rcases List.eq_nil_or_concat' after with rfl | ⟨rest, p, rfl⟩
    · obtain ⟨rfl, ho⟩ := List.append_inj' he rfl
      exact .inl ⟨List.singleton_inj.mp ho, hbefore⟩
    · rw [← List.cons_append, ← List.append_assoc] at he
      obtain ⟨rfl, ho⟩ := List.append_inj' he rfl
      obtain rfl := List.singleton_inj.mp ho
      refine .inr ⟨hafter o (by simp), before, rest, rfl, hbefore, ?_⟩
      exact fun q hq => hafter q (List.mem_append_left _ hq)
  · rintro (⟨rfl, hends⟩ | ⟨ho, before, after, rfl, hbefore, hafter⟩)
    · exact ⟨os, [], rfl, hends, by simp⟩
    · refine ⟨before, after ++ [o], by simp, hbefore, ?_⟩
      intro q hq
      rcases List.mem_append.mp hq with hq | hq
      · exact hafter q hq
      · rw [List.mem_singleton.mp hq, ho]

theorem not_reopened_nil : ¬Reopened [] := by
  rintro ⟨before, after, he, -⟩
  simp at he

/-- Nothing is reopened that ended last. -/
theorem not_reopened_of_ends {os : List Operation} {o : Operation} (ho : o.ends = true) :
    ¬Reopened (os ++ [o]) := by
  rw [reopened_concat]
  rintro (⟨rfl, -⟩ | ⟨hn, -⟩)
  · cases ho
  · rw [ho] at hn
    cases hn

theorem State.isTerminal_iff {s : State} :
    s.isTerminal = true ↔ s ≠ .initialized ∧ s ≠ .running := by
  simp [isTerminal]

theorem State.eq_of_not_isTerminal {s : State} (h : ¬s.isTerminal = true) :
    s = .initialized ∨ s = .running := by
  cases s with
  | initialized => exact .inl rfl
  | running => exact .inr rfl
  | _ => exact absurd rfl h

namespace Instance

/-- The instance has an end time exactly in a terminal state, and there its label is the one that
comes with the state. -/
structure EndAgrees (i : Instance) : Prop where
  ended : i.state.isTerminal = true ↔ i.endedAt.isSome = true
  outcome : i.state.isTerminal = true →
    ∃ code hitLimit, (i.state, i.result) = ((outcome code hitLimit).1,
      some (outcome code hitLimit).2)

/-- It has a label exactly in a terminal state as well, and otherwise its status shows the
placeholder. -/
structure LabelAgrees (i : Instance) : Prop extends EndAgrees i where
  label : i.state.isTerminal = true ↔ i.result.isSome = true
  shown : ∀ now, (i.status now).state = .initialized ∨ (i.status now).state = .running →
    (i.status now).result = noResult

/-- What the operations asked of an instance since it was made tell of its state, its label and its
end. -/
structure ToldBy (os : List Operation) (i : Instance) : Prop extends EndAgrees i where
  initial : i.state = .initialized → i.result = none
  labelled : i.result.isSome = true ↔ ∃ o ∈ os, o.ends = true
  reopened : Reopened os ↔ i.state = .running ∧ i.result.isSome = true

variable {i j : Instance} {os : List Operation} {o : Operation}

/-! ## What one operation tells -/

theorem toldBy_nil (hs : i.state = .initialized) (hr : i.result = none) (he : i.endedAt = none) :
    i.ToldBy [] where
  ended := by simp [hs, he, State.isTerminal_iff]
  outcome := by simp [hs, State.isTerminal_iff]
  initial := fun _ => hr
  labelled := by simp [hr]
  reopened := by simp [hs, not_reopened_nil]

theorem ToldBy.started (h : i.ToldBy os) (now : Millis) :
    (i.started now).ToldBy (os ++ [.start]) where
  ended := iff_of_false nofun nofun
  outcome := nofun
  initial := nofun
  labelled := by
    rw [show (i.started now).result = i.result from rfl, h.labelled]
    simp [Operation.ends]
  reopened := by
    constructor
    · intro hre
      refine ⟨rfl, h.labelled.mpr ?_⟩
      rcases reopened_concat.mp hre with ⟨-, he⟩ | ⟨-, hre⟩
      · exact he
      · exact h.labelled.mp (h.reopened.mp hre).2
    · rintro ⟨-, hr⟩
      exact reopened_concat.mpr (.inl ⟨rfl, h.labelled.mp hr⟩)

theorem endAgrees_ended (i : Instance) (code : Option ReturnCode) (hitLimit : Bool) (now : Millis) :
    (i.ended code hitLimit now).EndAgrees where
  ended := iff_of_true (isTerminal_outcome code hitLimit) rfl
  outcome := fun _ => ⟨code, hitLimit, rfl⟩

theorem toldBy_ended (ho : o.ends = true) (code : Option ReturnCode) (hitLimit : Bool)
    (now : Millis) : (i.ended code hitLimit now).ToldBy (os ++ [o]) := by
  have hterminal : (i.ended code hitLimit now).state.isTerminal = true :=
    isTerminal_outcome code hitLimit
  obtain ⟨hinitial, hrunning⟩ := State.isTerminal_iff.mp hterminal
  refine ⟨i.endAgrees_ended code hitLimit now, ?_, ?_, ?_⟩
  · exact fun hs => absurd hs hinitial
  · exact iff_of_true rfl ⟨o, by simp, ho⟩
  · exact iff_of_false (not_reopened_of_ends ho) fun hs => hrunning hs.1

/-- An operation that is no transition tells nothing new. -/
theorem ToldBy.other (h : i.ToldBy os) (ho : o.ends = false) (hstart : o ≠ .start)
    (hs : j.state = i.state) (hr : j.result = i.result) (he : j.endedAt = i.endedAt) :
    j.ToldBy (os ++ [o]) where
  ended := by rw [hs, he, h.ended]
  outcome := by
    rw [hs, hr]
    exact h.outcome
  initial := by
    rw [hs, hr]
    exact h.initial
  labelled := by
    rw [hr, h.labelled]
    simp [ho]
  reopened := by
    rw [hs, hr, ← h.reopened, reopened_concat]
    simp [ho, hstart]

theorem ToldBy.change (h : i.ToldBy os) (ho : o.IsDirect) (now : Millis) :
    (o.change now i).ToldBy (os ++ [o]) := by
  cases o with
  | setUp => exact h.other rfl (by simp) rfl rfl rfl
  | start => exact h.started now
  | finish code hitLimit => exact toldBy_ended rfl _ _ _
  | finishNumber number hitLimit => exact toldBy_ended rfl _ _ _
  | countRestart =>
    refine h.other rfl (by simp) ?_ ?_ ?_
    all_goals
      simp only [Operation.change, recounted]
      split <;> rfl
  | setRestart restart => exact h.other rfl (by simp) rfl rfl rfl
  | setRuntime queue worker => exact h.other rfl (by simp) rfl rfl rfl
  | clone => exact ho.elim

/-! ## When the label agrees -/

/-- In a terminal state the label is the one that came with the state. -/
theorem ToldBy.agrees_of_terminal (h : i.ToldBy os) (ht : i.state.isTerminal = true) :
    i.LabelAgrees where
  toEndAgrees := h.toEndAgrees
  label := by
    obtain ⟨code, hitLimit, hshow⟩ := h.outcome ht
    rw [(Prod.mk.inj hshow).2]
    exact iff_of_true ht rfl
  shown := by
    obtain ⟨hinitial, hrunning⟩ := State.isTerminal_iff.mp ht
    rintro now (hs | hs)
    · exact absurd hs hinitial
    · exact absurd hs hrunning

theorem ToldBy.agrees_iff (h : i.ToldBy os) : i.LabelAgrees ↔ ¬Reopened os := by
  constructor
  · intro ha hre
    obtain ⟨hs, hr⟩ := h.reopened.mp hre
    exact (State.isTerminal_iff.mp (ha.label.mpr hr)).2 hs
  · intro hre
    by_cases ht : i.state.isTerminal = true
    · exact h.agrees_of_terminal ht
    · have hr : i.result = none := by
        rcases State.eq_of_not_isTerminal ht with hs | hs
        · exact h.initial hs
        · rw [h.reopened] at hre
          exact Option.not_isSome_iff_eq_none.mp fun hr => hre ⟨hs, hr⟩
      refine ⟨h.toEndAgrees, ?_, ?_⟩
      · rw [hr]
        exact iff_of_false ht Bool.false_ne_true
      · intro now _
        rw [status, hr]
        rfl

end Instance

/-- All members of a family are told of by what was asked of them. -/
theorem Family.toldBy {t : Template} {i : Instance} {xs : List Member} (hb : t.Builds i)
    (h : Family i xs) : ∀ x ∈ xs, x.item.ToldBy x.asked := by
  obtain ⟨⟨now, hfresh⟩, -⟩ := hb.fresh
  refine h.keeps (fun os j o now ho hj => hj.change ho now) ?_ ?_
  · exact Instance.toldBy_nil hfresh.state hfresh.result hfresh.endedAt
  · exact fun _ _ _ _ _ _ => Instance.toldBy_nil rfl rfl rfl

namespace Member

variable {t : Template} {i : Instance} {xs : List Member} {x : Member} {k : Nat}

/-- A drive that ends with a code leaves an instance whose label agrees. -/
theorem agrees_of_run {σ : Type} {b : Bridge σ} {st st' : σ} {s s' : Site} {code : ReturnCode}
    {j : Instance} (hx : x.item.ToldBy x.asked)
    (hrun : Drive.run b x.item st s = (.code code, j, st', s')) :
    j.LabelAgrees := by
  have hmoves := Drive.moves_of_run hrun
  have hd := (Driven.begin (b := b) (x := x)).moves Drive.moveBound st s
  rw [hmoves] at hd
  have hj : j.ToldBy _ := hd.keeps (fun _ _ _ now ho h => h.change ho now) hx
  obtain ⟨hitLimit, hshows⟩ := hd.reaches.shows rfl
  refine hj.agrees_of_terminal ?_
  rw [hshows.1]
  exact Instance.isTerminal_outcome _ _

/-- The label agrees exactly for those members that were not started again after an end, and for
these too once a drive ended with a code. The end time always agrees with the state. -/
theorem label_agrees_iff (hb : t.Builds i) (h : Family i xs) (hx : x ∈ xs) :
    (x.item.LabelAgrees ↔ ¬Reopened x.asked) ∧
      x.item.EndAgrees ∧
      (x.item.state.isTerminal = true → x.item.LabelAgrees) ∧
      (x.item.state = .initialized → x.item.LabelAgrees) ∧
      ∀ {σ : Type} (b : Bridge σ) (st : σ) (s : Site) (code : ReturnCode) (j : Instance)
        (st' : σ) (s' : Site),
        Drive.run b x.item st s = (.code code, j, st', s') → j.LabelAgrees := by
  have htold := h.toldBy hb x hx
  refine ⟨htold.agrees_iff, htold.toEndAgrees, htold.agrees_of_terminal, ?_, ?_⟩
  · intro hs
    rw [htold.agrees_iff, htold.reopened, hs]
    rintro ⟨hre, -⟩
    cases hre
  · exact fun b st s code j st' s' hrun => agrees_of_run htold hrun

/-- A new instance of a step in the workspace `sim`. -/
def plain : Member := ⟨Instance.ofTemplate (Template.new "sim" "run") ⟨"sim"⟩ 0, []⟩

/-- It ended and was started again. -/
def startedAgain : Member := (plain.ask (.finish .ok false) {}).ask .start {}

theorem family_startedAgain : Family plain.item [startedAgain] :=
  (Family.alone.ask_sole (.finish .ok false) {} trivial).ask_sole .start {} trivial

/-- Once it has ended a second time its label belongs to its state. -/
theorem label_agrees_iff_endedAgain :
    (Template.new "sim" "run").Builds plain.item ∧
      Family plain.item [startedAgain.ask (.finish .hardFail false) {}] ∧
      ¬Reopened (startedAgain.ask (.finish .hardFail false) {}).asked ∧
      (startedAgain.ask (.finish .hardFail false) {}).item.LabelAgrees ∧
      (startedAgain.ask (.finish .hardFail false) {}).item.result = some "HARD_FAIL" := by
  have hb : (Template.new "sim" "run").Builds plain.item := .alone ⟨"sim"⟩ 0
  have h := family_startedAgain.ask_sole (.finish .hardFail false) {} trivial
  have hre : ¬Reopened (startedAgain.ask (.finish .hardFail false) {}).asked :=
    not_reopened_of_ends rfl
  exact ⟨hb, h, hre, (label_agrees_iff hb h List.mem_cons_self).1.mpr hre, rfl⟩

/-- While it runs again it is shown with the label of its first end. -/
theorem label_outlives_end :
    (Template.new "sim" "run").Builds plain.item ∧ Family plain.item [startedAgain] ∧
      startedAgain.item.state = .running ∧ startedAgain.item.endedAt = none ∧
      startedAgain.item.result = some "SUCCESS" ∧ ¬startedAgain.item.LabelAgrees ∧
      (startedAgain.item.status 0).line =
        "sim RUNNING SUCCESS 0d:00h:00m:00s 0d:00h:00m:00s 0 sim" := by
  refine ⟨.alone ⟨"sim"⟩ 0, family_startedAgain, rfl, rfl, rfl, ?_, by rfl⟩
  intro ha
  cases ha.label.mpr rfl

end Member

end StudyFlow
