import StudyFlow.Proofs.Runner.Preparation
import StudyFlow.Proofs.Status.Line
import StudyFlow.Proofs.Study.Check

/-!
# Queues as fields of the status line

The queue of a step is put together from the tag of the study and from what the step asks for. Only
the second text is checked to be one word. So a checked study has a queue for each step, and its
status lines show queue and worker as two more fields exactly if the tag is fit for that, which no
check asks.
-/

namespace StudyFlow

open Text

namespace QueueSettings

variable {q : QueueSettings}

/-! ## The queues of some steps -/

theorem mem_insertName (name x : String) (xs : List String) :
    x ∈ insertName name xs ↔ x = name ∨ x ∈ xs := by
  induction xs with
  | nil => simp [insertName]
  | cons y ys ih =>
    rw [insertName]
    split
    · exact List.mem_cons
    · split
      · next he =>
        obtain rfl : name = y := by simpa using he
        simp
      · rw [List.mem_cons, ih, List.mem_cons]
        exact or_left_comm

theorem mem_foldl_insertName (x : String) (names acc : List String) :
    x ∈ names.foldl (fun acc n => insertName n acc) acc ↔ x ∈ names ∨ x ∈ acc := by
  induction names generalizing acc with
  | nil => simp
  | cons n names ih =>
    rw [List.foldl_cons, ih, mem_insertName, List.mem_cons, or_assoc]
    exact or_left_comm

/-- The queues of some steps are those of each one. -/
theorem mem_queuesFor {ts : List Template} {names : List String} (h : q.queuesFor ts = .ok names)
    (name : String) : name ∈ names ↔ ∃ t ∈ ts, q.resolveStep t = .ok name := by
  unfold queuesFor at h
  cases hm : ts.mapM q.resolveStep with
  | error e => rw [hm] at h; cases h
  | ok all =>
    rw [hm] at h
    obtain rfl := Except.ok.inj h
    have hall : name ∈ all ↔ (.ok name : Except QueueError String) ∈ ts.map q.resolveStep := by
      simp [map_eq_of_mapM hm]
    rw [mem_foldl_insertName, hall, List.mem_map]
    simp

/-! ## When a queue is one field -/

/-- The tag is fit for the queue of a step: it is not used, or it has no blank and is not all that
there is to the queue while being empty. -/
def TagFits (q : QueueSettings) (taskQueue : Option String) : Prop :=
  q.omitQueueTag = true ∨
    hasBlank q.queueTag = false ∧ (q.queueTag ≠ "" ∨ (requestedQueue? taskQueue).isSome = true)

theorem requestedQueue?_ne_empty {taskQueue : Option String} {queue : String}
    (h : requestedQueue? taskQueue = some queue) : queue ≠ "" := by
  obtain ⟨-, hq⟩ := Option.filter_eq_some_iff.mp h
  simp only [Bool.and_eq_true] at hq
  simpa using hq.1

/-- A queue is one field of a status line exactly if the tag is fit for it. -/
theorem isWord_resolve_iff {step queue : String} {taskQueue : Option String}
    (h : q.resolve step taskQueue = .ok queue) : IsWord queue ↔ q.TagFits taskQueue := by
  unfold resolve at h
  unfold TagFits
  cases hr : requestedQueue? taskQueue with
  | none =>
    rw [hr] at h
    cases ho : q.omitQueueTag with
    | true =>
      simp only [ho, ↓reduceIte, Except.ok.injEq] at h
      have hw : IsWord defaultQueue := ⟨by decide, by decide⟩
      exact h ▸ iff_of_true hw (.inl rfl)
    | false =>
      simp only [ho, Bool.false_eq_true, ↓reduceIte, Except.ok.injEq] at h
      subst h
      simp [IsWord, and_comm]
  | some asked =>
    have hne := requestedQueue?_ne_empty hr
    rw [hr] at h
    dsimp only at h
    split at h
    · cases h
    · next hb =>
      have hw : IsWord asked := ⟨hne, by simpa using hb⟩
      cases ho : q.omitQueueTag with
      | true =>
        simp only [ho, ↓reduceIte, Except.ok.injEq] at h
        exact h ▸ iff_of_true hw (.inl rfl)
      | false =>
        simp only [ho, Bool.false_eq_true, ↓reduceIte, Except.ok.injEq] at h
        subst h
        refine ⟨fun ht => .inr ⟨?_, .inr rfl⟩, ?_⟩
        · have hboth := ht.2
          rw [hasBlank_append, Bool.or_eq_false_iff] at hboth
          exact hboth.1
        · rintro (hf | ⟨htag, -⟩)
          · cases hf
          · exact hw.append_right htag

end QueueSettings

/-! ## Status lines with a queue -/

namespace StatusRecord

/-- The line of a record that shows a queue and a worker has their words behind its other words. -/
theorem words_line_runtime (r : StatusRecord) (c : RuntimeContext) :
    words ({ r with runtime := some c } : StatusRecord).line =
      words ({ r with runtime := none } : StatusRecord).line ++
        (words c.queue ++ words c.worker) := by
  have hl : ({ r with runtime := some c } : StatusRecord).line =
      ({ r with runtime := none } : StatusRecord).line ++ " " ++ (c.queue ++ " " ++ c.worker) := by
    simp [line, fields, String.append_assoc]
  rw [hl, words_append_space, words_append_space]

/-- With a worker that is a word the two are fields of their own exactly if the queue is a word. -/
theorem words_line_runtime_iff {r : StatusRecord} {c : RuntimeContext} (hr : r.runtime = some c)
    (hw : IsWord c.worker) :
    words r.line = words ({ r with runtime := none } : StatusRecord).line ++ [c.queue, c.worker] ↔
      IsWord c.queue := by
  have hl := words_line_runtime r c
  rw [show ({ r with runtime := some c } : StatusRecord) = r by rw [← hr],
    (words_eq_singleton_iff c.worker).mpr hw] at hl
  rw [hl, List.append_cancel_left_eq, ← words_eq_singleton_iff]
  change words c.queue ++ [c.worker] = [c.queue] ++ [c.worker] ↔ words c.queue = [c.queue]
  exact List.append_left_inj [c.worker]

end StatusRecord

namespace Runner

/-- Instances that are prepared have the queue of their step and the worker of the runner. -/
theorem runtime_of_prepare {σ : Type} {r : Runner σ} {t : Template} {ps : ParameterSet} {s : Site}
    {is : List Instance} (h : (r.prepare t ps s).1 = .ok is) :
    ∃ queue, r.queues.resolveStep t = .ok queue ∧ ∀ i ∈ is, i.runtime = some ⟨queue, r.worker⟩ := by
  obtain ⟨queue, hprepared⟩ := prepare_ok_iff.mp h
  obtain ⟨hqueue, js, -, rfl⟩ := prepared_eq_ok hprepared
  refine ⟨queue, hqueue, fun i hi => ?_⟩
  obtain ⟨j, -, rfl⟩ := List.mem_map.mp hi
  rfl

end Runner

namespace Study

variable {σ : Type} {study : Study}

/-- The queues of a checked study are words exactly if its tag is fit for each of its steps. A
prepared instance has the queue of its step, and its status line shows queue and worker as two more
fields exactly if the tag is fit for that step. -/
theorem queues_isWord_iff (h : study.check = .ok ()) (r : Runner σ) (hq : r.queues = study.queues) :
    (∃ names, study.queueNames = .ok names ∧
      ((∀ queue ∈ names, IsWord queue) ↔ ∀ t ∈ study.steps, study.queues.TagFits t.run.taskQueue)) ∧
    ∀ t ∈ study.steps, ∀ s is, (r.prepare t study.parameters s).1 = .ok is →
      ∃ queue, (IsWord queue ↔ study.queues.TagFits t.run.taskQueue) ∧ ∀ i ∈ is,
        i.runtime = some ⟨queue, r.worker⟩ ∧ (IsWord r.worker → ∀ now,
          (words (i.status now).line =
              words ({ i.status now with runtime := none } : StatusRecord).line ++
                [queue, r.worker] ↔
            study.queues.TagFits t.run.taskQueue)) := by
  constructor
  · obtain ⟨-, -, names, hnames⟩ := check_eq_ok h
    have hmem : ∀ queue, queue ∈ names ↔ ∃ t ∈ study.steps,
      study.queues.resolveStep t = .ok queue :=
      QueueSettings.mem_queuesFor hnames
    refine ⟨names, hnames, fun hall t ht => ?_, fun hall queue hqueue => ?_⟩
    · obtain ⟨queue, hqueue⟩ := (checked_of_check h).queues t ht
      exact (QueueSettings.isWord_resolve_iff hqueue).mp
        (hall queue ((hmem queue).mpr ⟨t, ht, hqueue⟩))
    · obtain ⟨t, ht, hresolve⟩ := (hmem queue).mp hqueue
      exact (QueueSettings.isWord_resolve_iff hresolve).mpr (hall t ht)
  · intro t ht s is hprepare
    obtain ⟨queue, hqueue, hruntime⟩ := Runner.runtime_of_prepare hprepare
    rw [hq] at hqueue
    have hword := QueueSettings.isWord_resolve_iff hqueue
    refine ⟨queue, hword, fun i hi => ⟨hruntime i hi, fun hworker now => ?_⟩⟩
    have hshown : (i.status now).runtime = some ⟨queue, r.worker⟩ := hruntime i hi
    exact (StatusRecord.words_line_runtime_iff hshown hworker).trans hword

theorem queues_isWord_iff_sampled :
    sampled.check = .ok () ∧ sampled.succeeding.queues = sampled.queues ∧
      (∀ t ∈ sampled.steps, sampled.queues.TagFits t.run.taskQueue) ∧
      (∃ names, sampled.queueNames = .ok names ∧ ∀ queue ∈ names, IsWord queue) ∧
      ∀ t ∈ sampled.steps, ∃ is, (sampled.succeeding.prepare t sampled.parameters {}).1 = .ok is ∧
        ∃ queue, IsWord queue ∧ ∀ i ∈ is, i.runtime = some ⟨queue, "local"⟩ ∧ ∀ now,
          words (i.status now).line =
            words ({ i.status now with runtime := none } : StatusRecord).line ++
              [queue, "local"] := by
  have hc : sampled.check = .ok () := by rfl
  have hfits : ∀ t ∈ sampled.steps, sampled.queues.TagFits t.run.taskQueue :=
    fun t _ => .inr ⟨by decide, .inl (by decide)⟩
  obtain ⟨⟨names, hnames, hall⟩, hprepare⟩ := queues_isWord_iff hc sampled.succeeding rfl
  refine ⟨hc, rfl, hfits, ⟨names, hnames, hall.mpr hfits⟩, fun t ht => ?_⟩
  obtain ⟨is, his⟩ : ∃ is, (sampled.succeeding.prepare t sampled.parameters {}).1 = .ok is := by
    rcases List.mem_cons.mp ht with rfl | ht
    · exact ⟨_, rfl⟩
    · obtain rfl := List.mem_singleton.mp ht
      exact ⟨_, rfl⟩
  obtain ⟨queue, hword, hruntime⟩ := hprepare t ht {} is his
  have hlocal : IsWord "local" := ⟨by decide, by decide⟩
  exact ⟨is, his, queue, hword.mpr (hfits t ht), fun i hi =>
    ⟨(hruntime i hi).1, fun now => ((hruntime i hi).2 hlocal now).mpr (hfits t ht)⟩⟩

/-- A step that asks for no queue, in a study whose tag has a blank. -/
def spaced : Study where
  name := "demo"
  adapter := { shell := "/bin/sh" }
  queues := { queueTag := "my q_" }
  steps := [⟨"sim", { cmd := "run" }⟩]

/-- A tag with a blank passes the check. The queue and the worker of the step are then three
words. -/
theorem check_passes_over_spaced_tag :
    spaced.check = .ok () ∧ spaced.queueNames = .ok ["my q_"] ∧ ¬ IsWord "my q_" ∧
      ∃ i, (spaced.succeeding.prepare spaced.steps[0] spaced.parameters {}).1 = .ok [i] ∧
        i.runtime = some ⟨"my q_", "local"⟩ ∧
        words (i.status 0).line =
          words ({ i.status 0 with runtime := none } : StatusRecord).line ++
            ["my", "q_", "local"] := by
  refine ⟨by rfl, by rfl, fun h => absurd h.2 (by decide), _, rfl, rfl, by decide +kernel⟩

end Study

end StudyFlow
