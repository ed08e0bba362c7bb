import Mathlib.Data.List.Sort
import StudyFlow.Proofs.Expansion.Outcomes
import StudyFlow.Proofs.Study.Queues
import StudyFlow.Proofs.Text.ByteOrder

/-!
# The list of queues and the queues of instances

One part of the program lists the queues of a study in order to watch them. Another one routes each
prepared instance to the queue of its step. The two find the same queues: a queue that has an
instance is listed, and a queue is listed only if it gets one.
-/

namespace StudyFlow

namespace QueueSettings

variable {q : QueueSettings} {ts : List Template} {names : List String}

/-! ## The list as a set in order -/

theorem pairwise_insertName {name : String} {xs : List String} (h : xs.Pairwise (· < ·)) :
    (insertName name xs).Pairwise (· < ·) := by
  induction xs with
  | nil => exact List.pairwise_singleton _ _
  | cons x xs ih =>
    obtain ⟨hx, hxs⟩ := List.pairwise_cons.mp h
    rw [insertName]
    split
    · next hlt =>
      refine List.pairwise_cons.mpr ⟨fun y hy => ?_, h⟩
      rcases List.mem_cons.mp hy with rfl | hy
      · exact hlt
      · exact lt_trans hlt (hx y hy)
    · next hnot =>
      split
      · exact h
      · next hne =>
        refine List.pairwise_cons.mpr ⟨fun y hy => ?_, ih hxs⟩
        rcases (mem_insertName name y xs).mp hy with rfl | hy
        · exact lt_of_le_of_ne (not_lt.mp hnot) fun heq => hne (beq_iff_eq.mpr heq.symm)
        · exact hx y hy

theorem pairwise_foldl_insertName {acc : List String} (all : List String)
    (h : acc.Pairwise (· < ·)) :
    (all.foldl (fun acc n => insertName n acc) acc).Pairwise (· < ·) := by
  induction all generalizing acc with
  | nil => exact h
  | cons n all ih => exact ih (pairwise_insertName h)

theorem pairwise_queuesFor (h : q.queuesFor ts = .ok names) : names.Pairwise (· < ·) := by
  unfold queuesFor at h
  cases hm : ts.mapM q.resolveStep with
  | error e => rw [hm] at h; cases h
  | ok all =>
    rw [hm] at h
    obtain rfl := Except.ok.inj h
    exact pairwise_foldl_insertName all List.Pairwise.nil

theorem queuesFor_eq_error_iff {e : QueueError} :
    q.queuesFor ts = .error e ↔ FirstFault (fun _ t e => q.resolveStep t = .error e) ts e := by
  rw [← mapM_eq_error_iff, queuesFor]
  cases ts.mapM q.resolveStep <;> simp [Except.map]

theorem exists_queuesFor_iff :
    (∃ names, q.queuesFor ts = .ok names) ↔ ∀ t ∈ ts, ∃ queue, q.resolveStep t = .ok queue := by
  constructor
  · rintro ⟨names, h⟩
    cases hm : ts.mapM q.resolveStep with
    | error e => rw [queuesFor, hm] at h; cases h
    | ok all => exact resolveStep_of_mapM hm
  · intro hall
    cases h : q.queuesFor ts with
    | ok names => exact ⟨names, rfl⟩
    | error e =>
      obtain ⟨before, t, after, rfl, herror, -⟩ := queuesFor_eq_error_iff.mp h
      obtain ⟨queue, hqueue⟩ := hall t (by simp)
      rw [hqueue] at herror
      cases herror

/-- Neither the order of steps nor how often each one stands there counts. -/
theorem queuesFor_congr {ts' : List Template} (h : q.queuesFor ts = .ok names)
    (hmem : ∀ t, t ∈ ts' ↔ t ∈ ts) :
    q.queuesFor ts' = .ok names := by
  obtain ⟨names', h'⟩ : ∃ names', q.queuesFor ts' = .ok names' :=
    exists_queuesFor_iff.mpr fun t ht => exists_queuesFor_iff.mp ⟨names, h⟩ t ((hmem t).mp ht)
  have hsame : ∀ name, name ∈ names' ↔ name ∈ names := by
    intro name
    rw [mem_queuesFor h', mem_queuesFor h]
    exact exists_congr fun t => and_congr_left' (hmem t)
  rw [h', (pairwise_queuesFor h').eq_of_mem_iff (pairwise_queuesFor h) hsame]

end QueueSettings

/-! ## The queues of prepared instances -/

/-- A template that can be expanded has at least one instance. -/
theorem Template.instances_ne_nil {t : Template} {ps : ParameterSet} {root : Path} {now : Millis}
    {is : List Instance} (h : t.instances ps root now = .ok is) : is ≠ [] := by
  rcases instances_eq_ok h with he | ⟨-, rfl, -⟩
  · have hpos := (instanceAt_of_expand he).1.sound.pos (refers_of_expand he).1
    exact List.length_pos_iff.mp hpos
  · exact List.cons_ne_nil _ _

namespace Runner

variable {σ : Type} {r : Runner σ} {ts : List Template} {ps : ParameterSet} {names : List String}

/-- A prepared instance has a listed queue. -/
theorem queue_mem_of_prepare (h : r.queues.queuesFor ts = .ok names) {t : Template}
    (ht : t ∈ ts) {s : Site} {is : List Instance} (hprepare : (r.prepare t ps s).1 = .ok is)
    {i : Instance} (hi : i ∈ is) :
    ∃ queue ∈ names, i.runtime = some ⟨queue, r.worker⟩ := by
  obtain ⟨queue, hqueue, hruntime⟩ := runtime_of_prepare hprepare
  exact ⟨queue, (QueueSettings.mem_queuesFor h queue).mpr ⟨t, ht, hqueue⟩, hruntime i hi⟩

/-- A step that has a queue and can be expanded gives an instance with this queue. -/
theorem exists_prepare {t : Template} {s : Site} {queue : String}
    (hqueue : r.queues.resolveStep t = .ok queue)
    (hexpand : ∃ is, t.instances ps r.root s.clock = .ok is) :
    ∃ is, (r.prepare t ps s).1 = .ok is ∧ ∃ i ∈ is, i.runtime = some ⟨queue, r.worker⟩ := by
  obtain ⟨is, hprepare⟩ := (prepare_isOk_iff hqueue s).mpr hexpand
  obtain ⟨queue', hqueue', hruntime⟩ := runtime_of_prepare hprepare
  obtain rfl := Except.ok.inj (hqueue'.symm.trans hqueue)
  obtain ⟨queue', hprepared⟩ := prepare_ok_iff.mp hprepare
  obtain ⟨-, js, hjs, rfl⟩ := prepared_eq_ok hprepared
  obtain ⟨j, rest, rfl⟩ := List.exists_cons_of_ne_nil (Template.instances_ne_nil hjs)
  exact ⟨_, hprepare, _, List.mem_cons_self, hruntime _ List.mem_cons_self⟩

/-- Which queues are listed for the steps of a study, and which ones its prepared instances have.
The list is there exactly if each step has a queue; else the error is that of the first step without
one. It is in the order of the bytes, and only the set of steps counts. Each prepared instance has a
listed queue; and if all steps can be expanded, each listed queue is that of some prepared
instance. -/
theorem queuesFor_agrees (r : Runner σ) (ts : List Template) (ps : ParameterSet) :
    ((∃ names, r.queues.queuesFor ts = .ok names) ↔ ∀ t ∈ ts, ∃ queue,
      r.queues.resolveStep t = .ok queue) ∧
    (∀ e, r.queues.queuesFor ts = .error e ↔
      FirstFault (fun _ t e => r.queues.resolveStep t = .error e) ts e) ∧
    ∀ names, r.queues.queuesFor ts = .ok names →
      names.Pairwise (fun x y => Text.bytes x < Text.bytes y) ∧
      (∀ ts', (∀ t, t ∈ ts' ↔ t ∈ ts) → r.queues.queuesFor ts' = .ok names) ∧
      (∀ t ∈ ts, ∀ s is, (r.prepare t ps s).1 = .ok is → ∀ i ∈ is,
        ∃ queue ∈ names, i.runtime = some ⟨queue, r.worker⟩) ∧
      ∀ site : Template → Site, (∀ t ∈ ts, ∃ is, t.instances ps r.root (site t).clock = .ok is) →
        ∀ name, name ∈ names ↔
          ∃ t ∈ ts, ∃ is, (r.prepare t ps (site t)).1 = .ok is ∧
            ∃ i ∈ is, i.runtime = some ⟨name, r.worker⟩ := by
  refine ⟨QueueSettings.exists_queuesFor_iff, fun _ => QueueSettings.queuesFor_eq_error_iff, ?_⟩
  intro names h
  refine ⟨(QueueSettings.pairwise_queuesFor h).imp Text.bytes_lt_iff.mpr,
    fun ts' hmem => QueueSettings.queuesFor_congr h hmem,
    fun t ht s is hprepare i hi => queue_mem_of_prepare h ht hprepare hi, ?_⟩
  intro site hexpand name
  constructor
  · intro hname
    obtain ⟨t, ht, hqueue⟩ := (QueueSettings.mem_queuesFor h name).mp hname
    exact ⟨t, ht, exists_prepare hqueue (hexpand t ht)⟩
  · rintro ⟨t, ht, is, hprepare, i, hi, hruntime⟩
    obtain ⟨queue, hqueue, hshown⟩ := queue_mem_of_prepare h ht hprepare hi
    rw [hruntime] at hshown
    obtain ⟨rfl, -⟩ := RuntimeContext.mk.inj (Option.some.inj hshown)
    exact hqueue

end Runner

namespace Study

/-- Three steps, two of which ask for the same queue. -/
def routed : Study where
  name := "demo"
  adapter := { shell := "/bin/sh" }
  queues := { queueTag := "q_" }
  steps := [⟨"build", { cmd := "run", taskQueue := some "sim" }⟩,
    ⟨"run", { cmd := "run", taskQueue := some " sim" }⟩, ⟨"collect", { cmd := "run" }⟩]

theorem queuesFor_agrees_routed :
    routed.queues.queuesFor routed.steps = .ok ["q_", "q_sim"] ∧
      routed.queues.queuesFor routed.steps.reverse = .ok ["q_", "q_sim"] ∧
      ∀ name, name = "q_" ∨ name = "q_sim" ↔ ∃ t ∈ routed.steps, ∃ is,
        (routed.succeeding.prepare t [] {}).1 = .ok is ∧
        ∃ i ∈ is, i.runtime = some ⟨name, "local"⟩ := by
  have hnames : routed.queues.queuesFor routed.steps = .ok ["q_", "q_sim"] := by rfl
  have hexpand : ∀ t ∈ routed.steps, ∃ is, t.instances [] routed.root 0 = .ok is := by
    intro t ht
    rcases List.mem_cons.mp ht with rfl | ht
    · exact ⟨_, rfl⟩
    rcases List.mem_cons.mp ht with rfl | ht
    · exact ⟨_, rfl⟩
    · obtain rfl := List.mem_singleton.mp ht
      exact ⟨_, rfl⟩
  obtain ⟨-, -, hall⟩ := Runner.queuesFor_agrees routed.succeeding routed.steps []
  obtain ⟨-, hset, -, hlisted⟩ := hall _ hnames
  refine ⟨hnames, hset _ fun t => List.mem_reverse, fun name => ?_⟩
  have hmem : name ∈ ["q_", "q_sim"] ↔ name = "q_" ∨ name = "q_sim" := by
    rw [List.mem_cons, List.mem_singleton]
  exact hmem.symm.trans (hlisted (fun _ => {}) hexpand name)

end Study

end StudyFlow
