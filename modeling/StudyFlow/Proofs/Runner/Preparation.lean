import StudyFlow.Proofs.Expansion.Instances
import StudyFlow.Runner

/-!
# Preparing a template

What a template is prepared to depends on the site by its clock alone, and nothing but a note is
left there. The instances that come out are new ones of the template, with a queue and a worker.
-/

namespace StudyFlow.Runner

variable {σ : Type} {r : Runner σ} {t : Template} {ps : ParameterSet} {s : Site} {now : Millis}
  {queue : String} {is : List Instance}

/-- Preparing a template leaves files and clock alone. -/
theorem site_of_prepare {result : Except ExecutionError (List Instance)} {s' : Site}
    (h : r.prepare t ps s = (result, s')) : s'.files = s.files ∧ s'.clock = s.clock := by
  unfold prepare at h
  split at h
  · obtain ⟨-, rfl⟩ := Prod.mk.inj h
    exact ⟨rfl, rfl⟩
  · obtain ⟨-, rfl⟩ := Prod.mk.inj h
    split <;> exact ⟨rfl, rfl⟩

/-- The instances that come out are those for the time of the site. -/
theorem prepare_ok_iff :
    (r.prepare t ps s).1 = .ok is ↔ ∃ queue, r.prepared t ps s.clock = .ok (queue, is) := by
  unfold prepare
  cases r.prepared t ps s.clock with
  | error e => simp
  | ok x => simp [Prod.ext_iff]

/-- Prepared instances are those of the template, with the queue of the step and the worker. -/
theorem prepared_eq_ok (h : r.prepared t ps now = .ok (queue, is)) :
    r.queues.resolveStep t = .ok queue ∧
      ∃ js, t.instances ps r.root now = .ok js ∧ is = js.map fun i =>
        i.withRuntime queue r.worker := by
  unfold prepared at h
  cases hq : r.queues.resolveStep t with
  | error e => rw [hq] at h; cases h
  | ok queue' =>
    rw [hq] at h
    cases hi : t.instances ps r.root now with
    | error e => rw [hi] at h; cases h
    | ok js =>
      rw [hi] at h
      obtain ⟨rfl, rfl⟩ := Prod.mk.inj (Except.ok.inj h)
      exact ⟨rfl, js, rfl, rfl⟩

/-- A prepared instance has the settings of its template and was not restarted. -/
theorem new_of_prepared (h : r.prepared t ps now = .ok (queue, is)) {i : Instance} (hi : i ∈ is) :
    i.run = t.run ∧ i.restarts = 0 := by
  obtain ⟨-, js, hjs, rfl⟩ := prepared_eq_ok h
  obtain ⟨j, hj, rfl⟩ := List.mem_map.mp hi
  rcases Template.mem_instances hjs hj with ⟨rfl, -⟩ | ⟨k, rfl, -⟩
  · exact ⟨rfl, rfl⟩
  · exact ⟨rfl, rfl⟩

end StudyFlow.Runner
