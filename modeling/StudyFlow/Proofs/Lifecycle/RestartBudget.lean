import StudyFlow.Proofs.Lifecycle.Family

/-!
# The restart budget

How often a restart was asked for settles the counter of an instance: it follows the number of
requests up to the limit and stays there, and without a limit it follows for as long as the counter
has room. Nothing else moves it, and whether a request could be written makes no difference. A copy
has a budget of its own.
-/

namespace StudyFlow

def Operation.counts : Operation → Bool
  | countRestart => true
  | _ => false

/-- How often a restart was asked for. -/
def restartCalls (os : List Operation) : Nat := os.countP Operation.counts

theorem restartCalls_concat (os : List Operation) (o : Operation) :
    restartCalls (os ++ [o]) = restartCalls os + if o.counts then 1 else 0 := by
  rw [restartCalls, List.countP_append, List.countP_singleton]
  rfl

namespace Instance

/-- The counter of an instance with the limit, of which these operations were asked since it was
made. -/
structure Budgeted (limit : UInt32) (os : List Operation) (i : Instance) : Prop where
  restartLimit : i.restartLimit = limit
  limited : limit ≠ 0 → i.restarts.toNat = min limit.toNat (restartCalls os)
  unlimited : limit = 0 → restartCalls os < UInt32.size → i.restarts.toNat = restartCalls os

variable {i j : Instance} {limit : UInt32} {os : List Operation} {o : Operation}

theorem budgeted_nil (hl : i.restartLimit = limit) (hr : i.restarts = 0) : i.Budgeted limit [] where
  restartLimit := hl
  limited := fun _ => by rw [hr]; exact (Nat.min_zero _).symm
  unlimited := fun _ _ => by rw [hr]; rfl

/-- Another restart is allowed as long as fewer than the limit were asked for. -/
theorem Budgeted.canRestart_iff (h : i.Budgeted limit os) :
    i.canRestart = true ↔ limit = 0 ∨ restartCalls os < limit.toNat := by
  rw [Instance.canRestart_iff, h.restartLimit]
  by_cases hl : limit = 0
  · exact iff_of_true (.inl hl) (.inl hl)
  · have hmin : min limit.toNat (restartCalls os) < limit.toNat ↔
      restartCalls os < limit.toNat := by omega
    rw [h.limited hl, hmin]

/-- A restart that is counted has room in the counter. -/
theorem Budgeted.room (h : i.Budgeted limit os) (hc : i.canRestart = true)
    (hroom : limit = 0 → restartCalls os + 1 < UInt32.size) :
    i.restarts.toNat + 1 < UInt32.size := by
  by_cases hl : limit = 0
  · rw [h.unlimited hl (Nat.lt_of_succ_lt (hroom hl))]
    exact hroom hl
  · have hlt : restartCalls os < limit.toNat := (h.canRestart_iff.mp hc).resolve_left hl
    have hsize : limit.toNat < UInt32.size := limit.toNat_lt_size
    rw [h.limited hl]
    omega

theorem Budgeted.recounted (h : i.Budgeted limit os) :
    i.recounted.Budgeted limit (os ++ [.countRestart]) := by
  have hcalls : restartCalls (os ++ [.countRestart]) = restartCalls os + 1 :=
    restartCalls_concat os _
  cases hc : i.canRestart with
  | true =>
    refine ⟨((Resumes.refl i).recounted.restartLimit).trans h.restartLimit, ?_, ?_⟩
    · intro hl
      have hlt : restartCalls os < limit.toNat := (h.canRestart_iff.mp hc).resolve_left hl
      rw [restarts_recounted hc (h.room hc fun hz => absurd hz hl), h.limited hl, hcalls]
      omega
    · intro hl hroom
      rw [hcalls] at hroom ⊢
      rw [restarts_recounted hc (h.room hc fun _ => hroom),
        h.unlimited hl (Nat.lt_of_succ_lt hroom)]
  | false =>
    have hspent : ¬(limit = 0 ∨ restartCalls os < limit.toNat) := by
      rw [← h.canRestart_iff, hc]
      exact Bool.false_ne_true
    have hsame : i.recounted = i := by simp [Instance.recounted, hc]
    rw [hsame]
    refine ⟨h.restartLimit, ?_, fun hl => absurd (.inl hl) hspent⟩
    intro hl
    rw [h.limited hl, hcalls]
    omega

/-- No other operation moves the counter. -/
theorem restarts_change (ho : o.IsDirect) (hc : o.counts = false) (now : Millis) (i : Instance) :
    (o.change now i).restarts = i.restarts ∧ (o.change now i).restartLimit = i.restartLimit := by
  cases o with
  | countRestart => cases hc
  | clone => exact ho.elim
  | _ => exact ⟨rfl, rfl⟩

theorem Budgeted.change (h : i.Budgeted limit os) (ho : o.IsDirect) (now : Millis) :
    (o.change now i).Budgeted limit (os ++ [o]) := by
  cases hc : o.counts with
  | true =>
    cases o with
    | countRestart => exact h.recounted
    | _ => cases hc
  | false =>
    obtain ⟨hrestarts, hlimit⟩ := restarts_change ho hc now i
    have hcalls : restartCalls (os ++ [o]) = restartCalls os := by
      rw [restartCalls_concat, hc]
      rfl
    constructor
    · rw [hlimit, h.restartLimit]
    · rw [hrestarts, hcalls]
      exact h.limited
    · rw [hrestarts, hcalls]
      exact h.unlimited

/-- A request that could be written tells whether the restart was counted. -/
theorem counted_of_markRestart {s : Site} {counted : Bool}
    (h : (i.markRestart s).result = .ok counted) :
    counted = i.canRestart := by
  rw [markRestart_eq] at h
  cases hr : (i.recounted.save s).result with
  | error e =>
    rw [hr] at h
    cases h
  | ok u =>
    rw [hr] at h
    exact (Except.ok.inj h).symm

end Instance

/-- The counters of all members of a family are settled by what was asked of them. -/
theorem Family.budgeted {t : Template} {i : Instance} {xs : List Member} (hb : t.Builds i)
    (h : Family i xs) : ∀ x ∈ xs, x.item.Budgeted t.run.maxRetries x.asked := by
  obtain ⟨⟨now, hfresh⟩, hlimit⟩ := hb.fresh
  refine h.keeps (fun os j o now ho hj => hj.change ho now) ?_ ?_
  · exact Instance.budgeted_nil hlimit hfresh.restarts
  · exact fun _ _ _ _ _ hj => Instance.budgeted_nil hj.restartLimit rfl

namespace Member

variable {t : Template} {i : Instance} {xs : List Member} {x : Member} {k : Nat}

/-- What a limit means for a member, however it came about. -/
structure KeepsBudget (limit : UInt32) (x : Member) : Prop extends
    Instance.Budgeted limit x.asked x.item where
  /-- A request that could be written is granted exactly if it is among as many as the limit
  allows. -/
  granted : ∀ s counted, (x.item.markRestart s).result = .ok counted →
    (counted = true ↔ limit = 0 ∨ restartCalls x.asked + 1 ≤ limit.toNat)
  /-- The counter does not overflow when it is moved. -/
  room : x.item.canRestart = true → (limit = 0 → restartCalls x.asked + 1 < UInt32.size) →
    x.item.restarts.toNat + 1 < UInt32.size
  others : ∀ (o : Operation) s, o.IsDirect → o.counts = false →
    (o.run x.item s).item.restarts = x.item.restarts ∧
      (o.run x.item s).item.restartLimit = x.item.restartLimit

theorem keepsBudget_of_budgeted {limit : UInt32} (h : x.item.Budgeted limit x.asked) :
    x.KeepsBudget limit where
  toBudgeted := h
  granted := by
    intro s counted hr
    rw [Instance.counted_of_markRestart hr]
    exact h.canRestart_iff
  room := h.room
  others := by
    intro o s ho hc
    rw [Operation.run_item]
    exact Instance.restarts_change ho hc s.clock x.item

/-- Every member of the family of an instance keeps to the limit of the template. A copy joins the
family with a counter at zero and the same limit, and leaves the member that was copied as it is. -/
theorem restart_budget (hb : t.Builds i) (h : Family i xs) (hk : xs[k]? = some x) :
    x.KeepsBudget t.run.maxRetries ∧
      ∀ pairs workspace s, Family i (xs ++ [x.copy pairs workspace s]) ∧
        (xs ++ [x.copy pairs workspace s])[k]? = some x ∧
        (x.copy pairs workspace s).asked = [] ∧ (x.copy pairs workspace s).item.restarts = 0 ∧
        (x.copy pairs workspace s).item.restartLimit = t.run.maxRetries := by
  have hx := h.budgeted hb x (List.mem_of_getElem? hk)
  refine ⟨keepsBudget_of_budgeted hx, ?_⟩
  intro pairs workspace s
  refine ⟨h.copy pairs workspace s hk, ?_, rfl, rfl, hx.restartLimit⟩
  rw [List.getElem?_append_left (List.getElem?_eq_some_iff.mp hk).1, hk]

/-- A step with two restarts. -/
def persistent : Template := (Template.new "sim" "run").withMaxRetries 2

def persistentItem : Instance := Instance.ofTemplate persistent ⟨"out"⟩ 0

/-- Its instance once a drive has come to its end whose adapter always asks for a further
attempt. -/
def exhausted : Member :=
  Member.moved ⟨persistentItem, []⟩ ⟨{ shell := "/bin/sh" },
    .replay fun _ => .submitted ⟨.retry, "1"⟩⟩ 10 [] {}

/-- The third request was not granted, nor will a fourth be. -/
theorem restart_budget_exhausted :
    persistent.Builds persistentItem ∧
      Family persistentItem [exhausted] ∧
      restartCalls exhausted.asked = 3 ∧ exhausted.item.restarts.toNat = 2 ∧
      exhausted.item.state = .failed ∧
      (∀ s counted, (exhausted.item.markRestart s).result = .ok counted → counted = false) ∧
      (exhausted.copy [] none {}).item.restarts = 0 := by
  have hb : persistent.Builds persistentItem := .alone ⟨"out"⟩ 0
  have h : Family persistentItem [exhausted] :=
    Family.alone.moves_sole _ 10 [] {}
  have hcalls : restartCalls exhausted.asked = 3 := by decide +kernel
  obtain ⟨hx, hcopy⟩ := restart_budget (k := 0) hb h rfl
  have hrestarts : exhausted.item.restarts.toNat = 2 := by
    rw [hx.limited (by decide), hcalls]
    rfl
  refine ⟨hb, h, hcalls, hrestarts, by decide +kernel, ?_, (hcopy [] none {}).2.2.2.1⟩
  intro s counted hr
  refine Bool.eq_false_iff.mpr fun hc => ?_
  have hgranted := (hx.granted s counted hr).mp hc
  rw [hcalls] at hgranted
  revert hgranted
  decide

end Member

end StudyFlow
