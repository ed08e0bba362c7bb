import StudyFlow.Proofs.Pool.Alone

/-!
# Whose turn it is

An order of events is given by whose turn it is each time: that of the main loop, or that of one of
the workers. What is done in a turn is settled by the pool, so two runs in which the turns are the
same are the same.
-/

namespace StudyFlow

variable {σ : Type}

/-- Whose turn an event is: that of the worker with the ticket, or else that of the main loop. -/
def Event.turn : Event → Option Nat
  | .moved k => some k
  | .sent k _ => some k
  | _ => none

namespace Pool

variable {r : Runner σ} {is : List Instance} {p q : Pool σ} {e : Event} {es : List Event}
  {st : σ} {s : Site}

/-- What the main loop does next, and what the pool is then. -/
def mainTurn (r : Runner σ) (p : Pool σ) : Option (Event × Pool σ) :=
  match p.control with
  | .dispatching =>
    match p.canDispatch r, p.pending with
    | true, (k, i) :: rest => some (.dispatched k,
      { p with
        pending := rest
        workers := p.workers ++ [(k, Drive.begin i)]
        running := p.running + 1 })
    | _, _ => some (if p.running = 0 then (.ended, p.turn .finished)
      else (.waited, p.turn .receiving))
  | .receiving =>
    match p.channel with
    | (k, m) :: rest => some (.received k m,
      { p with
        channel := rest
        running := p.running - 1
        control := .dispatching
        inbox := p.inbox.receive m
        site := Runner.receiptNotice m p.site })
    | [] => some (.disconnected, { p with control := .closed })
  | _ => none

/-- What a worker does next, and what the pool is then. -/
def workerTurn (r : Runner σ) (p : Pool σ) (k : Nat) (d : Drive) : Event × Pool σ :=
  match d.ending? with
  | none =>
    let (d', state, s) := d.step r.bridge p.state p.site
    (.moved k,
      { p with
        workers := p.workers.map (fun x => if x.1 = k then (k, d') else x), state := state,
        site := s })
  | some ending =>
    let (m, s) := Runner.settle d.item ending p.site
    (.sent k m,
      { p with workers := p.workers.filter (·.1 ≠ k), channel := p.channel ++ [(k, m)], site := s })

def next (r : Runner σ) (p : Pool σ) : Option Nat → Option (Event × Pool σ)
  | none => p.mainTurn r
  | some k => (p.workers.find? (·.1 = k)).map fun x => p.workerTurn r k x.2

section Tickets

variable {before after : List (Nat × Drive)} {k : Nat} {d : Drive}

theorem find?_ticket (h : ∀ x ∈ before ++ after, x.1 ≠ k) :
    (before ++ (k, d) :: after).find? (·.1 = k) = some (k, d) := by
  have hbefore : before.find? (·.1 = k) = none :=
    List.find?_eq_none.mpr fun x hx => by simpa using h x (List.mem_append_left _ hx)
  rw [List.find?_append, hbefore]
  simp

theorem map_ticket (h : ∀ x ∈ before ++ after, x.1 ≠ k) (d' : Drive) :
    (before ++ (k, d) :: after).map (fun x => if x.1 = k then (k, d') else x) = before ++
      (k, d') :: after := by
  have hsame : ∀ xs : List (Nat × Drive), (∀ x ∈ xs, x.1 ≠ k) →
      xs.map (fun x => if x.1 = k then (k, d') else x) = xs := fun xs hxs =>
    (List.map_congr_left fun x hx => if_neg (hxs x hx)).trans (List.map_id _)
  rw [List.map_append, List.map_cons, if_pos rfl, hsame before fun x hx =>
    h x (List.mem_append_left _ hx),
    hsame after fun x hx => h x (List.mem_append_right _ hx)]

theorem filter_ticket (h : ∀ x ∈ before ++ after, x.1 ≠ k) :
    (before ++ (k, d) :: after).filter (·.1 ≠ k) = before ++ after := by
  have hsame : ∀ xs : List (Nat × Drive), (∀ x ∈ xs, x.1 ≠ k) →
      xs.filter (·.1 ≠ k) = xs := fun xs hxs =>
    List.filter_eq_self.mpr fun x hx => by simpa using hxs x hx
  rw [List.filter_append, List.filter_cons, if_neg (by simp),
    hsame before fun x hx => h x (List.mem_append_left _ hx),
    hsame after fun x hx => h x (List.mem_append_right _ hx)]

end Tickets

/-- A step is what happens in its turn. -/
theorem Step.next_eq (h : Step r p e q) (hb : Books r is es p) : p.next r e.turn = some (e, q) := by
  cases h with
  | dispatch hc hd hp => simp only [next, Event.turn, mainTurn, hc, hd, hp]
  | wait hc hd hrun => simp only [next, Event.turn, mainTurn, hc, hd, if_neg hrun]
  | finish hc hd hrun => simp only [next, Event.turn, mainTurn, hc, hd, if_pos hrun]
  | receive hc hch => simp only [next, Event.turn, mainTurn, hc, hch]
  | close hc hch hsend hw => simp only [next, Event.turn, mainTurn, hc, hch]
  | move hw hd hstep =>
    obtain ⟨-, -, hone⟩ := hb.worker hw
    simp only [next, Event.turn, workerTurn, hw, find?_ticket hone, map_ticket hone, hd, hstep,
      Option.map_some]
  | send hw hd hsettle =>
    obtain ⟨-, -, hone⟩ := hb.worker hw
    simp only [next, Event.turn, workerTurn, hw, find?_ticket hone, filter_ticket hone, hd, hsettle,
      Option.map_some]

theorem Run.cases_last (h : Run r p es q) :
    es = [] ∧ q = p ∨ ∃ fs e q₀, es = fs ++ [e] ∧ Run r p fs q₀ ∧ Step r q₀ e q := by
  cases h with
  | nil => exact .inl ⟨rfl, rfl⟩
  | snoc hrun hs => exact .inr ⟨_, _, _, rfl, hrun, hs⟩

/-- Runs from the same start in which the turns are the same are the same. -/
theorem Run.unique {es' : List Event} {p' : Pool σ} (hmax : 0 < r.maxParallel)
    (h : Run r (start is st s) es p) (h' : Run r (start is st s) es' p')
    (ht : es'.map Event.turn = es.map Event.turn) : es' = es ∧ p' = p := by
  -- the last turns are the same and, by induction, the pools before them
  induction h generalizing es' p' with
  | nil =>
    obtain rfl := List.map_eq_nil_iff.mp ht
    rcases h'.cases_last with ⟨-, rfl⟩ | ⟨fs, e, q₀, he, -⟩
    · exact ⟨rfl, rfl⟩
    · simp at he
  | @snoc q₀ q es e hrun hs ih =>
    rcases h'.cases_last with ⟨rfl, rfl⟩ | ⟨fs, e', q₀', rfl, hrun', hs'⟩
    · simp at ht
    · rw [List.map_append, List.map_append] at ht
      obtain ⟨hfs, hlast⟩ := List.append_inj' ht rfl
      obtain ⟨rfl, rfl⟩ := ih hrun' hfs
      have hnext := hs.next_eq (hrun.ledger hmax).2
      have hnext' := hs'.next_eq (hrun.ledger hmax).2
      rw [(List.cons.inj hlast).1] at hnext'
      obtain ⟨rfl, rfl⟩ := Prod.mk.inj (Option.some.inj (hnext.symm.trans hnext'))
      exact ⟨rfl, rfl⟩

end Pool

end StudyFlow
