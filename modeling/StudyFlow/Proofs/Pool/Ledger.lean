import StudyFlow.Pool
import StudyFlow.Proofs.Drive.Moves

/-!
# No instance is lost in a pool

`Counts` is what the main loop relies on: its counter covers the workers and the channel, and it
holds a sender as long as something is left to dispatch. `Books` says where each instance is:
pending, with a worker, or reported, in the order in which that happened. Both hold before the first
step and each step keeps them.
-/

namespace StudyFlow

variable {σ : Type}

/-- A message that tells how the drive of the instance came to its end. -/
inductive Message.Tells (b : Bridge σ) (i : Instance) : Message → Prop
  | code {d : Drive} {code : ReturnCode} (now : Millis) : Drive.Reaches b i d →
    d.phase = .done (.code code) → Tells b i ⟨i.name, .ok ⟨i.name, code, d.item.status now⟩⟩
  | failed {d : Drive} {cause : ExecutionError} : Drive.Reaches b i d →
    d.phase = .done (.failed cause) → Tells b i ⟨i.name, .error cause⟩
  | crashed {d : Drive} : Drive.Reaches b i d → d.phase = .done .crashed →
    Tells b i ⟨i.name, .error (.workerLost i.name)⟩

namespace Drive

/-- What a worker sends tells how its drive ended. -/
theorem Reaches.tells {b : Bridge σ} {i : Instance} {d : Drive} {ending : Ending}
    (h : Reaches b i d) (hd : d.phase = .done ending) (s : Site) :
    (Runner.settle d.item ending s).1.Tells b i := by
  have hn : d.item.name = i.name := h.resumes.name
  cases ending with
  | code code =>
    simp only [Runner.settle, hn]
    exact Message.Tells.code s.clock h hd
  | failed cause =>
    simp only [Runner.settle, hn]
    exact Message.Tells.failed h hd
  | crashed =>
    simp only [Runner.settle, hn]
    exact Message.Tells.crashed h hd

end Drive

namespace Pool

def dispatches : List Event → List Nat :=
  List.filterMap fun
    | .dispatched k => some k
    | _ => none

def sendings : List Event → List (Nat × Message) :=
  List.filterMap fun
    | .sent k m => some (k, m)
    | _ => none

def receptions : List Event → List (Nat × Message) :=
  List.filterMap fun
    | .received k m => some (k, m)
    | _ => none

variable {r : Runner σ} {is : List Instance} {p q : Pool σ} {e : Event} {es : List Event}

/-! ## What the main loop relies on -/

structure Counts (r : Runner σ) (p : Pool σ) : Prop where
  running : p.running = p.workers.length + p.channel.length
  bound : p.running ≤ r.maxParallel
  sender : p.holdsSender = false → p.pending = []
  receiving : p.control = .receiving → p.running ≠ 0
  finished : p.control = .finished → p.running = 0 ∧ p.pending = []
  open_ : p.control ≠ .closed

theorem counts_start (r : Runner σ) (is : List Instance) (st : σ) (s : Site) :
    Counts r (start is st s) where
  running := rfl
  bound := Nat.zero_le _
  sender := nofun
  receiving := nofun
  finished := nofun
  open_ := nofun

theorem canDispatch_iff :
    p.canDispatch r = true ↔ p.running < r.maxParallel ∧ p.holdsSender = true ∧ p.pending ≠ [] := by
  simp [canDispatch, and_assoc]

theorem Counts.turn (h : Counts r p) {next : Control} (hr : next = .receiving → p.running ≠ 0)
    (hf : next = .finished → p.running = 0 ∧ p.pending = []) (hc : next ≠ .closed) :
    Counts r (p.turn next) where
  running := h.running
  bound := h.bound
  sender := by
    intro hs
    rcases Bool.and_eq_false_iff.mp hs with hs | hs
    · exact h.sender hs
    · have hp : p.pending = [] := by simpa using hs
      exact hp
  receiving := hr
  finished := hf
  open_ := hc

/-- Each step keeps the counts. There is room for at least one worker. -/
theorem Counts.step (h : Counts r p) (hmax : 0 < r.maxParallel) (hs : Step r p e q) :
    Counts r q := by
  cases hs with
  | dispatch hc hd hp =>
    obtain ⟨hroom, hsender, -⟩ := canDispatch_iff.mp hd
    have hrun := h.running
    refine ⟨?_, hroom, ?_, ?_, ?_, h.open_⟩
    · simp only [List.length_append, List.length_cons, List.length_nil]
      omega
    · exact fun hf => nomatch hsender.symm.trans hf
    · exact fun hf => nomatch hc.symm.trans hf
    · exact fun hf => nomatch hc.symm.trans hf
  | wait hc hd hrun => exact h.turn (fun _ => hrun) nofun nofun
  | finish hc hd hrun =>
    refine h.turn nofun (fun _ => ⟨hrun, ?_⟩) nofun
    -- with room for a worker, only a lack of instances keeps the main loop from dispatching
    cases hs : p.holdsSender with
    | false => exact h.sender hs
    | true =>
      refine Decidable.byContradiction fun hne => ?_
      rw [canDispatch_iff.mpr ⟨by omega, hs, hne⟩] at hd
      cases hd
  | move hw hd hstep =>
    refine ⟨?_, h.bound, h.sender, h.receiving, h.finished, h.open_⟩
    rw [h.running, hw]
    simp
  | send hw hd hsettle =>
    refine ⟨?_, h.bound, h.sender, h.receiving, h.finished, h.open_⟩
    rw [h.running, hw]
    simp only [List.length_append, List.length_cons, List.length_nil]
    omega
  | receive hc hch =>
    have hrun := h.running
    have hb := h.bound
    rw [hch, List.length_cons] at hrun
    refine ⟨?_, ?_, h.sender, nofun, nofun, nofun⟩
    · dsimp only
      omega
    · dsimp only
      omega
  | close hc hch hsend hw =>
    -- a main loop that waits has a worker or a message
    refine absurd ?_ (h.receiving hc)
    rw [h.running, hw, hch]
    rfl

/-! ## Where each instance is -/

structure Books (r : Runner σ) (is : List Instance) (es : List Event) (p : Pool σ) : Prop where
  dispatched : dispatches es ++ p.pending.map Prod.fst = List.range is.length
  pending : ∀ x ∈ p.pending, is[x.1]? = some x.2
  workers : ∀ x ∈ p.workers, ∃ i, is[x.1]? = some i ∧ Drive.Reaches r.bridge i x.2
  told : ∀ x ∈ sendings es, ∃ i, is[x.1]? = some i ∧ x.2.Tells r.bridge i
  handed : ((sendings es).map Prod.fst ++ p.workers.map Prod.fst).Perm (dispatches es)
  channel : sendings es = receptions es ++ p.channel
  inbox : p.inbox = (receptions es).foldl (fun b x => b.receive x.2) {}

theorem dispatches_append (es fs : List Event) :
    dispatches (es ++ fs) = dispatches es ++ dispatches fs :=
  List.filterMap_append

theorem sendings_append (es fs : List Event) : sendings (es ++ fs) = sendings es ++ sendings fs :=
  List.filterMap_append

theorem receptions_append (es fs : List Event) :
    receptions (es ++ fs) = receptions es ++ receptions fs :=
  List.filterMap_append

theorem dispatches_concat (h : dispatches [e] = []) : dispatches (es ++ [e]) = dispatches es := by
  rw [dispatches_append, h, List.append_nil]

theorem sendings_concat (h : sendings [e] = []) : sendings (es ++ [e]) = sendings es := by
  rw [sendings_append, h, List.append_nil]

theorem receptions_concat (h : receptions [e] = []) : receptions (es ++ [e]) = receptions es := by
  rw [receptions_append, h, List.append_nil]

theorem books_start (r : Runner σ) (is : List Instance) (st : σ) (s : Site) :
    Books r is [] (start is st s) where
  dispatched := by
    have hf : (is.zipIdx.map Prod.swap).map Prod.fst = is.zipIdx.map Prod.snd := by
      rw [List.map_map]
      rfl
    change (is.zipIdx.map Prod.swap).map Prod.fst = _
    rw [hf, List.zipIdx_map_snd, List.range_eq_range']
  pending := by
    intro x hx
    obtain ⟨⟨i, k⟩, hm, rfl⟩ := List.mem_map.mp hx
    exact List.mem_zipIdx_iff_getElem?.mp hm
  workers := fun _ hx => absurd hx List.not_mem_nil
  told := fun _ hx => absurd hx List.not_mem_nil
  handed := List.Perm.refl []
  channel := rfl
  inbox := rfl

/-- An event that only concerns the main loop is not in the books. -/
theorem Books.other (h : Books r is es p) (hd : dispatches [e] = []) (hs : sendings [e] = [])
    (hr : receptions [e] = []) (hp : q.pending = p.pending) (hw : q.workers = p.workers)
    (hc : q.channel = p.channel) (hi : q.inbox = p.inbox) : Books r is (es ++ [e]) q where
  dispatched := by rw [dispatches_concat hd, hp]; exact h.dispatched
  pending := by rw [hp]; exact h.pending
  workers := by rw [hw]; exact h.workers
  told := by rw [sendings_concat hs]; exact h.told
  handed := by rw [sendings_concat hs, dispatches_concat hd, hw]; exact h.handed
  channel := by rw [sendings_concat hs, receptions_concat hr, hc]; exact h.channel
  inbox := by rw [receptions_concat hr, hi]; exact h.inbox

theorem Books.dispatch {k : Nat} {i : Instance} {rest : List (Nat × Instance)} (h : Books r is es p)
    (hp : p.pending = (k, i) :: rest) :
    Books r is (es ++ [.dispatched k])
      { p with
        pending := rest
        workers := p.workers ++ [(k, Drive.begin i)]
        running := p.running + 1 } := by
  have hrange := h.dispatched
  have hpending := h.pending
  rw [hp] at hrange hpending
  refine ⟨?_, fun x hx => hpending x (List.mem_cons_of_mem _ hx), ?_, ?_, ?_, ?_, ?_⟩
  · rw [dispatches_append, List.append_assoc]
    exact hrange
  · intro x hx
    rcases List.mem_append.mp hx with hx | hx
    · exact h.workers x hx
    · obtain rfl := List.mem_singleton.mp hx
      exact ⟨i, hpending (k, i) List.mem_cons_self, Drive.Reaches.begin⟩
  · rw [sendings_concat rfl]
    exact h.told
  · rw [sendings_concat rfl, dispatches_append, List.map_append, ← List.append_assoc]
    exact h.handed.append_right [k]
  · rw [sendings_concat rfl, receptions_concat rfl]
    exact h.channel
  · rw [receptions_concat rfl]
    exact h.inbox

/-- The worker that moves stays the one of its instance. -/
theorem Books.move {before after : List (Nat × Drive)} {k : Nat} {d d' : Drive} {st : σ} {s : Site}
    (h : Books r is es p) (hw : p.workers = before ++ (k, d) :: after)
    (hd : (d.step r.bridge p.state p.site).1 = d') :
    Books r is (es ++ [.moved k])
      { p with workers := before ++ (k, d') :: after, state := st, site := s } := by
  have hworkers := h.workers
  have hhanded := h.handed
  rw [hw] at hworkers hhanded
  refine ⟨?_, h.pending, ?_, ?_, ?_, ?_, ?_⟩
  · rw [dispatches_concat rfl]
    exact h.dispatched
  · intro x hx
    rcases List.mem_append.mp hx with hx | hx
    · exact hworkers x (List.mem_append_left _ hx)
    · rcases List.mem_cons.mp hx with rfl | hx
      · obtain ⟨i, hi, hreach⟩ := hworkers (k, d) (List.mem_append_right _ List.mem_cons_self)
        have hnext := hreach.step p.state p.site
        rw [hd] at hnext
        exact ⟨i, hi, hnext⟩
      · exact hworkers x (List.mem_append_right _ (List.mem_cons_of_mem _ hx))
  · rw [sendings_concat rfl]
    exact h.told
  · rw [sendings_concat rfl, dispatches_concat rfl]
    rw [List.map_append, List.map_cons] at hhanded ⊢
    exact hhanded
  · rw [sendings_concat rfl, receptions_concat rfl]
    exact h.channel
  · rw [receptions_concat rfl]
    exact h.inbox

/-- A worker that ends leaves its message in its place. -/
theorem Books.send {before after : List (Nat × Drive)} {k : Nat} {d : Drive} {ending : Ending}
    {m : Message} {s : Site} (h : Books r is es p) (hw : p.workers = before ++ (k, d) :: after)
    (hd : d.ending? = some ending) (hm : (Runner.settle d.item ending p.site).1 = m) :
    Books r is (es ++ [.sent k m])
      { p with workers := before ++ after, channel := p.channel ++ [(k, m)], site := s } := by
  have hworkers := h.workers
  have hhanded := h.handed
  rw [hw] at hworkers hhanded
  refine ⟨?_, h.pending, ?_, ?_, ?_, ?_, ?_⟩
  · rw [dispatches_concat rfl]
    exact h.dispatched
  · intro x hx
    rcases List.mem_append.mp hx with hx | hx
    · exact hworkers x (List.mem_append_left _ hx)
    · exact hworkers x (List.mem_append_right _ (List.mem_cons_of_mem _ hx))
  · rw [sendings_append]
    intro x hx
    rcases List.mem_append.mp hx with hx | hx
    · exact h.told x hx
    · obtain rfl := List.mem_singleton.mp hx
      obtain ⟨i, hi, hreach⟩ := hworkers (k, d) (List.mem_append_right _ List.mem_cons_self)
      have htells := hreach.tells (Drive.phase_of_ending? hd) p.site
      rw [hm] at htells
      exact ⟨i, hi, htells⟩
  · rw [sendings_append, dispatches_concat rfl]
    refine List.Perm.trans ?_ hhanded
    simp only [List.map_append, List.map_cons, List.append_assoc]
    have hmiddle : (k :: (before.map Prod.fst ++ after.map Prod.fst)).Perm _ :=
      List.perm_middle.symm
    exact hmiddle.append_left _
  · rw [sendings_append, receptions_concat rfl, h.channel, List.append_assoc]
    rfl
  · rw [receptions_concat rfl]
    exact h.inbox

theorem Books.receive {k : Nat} {m : Message} {rest : List (Nat × Message)} (h : Books r is es p)
    (hc : p.channel = (k, m) :: rest) :
    Books r is (es ++ [.received k m])
      { p with
        channel := rest
        running := p.running - 1
        control := .dispatching
        inbox := p.inbox.receive m
        site := Runner.receiptNotice m p.site } := by
  have hchannel := h.channel
  rw [hc] at hchannel
  refine ⟨?_, h.pending, h.workers, ?_, ?_, ?_, ?_⟩
  · rw [dispatches_concat rfl]
    exact h.dispatched
  · rw [sendings_concat rfl]
    exact h.told
  · rw [sendings_concat rfl, dispatches_concat rfl]
    exact h.handed
  · rw [sendings_concat rfl, receptions_append, hchannel, List.append_assoc]
    rfl
  · rw [receptions_append, List.foldl_append, ← h.inbox]
    rfl

/-- Each step takes one instance on, or leaves all where they are. -/
theorem Books.step (h : Books r is es p) (hs : Step r p e q) : Books r is (es ++ [e]) q := by
  cases hs with
  | dispatch hc hd hp => exact h.dispatch hp
  | wait hc hd hrun => exact h.other rfl rfl rfl rfl rfl rfl rfl
  | finish hc hd hrun => exact h.other rfl rfl rfl rfl rfl rfl rfl
  | move hw hd hstep => exact h.move hw (by rw [hstep])
  | send hw hd hsettle => exact h.send hw hd (by rw [hsettle])
  | receive hc hch => exact h.receive hch
  | close hc hch hsend hw => exact h.other rfl rfl rfl rfl rfl rfl rfl

/-! ## Every run -/

theorem Run.counts {st : σ} {s : Site} (h : Run r (start is st s) es p) (hmax : 0 < r.maxParallel) :
    Counts r p := by
  induction h with
  | nil => exact counts_start r is st s
  | snoc _ hs ih => exact ih.step hmax hs

theorem Run.books {st : σ} {s : Site} (h : Run r (start is st s) es p) : Books r is es p := by
  induction h with
  | nil => exact books_start r is st s
  | snoc _ hs ih => exact ih.step hs

/-- What holds of a pool after any events. -/
theorem Run.ledger {st : σ} {s : Site} (h : Run r (start is st s) es p) (hmax : 0 < r.maxParallel) :
    Counts r p ∧ Books r is es p := ⟨h.counts hmax, h.books⟩

/-- As long as the main loop is not through, something can happen. -/
theorem Counts.progress (h : Counts r p) (hc : p.control ≠ .finished) : ∃ e q, Step r p e q := by
  cases hcontrol : p.control with
  | dispatching =>
    cases hd : p.canDispatch r with
    | true =>
      obtain ⟨-, -, hne⟩ := canDispatch_iff.mp hd
      obtain ⟨⟨k, i⟩, rest, hp⟩ := List.exists_cons_of_ne_nil hne
      exact ⟨_, _, Step.dispatch hcontrol hd hp⟩
    | false =>
      by_cases hrun : p.running = 0
      · exact ⟨_, _, Step.finish hcontrol hd hrun⟩
      · exact ⟨_, _, Step.wait hcontrol hd hrun⟩
  | receiving =>
    cases hch : p.channel with
    | cons x rest => exact ⟨_, _, Step.receive hcontrol hch⟩
    | nil =>
      -- nothing to receive, so a worker is on its way
      have hrun := h.running
      rw [hch, List.length_nil, Nat.add_zero] at hrun
      have hne : p.workers ≠ [] := fun hw => h.receiving hcontrol (by rw [hrun, hw]; rfl)
      obtain ⟨⟨k, d⟩, rest, hw⟩ := List.exists_cons_of_ne_nil hne
      have hw : p.workers = [] ++ (k, d) :: rest := hw
      cases hd : d.ending? with
      | none => exact ⟨_, _, Step.move hw hd rfl⟩
      | some ending => exact ⟨_, _, Step.send hw hd rfl⟩
  | finished => exact absurd hcontrol hc
  | closed => exact absurd hcontrol h.open_

/-- Once the main loop is through, all messages are in. -/
theorem Books.finished (h : Books r is es p) (hc : Counts r p) (hf : p.control = .finished) :
    p.pending = [] ∧ p.workers = [] ∧ receptions es = sendings es ∧
      ((receptions es).map Prod.fst).Perm (List.range is.length) := by
  have hrun := hc.running
  obtain ⟨hzero, hpending⟩ := hc.finished hf
  have hworkers : p.workers = [] := List.length_eq_zero_iff.mp (by omega)
  have hchannel : p.channel = [] := List.length_eq_zero_iff.mp (by omega)
  have hall := h.channel
  rw [hchannel, List.append_nil] at hall
  have hdispatched := h.dispatched
  rw [hpending, List.map_nil, List.append_nil] at hdispatched
  have hhanded := h.handed
  rw [hworkers, List.map_nil, List.append_nil, hdispatched, hall] at hhanded
  exact ⟨hpending, hworkers, hall.symm, hhanded⟩

/-! ## The result -/

theorem receive_reports (ms : List (Nat × Message)) (reports : List Report) (b : Runner.Inbox)
    (h : ms.map (fun x => x.2.result) = reports.map Except.ok) :
    ms.foldl (fun b x => b.receive x.2) b =
      { b with summary := ⟨b.summary.reports ++ reports⟩ } := by
  induction ms generalizing reports b with
  | nil =>
    obtain rfl : reports = [] := by simpa [eq_comm] using h
    simp
  | cons x ms ih =>
    cases reports with
    | nil => cases h
    | cons report reports =>
      obtain ⟨hx, hms⟩ := List.cons.inj h
      have hb : b.receive x.2 = { b with summary := ⟨b.summary.reports ++ [report]⟩ } := by
        have hx : x.2.result = .ok report := hx
        rw [Runner.Inbox.receive, hx]
      rw [List.foldl_cons, ih reports _ hms, hb, List.append_assoc]
      rfl

theorem receive_keeps_firstError (ms : List (Nat × Message)) {b : Runner.Inbox} {e : ExecutionError}
    (h : b.firstError = some e) : (ms.foldl (fun b x => b.receive x.2) b).firstError = some e := by
  induction ms generalizing b with
  | nil => exact h
  | cons x ms ih =>
    have hb : (b.receive x.2).firstError = some e := by
      unfold Runner.Inbox.receive
      split
      · exact h
      · rw [h]
        rfl
    exact ih hb

/-- Reports only: the summary has all of them in the order of reception. -/
theorem Books.result_of_reports (h : Books r is es p) {reports : List Report}
    (hr : (receptions es).map (fun x => x.2.result) = reports.map Except.ok) :
    p.inbox.result = .ok ⟨reports⟩ := by
  rw [h.inbox, receive_reports _ reports _ hr]
  rfl

/-- Some errors: the one that was received first is the result. -/
theorem Books.result_of_error (h : Books r is es p) {earlier later : List (Nat × Message)} {k : Nat}
    {m : Message} {cause : ExecutionError} {reports : List Report}
    (hr : receptions es = earlier ++ (k, m) :: later)
    (hreports : earlier.map (fun x => x.2.result) = reports.map Except.ok)
    (hm : m.result = .error cause) :
    p.inbox.result = .error cause := by
  have hfirst : p.inbox.firstError = some cause := by
    rw [h.inbox, hr, List.foldl_append, receive_reports _ reports _ hreports, List.foldl_cons]
    apply receive_keeps_firstError
    rw [Runner.Inbox.receive, hm]
    rfl
  unfold Runner.Inbox.result
  rw [hfirst]

end Pool

end StudyFlow
