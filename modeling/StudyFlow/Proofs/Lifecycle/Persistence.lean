import StudyFlow.Proofs.Lifecycle.Operations
import StudyFlow.Proofs.Status.Replacement

/-!
# Status files change in one step

Calls on an instance change it in memory and then save it, and each operation on files may fail as
the tree dictates. Through all of that the status file holds the record that was saved last, whole,
or what was there at first; a call that fails leaves it alone and its changes in memory are part of
the next record. Left out is an instance whose workspace path comes through the place of its own
status file, since a directory is made there on the way.
-/

namespace StudyFlow

open FileTree

/-! ## Saving an instance -/

/-- The trees while an instance is saved, one after each operation on files. -/
def Instance.persistMoments (i : Instance) (s : Site) : List FileTree :=
  s.files.createDirsMoments i.workspace ++ match s.files.createDirs i.workspace with
    | (.error _, _) => []
    | (.ok (), t) => t.replaceStatusMoments i.workspace (i.status s.clock)

namespace FileTree

/-- What it means that a text is saved as the status file of a workspace, or fails to be: the
moments, the result and the tree at the end. -/
structure Saves (t : FileTree) (ws : Path) (text : String) (ms : List FileTree)
    (r : Except StatusError Unit) (u : FileTree) : Prop where
  traced : Traces t ms u
  grounded : u.Grounded
  /-- Only the last moment of a success shows anything new. -/
  during : ∀ m ∈ ms, m.get? ws.statusPlace = t.get? ws.statusPlace ∨ r = .ok () ∧ m = u
  written : r = .ok () →
    (∃ x, u.get? ws.statusPlace = some (.file text.toUTF8 x)) ∧ u.get? ws.draftPlace = none
  /-- The draft is left if it could not be moved because a directory is in the place of the status
  file. -/
  failed : ∀ e, r = .error e → u.get? ws.statusPlace = t.get? ws.statusPlace ∧
    (KeptOrOpened t u ws ws.draftPlace ∨
      t.isDir ws.statusPlace = true ∧ ∃ x, u.get? ws.draftPlace = some (.file text.toUTF8 x))
  others : ∀ m, m ∈ ms ∨ m = u → ∀ k, k ≠ ws.statusPlace → k ≠ ws.draftPlace → KeptOrOpened t m ws k

variable {t u v w : FileTree} {ws : Path} {text : String} {ms : List FileTree}

theorem Opens.keptOrOpened_of_stores {c : ByteArray} (ho : Opens t u ws)
    (h : Stores u v ws.draftPlace c) {k : Location} (hk : k ≠ ws.draftPlace) :
    KeptOrOpened t v ws k := by
  rw [KeptOrOpened, h.other k hk]
  exact ho.view k

theorem Opens.statusPlace_of_stores {c : ByteArray} (hp : ¬ ws.Passes ws.statusPlace)
    (ho : Opens t u ws) (h : Stores u v ws.draftPlace c) :
    v.get? ws.statusPlace = t.get? ws.statusPlace :=
  (h.other _ ws.statusPlace_ne_draftPlace).trans (ho.get?_eq hp)

/-- The directories or the draft could not be made. -/
theorem saves_of_opens (hg : t.Grounded) (hp : ¬ ws.Passes ws.statusPlace) (ht : Traces t ms u)
    (hms : ∀ m ∈ ms, Opens t m ws) (ho : Opens t u ws) (e : StatusError) :
    t.Saves ws text ms (.error e) u where
  traced := ht
  grounded := ho.grounded hg
  during := fun m hm => .inl ((hms m hm).get?_eq hp)
  written := nofun
  failed := fun _ _ => ⟨ho.get?_eq hp, .inl (ho.view _)⟩
  others := by
    rintro m (hm | rfl) k - -
    · exact (hms m hm).view k
    · exact ho.view k

/-- The draft was written and not moved. -/
theorem saves_of_unmoved (hg : t.Grounded) (hp : ¬ ws.Passes ws.statusPlace)
    (ht : Traces t (ms ++ [v]) v) (hms : ∀ m ∈ ms, Opens t m ws) (ho : Opens t u ws)
    (h : Stores u v ws.draftPlace text.toUTF8) (hs : u.Solid ws.draftPlace)
    (hd : u.isDir ws.statusPlace = true) (e : StatusError) :
    t.Saves ws text (ms ++ [v]) (.error e) v where
  traced := ht
  grounded := h.grounded hs (ho.grounded hg)
  during := by
    intro m hm
    rcases List.mem_append.mp hm with hm | hm
    · exact .inl ((hms m hm).get?_eq hp)
    · exact .inl (List.mem_singleton.mp hm ▸ ho.statusPlace_of_stores hp h)
  written := nofun
  failed := by
    intro _ _
    rw [isDir, ho.get?_eq hp] at hd
    exact ⟨ho.statusPlace_of_stores hp h, .inr ⟨hd, h.content⟩⟩
  others := by
    intro m hm k _ hk
    simp only [List.mem_append, List.mem_singleton, or_assoc, or_self] at hm
    rcases hm with hm | rfl
    · exact (hms m hm).view k
    · exact ho.keptOrOpened_of_stores h hk

/-- The draft was written and moved. -/
theorem saves_of_moved (hg : t.Grounded) (hp : ¬ ws.Passes ws.statusPlace)
    (ht : Traces t (ms ++ [v, w]) w) (hms : ∀ m ∈ ms, Opens t m ws) (ho : Opens t u ws)
    (h : Stores u v ws.draftPlace text.toUTF8) (hw : Records u w ws ws.location text.toUTF8)
    (hgone : ∀ k, ws.draftPlace <+: k → w.get? k = none) :
    t.Saves ws text (ms ++ [v, w]) (.ok ()) w where
  traced := ht
  grounded := hw.grounded hgone (ho.grounded hg)
  during := by
    intro m hm
    simp only [List.mem_append, List.mem_cons, List.not_mem_nil, or_false] at hm
    rcases hm with hm | rfl | rfl
    · exact .inl ((hms m hm).get?_eq hp)
    · exact .inl (ho.statusPlace_of_stores hp h)
    · exact .inr ⟨rfl, rfl⟩
  written := fun _ => ⟨hw.content, hw.no_draft⟩
  failed := nofun
  others := by
    intro m hm k hks hk
    have hsame : w.get? k = u.get? k := by
      by_cases hb : ws.draftPlace <+: k
      · -- below the draft there was nothing before, and there is nothing now
        have hnone := (ho.grounded hg).get?_eq_none h.not_dir hb (Ne.symm hk)
        rw [hgone k hb, hnone]
      · exact hw.other k hks (Bool.eq_false_iff.mpr fun hc => hb (isWithin_iff.mp hc))
    have hlast : KeptOrOpened t w ws k := by
      rw [KeptOrOpened, hsame]
      exact ho.view k
    simp only [List.mem_append, List.mem_cons, List.not_mem_nil, or_false] at hm
    rcases hm with (hm | rfl | rfl) | rfl
    · exact (hms m hm).view k
    · exact ho.keptOrOpened_of_stores h hk
    · exact hlast
    · exact hlast

end FileTree

theorem Instance.persist_saves {i : Instance} {s : Site} (hg : s.files.Grounded)
    (hp : ¬ i.workspace.Passes i.workspace.statusPlace) :
    s.files.Saves i.workspace ((i.status s.clock).line ++ "\n") (i.persistMoments s) (i.persist s).1
      (i.persist s).2.files := by
  have hmakes := s.files.createDirs_makes i.workspace
  have htraces := hmakes.traces
  obtain ⟨hms, ho⟩ := hmakes.opens
  unfold persistMoments persist
  cases hc : s.files.createDirs i.workspace with
  | mk made t =>
    rw [hc] at htraces ho
    cases made with
    | error f =>
      simp only [List.append_nil]
      exact saves_of_opens hg hp htraces hms ho _
    | ok _ =>
      have hreplaces := t.replaceStatus_replaces i.workspace (i.status s.clock)
      have htraced := htraces.append (t.replaceStatus_traces i.workspace (i.status s.clock))
      simp only [FileTree.writeStatus]
      cases hr : t.replaceStatus i.workspace (i.status s.clock) with
      | mk written u =>
        rw [hr] at hreplaces htraced
        generalize t.replaceStatusMoments i.workspace (i.status s.clock) = ns at *
        cases hreplaces with
        | unwritten f =>
          rw [List.append_nil] at htraced ⊢
          exact saves_of_opens hg hp htraced hms ho _
        | unmoved f hstores hsolid hdir =>
          exact saves_of_unmoved hg hp htraced hms ho hstores hsolid hdir _
        | moved hstores hrecords hgone =>
          exact saves_of_moved hg hp htraced hms ho hstores hrecords hgone

/-- Saving depends on the files and on the time alone. -/
theorem Instance.persist_congr (i : Instance) {s s' : Site} (hf : s.files = s'.files)
    (hc : s.clock = s'.clock) :
    (i.persist s).1 = (i.persist s').1 ∧ (i.persist s).2.files = (i.persist s').2.files := by
  unfold persist
  rw [hf, hc]
  split <;> exact ⟨rfl, rfl⟩

/-! ## Requests to an instance -/

theorem Operation.IsDirect.workspace_change {o : Operation} (h : o.IsDirect) (now : Millis)
    (i : Instance) : (o.change now i).workspace = i.workspace := by
  cases o with
  | countRestart =>
    simp only [change, Instance.recounted]
    split <;> rfl
  | clone => exact h.elim
  | _ => rfl

/-- An operation asked of an instance, and when. -/
structure Request where
  time : Millis
  operation : Operation

def Request.change (i : Instance) (q : Request) : Instance := q.operation.change q.time i

/-- An instance on its site, with the record that the latest successful write left. -/
structure Tracked where
  item : Instance
  site : Site
  saved : Option StatusRecord := none

namespace Tracked

def answer (x : Tracked) (q : Request) : Transition Unit :=
  q.operation.run x.item { x.site with clock := q.time }

/-- The instance, its site and the record saved last after a request. -/
def serve (x : Tracked) (q : Request) : Tracked where
  item := (x.answer q).item
  site := (x.answer q).site
  saved := if q.operation.persists && (x.answer q).result.isOk then
    some ((x.answer q).item.status q.time)
    else x.saved

/-- The trees while a request is served, one after each operation on files. -/
def moments (x : Tracked) (q : Request) : List FileTree :=
  if q.operation.persists then (q.change x.item).persistMoments { x.site with clock := q.time }
    else []

/-- What the status file is in the tree `t`: what it was in the first tree if nothing was saved yet,
else the line of the record saved last. -/
structure Shows (x : Tracked) (first t : FileTree) : Prop where
  unsaved : x.saved = none →
    t.get? x.item.workspace.statusPlace = first.get? x.item.workspace.statusPlace
  saved : ∀ r ∈ x.saved, ∃ b, t.get? x.item.workspace.statusPlace =
    some (.file (r.line ++ "\n").toUTF8 b)

/-- What a request to `x` does to the files, `first` being the tree from before all requests. -/
structure Atomic (x : Tracked) (first : FileTree) (q : Request) : Prop where
  traced : Traces x.site.files (x.moments q) (x.serve q).site.files
  item : (x.serve q).item = q.change x.item
  shows : (x.serve q).Shows first (x.serve q).site.files
  /-- The record saved before is shown up to the last moment of a success. -/
  during : ∀ m ∈ x.moments q,
    x.Shows first m ∨ (x.answer q).result = .ok () ∧ m = (x.serve q).site.files
  failed : ∀ e, (x.answer q).result = .error e → (x.serve q).saved = x.saved ∧
    (x.serve q).site.files.get? x.item.workspace.statusPlace =
      x.site.files.get? x.item.workspace.statusPlace ∧
    (KeptOrOpened x.site.files (x.serve q).site.files x.item.workspace x.item.workspace.draftPlace ∨
      x.site.files.isDir x.item.workspace.statusPlace = true ∧
        ∃ b, (x.serve q).site.files.get? x.item.workspace.draftPlace =
          some (.file (((q.change x.item).status q.time).line ++ "\n").toUTF8 b))
  written : q.operation.persists = true → (x.answer q).result = .ok () →
    (x.serve q).saved = some ((q.change x.item).status q.time) ∧
      (x.serve q).site.files.get? x.item.workspace.draftPlace = none
  others : ∀ m, m ∈ x.moments q ∨ m = (x.serve q).site.files →
    ∀ k, k ≠ x.item.workspace.statusPlace →
    k ≠ x.item.workspace.draftPlace → KeptOrOpened x.site.files m x.item.workspace k

/-- An instance of the workspace between requests. -/
structure Standing (first : FileTree) (ws : Path) (x : Tracked) : Prop where
  workspace : x.item.workspace = ws
  grounded : x.site.files.Grounded
  shows : x.Shows first x.site.files

variable {x : Tracked} {first : FileTree} {q : Request} {ws : Path}

theorem Shows.of_get?_eq {t u : FileTree} (h : x.Shows first t)
    (he : u.get? x.item.workspace.statusPlace = t.get? x.item.workspace.statusPlace) :
    x.Shows first u := by
  constructor
  · exact fun hs => he.trans (h.unsaved hs)
  · rw [he]
    exact h.saved

theorem item_serve (x : Tracked) (q : Request) : (x.serve q).item = q.change x.item :=
  Operation.run_item x.item { x.site with clock := q.time } q.operation

/-- A request that does not persist leaves the files alone. -/
theorem answer_of_idle (h : q.operation.persists = false) :
    (x.answer q).result = .ok () ∧ (x.answer q).site.files = x.site.files := by
  unfold answer
  cases ho : q.operation with
  | setRestart => exact ⟨rfl, rfl⟩
  | setRuntime => exact ⟨rfl, rfl⟩
  | clone => exact ⟨rfl, rfl⟩
  | _ =>
    rw [ho] at h
    cases h

/-- A request that persists saves what it made of the instance. -/
theorem answer_saves (h : q.operation.persists = true) (hq : q.operation.IsDirect)
    (hg : x.site.files.Grounded) (hp : ¬ x.item.workspace.Passes x.item.workspace.statusPlace) :
    x.site.files.Saves x.item.workspace (((q.change x.item).status q.time).line ++ "\n")
    (x.moments q)
      (x.answer q).result (x.answer q).site.files := by
  obtain ⟨s₁, hf, hclock, hrun⟩ :=
    Operation.run_eq_save (i := x.item) (s := { x.site with clock := q.time }) h
  have hws : (q.change x.item).workspace = x.item.workspace := hq.workspace_change q.time x.item
  have hrun : x.answer q = (q.change x.item).save s₁ := hrun
  obtain ⟨hresult, hfiles⟩ := (q.change x.item).persist_congr hf hclock
  have hsaves := Instance.persist_saves (i := q.change x.item)
    (s := { x.site with clock := q.time }) hg
    (by rw [hws]; exact hp)
  rw [hws, ← hresult, ← hfiles] at hsaves
  rw [hrun, moments, if_pos h]
  exact hsaves

theorem saved_of_ok (h : q.operation.persists = true) (hr : (x.answer q).result = .ok ()) :
    (x.serve q).saved = some ((q.change x.item).status q.time) := by
  have hi : (x.answer q).item = q.change x.item := x.item_serve q
  simp [serve, h, hr, hi, Except.isOk, Except.toBool]

theorem saved_of_error {e : StatusError} (hr : (x.answer q).result = .error e) :
    (x.serve q).saved = x.saved := by
  simp [serve, hr, Except.isOk, Except.toBool]

theorem saved_of_idle (h : q.operation.persists = false) : (x.serve q).saved = x.saved := by
  simp [serve, h]

/-- What a request leaves as it is shows the same record. -/
theorem Shows.serve {t u : FileTree} (h : x.Shows first t) (hq : q.operation.IsDirect)
    (hs : (x.serve q).saved = x.saved)
    (he : u.get? x.item.workspace.statusPlace = t.get? x.item.workspace.statusPlace) :
    (x.serve q).Shows first u := by
  have hws : (x.serve q).item.workspace = x.item.workspace := by
    rw [item_serve]
    exact hq.workspace_change q.time x.item
  have hu : x.Shows first u := h.of_get?_eq he
  constructor
  · rw [hs, hws]
    exact hu.unsaved
  · rw [hs, hws]
    exact hu.saved

/-- What a request that persists does. -/
theorem Standing.atomic (h : x.Standing first ws) (hq : q.operation.IsDirect)
    (hp : q.operation.persists = true)
    (hs : x.site.files.Saves x.item.workspace (((q.change x.item).status q.time).line ++ "\n")
    (x.moments q)
      (x.answer q).result (x.answer q).site.files) : x.Atomic first q where
  traced := hs.traced
  item := x.item_serve q
  shows := by
    cases hr : (x.answer q).result with
    | error e => exact h.shows.serve hq (saved_of_error hr) (hs.failed e hr).1
    | ok _ =>
      have hws : (x.serve q).item.workspace = x.item.workspace := by
        rw [item_serve]
        exact hq.workspace_change q.time x.item
      constructor
      · intro hn
        rw [saved_of_ok hp hr] at hn
        cases hn
      · intro r hsaved
        rw [saved_of_ok hp hr] at hsaved
        obtain rfl := Option.some.inj hsaved
        rw [hws]
        exact (hs.written hr).1
  during := fun m hm => (hs.during m hm).imp_left fun he => Shows.of_get?_eq h.shows he
  failed := fun e hr => ⟨saved_of_error hr, hs.failed e hr⟩
  written := fun _ hr => ⟨saved_of_ok hp hr, (hs.written hr).2⟩
  others := hs.others

/-- What a request does that persists nothing. -/
theorem Standing.atomic_of_idle (h : x.Standing first ws) (hq : q.operation.IsDirect)
    (hi : q.operation.persists = false) : x.Atomic first q := by
  obtain ⟨hr, hf⟩ := x.answer_of_idle hi
  have hm : x.moments q = [] := by simp [moments, hi]
  refine ⟨?_, x.item_serve q, ?_, ?_, ?_, ?_, ?_⟩
  · rw [hm, show (x.serve q).site.files = x.site.files from hf]
    exact .nil
  · exact h.shows.serve hq (saved_of_idle hi) (congrFun (congrArg get? hf) _)
  · simp [hm]
  · intro e he
    rw [hr] at he
    cases he
  · intro hp
    rw [hi] at hp
    cases hp
  · intro m hmem k _ _
    have hfinal : m = x.site.files := by
      simpa [hm, show (x.serve q).site.files = x.site.files from hf] using hmem
    exact .inl (hfinal ▸ rfl)

/-- A request keeps the standing of an instance and changes its status file in one step. -/
theorem Standing.serve (h : x.Standing first ws) (hp : ¬ ws.Passes ws.statusPlace)
    (hq : q.operation.IsDirect) : x.Atomic first q ∧ (x.serve q).Standing first ws := by
  have hws : (x.serve q).item.workspace = ws := by
    rw [item_serve, ← h.workspace]
    exact hq.workspace_change q.time x.item
  cases hi : q.operation.persists with
  | false =>
    have ha := h.atomic_of_idle hq hi
    have hf : (x.serve q).site.files = x.site.files := (x.answer_of_idle hi).2
    exact ⟨ha, hws, hf ▸ h.grounded, ha.shows⟩
  | true =>
    have hs := answer_saves hi hq h.grounded (h.workspace ▸ hp)
    have ha := h.atomic hq hi hs
    exact ⟨ha, hws, hs.grounded, ha.shows⟩

def start (i : Instance) (s : Site) : Tracked := ⟨i, s, none⟩

def withFiles (x : Tracked) (t : FileTree) : Tracked :=
  { x with site := { x.site with files := t } }

/-- The instance as it is after the listed requests, each of which may have failed. Between them
others may change the files, as long as they leave the status file alone. -/
inductive Served (i : Instance) (s : Site) : List Request → Tracked → Prop
  | start : Served i s [] (start i s)
  | request {qs : List Request} {x : Tracked} (q : Request) : Served i s qs x →
    q.operation.IsDirect → Served i s (qs ++ [q]) (x.serve q)
  | others {qs : List Request} {x : Tracked} (t : FileTree) : Served i s qs x → t.Grounded →
    t.get? i.workspace.statusPlace = x.site.files.get? i.workspace.statusPlace →
    Served i s qs (x.withFiles t)

variable {i : Instance} {s : Site} {qs : List Request}

theorem Served.standing (h : Served i s qs x) (hg : s.files.Grounded)
    (hp : ¬ i.workspace.Passes i.workspace.statusPlace) : x.Standing s.files i.workspace := by
  induction h with
  | start => exact ⟨rfl, hg, fun _ => rfl, nofun⟩
  | request q _ hq ih => exact (ih.serve hp hq).2
  | others t _ ht he ih =>
    rw [← ih.workspace] at he
    have hshows := ih.shows.of_get?_eq he
    exact ⟨ih.workspace, ht, hshows.unsaved, hshows.saved⟩

/-- In memory an instance changes the same way whether or not it could be saved. -/
theorem Served.item_eq (h : Served i s qs x) : x.item = qs.foldl Request.change i := by
  induction h with
  | start => rfl
  | request q _ _ ih =>
    rw [List.foldl_append, item_serve, ih]
    rfl
  | others t _ _ _ ih => exact ih

theorem Served.direct (h : Served i s qs x) : ∀ q ∈ qs, q.operation.IsDirect := by
  induction h with
  | start => nofun
  | request q _ hq ih =>
    intro r hr
    rcases List.mem_append.mp hr with hr | hr
    · exact ih r hr
    · exact List.mem_singleton.mp hr ▸ hq
  | others t _ _ _ ih => exact ih

/-- Without others, requests change nothing else but missing directories. -/
theorem Standing.foldl_serve (h : x.Standing first ws) (hp : ¬ ws.Passes ws.statusPlace)
    (hqs : ∀ q ∈ qs, q.operation.IsDirect) {k : Location} (hk : k ≠ ws.statusPlace)
    (hk' : k ≠ ws.draftPlace) : KeptOrOpened x.site.files
      (qs.foldl Tracked.serve x).site.files ws k := by
  induction qs generalizing x with
  | nil => exact .inl rfl
  | cons q qs ih =>
    obtain ⟨ha, hs⟩ := h.serve hp (hqs q List.mem_cons_self)
    have hlater := ih hs fun r hr => hqs r (List.mem_cons_of_mem _ hr)
    have hnow := ha.others (x.serve q).site.files (.inr rfl) k
    rw [h.workspace] at hnow
    exact (hnow hk hk').trans hlater

/-- Requests may be made one after the other, without others. -/
theorem Served.foldl (h : Served i s qs x) {rs : List Request}
    (hrs : ∀ r ∈ rs, r.operation.IsDirect) :
    Served i s (qs ++ rs) (rs.foldl Tracked.serve x) := by
  induction rs generalizing qs x with
  | nil => rwa [List.append_nil]
  | cons r rs ih =>
    have hnext := ih (h.request r (hrs r List.mem_cons_self)) fun r hr =>
      hrs r (List.mem_cons_of_mem _ hr)
    rwa [List.append_assoc] at hnext

/-- After any requests to an instance the next one changes the status file in one step or not at
all, and a success writes all that the requests made of the instance. Other places are kept, but for
the workspace and missing directories above it. -/
theorem Served.status_atomic (hg : s.files.Grounded)
    (hp : ¬ i.workspace.Passes i.workspace.statusPlace) (h : Served i s qs x)
    (hq : q.operation.IsDirect) :
    x.item = qs.foldl Request.change i ∧ x.Shows s.files x.site.files ∧ x.Atomic s.files q ∧
      (x = qs.foldl Tracked.serve (Tracked.start i s) → ∀ k, k ≠ i.workspace.statusPlace →
        k ≠ i.workspace.draftPlace → KeptOrOpened s.files x.site.files i.workspace k) := by
  have hs := h.standing hg hp
  have hstart : (Tracked.start i s).Standing s.files i.workspace := Served.start.standing hg hp
  refine ⟨h.item_eq, hs.shows, (hs.serve hp hq).1, ?_⟩
  rintro rfl k hk hk'
  exact hstart.foldl_serve hp h.direct hk hk'

/-- An instance in the workspace `out`. -/
def sampleItem : Instance := Instance.ofTemplate (Template.new "sim" "run") ⟨"out"⟩ 0

/-- A site with a file in the place of that workspace. -/
def obstructedSite : Site := { files := ({} : FileTree).put ["out"] (.file "x".toUTF8 false) }

theorem grounded_obstructedSite : obstructedSite.files.Grounded := by
  have hstores : Stores {} obstructedSite.files ["out"] "x".toUTF8 := stores_put rfl rfl _ _
  have hsolid : ({} : FileTree).Solid ([] ++ ["out"]) := solid_nil.concat rfl
  exact hstores.grounded hsolid grounded_empty

/-- The start of the instance could not be saved, and then others removed the file. -/
def unsaved : Tracked := ((start sampleItem obstructedSite).serve ⟨5, .start⟩).withFiles {}

/-- The save that follows succeeds, and it writes what the failed request changed. -/
theorem status_atomic_unsaved :
    Served sampleItem obstructedSite [⟨5, .start⟩] unsaved ∧
      ((start sampleItem obstructedSite).answer ⟨5, .start⟩).result =
        .error (.write ⟨"out"⟩ .alreadyExists) ∧
      (unsaved.answer ⟨7, .setUp⟩).result = .ok () ∧
      (unsaved.serve ⟨7, .setUp⟩).Shows obstructedSite.files
        (unsaved.serve ⟨7, .setUp⟩).site.files ∧
      (unsaved.serve ⟨7, .setUp⟩).saved = some ((sampleItem.started 5).status 7) ∧
      (∃ b, (unsaved.serve ⟨7, .setUp⟩).site.files.get? ["out", "STATUS"] =
        some (.file "sim RUNNING ------- 0d:00h:00m:00s 0d:00h:00m:00s 0 out\n".toUTF8 b)) ∧
      (unsaved.serve ⟨7, .setUp⟩).site.files.get? ["out", ".STATUS.tmp"] = none := by
  have hserved : Served sampleItem obstructedSite [⟨5, .start⟩] unsaved :=
    .others {} (.request ⟨5, .start⟩ .start trivial) grounded_empty (by rfl)
  have hp : ¬ sampleItem.workspace.Passes sampleItem.workspace.statusPlace := by
    intro h
    have hprefix : ["out", "STATUS"] <+: ["out"] := h.prefix_location (by decide)
    exact absurd hprefix.length_le (by decide)
  have hr : (unsaved.answer ⟨7, .setUp⟩).result = .ok () := by rfl
  have h := hserved.status_atomic (q := ⟨7, .setUp⟩) grounded_obstructedSite hp trivial
  obtain ⟨hitem, -, ha, -⟩ := h
  have hshows := ha.shows
  obtain ⟨hsaved, hdraft⟩ := ha.written rfl hr
  have hchange : Request.change unsaved.item ⟨7, .setUp⟩ = sampleItem.started 5 := by
    rw [hitem]
    rfl
  have hplace : unsaved.item.workspace.draftPlace = ["out", ".STATUS.tmp"] := by
    rw [hitem]
    rfl
  rw [hchange] at hsaved
  rw [hplace] at hdraft
  have hstatus : (unsaved.serve ⟨7, .setUp⟩).item.workspace.statusPlace =
    ["out", "STATUS"] := by rfl
  have hline : ((sampleItem.started 5).status 7).line ++ "\n" =
      "sim RUNNING ------- 0d:00h:00m:00s 0d:00h:00m:00s 0 out\n" := by rfl
  obtain ⟨b, hfile⟩ := hshows.saved _ hsaved
  rw [hstatus, hline] at hfile
  exact ⟨hserved, by rfl, hr, hshows, hsaved, ⟨b, hfile⟩, hdraft⟩

/-- The instance in a workspace whose path leads through the place of its status file. -/
def windingItem : Instance := { sampleItem with workspace := ⟨"a/STATUS/.."⟩ }

/-- A directory is made in the place of that status file, by a request that fails. -/
theorem serve_opens_statusPlace :
    windingItem.workspace.statusPlace = ["a", "STATUS"] ∧
      ((start windingItem {}).answer ⟨0, .setUp⟩).result =
        .error (.write ⟨"a/STATUS/../STATUS"⟩ .isDirectory) ∧
      (start windingItem {}).site.files.get? ["a", "STATUS"] = none ∧
      ((start windingItem {}).serve ⟨0, .setUp⟩).site.files.get? ["a", "STATUS"] =
        some .directory :=
  ⟨by rfl, by rfl, by rfl, by rfl⟩

end Tracked

end StudyFlow
