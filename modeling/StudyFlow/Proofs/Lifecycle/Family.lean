import StudyFlow.Proofs.Drive.Requests
import StudyFlow.Proofs.Expansion.Outcomes

/-!
# An instance and its copies

A caller has an instance of a template, and whatever it does with it makes a family: it asks
operations of the members, drives them and copies them, each as often as it likes and in any order.
Beside each member stands what was asked of it, also by its drives. The sites are arbitrary, and at
each move of a drive anew, so that each write may have failed and others may have changed the files.

`Family.keeps` is the induction over all this: what one operation and one copy keep holds of each
member.
-/

namespace StudyFlow

variable {σ : Type}

/-- The instance was just made of the template: by itself, or as one of its instances below a
root. -/
inductive Template.Builds (t : Template) : Instance → Prop
  | alone (workspace : Path) (now : Millis) : Builds t (.ofTemplate t workspace now)
  | below (workspace root : Path) (now : Millis) :
    Builds t ((Instance.ofTemplate t workspace now).withStudyRoot root)
  | listed {ps : ParameterSet} {root : Path} {now : Millis} {is : List Instance} {i : Instance} :
    t.instances ps root now = .ok is → i ∈ is → Builds t i

/-- Nothing has happened to an instance that was just made, and its limit is the one of the
template. -/
theorem Template.Builds.fresh {t : Template} {i : Instance} (h : t.Builds i) :
    (∃ now, i.Fresh now) ∧ i.restartLimit = t.run.maxRetries := by
  cases h with
  | alone workspace now => exact ⟨⟨now, rfl, rfl, rfl, rfl, rfl, rfl, rfl, rfl⟩, rfl⟩
  | below workspace root now => exact ⟨⟨now, rfl, rfl, rfl, rfl, rfl, rfl, rfl, rfl⟩, rfl⟩
  | listed hat hi =>
    rcases mem_instances hat hi with ⟨rfl, -⟩ | ⟨k, rfl, -⟩
    · exact ⟨⟨_, rfl, rfl, rfl, rfl, rfl, rfl, rfl, rfl⟩, rfl⟩
    · exact ⟨⟨_, rfl, rfl, rfl, rfl, rfl, rfl, rfl, rfl⟩, rfl⟩

/-- An instance with the operations that were asked of it, the latest last. -/
structure Member where
  item : Instance
  asked : List Operation := []

namespace Member

/-- The member once an operation was asked of it. -/
def ask (x : Member) (o : Operation) (s : Site) : Member := ⟨(o.run x.item s).item, x.asked ++ [o]⟩

/-- A copy of the member, of which nothing was asked yet. -/
def copy (x : Member) (pairs : List (String × String)) (workspace : Option Path)
    (s : Site) : Member :=
  ⟨((Operation.clone pairs workspace).run x.item s).item, []⟩

/-- A drive of the member may have come this far, and then these operations were asked, the earlier
ones included. -/
inductive Driven (b : Bridge σ) (x : Member) : Drive → List Operation → Prop
  | begin : Driven b x (Drive.begin x.item) x.asked
  | move {d : Drive} {os : List Operation} (st : σ) (s : Site) : Driven b x d os →
    Driven b x (d.step b st s).1 (os ++ d.asks b st s)

end Member

/-- The members that the instance and its copies make up, in the order in which they came about. A
drive may have been broken off after any move, as an adapter that is lost does. -/
inductive Family (i : Instance) : List Member → Prop
  | alone : Family i [⟨i, []⟩]
  | ask {xs : List Member} {k : Nat} {x : Member} (o : Operation) (s : Site) : Family i xs →
    xs[k]? = some x → o.IsDirect → Family i (xs.set k (x.ask o s))
  | drive {xs : List Member} {k : Nat} {x : Member} {σ : Type} {b : Bridge σ} {d : Drive}
    {os : List Operation} : Family i xs → xs[k]? = some x → x.Driven b d os →
    Family i (xs.set k ⟨d.item, os⟩)
  | copy {xs : List Member} {k : Nat} {x : Member} (pairs : List (String × String))
    (workspace : Option Path) (s : Site) : Family i xs → xs[k]? = some x →
    Family i (xs ++ [x.copy pairs workspace s])

variable {i : Instance} {xs : List Member} {x : Member} {k : Nat}

theorem Family.ask_sole (h : Family i [x]) (o : Operation) (s : Site) (ho : o.IsDirect) :
    Family i [x.ask o s] :=
  h.ask (k := 0) o s rfl ho

/-! ## Induction over a family -/

section Keeps

variable {P : List Operation → Instance → Prop}
  (hask : ∀ os j o now, o.IsDirect → P os j → P (os ++ [o]) (Operation.change now j o))

include hask

theorem keeps_foldl {os more : List Operation} {j : Instance} {now : Millis}
    (hmore : ∀ o ∈ more, o.IsDirect) (h : P os j) :
    P (os ++ more) (more.foldl (Operation.change now) j) := by
  induction more generalizing os j with
  | nil => rwa [List.append_nil]
  | cons o more ih =>
    have hnext : P (os ++ [o]) (o.change now j) := hask os j o now (hmore o List.mem_cons_self) h
    rw [List.append_cons]
    exact ih (fun p hp => hmore p (List.mem_cons_of_mem _ hp)) hnext

/-- What a single operation keeps holds at each move of a drive. -/
theorem Member.Driven.keeps {b : Bridge σ} {d : Drive} {os : List Operation} (h : x.Driven b d os)
    (hx : P x.asked x.item) : P os d.item := by
  induction h with
  | begin => exact hx
  | move st s _ ih =>
    rw [Drive.item_step]
    exact keeps_foldl hask (fun _ ho => Drive.direct_of_mem_asks ho) ih

/-- What a single operation keeps and a copy begins with holds of all members. -/
theorem Family.keeps (h : Family i xs) (hi : P [] i)
    (hcopy : ∀ os j pairs workspace now, P os j → P [] (Instance.cloneWith j pairs workspace now)) :
    ∀ x ∈ xs, P x.asked x.item := by
  induction h with
  | alone =>
    intro x hx
    rw [List.mem_singleton.mp hx]
    exact hi
  | ask o s _ hk ho ih =>
    intro y hy
    rcases List.mem_or_eq_of_mem_set hy with hy | rfl
    · exact ih y hy
    · rw [Member.ask, Operation.run_item]
      exact hask _ _ o s.clock ho (ih _ (List.mem_of_getElem? hk))
  | drive _ hk hd ih =>
    intro y hy
    rcases List.mem_or_eq_of_mem_set hy with hy | rfl
    · exact ih y hy
    · exact hd.keeps hask (ih _ (List.mem_of_getElem? hk))
  | copy pairs workspace s _ hk ih =>
    intro y hy
    rcases List.mem_append.mp hy with hy | hy
    · exact ih y hy
    · rw [List.mem_singleton.mp hy]
      exact hcopy _ _ pairs workspace s.clock (ih _ (List.mem_of_getElem? hk))

end Keeps

/-! ## Whole drives -/

/-- A drive may go on by itself. -/
theorem Member.Driven.moves {b : Bridge σ} {d : Drive} {os : List Operation}
    (h : x.Driven b d os) (n : Nat) (st : σ) (s : Site) :
    x.Driven b (d.moves b n st s).1 (os ++ d.asksWithin b n st s) := by
  induction n generalizing d os st s with
  | zero =>
    rw [Drive.asksWithin, List.append_nil]
    exact h
  | succ n ih =>
    rw [Drive.moves_succ, Drive.asksWithin, ← List.append_assoc]
    exact ih (h.move st s) _ _

theorem Member.Driven.reaches {b : Bridge σ} {d : Drive} {os : List Operation}
    (h : x.Driven b d os) :
    Drive.Reaches b x.item d := by
  induction h with
  | begin => exact .begin
  | move st s _ ih => exact ih.step st s

def Member.moved (x : Member) (b : Bridge σ) (n : Nat) (st : σ) (s : Site) : Member :=
  ⟨((Drive.begin x.item).moves b n st s).1.item,
    x.asked ++ (Drive.begin x.item).asksWithin b n st s⟩

/-- A member may be driven by itself, to the end or not. -/
theorem Family.moves (h : Family i xs) (hk : xs[k]? = some x) (b : Bridge σ) (n : Nat)
    (st : σ) (s : Site) :
    Family i (xs.set k (x.moved b n st s)) :=
  h.drive hk (Member.Driven.begin.moves n st s)

/-- So is a whole run: it makes the moves that it takes. -/
theorem Family.run (h : Family i xs) (hk : xs[k]? = some x) (b : Bridge σ) (st : σ) (s : Site) :
    Family i (xs.set k ⟨(Drive.run b x.item st s).2.1, (x.moved b Drive.moveBound st s).asked⟩) :=
  h.moves hk b Drive.moveBound st s

theorem Family.moves_sole (h : Family i [x]) (b : Bridge σ) (n : Nat) (st : σ) (s : Site) :
    Family i [x.moved b n st s] :=
  h.moves (k := 0) rfl b n st s

end StudyFlow
