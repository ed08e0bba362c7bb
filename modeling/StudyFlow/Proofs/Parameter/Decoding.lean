import Mathlib.Data.List.Forall2
import StudyFlow.Proofs.Parameter.Validation
import StudyFlow.Proofs.Yaml.Decoded
import StudyFlow.Study.Sections

/-!
# What a section of parameters gives

The entries of a section are delivered in the order of the document, each with its name, its label
if it has one, and its values as untyped data. The set of parameters has one parameter for each
entry, in that order, and there is one exactly if the names differ and all values are scalars.
-/

namespace StudyFlow

open Yaml

/-! ## Values and their texts -/

namespace Datum

variable {d : Datum} {t : String} {ts : List String}

/-- A value that is shown by one text: a text, a number or a truth value. -/
def isScalar : Datum → Bool
  | text _ => true
  | int _ => true
  | bool _ => true
  | float (.finite _ _ _) => true
  | _ => false

/-- What the values of a parameter may be: nothing, one scalar, or a list of scalars. -/
def holdsScalars : Datum → Bool
  | null => true
  | list items => items.all isScalar
  | d => d.isScalar

/-- The text that a scalar is shown by. -/
inductive Spells : Datum → String → Prop
  | text (t : String) : Spells (text t) t
  | int (k : Int) : Spells (int k) (toString k)
  | yes : Spells (bool true) "true"
  | no : Spells (bool false) "false"
  | float {x : Binary64} {t : String} : x.toText? = some t → Spells (float x) t

/-- The texts of the values of a parameter, in order. -/
inductive Lists : Datum → List String → Prop
  | nothing : Lists null []
  | items {ds : List Datum} {ts : List String} : List.Forall₂ Spells ds ts → Lists (list ds) ts
  | one {d : Datum} {t : String} : Spells d t → Lists d [t]

theorem valueText_eq_ok_iff : d.valueText = .ok t ↔ d.Spells t := by
  constructor
  · intro h
    cases d with
    | text => cases h; exact .text _
    | int => cases h; exact .int _
    | bool b =>
      cases b with
      | false => cases h; exact .no
      | true => cases h; exact .yes
    | float x =>
      rw [valueText] at h
      cases hx : x.toText? with
      | none => simp [hx] at h
      | some s =>
        rw [hx] at h
        cases h
        exact .float hx
    | null => cases h
    | list items => cases h
    | record fields => cases h
  · intro h
    cases h with
    | text => rfl
    | int => rfl
    | yes => rfl
    | no => rfl
    | float hx => simp [valueText, hx]

theorem exists_toText? (negative : Bool) (m : Nat) (e : Int) :
    ∃ t, Binary64.toText? (.finite negative m e) = some t := by
  rw [Binary64.toText?]
  -- the search for the digits is not to be run
  generalize Binary64.shortest m e = decimal
  obtain ⟨d, k⟩ := decimal
  dsimp only
  split
  · exact ⟨_, rfl⟩
  · exact ⟨_, rfl⟩

/-- Exactly the scalars have a text. -/
theorem exists_spells_iff : (∃ t, d.Spells t) ↔ d.isScalar = true := by
  constructor
  · rintro ⟨t, h⟩
    cases h with
    | text => rfl
    | int => rfl
    | yes => rfl
    | no => rfl
    | @float x _ hx =>
      cases x with
      | finite => rfl
      | infinite => cases hx
      | notANumber => cases hx
  · intro h
    cases d with
    | text s => exact ⟨s, .text s⟩
    | int k => exact ⟨_, .int k⟩
    | bool b => cases b; exacts [⟨_, .no⟩, ⟨_, .yes⟩]
    | float x =>
      cases x with
      | finite negative m e =>
        obtain ⟨t, ht⟩ := exists_toText? negative m e
        exact ⟨t, .float ht⟩
      | infinite => cases h
      | notANumber => cases h
    | null => cases h
    | list items => cases h
    | record fields => cases h

end Datum

/-- Going over a list succeeds exactly if each element has a value. -/
theorem mapM_eq_ok_iff {α β ε : Type} {f : α → Except ε β} {xs : List α} {ys : List β} :
    xs.mapM f = .ok ys ↔ List.Forall₂ (fun x y => f x = .ok y) xs ys := by
  induction xs generalizing ys with
  | nil =>
    rw [List.mapM_nil, List.forall₂_nil_left_iff]
    exact ⟨fun h => (Except.ok.inj h).symm, fun h => h ▸ rfl⟩
  | cons x xs ih =>
    rw [List.mapM_cons, List.forall₂_cons_left_iff]
    cases hx : f x with
    | error e => simp [bind, Except.bind]
    | ok y =>
      cases hxs : xs.mapM f with
      | error e =>
        refine ⟨nofun, ?_⟩
        rintro ⟨y', ys', -, hrest, -⟩
        rw [ih.mpr hrest] at hxs
        cases hxs
      | ok ys' =>
        have hrest := ih.mp hxs
        constructor
        · intro h
          obtain rfl := Except.ok.inj h
          exact ⟨y, ys', rfl, hrest, rfl⟩
        · rintro ⟨z, zs, hz, hzs, rfl⟩
          obtain rfl := Except.ok.inj hz
          obtain rfl := Except.ok.inj (hxs.symm.trans (ih.mpr hzs))
          rfl

/-- Where each element has a partner, the list has one. -/
theorem exists_forall₂_iff {α β : Type} {R : α → β → Prop} {xs : List α} :
    (∃ ys, List.Forall₂ R xs ys) ↔ ∀ x ∈ xs, ∃ y, R x y := by
  constructor
  · rintro ⟨ys, h⟩
    induction h with
    | nil => exact nofun
    | cons hr _ ih => exact List.forall_mem_cons.mpr ⟨⟨_, hr⟩, ih⟩
  · intro h
    induction xs with
    | nil => exact ⟨[], .nil⟩
    | cons x xs ih =>
      obtain ⟨⟨y, hy⟩, hxs⟩ := List.forall_mem_cons.mp h
      obtain ⟨ys, hys⟩ := ih hxs
      exact ⟨y :: ys, .cons hy hys⟩

namespace Datum

variable {d : Datum} {ts ts' : List String}

/-- What is neither null nor a list has its own text for its only one. -/
theorem lists_iff_of_ne (hnull : d ≠ null) (hlist : ∀ items, d ≠ list items) :
    d.Lists ts ↔ ∃ t, d.Spells t ∧ ts = [t] := by
  constructor
  · intro h
    cases h with
    | nothing => exact absurd rfl hnull
    | items => exact absurd rfl (hlist _)
    | one ht => exact ⟨_, ht, rfl⟩
  · rintro ⟨t, ht, rfl⟩
    exact .one ht

theorem valueTexts_eq_ok_iff : d.valueTexts = .ok ts ↔ d.Lists ts := by
  have hone : ∀ d : Datum, d ≠ null → (∀ items, d ≠ list items) →
      ((fun s => [s]) <$> d.valueText = .ok ts ↔ d.Lists ts) := by
    intro d hnull hlist
    rw [lists_iff_of_ne hnull hlist]
    simp only [← valueText_eq_ok_iff]
    cases d.valueText <;> simp [Functor.map, Except.map, eq_comm]
  cases d with
  | null =>
    constructor
    · intro h
      cases h
      exact .nothing
    · intro h
      cases h with
      | nothing => rfl
      | one ht => cases ht
  | list items =>
    rw [valueTexts, mapM_eq_ok_iff]
    simp only [valueText_eq_ok_iff]
    constructor
    · exact .items
    · intro h
      cases h with
      | items hts => exact hts
      | one ht => cases ht
  | bool b => exact hone _ nofun nofun
  | int k => exact hone _ nofun nofun
  | float x => exact hone _ nofun nofun
  | text t => exact hone _ nofun nofun
  | record fields => exact hone _ nofun nofun

theorem Lists.unique (h : d.Lists ts) (h' : d.Lists ts') : ts' = ts :=
  Except.ok.inj ((valueTexts_eq_ok_iff.mpr h').symm.trans (valueTexts_eq_ok_iff.mpr h))

/-- Exactly what holds scalars only has texts. -/
theorem exists_lists_iff : (∃ ts, d.Lists ts) ↔ d.holdsScalars = true := by
  have hone : ∀ d : Datum, d ≠ null → (∀ items, d ≠ list items) →
      ((∃ ts, d.Lists ts) ↔ d.isScalar = true) := by
    intro d hnull hlist
    rw [← exists_spells_iff]
    simp only [lists_iff_of_ne hnull hlist]
    exact ⟨fun ⟨_, t, ht, _⟩ => ⟨t, ht⟩, fun ⟨t, ht⟩ => ⟨_, t, ht, rfl⟩⟩
  cases d with
  | null => exact ⟨fun _ => rfl, fun _ => ⟨[], .nothing⟩⟩
  | list items =>
    rw [holdsScalars, List.all_eq_true]
    simp only [← exists_spells_iff]
    rw [← exists_forall₂_iff]
    constructor
    · rintro ⟨ts, h⟩
      cases h with
      | items hts => exact ⟨ts, hts⟩
      | one ht => cases ht
    · rintro ⟨ts, hts⟩
      exact ⟨ts, .items hts⟩
  | bool b => exact hone _ nofun nofun
  | int k => exact hone _ nofun nofun
  | float x => exact hone _ nofun nofun
  | text t => exact hone _ nofun nofun
  | record fields => exact hone _ nofun nofun

end Datum

/-! ## Entries -/

namespace Sections

variable {s : Scope} {n : Node} {k k' : Nat} {ps : ParameterSet}

/-- An entry as it is delivered: the values are data without a type. -/
structure Entry where
  name : String
  label : Option String
  values : Datum

structure EntryFields where
  label : Option (Option String) := none
  values : Option Datum := none

def entryField (s : Scope) (p : EntryFields) (key : String) (n : Node) : Decoded EntryFields :=
  match key with
  | "label" => do pure { p with label := ← once p.label (decodeOptional decodeText s n) }
  | "values" => do pure { p with values := ← once p.values (decodeDatum .anyScalar s n) }
  | _ => pure p

def decodeEntry (s : Scope) (n : Node) : Decoded (Option String × Datum) := do
  let p ← decodeSection {} entryField s n
  let values ← required p.values
  pure (p.label.getD none, values)

def decodeNamed (s : Scope) (e : Node × Node) : Decoded Entry := do
  let name ← decodeText s e.1
  let (label, values) ← decodeEntry s e.2
  pure ⟨name, label, values⟩

/-- The entries of a mapping, in order. Nothing is asked of the names and of the values. -/
def decodeEntries (s : Scope) (n : Node) : Decoded (List Entry) := do
  match ← s.target n with
  | .map tag entries =>
    if isLocalTag tag then throw .parametersNotMapping
    let s ← s.enter
    entries.mapM (decodeNamed s)
  | _ => throw .parametersNotMapping

/-- The parameter has the name of the entry, its label or the standard one, and the texts of its
values. -/
structure Entry.Gives (e : Entry) (p : Parameter) : Prop where
  name : p.name = e.name
  label : p.label = e.label.getD (defaultLabel e.name)
  values : e.values.Lists p.values

/-- The texts of the values are all that an entry leaves open. -/
theorem Entry.Gives.eq {e : Entry} {p : Parameter} {ts : List String} (h : e.Gives p)
    (hts : e.values.Lists ts) :
    p = ⟨e.name, e.label.getD (defaultLabel e.name), ts⟩ := by
  obtain ⟨name, label, values⟩ := p
  obtain ⟨rfl, rfl, hvalues⟩ := h
  exact congrArg _ (hts.unique hvalues)

theorem Entry.exists_gives_iff {e : Entry} : (∃ p, e.Gives p) ↔ e.values.holdsScalars = true := by
  rw [← Datum.exists_lists_iff]
  exact ⟨fun ⟨p, hp⟩ => ⟨p.values, hp.values⟩, fun ⟨ts, hts⟩ => ⟨⟨_, _, ts⟩, rfl, rfl, hts⟩⟩

/-- The fields that were read have the values of those that were delivered, as texts. -/
structure Reads (p : EntryFields) (q : ParameterFields) : Prop where
  label : q.label = p.label
  values : Option.Rel Datum.Lists p.values q.values

theorem Reads.unique {p : EntryFields} {q q' : ParameterFields} (h : Reads p q)
    (h' : Reads p q') : q' = q := by
  obtain ⟨label, values⟩ := p
  obtain ⟨label₁, values₁⟩ := q
  obtain ⟨label₂, values₂⟩ := q'
  obtain ⟨rfl, hv⟩ := h
  obtain ⟨rfl, hv'⟩ := h'
  cases hv with
  | none => cases hv'; rfl
  | some hts =>
    cases hv' with
    | some hts' => rw [hts.unique hts']

/-- A field that is delivered is read, unless it holds values that are no scalars. -/
theorem field_mirrors {p : EntryFields} {q : ParameterFields} (key : String) (h : Reads p q) :
    Decoded.Mirrors Reads (entryField s p key n) (parameterField s q key n) := by
  obtain ⟨label, values⟩ := p
  obtain ⟨label, texts⟩ := q
  obtain ⟨rfl, hvalues⟩ := h
  by_cases hl : key = "label"
  · subst hl
    rw [entryField, parameterField]
    exact .bind_same fun label => .pure (fun _ _ _ => Reads.unique) ⟨rfl, hvalues⟩
  by_cases hv : key = "values"
  · subst hv
    intro k q' k'
    rw [entryField, parameterField]
    simp only [Decoded.run_bind_eq_ok_iff, Decoded.run_once_eq_ok_iff, Decoded.run_pure_eq_ok_iff,
      Decoded.run_lift_eq_ok_iff, Datum.valueTexts_eq_ok_iff]
    constructor
    · rintro ⟨_, _, ⟨rfl, ts, ⟨d, k₁, hread, hts, rfl⟩, rfl⟩, rfl, rfl⟩
      cases hvalues
      exact ⟨⟨label, some d⟩, ⟨some d, _, ⟨rfl, d, hread, rfl⟩, rfl, rfl⟩, rfl, .some hts⟩
    · rintro ⟨_, ⟨_, k₁, ⟨rfl, d, hread, rfl⟩, rfl, rfl⟩, hreads⟩
      cases hvalues
      obtain ⟨_, texts⟩ := q'
      obtain ⟨rfl, hts⟩ := hreads
      cases hts with
      | some hts => exact ⟨some _, _, ⟨rfl, _, ⟨d, _, hread, hts, rfl⟩, rfl⟩, rfl, rfl⟩
  · simp only [entryField, parameterField]
    exact .pure (fun _ _ _ => Reads.unique) ⟨rfl, hvalues⟩

/-- The fields are of use if the values are scalars, once they are there. -/
theorem exists_reads_iff {p : EntryFields} :
    (∃ q, Reads p q) ↔ ∀ d, p.values = some d → d.holdsScalars = true := by
  obtain ⟨label, values⟩ := p
  simp only [← Datum.exists_lists_iff]
  cases values with
  | none => exact iff_of_true ⟨⟨label, none⟩, rfl, .none⟩ nofun
  | some d =>
    constructor
    · rintro ⟨q, -, hvalues⟩ d' hd
      obtain rfl := Option.some.inj hd
      generalize q.values = texts at hvalues
      cases hvalues with
      | some hts => exact ⟨_, hts⟩
    · intro h
      obtain ⟨ts, hts⟩ := h d rfl
      exact ⟨⟨label, some ts⟩, rfl, .some hts⟩

/-- Values that are there stay. -/
theorem values_entryField {p p' : EntryFields} {key : String} {d : Datum}
    (h : (entryField s p key n).run k = .ok (p', k')) (hd : p.values = some d) :
    p'.values = some d := by
  unfold entryField at h
  split at h
  · obtain ⟨_, -, rfl⟩ := Decoded.run_bind_pure_eq_ok_iff.mp h
    exact hd
  · obtain ⟨_, hvalue, rfl⟩ := Decoded.run_bind_pure_eq_ok_iff.mp h
    obtain ⟨hnone, -⟩ := Decoded.run_once_eq_ok_iff.mp hvalue
    cases hd.symm.trans hnone
  · rw [(Decoded.run_pure_eq_ok_iff.mp h).1, hd]

theorem reads_start : Reads {} {} := ⟨rfl, .none⟩

theorem section_mirrors :
    Decoded.Mirrors Reads (decodeSection {} entryField s n)
    (decodeSection {} parameterField s n) := by
  unfold decodeSection
  refine .bind_same fun m => ?_
  split
  · refine .bind_same fun s => ?_
    refine Decoded.Mirrors.foldlM (R := Reads) (fun _ _ _ => Reads.unique) ?_ ?_ _ reads_start
    · intro p q e h
      exact .bind_same fun key => field_mirrors key h
    · intro p e k p₁ k₁ hrun hr
      rw [Decoded.run_bind_eq_ok_iff] at hrun
      obtain ⟨key, k₂, -, hfield⟩ := hrun
      exact exists_reads_iff.mpr fun d hd => exists_reads_iff.mp hr d (values_entryField hfield hd)
  · split
    · exact .pure (fun _ _ _ => Reads.unique) reads_start
    · exact Decoded.mirrors_throw

/-- The label is that of the entry, and the values are those of the entry, as texts. -/
def Matches (x : Option String × Datum) (y : Option String × List String) : Prop :=
  y.1 = x.1 ∧ x.2.Lists y.2

theorem parameter_mirrors : Decoded.Mirrors Matches (decodeEntry s n) (decodeParameter s n) := by
  have hunique : ∀ x y y', Matches x y → Matches x y' → y' = y := fun _ _ _ h h' =>
    Prod.ext (h'.1.trans h.1.symm) (h.2.unique h'.2)
  refine section_mirrors.bind ?_ ?_
  · -- without values neither of them comes to an end
    rintro ⟨label, values⟩ ⟨label, texts⟩ ⟨rfl, hvalues⟩
    cases hvalues with
    | none =>
      exact show Decoded.Mirrors Matches (throw .form) (throw .form) from
        Decoded.mirrors_throw
    | some hts => exact Decoded.Mirrors.pure hunique ⟨rfl, hts⟩
  · rintro ⟨label, values⟩ k x k' hrun ⟨y, hy⟩
    refine exists_reads_iff.mpr ?_
    rintro d rfl
    obtain ⟨rfl, -⟩ := Decoded.run_pure_eq_ok_iff.mp hrun
    exact Datum.exists_lists_iff.mp ⟨_, hy.2⟩

/-! ## Sets of parameters -/

theorem define_eq_ok_iff {name : String} {label : Option String} {values : List String}
    {ps' : ParameterSet} :
    ParameterSet.define ps name label values = .ok ps' ↔
      name ∉ ps.map Parameter.name ∧
      ps' = ps ++ [⟨name, label.getD (defaultLabel name), values⟩] := by
  have hget : (ParameterSet.get? ps name).isSome = true ↔ name ∈ ps.map Parameter.name := by
    simp [ParameterSet.get?, List.find?_isSome]
  unfold ParameterSet.define
  by_cases hmem : name ∈ ps.map Parameter.name
  · rw [if_pos (hget.mpr hmem)]
    exact iff_of_false nofun fun h => h.1 hmem
  · rw [if_neg fun h => hmem (hget.mp h)]
    exact ⟨fun h => ⟨hmem, (Except.ok.inj h).symm⟩, fun h => congrArg _ h.2.symm⟩

/-- A parameter is added under a name that is new. -/
def Adds (ps : ParameterSet) (e : Entry) (ps' : ParameterSet) : Prop :=
  ∃ q, e.Gives q ∧ q.name ∉ ps.map Parameter.name ∧ ps' = ps ++ [q]

/-- What is added by entries is a parameter for each, under names that are new and differ. -/
theorem through_adds_iff {es : List Entry} {ps' : ParameterSet} :
    Decoded.Through Adds ps es ps' ↔ ∃ qs, ps' = ps ++ qs ∧ List.Forall₂ Entry.Gives es qs ∧
      (qs.map Parameter.name).Nodup ∧ ∀ q ∈ qs, q.name ∉ ps.map Parameter.name := by
  constructor
  · intro h
    induction h with
    | nil ps => exact ⟨[], (List.append_nil ps).symm, .nil, List.nodup_nil, nofun⟩
    | cons hadds _ ih =>
      obtain ⟨q, hq, hnewq, rfl⟩ := hadds
      obtain ⟨qs, rfl, hqs, hdistinct, hnew⟩ := ih
      refine ⟨q :: qs, by simp, .cons hq hqs, List.nodup_cons.mpr ⟨fun hm => ?_, hdistinct⟩,
        List.forall_mem_cons.mpr ⟨hnewq, fun r hr hm => hnew r hr ?_⟩⟩
      · obtain ⟨r, hr, hname⟩ := List.mem_map.mp hm
        exact hnew r hr (by simp [hname])
      · rw [List.map_append]
        exact List.mem_append_left _ hm
  · rintro ⟨qs, rfl, hgives, hdistinct, hnew⟩
    induction hgives generalizing ps with
    | nil => exact (List.append_nil ps).symm ▸ .nil ps
    | @cons e q es qs hq hqs ih =>
      obtain ⟨hfirst, hdistinct⟩ := List.nodup_cons.mp hdistinct
      obtain ⟨hnewq, hnew⟩ := List.forall_mem_cons.mp hnew
      have hapart : ∀ r ∈ qs, r.name ∉ (ps ++ [q]).map Parameter.name := by
        intro r hr hm
        rw [List.map_append, List.mem_append] at hm
        rcases hm with hm | hm
        · exact hnew r hr hm
        · exact hfirst (List.mem_singleton.mp hm ▸ List.mem_map_of_mem hr)
      have hrest : Decoded.Through Adds (ps ++ [q]) es (ps ++ [q] ++ qs) := ih hdistinct hapart
      rw [List.append_assoc] at hrest
      exact .cons ⟨q, hq, hnewq, rfl⟩ hrest

/-- Where an entry is delivered, a parameter is defined, unless its name or its values stand in the
way. -/
theorem named_mirrors {e : Node × Node} : Decoded.Mirrors (Adds ps) (decodeNamed s e) (do
    let name ← decodeText s e.1
    let (label, values) ← decodeParameter s e.2
    ParameterSet.define ps name label values) := by
  refine .bind_same fun name => parameter_mirrors.bind ?_ ?_
  · rintro ⟨label, values⟩ ⟨label, texts⟩ ⟨rfl, hvalues⟩ k ps' k'
    simp only [Decoded.run_lift_eq_ok_iff, define_eq_ok_iff, Decoded.run_pure_eq_ok_iff]
    constructor
    · rintro ⟨⟨hnew, rfl⟩, rfl⟩
      exact ⟨_, ⟨rfl, rfl⟩, _, ⟨rfl, rfl, hvalues⟩, hnew, rfl⟩
    · rintro ⟨_, ⟨rfl, rfl⟩, q, hq, hnew, rfl⟩
      rw [hq.name] at hnew
      exact ⟨⟨hnew, by rw [hq.eq hvalues]⟩, rfl⟩
  · rintro ⟨label, values⟩ k e' k' hrun ⟨_, q, hq, -⟩
    obtain ⟨rfl, -⟩ := Decoded.run_pure_eq_ok_iff.mp hrun
    exact ⟨(label, q.values), rfl, hq.values⟩

theorem mapping_mirrors {tag : Option String} {entries : List (Node × Node)} {k₁ : Nat}
    (h : (s.target n).run k = .ok (.map tag entries, k₁)) :
    (decodeParameters s n).run k = .ok (ps, k') ↔
      ∃ es, (decodeEntries s n).run k = .ok (es, k') ∧ Decoded.Through Adds [] es ps := by
  have hmirrors : Decoded.Mirrors (Decoded.Through Adds [])
      (s.enter >>= fun s => entries.mapM (decodeNamed s))
      (s.enter >>= fun s => entries.foldlM (fun ps (e : Node × Node) => do
        let name ← decodeText s e.1
        let (label, values) ← decodeParameter s e.2
        ParameterSet.define ps name label values) []) :=
    .bind_same fun s => .through (fun _ _ => named_mirrors) entries
  unfold decodeParameters decodeEntries
  rw [Decoded.run_bind_of_run h, Decoded.run_bind_of_run h]
  dsimp only
  cases isLocalTag tag with
  | true =>
    refine iff_of_false (fun hrun => ?_) ?_
    · cases hrun
    · rintro ⟨es, hrun, -⟩
      cases hrun
  | false => exact hmirrors k₁ ps k'

/-- Where the entries of a mapping are delivered, they give a set of parameters under names that
differ, or none. -/
theorem decodeParameters_of_entries {es : List Entry} {k₁ : Nat}
    (h : (decodeEntries s n).run k = .ok (es, k₁)) : (decodeParameters s n).run k = .ok (ps, k') ↔
      k' = k₁ ∧ List.Forall₂ Entry.Gives es ps ∧ (ps.map Parameter.name).Nodup := by
  obtain ⟨m, k₂, htarget, hm⟩ := Decoded.run_bind_eq_ok_iff.mp h
  cases m with
  | map tag entries =>
    rw [mapping_mirrors htarget]
    simp only [h, through_adds_iff, List.nil_append, List.map_nil, List.not_mem_nil,
      not_false_eq_true, implies_true, and_true]
    constructor
    · rintro ⟨es', hes, qs, rfl, hgives, hdistinct⟩
      cases hes
      exact ⟨rfl, hgives, hdistinct⟩
    · rintro ⟨rfl, hgives, hdistinct⟩
      exact ⟨es, rfl, ps, rfl, hgives, hdistinct⟩
  | _ => cases hm

/-- A set of parameters comes from the entries of a mapping, or is empty. -/
theorem entries_of_decodeParameters (h : (decodeParameters s n).run k = .ok (ps, k')) :
    (∃ es, (decodeEntries s n).run k = .ok (es, k')) ∨ ps = [] := by
  obtain ⟨m, k₁, htarget, hm⟩ := Decoded.run_bind_eq_ok_iff.mp h
  cases m with
  | map tag entries =>
    obtain ⟨es, hes, -⟩ := (mapping_mirrors htarget).mp h
    exact .inl ⟨es, hes⟩
  | scalar tag style text =>
    right
    dsimp only at hm
    split at hm
    · cases hm
    · split at hm
      · split at hm
        · exact (Decoded.run_pure_eq_ok_iff.mp hm).1
        · cases hm
      · obtain ⟨d, k₂, -, hd⟩ := Decoded.run_bind_eq_ok_iff.mp hm
        split at hd
        · exact (Decoded.run_pure_eq_ok_iff.mp hd).1
        · cases hd
  | _ => cases hm

theorem nodup_of_decodeParameters (h : (decodeParameters s n).run k = .ok (ps, k')) :
    (ps.map Parameter.name).Nodup := by
  rcases entries_of_decodeParameters h with ⟨es, hes⟩ | rfl
  · exact ((decodeParameters_of_entries hes).mp h).2.2
  · exact List.nodup_nil

/-- The fields of a study under other keys leave its parameters alone. -/
theorem parameters_studyField {shell key : String} {f f' : StudyFields} (hkey : key ≠ "parameters")
    (h : (studyField shell s f key n).run k = .ok (f', k')) : f'.parameters = f.parameters := by
  have hset : ∀ {α : Type} {x : Decoded α} {g : α → StudyFields},
      (x >>= fun a => pure (g a)).run k = .ok (f', k') → (∀ a, (g a).parameters = f.parameters) →
        f'.parameters = f.parameters := by
    intro α x g hrun hg
    obtain ⟨a, -, rfl⟩ := Decoded.run_bind_pure_eq_ok_iff.mp hrun
    exact hg a
  unfold studyField at h
  split at h
  · exact hset h fun _ => rfl
  · exact hset h fun _ => rfl
  · exact hset h fun _ => rfl
  · exact hset h fun _ => rfl
  · exact hset h fun _ => rfl
  · exact absurd rfl hkey
  · exact hset h fun _ => rfl
  · rw [(Decoded.run_pure_eq_ok_iff.mp h).1]

/-- So the names differ in every study that is read. -/
theorem nodup_of_decodeStudy {shell : String} {study : Study}
    (h : (decodeStudy shell s n).run k = .ok (study, k')) :
    (study.parameters.map Parameter.name).Nodup := by
  obtain ⟨f, k₁, hfields, hrest⟩ := Decoded.run_bind_eq_ok_iff.mp h
  obtain ⟨name, k₂, -, hstudy⟩ := Decoded.run_bind_eq_ok_iff.mp hrest
  obtain ⟨rfl, -⟩ := Decoded.run_pure_eq_ok_iff.mp hstudy
  refine Decoded.section_keeps (I := fun f => ((f.parameters.getD []).map Parameter.name).Nodup)
    List.nodup_nil
    (fun s f key n k f' k' hf hrun => ?_) hfields
  by_cases hkey : key = "parameters"
  · subst hkey
    rw [studyField] at hrun
    obtain ⟨_, hvalue, rfl⟩ := Decoded.run_bind_pure_eq_ok_iff.mp hrun
    obtain ⟨-, ps, hps, rfl⟩ := Decoded.run_once_eq_ok_iff.mp hvalue
    exact nodup_of_decodeParameters hps
  · rw [parameters_studyField hkey hrun]
    exact hf

theorem map_name_of_gives {es : List Entry} (h : List.Forall₂ Entry.Gives es ps) :
    ps.map Parameter.name = es.map Entry.name := by
  induction h with
  | nil => rfl
  | cons hgives _ ih => rw [List.map_cons, List.map_cons, hgives.name, ih]

/-- The entries that a mapping delivers become parameters exactly if their names differ and each one
has nothing, one scalar or a list of scalars for its values. The set has a parameter for each entry,
in order: with the name of the entry, with its label or the standard one, and with the texts of its
values. In every set that is read the names differ, so its check reports no parameter as defined
again, and a name leads to the one parameter that has it. -/
theorem decodeParameters_faithful (s : Scope) (n : Node) (k : Nat) :
    (∀ es k₁, (decodeEntries s n).run k = .ok (es, k₁) →
      ((∃ ps k', (decodeParameters s n).run k = .ok (ps, k')) ↔
        (es.map Entry.name).Nodup ∧ ∀ e ∈ es, e.values.holdsScalars = true) ∧
      ∀ ps k', (decodeParameters s n).run k = .ok (ps, k') → List.Forall₂ Entry.Gives es ps) ∧
    ∀ ps k', (decodeParameters s n).run k = .ok (ps, k') →
      (ps.map Parameter.name).Nodup ∧
        (∀ name, ParameterSet.validate ps ≠ .error (.duplicateParameter name)) ∧
        ∀ name p, ParameterSet.get? ps name = some p ↔ p ∈ ps ∧ p.name = name := by
  refine ⟨fun es k₁ hes => ⟨⟨?_, ?_⟩, ?_⟩, fun ps k' hps => ?_⟩
  · rintro ⟨ps, k', hps⟩
    obtain ⟨-, hgives, hdistinct⟩ := (decodeParameters_of_entries hes).mp hps
    rw [map_name_of_gives hgives] at hdistinct
    refine ⟨hdistinct, fun e he => ?_⟩
    exact Entry.exists_gives_iff.mp (exists_forall₂_iff.mp ⟨ps, hgives⟩ e he)
  · rintro ⟨hdistinct, hvalues⟩
    obtain ⟨ps, hgives⟩ := exists_forall₂_iff.mpr fun e he =>
      Entry.exists_gives_iff.mpr (hvalues e he)
    exact ⟨ps, k₁, (decodeParameters_of_entries hes).mpr
      ⟨rfl, hgives, (map_name_of_gives hgives).symm ▸ hdistinct⟩⟩
  · intro ps k' hps
    exact ((decodeParameters_of_entries hes).mp hps).2.1
  · have hdistinct := nodup_of_decodeParameters hps
    exact ⟨hdistinct, ParameterSet.validate_ne_duplicateParameter hdistinct,
      fun _ _ => ParameterSet.get?_eq_some_iff hdistinct⟩

/-- A mapping of two parameters: one with a label and values of four types, one with nothing but
null. -/
def mixed : Node :=
  .map none [
    (.scalar none .plain "Z", .map none [
      (.scalar none .plain "label", .scalar none .plain "Z-%%"),
      (.scalar none .plain "values", .seq none [
        .scalar none .plain "7", .scalar none .plain "true", .scalar none .plain "2.50",
        .scalar none .doubleQuoted "a"])]),
    (.scalar none .plain "A", .map none [(.scalar none .plain "values", .scalar none .plain "~")])]

def halves : Binary64 := .finite false 5629499534213120 (-51)

def mixedEntries : List Entry :=
  [⟨"Z", some "Z-%%", .list [.int 7, .bool true, .float halves, .text "a"]⟩, ⟨"A", none, .null⟩]

/-- Each value is listed by its text, the number without the zero at its end. -/
theorem decodeParameters_faithful_mixed :
    (decodeEntries { anchors := [], references := 0 } mixed).run 0 = .ok (mixedEntries, 0) ∧
      ∃ ps k', (decodeParameters { anchors := [], references := 0 } mixed).run 0 = .ok (ps, k') ∧
        ParameterSet.get? ps "Z" = some ⟨"Z", "Z-%%", ["7", "true", "2.5", "a"]⟩ ∧
        ParameterSet.get? ps "A" = some ⟨"A", "A.%%", []⟩ := by
  have hentries : (decodeEntries { anchors := [], references := 0 } mixed).run 0 =
    .ok (mixedEntries, 0) := rfl
  have hhalves : halves.toText? = some "2.5" := by decide +kernel
  have hlists : Datum.Lists (.list [.int 7, .bool true, .float halves, .text "a"]) ["7", "true",
    "2.5", "a"] :=
    .items (.cons (.int 7) (.cons .yes (.cons (.float hhalves) (.cons (.text "a") .nil))))
  obtain ⟨hdelivered, hsets⟩ := decodeParameters_faithful { anchors := [], references := 0 } mixed 0
  obtain ⟨hexists, hgives⟩ := hdelivered mixedEntries 0 hentries
  obtain ⟨ps, k', hps⟩ := hexists.mpr ⟨by decide, by
    simp [mixedEntries, halves, Datum.holdsScalars, Datum.isScalar]⟩
  obtain ⟨-, -, hget⟩ := hsets ps k' hps
  have h := hgives ps k' hps
  unfold mixedEntries at h
  cases h with
  | cons hz hrest =>
    cases hrest with
    | cons ha hnil =>
      obtain rfl := hz.eq hlists
      obtain rfl := ha.eq .nothing
      exact ⟨hentries, _, k', hps, (hget _ _).mpr ⟨List.mem_cons_self, rfl⟩,
        (hget _ _).mpr ⟨by simp [defaultLabel], rfl⟩⟩

end Sections

end StudyFlow
