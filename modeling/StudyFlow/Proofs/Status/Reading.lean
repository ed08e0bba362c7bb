import StudyFlow.Proofs.Status.Line

/-!
# Which lines are records

A line is read as a record exactly if its words are the fields of that record, where the counter may
be any numeral of its number. Any other line is turned down: for the number of its words or for its
counter first, and only then for its state.
-/

namespace StudyFlow

open Text

theorem State.parse_eq_ok_iff {token : String} {s : State} : State.parse token = .ok s ↔
    s.name = token := by
  constructor
  · intro h
    unfold parse ofName? at h
    split at h
    · next t hfind =>
      obtain rfl := Except.ok.inj h
      simpa using List.find?_some hfind
    · cases h
  · rintro rfl
    exact StatusRecord.parse_stateName s

theorem State.parse_eq_error_iff {token : String} {e : RecordError} :
    State.parse token = .error e ↔ (∀ s : State, s.name ≠ token) ∧ e = .unknownState token := by
  cases h : State.parse token with
  | ok s =>
    have hs := parse_eq_ok_iff.mp h
    exact iff_of_false nofun fun hno => hno.1 s hs
  | error e' =>
    have hnone : ∀ s : State, s.name ≠ token := by
      intro s hs
      rw [parse_eq_ok_iff.mpr hs] at h
      cases h
    have he : e' = .unknownState token := by
      unfold parse at h
      split at h
      · cases h
      · exact (Except.error.inj h).symm
    simp only [Except.error.injEq, he, hnone, ne_eq, not_false_eq_true, implies_true, true_and]
    exact eq_comm

namespace StatusRecord

variable {text : String} {r : StatusRecord} {e : RecordError}

/-- The text is a numeral of a number that the restart counter holds. -/
def IsCounter (f : String) : Prop := ∃ n < UInt32.size, IsNumeral f n

/-- The line has as many words as a record has fields, and a counter among them. -/
structure Fielded (text : String) : Prop where
  length : (words text).length = 7 ∨ (words text).length = 9
  counter : ∃ f, (words text)[5]? = some f ∧ IsCounter f

theorem counter?_isSome_iff {f : String} : (∃ n, counter? UInt32.size f = some n) ↔
    IsCounter f := by
  simp only [counter?_eq_some_iff, IsCounter]
  exact exists_congr fun n => And.comm

section ofFields

variable {a b c d g w f : String} {runtime : Option RuntimeContext}

theorem ofFields_eq_ok_iff : ofFields text a b c d g f w runtime = .ok r ↔
    IsNumeral f r.restarts.toNat ∧ r.state.name = b ∧
    r = ⟨a, r.state, c, d, g, r.restarts, w, runtime⟩ := by
  unfold ofFields
  constructor
  · intro h
    split at h
    · cases h
    · next n hn =>
      obtain ⟨hnum, hlt⟩ := counter?_eq_some_iff.mp hn
      cases hs : State.parse b with
      | error e => rw [hs] at h; cases h
      | ok s =>
        rw [hs] at h
        obtain rfl := Except.ok.inj h
        have hnat : (UInt32.ofNat n).toNat = n := UInt32.toNat_ofNat_of_lt hlt
        exact ⟨by rwa [hnat], State.parse_eq_ok_iff.mp hs, rfl⟩
  · rintro ⟨hnum, hs, hr⟩
    rw [counter?_eq_some_iff.mpr ⟨hnum, r.restarts.toNat_lt⟩, State.parse_eq_ok_iff.mpr hs]
    simp only [UInt32.ofNat_toNat]
    exact congrArg Except.ok hr.symm

theorem ofFields_eq_error_iff : ofFields text a b c d g f w runtime = .error e ↔
    ¬IsCounter f ∧ e = .malformed text ∨ IsCounter f ∧ (∀ s : State, s.name ≠ b) ∧
    e = .unknownState b := by
  unfold ofFields
  rw [← counter?_isSome_iff]
  split
  · next hn =>
    simp only [hn, reduceCtorEq, exists_const, not_false_eq_true, true_and, false_and, or_false,
      Except.error.injEq]
    exact eq_comm
  · next n hn =>
    have hsome : ∃ n, counter? UInt32.size f = some n := ⟨n, hn⟩
    simp only [hsome, not_true_eq_false, false_and, true_and, false_or, ← State.parse_eq_error_iff]
    cases State.parse b <;> simp [bind, Except.bind, pure, Except.pure]

end ofFields

/-! ## Lines -/

theorem eq_seven {ws : List String} (h : ws.length = 7) :
    ∃ a b c d g f w, ws = [a, b, c, d, g, f, w] :=
  match ws, h with
  | [a, b, c, d, g, f, w], _ => ⟨a, b, c, d, g, f, w, rfl⟩

theorem eq_nine {ws : List String} (h : ws.length = 9) :
    ∃ a b c d g f w queue worker, ws = [a, b, c, d, g, f, w, queue, worker] :=
  match ws, h with
  | [a, b, c, d, g, f, w, queue, worker], _ => ⟨a, b, c, d, g, f, w, queue, worker, rfl⟩

/-- A line of seven or of nine words is read by its fields. -/
theorem parse_of_length (h : (words text).length = 7 ∨ (words text).length = 9) :
    ∃ a b c d g f w runtime,
      words text = [a, b, c, d, g, f, w] ++
        (runtime.elim [] fun x : RuntimeContext => [x.queue, x.worker]) ∧
        parse text = ofFields text a b c d g f w runtime := by
  rcases h with h | h
  · obtain ⟨a, b, c, d, g, f, w, hws⟩ := eq_seven h
    exact ⟨a, b, c, d, g, f, w, none, hws, by rw [parse, hws]⟩
  · obtain ⟨a, b, c, d, g, f, w, queue, worker, hws⟩ := eq_nine h
    exact ⟨a, b, c, d, g, f, w, some ⟨queue, worker⟩, hws, by rw [parse, hws]⟩

theorem parse_of_length_ne (h : ¬((words text).length = 7 ∨ (words text).length = 9)) :
    parse text = .error (.malformed text) := by
  unfold parse
  split
  · next hws => simp [hws] at h
  · next hws => simp [hws] at h
  · rfl

/-- A line is read as a record exactly if its words are the fields of the record, with any numeral
of its counter. -/
theorem parse_eq_ok_iff : parse text = .ok r ↔
    ∃ f, IsNumeral f r.restarts.toNat ∧ words text = r.fields.set 5 f := by
  constructor
  · intro h
    by_cases hlength : (words text).length = 7 ∨ (words text).length = 9
    · obtain ⟨a, b, c, d, g, f, w, runtime, hws, hparse⟩ := parse_of_length hlength
      obtain ⟨hnum, hstate, hr⟩ := ofFields_eq_ok_iff.mp (hparse.symm.trans h)
      refine ⟨f, hnum, ?_⟩
      rw [hws, ← hstate, hr]
      cases runtime <;> rfl
    · rw [parse_of_length_ne hlength] at h
      cases h
  · rintro ⟨f, hnum, hws⟩
    obtain ⟨a, state, c, d, g, n, w, runtime⟩ := r
    unfold parse
    cases runtime with
    | none =>
      rw [hws]
      exact ofFields_eq_ok_iff.mpr ⟨hnum, rfl, rfl⟩
    | some x =>
      rw [hws]
      exact ofFields_eq_ok_iff.mpr ⟨hnum, rfl, rfl⟩

/-- A line without the right words is malformed. One with the right words is turned down for its
state alone. -/
theorem parse_eq_error_iff : parse text = .error e ↔ ¬Fielded text ∧ e = .malformed text ∨
    Fielded text ∧ ∃ token, (words text)[1]? = some token ∧ (∀ s : State, s.name ≠ token) ∧
      e = .unknownState token := by
  by_cases hlength : (words text).length = 7 ∨ (words text).length = 9
  · obtain ⟨a, b, c, d, g, f, w, runtime, hws, hparse⟩ := parse_of_length hlength
    have hfielded : Fielded text ↔ IsCounter f := by
      refine ⟨fun h => ?_, fun h => ⟨hlength, f, by simp [hws], h⟩⟩
      obtain ⟨f', hf', hcounter⟩ := h.counter
      obtain rfl : f = f' := by simpa [hws] using hf'
      exact hcounter
    have htoken : (words text)[1]? = some b := by simp [hws]
    rw [hparse, ofFields_eq_error_iff, hfielded, htoken]
    simp only [Option.some.injEq, exists_eq_left']
  · rw [parse_of_length_ne hlength, Except.error.injEq]
    have hno : ¬Fielded text := fun h => hlength h.length
    simp only [hno, not_false_eq_true, true_and, false_and, or_false]
    exact eq_comm

theorem exists_parse_iff : (∃ r, parse text = .ok r) ↔
    Fielded text ∧ ∃ s : State, (words text)[1]? = some s.name := by
  cases h : parse text with
  | ok r =>
    obtain ⟨f, hnum, hws⟩ := parse_eq_ok_iff.mp h
    refine iff_of_true ⟨r, rfl⟩
      ⟨⟨?_, f, ?_, r.restarts.toNat, r.restarts.toNat_lt, hnum⟩, r.state, ?_⟩
    · rw [hws, fields]
      cases r.runtime <;> simp
    · simp [hws, fields]
    · simp [hws, fields]
  | error e =>
    have hnone : ¬∃ r, (Except.error e : Except RecordError StatusRecord) = .ok r := by
      rintro ⟨r, hr⟩
      cases hr
    refine iff_of_false hnone ?_
    rintro ⟨hfielded, s, hs⟩
    rcases parse_eq_error_iff.mp h with ⟨hno, -⟩ | ⟨-, token, htoken, hstate, -⟩
    · exact hno hfielded
    · exact hstate s (Option.some.inj (hs.symm.trans htoken))

/-! ## Records that come out of a line -/

/-- The texts of a record that was read are words of its line. -/
theorem readable_of_parse (h : parse text = .ok r) : r.Readable := by
  obtain ⟨f, -, hws⟩ := parse_eq_ok_iff.mp h
  have hwords : ∀ w ∈ r.fields.set 5 f, IsWord w := by
    intro w hw
    rw [← hws] at hw
    exact isWord_of_mem_words hw
  obtain ⟨a, state, c, d, g, n, w, runtime⟩ := r
  refine ⟨hwords a ?_, hwords c ?_, hwords d ?_, hwords g ?_, hwords w ?_, ?_⟩
  · simp [fields]
  · simp [fields]
  · simp [fields]
  · simp [fields]
  · simp [fields]
  · rintro x rfl
    exact ⟨hwords x.queue (by simp [fields]), hwords x.worker (by simp [fields])⟩

theorem parse_line_iff (r : StatusRecord) : parse r.line = .ok r ↔ r.Readable :=
  ⟨readable_of_parse, Readable.parse_line⟩

/-- The line of a record that was read is the line it was read from, with single spaces and the
counter in decimal. -/
theorem line_of_parse (h : parse text = .ok r) :
    r.line = " ".intercalate ((words text).set 5 r.restarts.toNat.repr) := by
  obtain ⟨f, -, hws⟩ := parse_eq_ok_iff.mp h
  rw [hws, List.set_set, line]
  rfl

/-- Which records their own lines give back, which lines are records, and which error it is
otherwise. What was read from a line is read again from its own line, which differs from the first
in blanks and in the form of the counter alone. -/
theorem line_codec :
    (∀ r : StatusRecord, parse r.line = .ok r ↔ r.Readable) ∧
    ∀ text, ((∃ r, parse text = .ok r) ↔ Fielded text ∧ ∃ s : State,
      (words text)[1]? = some s.name) ∧
      (∀ e, parse text = .error e ↔ ¬Fielded text ∧ e = .malformed text ∨
        Fielded text ∧ ∃ token, (words text)[1]? = some token ∧ (∀ s : State, s.name ≠ token) ∧
          e = .unknownState token) ∧
      ∀ r, parse text = .ok r → parse r.line = .ok r ∧
        (∃ f, IsNumeral f r.restarts.toNat ∧ words text = r.fields.set 5 f) ∧
        r.line = " ".intercalate ((words text).set 5 r.restarts.toNat.repr) := by
  refine ⟨parse_line_iff, fun text => ⟨exists_parse_iff, fun e => parse_eq_error_iff,
    fun r h => ?_⟩⟩
  exact ⟨(readable_of_parse h).parse_line, parse_eq_ok_iff.mp h, line_of_parse h⟩

/-- A record with a counter of seven, a queue and a worker. -/
def counted : StatusRecord :=
  ⟨"sim", .running, noResult, "0d", "0h", 7, "sim/X.1", some ⟨"merlin", "w1"⟩⟩

/-- The line has tabs, more than one space and a counter that is not in its shortest form. -/
theorem line_codec_counted :
    parse "sim\tRUNNING   ------- 0d 0h +007 sim/X.1 merlin w1\n" = .ok counted ∧ counted.Readable ∧
      parse counted.line = .ok counted ∧ counted.line =
        "sim RUNNING ------- 0d 0h 7 sim/X.1 merlin w1" := by
  have h : parse "sim\tRUNNING   ------- 0d 0h +007 sim/X.1 merlin w1\n" = .ok counted := by rfl
  obtain ⟨hline, hread⟩ := line_codec
  obtain ⟨hagain, -, htext⟩ := (hread _).2.2 counted h
  have hwords : words "sim\tRUNNING   ------- 0d 0h +007 sim/X.1 merlin w1\n" =
      ["sim", "RUNNING", "-------", "0d", "0h", "+007", "sim/X.1", "merlin", "w1"] := by rfl
  rw [hwords] at htext
  exact ⟨h, (hline counted).mp hagain, hagain, htext⟩

end StatusRecord

end StudyFlow
