import StudyFlow.Proofs.Text.Decimal
import StudyFlow.Status.Record

/-!
# Status lines are read back

A line whose words are the fields of a record is read as that record. The words of the record's own
line are its fields if each of its texts is a word, and only these six kinds of texts need a check:
the state and the restart counter always are words.
-/

namespace StudyFlow

open Text

namespace StatusRecord

/-- Each text of the record is one field of a line. -/
structure Readable (r : StatusRecord) : Prop where
  name : IsWord r.name
  result : IsWord r.result
  elapsedTime : IsWord r.elapsedTime
  runTime : IsWord r.runTime
  workspace : IsWord r.workspace
  runtime : ∀ c ∈ r.runtime, IsWord c.queue ∧ IsWord c.worker

theorem isWord_stateName (s : State) : IsWord s.name := by
  cases s <;> exact ⟨by decide, by decide⟩

theorem parse_stateName (s : State) : State.parse s.name = .ok s := by
  cases s <;> rfl

theorem ofFields_fields (text : String) (r : StatusRecord) :
    ofFields text r.name r.state.name r.result r.elapsedTime r.runTime
      r.restarts.toNat.repr r.workspace
      r.runtime = .ok r := by
  unfold ofFields
  rw [counter?_repr r.restarts.toNat_lt, parse_stateName]
  simp only [UInt32.ofNat_toNat]
  rfl

/-- The line spelled out, field by field. -/
theorem line_eq (r : StatusRecord) :
    r.line = r.name ++ " " ++ r.state.name ++ " " ++ r.result ++ " " ++ r.elapsedTime ++ " " ++
      r.runTime ++ " " ++
      r.restarts.toNat.repr ++ " " ++ r.workspace ++ r.runtime.elim "" fun c =>
        " " ++ c.queue ++ " " ++ c.worker := by
  unfold line fields
  cases r.runtime <;> simp [String.intercalate_cons_cons, String.append_assoc]

/-- Whatever text has the fields of a record as its words is read as that record. -/
theorem parse_of_words {text : String} {r : StatusRecord} (h : words text = r.fields) :
    parse text = .ok r := by
  have hf := ofFields_fields text r
  unfold parse
  rw [h, fields]
  cases hr : r.runtime with
  | none =>
    rw [hr] at hf
    exact hf
  | some c =>
    rw [hr] at hf
    exact hf

/-- All fields of a readable record are words. -/
theorem Readable.isWord_fields {r : StatusRecord} (h : r.Readable) : ∀ f ∈ r.fields, IsWord f := by
  intro f hf
  have hc : IsWord r.restarts.toNat.repr := isWord_repr _
  simp only [fields, List.mem_append, List.mem_cons, List.not_mem_nil, or_false] at hf
  rcases hf with (rfl | rfl | rfl | rfl | rfl | rfl | rfl) | hf
  · exact h.name
  · exact isWord_stateName _
  · exact h.result
  · exact h.elapsedTime
  · exact h.runTime
  · exact hc
  · exact h.workspace
  · cases hr : r.runtime with
    | none => simp [hr] at hf
    | some c =>
      obtain ⟨hq, hw⟩ := h.runtime c hr
      simp only [hr, List.mem_cons, List.not_mem_nil, or_false] at hf
      rcases hf with rfl | rfl
      · exact hq
      · exact hw

theorem Readable.words_line {r : StatusRecord} (h : r.Readable) : words r.line = r.fields :=
  words_intercalate r.fields h.isWord_fields

/-- The line of a readable record is read as that record. -/
theorem Readable.parse_line {r : StatusRecord} (h : r.Readable) : parse r.line = .ok r :=
  parse_of_words h.words_line

/-- So is what a status file holds: the line with a line break, trimmed. -/
theorem Readable.parse_file {r : StatusRecord} (h : r.Readable) :
    parse (trim (r.line ++ "\n")) = .ok r :=
  parse_of_words (by rw [words_trim, words_append_newline, h.words_line])

end StatusRecord

end StudyFlow
