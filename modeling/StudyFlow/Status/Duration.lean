import StudyFlow.Text.Numeral

/-!
Points in time and the text of the time between two of them.
-/

namespace StudyFlow

/-- A point in time, or the span between two, in milliseconds. -/
abbrev Millis := Int

/-- A span as days, hours, minutes and whole seconds; a negative span counts as none. -/
def formatDuration (span : Millis) : String :=
  let total := (span.tdiv 1000).toNat
  let days := total / 86400
  let hours := total % 86400 / 3600
  let minutes := total % 3600 / 60
  let seconds := total % 60
  days.repr ++ "d:" ++ Text.twoDigits hours ++ "h:" ++ Text.twoDigits minutes ++ "m:" ++
    Text.twoDigits seconds ++ "s"

end StudyFlow
