import StudyFlow.Status.Record

/-!
The table of status records that the command line shows.
-/

namespace StudyFlow.CommandLine

/-- Spaces that fill a text of the given length up to a width. -/
def padding (width : Nat) (text : String) : String :=
  String.ofList (List.replicate (width - text.length) ' ')

/-- The text with spaces behind it up to a width. -/
def alignLeft (width : Nat) (text : String) : String := text ++ padding width text

/-- The text with spaces in front of it up to a width. -/
def alignRight (width : Nat) (text : String) : String := padding width text ++ text

/-- How a state is set off on a terminal. -/
def highlight? : State → Option String
  | .finished => some "32"
  | .failed => some "1;31"
  | .running => some "33"
  | .dryRun => some "36"
  | .cancelled => some "35"
  | .initialized | .unknown => none

/-- The cell of a state, set off if colours are wanted. -/
def stateCell (color : Bool) (s : State) : String :=
  let text := alignLeft 11 s.name
  match color, highlight? s with
  | true, some style => "\x1b[" ++ style ++ "m" ++ text ++ "\x1b[0m"
  | _, _ => text

/-- The cells of a line, two spaces between neighbours. -/
def tableLine (cells : List String) : String := "  ".intercalate cells ++ "\n"

/-- The width of the column of names: the size of the longest one in bytes, and at least four. -/
def nameWidth (records : List StatusRecord) : Nat :=
  records.foldl (fun w r => max w r.name.utf8ByteSize) 4

/-- The table of the records, with a line of titles. -/
def statusTable (color : Bool) (records : List StatusRecord) : String :=
  let width := nameWidth records
  let title := tableLine [alignLeft width "NAME", alignLeft 11 "STATE", alignLeft 30 "RESULT",
    alignRight 15 "ELAPSED", alignRight 15 "RUN TIME", alignRight 8 "RESTARTS"]
  records.foldl (fun text r => text ++ tableLine [alignLeft width r.name, stateCell color r.state,
    alignLeft 30 r.result, alignRight 15 r.elapsedTime, alignRight 15 r.runTime,
    alignRight 8 r.restarts.toNat.repr]) title

end StudyFlow.CommandLine
