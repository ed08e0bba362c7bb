import StudyFlow.FileTree
import StudyFlow.Journal
import StudyFlow.Status.Duration

/-!
The site of a run: its files, its clock and its journal.
-/

namespace StudyFlow

/-- Where instances run: the files there, the time, and what was noted so far. -/
structure Site where
  files : FileTree := {}
  clock : Millis := 0
  journal : Journal := []
  deriving Inhabited

namespace Site

def note (s : Site) (level : Level) (text : String) : Site :=
  { s with journal := s.journal ++ [⟨level, text⟩] }

def info (s : Site) (text : String) : Site := s.note .info text

def warn (s : Site) (text : String) : Site := s.note .warn text

def error (s : Site) (text : String) : Site := s.note .error text

end Site

end StudyFlow
