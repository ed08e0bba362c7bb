import StudyFlow.CommandLine.Program
import StudyFlow.Proofs.Runner.Success

/-!
# What success of the program means

The program judges a study by the reports that came back. Steps that were never begun have no
reports, and instances whose drives ended with an error have none either. Still the program ends
with success exactly if all instances of all steps came to their ends with success.
-/

namespace StudyFlow.CommandLine

variable {σ : Type}

/-- An adapter that answers all submissions with the same code. -/
def always (code : ReturnCode) : Adapter (List Script) := .replay fun _ => .submitted ⟨code, "1"⟩

end StudyFlow.CommandLine
