import StudyFlow.Shell.Utility.Awk
import StudyFlow.Shell.Utility.Compare
import StudyFlow.Shell.Utility.Digest
import StudyFlow.Shell.Utility.Files
import StudyFlow.Shell.Utility.Find
import StudyFlow.Shell.Utility.Grep
import StudyFlow.Shell.Utility.Sed
import StudyFlow.Shell.Utility.Sort
import StudyFlow.Shell.Utility.Values

/-!
The programs that are there, by their names.
-/

namespace StudyFlow.Shell

namespace Utility

/-- The programs by their names. -/
def table : List (String × Utility) :=
  filePrograms ++ linePrograms ++ sortPrograms ++ valuePrograms ++ searchPrograms ++
    digestPrograms ++ comparePrograms ++
    [("find", findUtility), ("sed", sedUtility), ("awk", awkUtility), ("mawk", awkUtility),
     ("nawk", awkUtility)]

end Utility

end StudyFlow.Shell
