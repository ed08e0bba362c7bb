import StudyFlow.CommandLine.Program
import StudyFlow.Shell.Launch

/-!
The program itself: the files that the arguments name are read into a tree, `CommandLine.execute`
works on it, and what the tree holds then is written back.
-/

namespace StudyFlow

/-- The path of a file as the operating system takes it. -/
def readInto (files : FileTree) (path : String) : IO FileTree := do
  try
    let content ← IO.FS.readBinFile path
    let files := match (Path.mk path).parent? with
      | some dir => (files.createDirs dir).2
      | none => files
    pure ((files.write ⟨path⟩ content).toOption.getD files)
  catch _ => pure files

def writeBack (entry : String × Entry) : IO Unit :=
  match entry.2 with
  | .directory => IO.FS.createDirAll entry.1
  | .file content executable => do
    IO.FS.writeBinFile entry.1 content
    if executable then
      let all : IO.AccessRight := { read := true, write := true, execution := true }
      let others : IO.AccessRight := { read := true, execution := true }
      IO.setAccessRights entry.1 { user := all, group := others, other := others }

end StudyFlow

open StudyFlow

/-- Runs the program on the files that its arguments name. -/
def main (args : List String) : IO UInt32 := do
  let files ← (args.filter fun a => a.toList.head? != some '-').foldlM readInto {}
  let env : Environment := { shell := ← IO.getEnv "SHELL" }
  let result := CommandLine.execute env {} (Shell.launch "0") args { files := files }
  for entry in result.site.files.inside.mergeSort (fun a b => a.1.length ≤ b.1.length) do
    writeBack entry
  IO.print result.stdout
  IO.eprint result.stderr
  pure (UInt32.ofNat result.exit)
