import CommandShell.Job

/-!
# Printing the Working Directory

`pwd` writes the path of the working directory, if there still is one.
-/

namespace CommandShell.Pwd

/-- The name of the command. -/
def name : String := "pwd"

/-- The path of the working directory, or why there is none. -/
def workingDirectory (files : Files) : Except Error String :=
  match files.currentDirectory with
  | .ok place => .ok (Files.pathOf place)
  | .error failure => .error (.builtin name failure.description)

/-- The command; its arguments do not matter. -/
def run (_ : List String) : Job Int := do
  let path ← ExceptT.mk (pure (workingDirectory (← get).files))
  Job.print (utf8 (path ++ "\n"))
  Job.flush
  return 0

end CommandShell.Pwd
