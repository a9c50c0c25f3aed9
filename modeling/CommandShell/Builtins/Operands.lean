import CommandShell.Job

/-!
# Operands

Commands that work on files take them one after the other. A file that cannot be opened or worked
on is complained about, and the command goes on with the next; only when nobody reads the output
any more does it stop. What has been written is flushed when the last file is done.
-/

namespace CommandShell

/-- Complain about a file. -/
def complainAbout (command path : String) (failure : Failure) : Job Unit :=
  Job.complain s!"{command}: {path}: {failure.description}\n"

/-- A way to open a file by its path for reading. -/
abbrev Opener := String → Job (Except Failure Input)

/-- Do a job on a file, and tell whether it succeeded. A failure of the job is complained about,
unless it means that nobody reads the output any more. -/
def orComplain (command path : String) (job : Job Unit) : Job Bool := do
  try
    job
    pure true
  catch
    | .io failure =>
      if failure.isBrokenPipe then throw (.io failure)
      else
        complainAbout command path failure
        pure false
    | error => throw error

/-- Do a job on each of some files, and tell whether all of it succeeded. -/
def withOperands (job : String → Job Bool) : List String → Job Bool
  | [] => return true
  | path :: rest => do
    let here ← job path
    let there ← withOperands job rest
    return here && there

end CommandShell
