import CommandShell.Builtins.Operands

/-!
# Copying Files

`cat` writes the contents of its operands one after the other, or its input if there are none.
-/

namespace CommandShell.Cat

/-- The name of the command. -/
def name : String := "cat"

/-- Write an input as it is. -/
def copy (input : Input) : Job Unit := do
  Job.print input.data
  Job.stopOn input.failure

/-- Open a file and copy it. -/
def copyFile (opener : Opener) (path : String) : Job Unit := do
  match ← opener path with
  | .ok input => copy input
  | .error failure => throw (.io failure)

/-- The command, with a way to open files. Opening a file is not told apart from copying it: both
fail alike. -/
def runWith (opener : Opener) (args : List String) : Job Int := do
  if args.isEmpty then
    copy (← Job.readInput)
    Job.flush
    return 0
  else
    let good ← withOperands (fun path => orComplain name path (copyFile opener path)) args
    Job.flush
    return if good then 0 else 1

/-- The command. -/
def run (args : List String) : Job Int :=
  runWith Job.openFile args

end CommandShell.Cat
