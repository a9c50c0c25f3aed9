import CommandShell.Error
import CommandShell.Files

/-!
# Programs

Commands that the shell does not carry out itself. A program is called by a name with arguments,
reads an input, and leaves an output, an exit status and the files as it has changed them; or it
cannot be started. What programs there are is not the shell's affair: it is given a function that
answers for all of them.
-/

namespace CommandShell

/-- What a program is called with. -/
structure Invocation where
  /-- The name that it is called by. -/
  name : String
  /-- Its arguments. -/
  args : List String
  /-- What it can read. -/
  input : Bytes
  /-- The files it finds. -/
  files : Files
  deriving Repr

/-- How a program ended. -/
inductive ExitStatus where
  /-- By itself, with a code. -/
  | code (n : UInt8)
  /-- By a signal. -/
  | signal (number : Fin 128)
  deriving DecidableEq, Repr

/-- The exit code that stands for the end of a program: its own code, or 128 and the number of the
signal that ended it. -/
def ExitStatus.exitCode : ExitStatus → Int
  | .code n => n.toNat
  | .signal number => 128 + number.val

/-- The signal that ends a program whose output nobody reads any more. -/
def ExitStatus.pipeClosed : ExitStatus := .signal 13

/-- What a program leaves behind. -/
structure Outcome where
  /-- What it wrote. -/
  output : Bytes
  /-- How it ended. -/
  status : ExitStatus
  /-- The files after it. -/
  files : Files
  /-- How it ends if its reader goes away after so many bytes have been passed on. -/
  statusClosed : Nat → ExitStatus := fun _ => status
  /-- It takes in all of its input; otherwise it may end while there is some left. -/
  readsToEnd : Bool := true

/-- All programs: what becomes of an invocation. -/
abbrev Programs := Invocation → Except Failure Outcome

namespace Programs

/-- No program can be started. -/
def absent : Programs := fun _ => .error (.system .noEntry)

/-- The error when a program cannot be started. -/
def startError (name : String) : Failure → Error
  | .system .noEntry => .spawn name "command not found"
  | .system .accessDenied => .notExecutable name "permission denied"
  | failure => .spawn name failure.description

end Programs

end CommandShell
