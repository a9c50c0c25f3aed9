import CommandShell.Builtins.Cat
import CommandShell.Builtins.Echo
import CommandShell.Builtins.Exit
import CommandShell.Builtins.Grep
import CommandShell.Builtins.Pwd
import CommandShell.Builtins.Wc
import CommandShell.Command

/-!
# Running Commands

A single command is run: `exit` is understood, the shell's own commands are carried out, and all
others are called as programs. Whatever goes wrong is reported on the error stream under the name
of the command, and becomes an exit code. A built-in command whose output nobody reads any more ends
quietly and counts as successful; a program ends as it does then, and that is taken over.

What a command can read is handed to a program by a helper, unless the program inherits it from the
process. Only the helper can notice that the input fails, and only if the program wants all of it.
-/

namespace CommandShell

/-- What the shell does after a command. -/
inductive Flow where
  /-- Go on; the command ended with an exit code. -/
  | proceed (code : Int)
  /-- End the session with a status. -/
  | exit (status : Int)
  deriving DecidableEq, Repr

/-- The exit code of the command, or the status of the session. -/
def Flow.code : Flow → Int
  | .proceed code => code
  | .exit status => status

/-- Carry out one of the shell's own commands. -/
def Builtin.run (builtin : Builtin) (args : List String) : Job Int :=
  match builtin with
  | .cat => Cat.run args
  | .echo => Echo.run args
  | .grep => Grep.run args
  | .pwd => Pwd.run args
  | .wc => Wc.run args

namespace Execution

/-- Report an error of a command, and give the exit code that it leads to. -/
def report (name : String) (error : Error) : Action Int := do
  if let some failure := ← Action.complain s!"{name}: {error.message}\n" then
    Action.note .warn .executor s!"failed to report error for {name}: {failure.text}"
  return error.exitCode

/-- Start the program that a command calls, on the input. -/
def start (command : Command) : Action (Except Error Outcome) := do
  let context ← get
  match context.programs ⟨command.name, command.args, context.input.data, context.files⟩ with
  | .error failure => return .error (Programs.startError command.name failure)
  | .ok outcome =>
    set { context with
      files := outcome.files, input := { context.input with data := [] } }
    return .ok outcome

/-- The failure that is met while an input is handed to a program, if there is one. A program that
ends while there is input left is no failure. -/
def unfed? (inherited : Bool) (outcome : Outcome) (input : Input) : Option Failure :=
  if inherited || !outcome.readsToEnd then none else Failure.unlessClosed input.failure

/-- Pass the output of a program on: how the program ends, and the failure, unless it is that
nobody reads the output any more. -/
def copyOutput (outcome : Outcome) : Action (ExitStatus × Option Failure) := do
  let taken := (← get).out.accepted outcome.output
  match ← Action.print outcome.output with
  | none => return (outcome.status, Failure.unlessClosed (← Action.flush))
  | some failure =>
    return (outcome.statusClosed taken.length, Failure.unlessClosed (some failure))

/-- Call a program and pass its output on. -/
def runProgram (command : Command) (inherited : Bool := false) : Job Int := do
  let input := (← get).input
  let outcome ← ExceptT.mk (start command)
  let (status, failure) ← copyOutput outcome
  Job.stopOn failure
  if let some failure := unfed? inherited outcome input then
    Action.note .warn .executor s!"failed to write input for {command.mention}: {failure.text}"
  return status.exitCode

/-- Carry out or call a command other than `exit`. -/
def runCommand (command : Command) (inherited : Bool := false) : Job Int :=
  match Builtin.ofName? command.name with
  | some builtin => builtin.run command.args
  | none => runProgram command inherited

/-- The exit code of a command by its result; an error is reported. -/
def settle (command : Command) : Except Error Int → Action Int
  | .ok code => return code
  | .error error =>
    if error.isBrokenPipe then do
      Action.note .debug .executor s!"output of {command.mention} closed early"
      return 0
    else report command.name error

/-- Run a command. If the input is `inherited`, a program reads it without a helper. -/
def execute (command : Command) (inherited : Bool := false) : Action Flow := do
  if command.isExit then
    match Exit.status command.args with
    | .ok status => return .exit status
    | .error error => return .proceed (← report command.name error)
  else
    return .proceed (← settle command (← (runCommand command inherited).run))

end Execution

end CommandShell
