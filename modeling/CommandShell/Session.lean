import CommandShell.Line.Statement
import CommandShell.Palette
import CommandShell.Pipeline
import CommandShell.Text.Escaped

/-!
# Sessions

A session reads lines and runs them one after the other, with variables that last from line to
line. A blank line does nothing; every other line records its exit code in the status variable,
also when it cannot be read. The session ends with its input, or when a line is `exit`.
-/

namespace CommandShell

/-- What lasts from line to line. -/
structure Session where
  /-- The variables. -/
  env : Environment
  /-- How the session's own messages are shown. -/
  palette : Palette
  deriving DecidableEq, Repr

namespace Session

/-- The name under which the session complains. -/
def name : String := "cli-shell"

/-- Note that a variable is looked up. -/
def noteLookup (env : Environment) (name : String) : Action Unit :=
  Action.note .trace .environment s!"lookup ${name} -> {Text.quoted (env.get name)}"

/-- Note that a variable gets a value. -/
def noteSet (name value : String) : Action Unit :=
  Action.note .debug .environment s!"set {name}={Text.quoted value}"

/-- The last exit status, which is looked up. -/
def readStatus (session : Session) : Action Int := do
  noteLookup session.env Environment.statusName
  return session.env.status

/-- Record an exit status. -/
def record (session : Session) (code : Int) : Action Session := do
  noteSet Environment.statusName (Text.decimal code)
  return { session with env := session.env.setStatus code }

/-- Report an error of the session, and give the exit code that it leads to. -/
def report (session : Session) (error : Error) : Action Int := do
  let message := session.palette.paintError s!"{name}: {error.message}"
  if let some failure := ← Action.complain (message ++ "\n") then
    Action.note .warn .session s!"failed to report error: {failure.text}"
  return error.exitCode

/-- Read a line. -/
def parse (session : Session) (line : String) : Action (Except Error Line.Statement) := do
  (Line.lookups line).forM (noteLookup session.env)
  let statement := Line.parse session.env line
  match statement with
  | .ok (.pipeline (first :: others)) =>
    let stages := " | ".intercalate ((first :: others).map (·.display))
    Action.note .debug .parser s!"parsed pipeline: {stages}"
  | _ => pure ()
  return statement

/-- Run a line: the session after it, and what to do then. If the input is `inherited`, the first
program of the line reads it without a helper. -/
def runLine (session : Session) (line : String) (inherited : Bool := false) :
    Action (Session × Flow) := do
  match ← session.parse line with
  | .error .emptyInput => return (session, .proceed (← session.readStatus))
  | .error error =>
    let code ← session.report error
    return (← session.record code, .proceed code)
  | .ok (.assignment key value) =>
    noteSet key value
    let session := { session with env := session.env.set key value }
    return (← session.record 0, .proceed 0)
  | .ok (.pipeline commands) =>
    let flow ← Pipeline.run commands inherited
    return (← session.record flow.code, flow)

/-- Show the prompt at once, if there is one; the failure if it cannot be written. -/
def showPrompt (session : Session) : Option String → Action (Option Failure)
  | none => return none
  | some prompt => do
    match ← Action.complain (session.palette.paintPrompt prompt) with
    | some failure => return some failure
    | none => Action.flushErrors

/-- End the session because its input has ended, or because reading has failed. -/
def finish (session : Session) (prompt : Option String) :
    Option Failure → Action (Session × Except Error Int)
  | some failure => return (session, .error (.io failure))
  | none => do
    Action.note .debug .session "end of input"
    match prompt with
    | none => return (session, .ok (← session.readStatus))
    | some _ =>
      match ← Action.complain "\n" with
      | some failure => return (session, .error (.io failure))
      | none => return (session, .ok (← session.readStatus))

/-- Run lines up to the end or to `exit`: the session after them, and its status or the error that
ended it. What a line has written is flushed before anything else is done. After the last line
comes the end of the input, or a failure. -/
def runLines (prompt : Option String) (failure : Option Failure) :
    Session → List Bytes → Action (Session × Except Error Int)
  | session, lines => do
    match ← session.showPrompt prompt with
    | some failure => return (session, .error (.io failure))
    | none =>
      match lines with
      | [] => session.finish prompt failure
      | line :: rest =>
        modify fun context => { context with input := .empty }
        let (session, flow) ← session.runLine (lossyText line)
        match ← Action.flush with
        | some failure => return (session, .error (.io failure))
        | none =>
          match flow with
          | .proceed _ => runLines prompt failure session rest
          | .exit status =>
            Action.note .info .session s!"exit requested with status {status}"
            return (session, .ok status)

/-- Run the lines of an input. Its commands have nothing to read. -/
def run (session : Session) (prompt : Option String) (input : Input) :
    Action (Session × Except Error Int) :=
  runLines prompt input.failure session input.lines

end Session

end CommandShell
