import CommandShell.Error
import CommandShell.Journal
import CommandShell.Pattern.Compiled
import CommandShell.Program
import CommandShell.Stream.Output

/-!
# Jobs

What commands work with, and computations that use it. A job reads an input, writes to an output
and to an error stream, and may stop with an error; what it has written until then stays.
-/

namespace CommandShell

/-- What commands work with. -/
structure Context where
  /-- The files. -/
  files : Files
  /-- The programs that can be called. -/
  programs : Programs
  /-- What can be read. -/
  input : Input
  /-- Where output goes. -/
  out : Output
  /-- Where complaints go. -/
  err : Output
  /-- The least important level of notes that are written; without one no notes are. -/
  threshold : Option Journal.Level
  /-- What makes patterns of texts. -/
  patterns : Pattern.Engine := Pattern.compile

/-- A computation that works with a context. -/
abbrev Action := StateM Context

/-- A computation that works with a context and may stop with an error. -/
abbrev Job := ExceptT Error Action

namespace Action

/-- Write to the output; the failure if not everything is accepted. -/
def print (bytes : Bytes) : Action (Option Failure) := do
  let context ← get
  let (out, failure) := context.out.write bytes
  set { context with out }
  return failure

/-- Write to the error stream; the failure if not everything is accepted. -/
def complain (text : String) : Action (Option Failure) := do
  let context ← get
  let (err, failure) := context.err.write (utf8 text)
  set { context with err }
  return failure

/-- Flush the output; the failure if that fails. -/
def flush : Action (Option Failure) := do
  return (← get).out.flush

/-- Flush the error stream; the failure if that fails. -/
def flushErrors : Action (Option Failure) := do
  return (← get).err.flush

/-- Write a note, if notes of its level are asked for. -/
def note (level : Journal.Level) (topic : Journal.Topic) (text : String) : Action Unit := do
  if level.isWithin (← get).threshold then
    let _ ← complain (Journal.entry level topic text)

end Action

namespace Job

/-- Stop if there is a failure. -/
def stopOn : Option Failure → Job Unit
  | none => pure ()
  | some failure => throw (.io failure)

/-- Write to the output. -/
def print (bytes : Bytes) : Job Unit := do
  stopOn (← Action.print bytes)

/-- Write to the error stream. -/
def complain (text : String) : Job Unit := do
  stopOn (← Action.complain text)

/-- Flush the output. -/
def flush : Job Unit := do
  stopOn (← Action.flush)

/-- Read everything that can be read. A failure that follows stays where it is. -/
def readInput : Job Input := do
  let context ← get
  set { context with input := { context.input with data := [] } }
  return context.input

/-- Open a file for reading. -/
def openFile (path : String) : Job (Except Failure Input) := do
  return (← get).files.openInput path

end Job

end CommandShell
