import CommandShell.Execution

/-!
# Pipelines

Several commands are run as stages of a pipeline: the first reads the input, each of the others
what the one before it wrote, and the last writes to the output. `exit` in a pipeline neither ends
the session nor writes anything; neither does a program that cannot be started. The exit code of a
pipeline is that of its last stage.

The stages are gone through in one loop. It keeps where the next stage reads from, an exit code for
each stage, which is that of success as long as none is known, the programs whose ends are still to
be asked for, and the helpers that hand input to programs. A built-in command leaves its output
complete, and a program leaves it to be read while it runs; here both are the same bytes.
-/

namespace CommandShell.Pipeline

/-- Where the next stage reads from. -/
inductive Source where
  /-- The input of the pipeline. -/
  | input
  /-- The input of the pipeline, which is that of the process. -/
  | inherited
  /-- The output of a program. -/
  | program (output : Bytes)
  /-- What a built-in command wrote. -/
  | buffer (bytes : Bytes)
  /-- Nothing. -/
  | empty
  deriving DecidableEq, Repr

namespace Source

/-- What can be read from the source; without it, that is the input of the pipeline. -/
def bytes? : Source → Option Bytes
  | .input | .inherited => none
  | .program bytes | .buffer bytes => some bytes
  | .empty => some []

/-- A program that reads from the source needs a helper that hands the bytes to it. -/
def isFed : Source → Bool
  | .input | .buffer _ => true
  | _ => false

/-- Do something that reads from the source. The input of the pipeline stays as it is unless it is
the source. -/
def supply {α : Type} (source : Source) (action : Action α) : Action α := do
  match source.bytes? with
  | none => action
  | some bytes =>
    let own := (← get).input
    modify fun context => { context with input := .ofBytes bytes }
    let result ← action
    modify fun context => { context with input := own }
    return result

end Source

/-- The loop between two stages. -/
structure Progress where
  /-- Where the next stage reads from. -/
  source : Source
  /-- The exit codes by the places of the stages. -/
  codes : List Int
  /-- The programs that were started, by the places of their stages, and how they end. -/
  children : List (Nat × ExitStatus)
  /-- How the helpers end that hand input to programs. -/
  feeders : List (Option Failure)
  deriving DecidableEq, Repr

/-- The loop before the first of some stages. -/
def Progress.start (inherited : Bool) (stages : Nat) : Progress :=
  ⟨if inherited then .inherited else .input, List.replicate stages 0, [], []⟩

/-- The exit codes when the programs have ended. -/
def Progress.settled (progress : Progress) : List Int :=
  progress.children.foldl (fun codes (index, status) => codes.set index status.exitCode)
    progress.codes

/-- Note that a command is passed over. -/
def noteSkipped (command : Command) : Action Unit :=
  Action.note .debug .pipeline s!"skipping {command.mention} inside a pipeline"

/-- Do something with an output of its own: what it gives, and what it wrote there. -/
def captured {α : Type} (action : Action α) : Action (α × Bytes) := do
  let own := (← get).out
  modify fun context => { context with out := .unlimited }
  let result ← action
  let written := (← get).out.contents
  modify fun context => { context with out := own }
  return (result, written)

/-- Run a built-in command as a stage: what it leads to, and where the next stage reads from. Only
the last stage writes to the output. -/
def runBuiltin (isLast : Bool) (command : Command) : Action (Flow × Source) := do
  if isLast then return (← Execution.execute command, .empty)
  else
    let (flow, written) ← captured (Execution.execute command)
    return (flow, .buffer written)

/-- Pass on the output of the program that is the last stage: how the program ends. -/
def passOn (command : Command) (outcome : Outcome) : Action ExitStatus := do
  let (status, failure) ← Execution.copyOutput outcome
  if let some failure := failure then
    Action.note .warn .pipeline s!"failed to copy output of {command.mention}: {failure.text}"
  return status

/-- Run the stage at a place. -/
def runStage (isLast : Bool) (index : Nat) (command : Command) (progress : Progress) :
    Action Progress := do
  if command.isExit then
    noteSkipped command
    return { progress with source := .empty }
  else if command.isBuiltin then
    let (flow, source) ← progress.source.supply (runBuiltin isLast command)
    return { progress with codes := progress.codes.set index flow.code, source }
  else
    let input := (← get).input
    match ← progress.source.supply (Execution.start command) with
    | .error error =>
      let code ← Execution.report command.name error
      return { progress with codes := progress.codes.set index code, source := .empty }
    | .ok outcome =>
      -- Only the helper that reads the input of the pipeline can find that it fails.
      let fed := match progress.source with
        | .input => Execution.unfed? false outcome input
        | _ => none
      let feeders := if progress.source.isFed then progress.feeders ++ [fed] else progress.feeders
      let status ← if isLast then passOn command outcome else pure outcome.status
      let source := if isLast then .empty else .program outcome.output
      let children := progress.children ++ [(index, status)]
      return { progress with source, children, feeders }

/-- Run the stages from a place on, the last one of which is at `last`. -/
def runFrom (last : Nat) : Nat → List Command → Progress → Action Progress
  | _, [], progress => return progress
  | index, command :: rest, progress => do
    runFrom last (index + 1) rest (← runStage (index == last) index command progress)

/-- Note that an input could not be handed to a program. -/
def noteUnfed (failure : Option Failure) : Action Unit := do
  if let some failure := failure then
    Action.note .warn .pipeline s!"failed to write pipeline input: {failure.text}"

/-- Exit codes as a list in brackets. -/
def showCodes (codes : List Int) : String :=
  "[" ++ ", ".intercalate (codes.map Text.decimal) ++ "]"

/-- Run a pipeline. A single command is run as such. If the input is `inherited`, a program that is
the first stage reads it without a helper. -/
def run (commands : List Command) (inherited : Bool := false) : Action Flow := do
  match commands with
  | [] => return .proceed 0
  | [command] => Execution.execute command inherited
  | commands =>
    let last := commands.length - 1
    let progress ← runFrom last 0 commands (.start inherited commands.length)
    progress.feeders.forM noteUnfed
    let codes := progress.settled
    Action.note .debug .pipeline s!"pipeline exit codes: {showCodes codes}"
    return .proceed (codes.getD last 0)

end CommandShell.Pipeline
