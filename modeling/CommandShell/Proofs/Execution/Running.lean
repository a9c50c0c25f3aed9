import CommandShell.Proofs.Builtins.Transcript

/-!
# Running commands

What running a command amounts to. Errors, reports and notes concern the exit code and the error
stream only; the output of a command is what its transcript prints. Where no stream fails, a
command of the shell prints all that its transcript says, and its complaints and the report of its
error are all delivered (`Execution.runIn_execute_of_neverFails`).
-/

namespace CommandShell

/-- The bytes of a note, if notes of its level are asked for. -/
def noted (threshold : Option Journal.Level) (level : Journal.Level) (topic : Journal.Topic)
    (text : String) : Bytes :=
  if level.isWithin threshold then utf8 (Journal.entry level topic text) else []

namespace Action

theorem runIn_note (level : Journal.Level) (topic : Journal.Topic) (text : String)
    (c : Context) :
    (note level topic text).runIn c =
      ((), if level.isWithin c.threshold then
          { c with err := (c.err.write (utf8 (Journal.entry level topic text))).1 }
        else c) := by
  change Action.runIn (if level.isWithin c.threshold = true then _ else _) c = _
  split <;> rfl

/-- A note does not touch the output. -/
theorem out_note (level : Journal.Level) (topic : Journal.Topic) (text : String) (c : Context) :
    ((note level topic text).runIn c).2.out = c.out := by
  rw [runIn_note]
  split <;> rfl

/-- Where no stream fails, a note is written if it is asked for. -/
theorem wrote_note {c : Context} (h : c.NeverFails) (level : Journal.Level)
    (topic : Journal.Topic) (text : String) :
    c.Wrote ((note level topic text).runIn c).2 [] (noted c.threshold level topic text) := by
  rw [runIn_note, noted]
  split
  · exact wrote_complain h (Journal.entry level topic text)
  · exact .refl h

end Action

/-- The call that a command makes if it is not one of the shell's own. -/
def Command.call (command : Command) (c : Context) : Invocation :=
  ⟨command.name, command.args, c.input.data, c.files⟩

namespace Execution

/-! ## Reports -/

/-- The report of an error. -/
def reportText (name : String) (error : Error) : String :=
  s!"{name}: {error.message}\n"

/-- The exit code of a report depends on the error only, and reporting does not touch the output,
whatever becomes of the report itself. -/
theorem runIn_report (name : String) (error : Error) (c : Context) :
    ((report name error).runIn c).1 = error.exitCode ∧
      ((report name error).runIn c).2.out = c.out := by
  rw [report, Action.runIn_bind, Action.runIn_complain]
  dsimp only
  cases (c.err.write (utf8 s!"{name}: {error.message}\n")).2 with
  | none => exact ⟨rfl, rfl⟩
  | some failure =>
    dsimp only
    rw [Action.runIn_bind]
    exact ⟨rfl, Action.out_note _ _ _ _⟩

/-- Where no stream fails, the report is delivered. -/
theorem wrote_report {c : Context} (h : c.NeverFails) (name : String) (error : Error) :
    c.Wrote ((report name error).runIn c).2 [] (utf8 (reportText name error)) := by
  rw [report, Action.runIn_bind, Action.runIn_complain, h.err.write_failure]
  exact Action.wrote_complain h (reportText name error)

/-! ## Settling -/

/-- The exit code that the result of a command leads to. -/
def codeOf : Except Error Int → Int
  | .ok code => code
  | .error error => if error.isBrokenPipe then 0 else error.exitCode

/-- What is written about the result of a command. -/
def settlement (threshold : Option Journal.Level) (command : Command) :
    Except Error Int → Bytes
  | .ok _ => []
  | .error error =>
    if error.isBrokenPipe then
      noted threshold .debug .executor s!"output of {command.mention} closed early"
    else utf8 (reportText command.name error)

/-- The result of a command decides on the exit code, and settling it does not touch the output. -/
theorem runIn_settle (command : Command) (result : Except Error Int) (c : Context) :
    ((settle command result).runIn c).1 = codeOf result ∧
      ((settle command result).runIn c).2.out = c.out := by
  cases result with
  | ok code => exact ⟨rfl, rfl⟩
  | error error =>
    rw [settle, codeOf]
    split
    · rw [Action.runIn_bind]
      exact ⟨rfl, Action.out_note _ _ _ _⟩
    · exact runIn_report command.name error c

/-- Where no stream fails, what there is to say about the result is delivered. -/
theorem wrote_settle {c : Context} (h : c.NeverFails) (command : Command)
    (result : Except Error Int) :
    c.Wrote ((settle command result).runIn c).2 [] (settlement c.threshold command result) := by
  cases result with
  | ok code => exact .refl h
  | error error =>
    rw [settle, settlement]
    split
    · rw [Action.runIn_bind]
      exact Action.wrote_note h _ _ _
    · exact wrote_report h command.name error

/-! ## Programs -/

/-- How a program ends whose output is passed on to `out`, and the failure, unless it is that nobody
reads the output. -/
def copied (out : Output) (outcome : Outcome) : ExitStatus × Option Failure :=
  match (out.write outcome.output).2 with
  | none => (outcome.status, Failure.unlessClosed (out.write outcome.output).1.flush)
  | some failure =>
    (outcome.statusClosed (out.accepted outcome.output).length,
      Failure.unlessClosed (some failure))

/-- The output of a program is written in one piece, and flushed if all of it is accepted. -/
theorem runIn_copyOutput (outcome : Outcome) (c : Context) :
    (copyOutput outcome).runIn c =
      (copied c.out outcome, { c with out := (c.out.write outcome.output).1 }) := by
  rw [copyOutput, Action.runIn_bind, Action.runIn_get]
  dsimp only
  rw [Action.runIn_bind, Action.runIn_print, copied]
  cases (c.out.write outcome.output).2 <;> rfl

/-- To an output that never fails everything is passed on. -/
theorem copied_of_neverFails {out : Output} (h : out.NeverFails) (outcome : Outcome) :
    copied out outcome = (outcome.status, none) := by
  rw [copied, h.write_failure]
  dsimp only
  rw [(h.write outcome.output).flush]
  rfl

/-- A program that is started takes the input and leaves the files as it changed them. -/
theorem runIn_start (command : Command) (c : Context) :
    (start command).runIn c =
      match c.programs (command.call c) with
      | .error failure => (.error (Programs.startError command.name failure), c)
      | .ok outcome =>
        (.ok outcome,
          { c with files := outcome.files, input := { c.input with data := [] } }) := by
  rw [start, Action.runIn_bind, Action.runIn_get]
  dsimp only
  rw [Command.call]
  cases c.programs ⟨command.name, command.args, c.input.data, c.files⟩ <;> rfl

/-- An input that ends without a failure is handed to a program without one. -/
theorem unfed?_of_failure_eq_none (inherited : Bool) (outcome : Outcome) {input : Input}
    (h : input.failure = none) : unfed? inherited outcome input = none := by
  rw [unfed?, h]
  split <;> rfl

/-- The context after a program has ended and its output has been passed on. -/
def afterProgram (c : Context) (outcome : Outcome) : Context :=
  { c with
    files := outcome.files
    input := { c.input with data := [] }
    out := (c.out.write outcome.output).1 }

/-- A program that is called is started, and its output is passed on. If some of it is lost, the
program is not waited for; else it may be noted that the input could not be handed to it. -/
theorem runIn_runProgram (command : Command) (inherited : Bool) (c : Context) :
    (runProgram command inherited).runIn c =
      match c.programs (command.call c) with
      | .error failure => (.error (Programs.startError command.name failure), c)
      | .ok outcome =>
        let after := afterProgram c outcome
        match (copied c.out outcome).2, unfed? inherited outcome c.input with
        | some failure, _ => (.error (.io failure), after)
        | none, none => (.ok (copied c.out outcome).1.exitCode, after)
        | none, some failure =>
          (.ok (copied c.out outcome).1.exitCode,
            ((Action.note .warn .executor
              s!"failed to write input for {command.mention}: {failure.text}").runIn after).2) := by
  have hstart : Job.runIn (ExceptT.mk (start command)) c = (start command).runIn c := rfl
  rw [runProgram, Job.runIn_bind]
  change (Job.runIn (ExceptT.mk (start command) >>= fun outcome => _) c) = _
  rw [Job.runIn_bind, hstart, runIn_start]
  cases c.programs (command.call c) with
  | error failure => rfl
  | ok outcome =>
    have hcopy (d : Context) : Job.runIn (liftM (copyOutput outcome)) d =
        (.ok (copied d.out outcome), { d with out := (d.out.write outcome.output).1 }) :=
      congrArg (fun ran => (Except.ok ran.1, ran.2)) (runIn_copyOutput outcome d)
    dsimp only
    rw [Job.runIn_bind, hcopy]
    obtain ⟨status, lost⟩ := copied c.out outcome
    cases lost with
    | some failure => rfl
    | none => cases unfed? inherited outcome c.input <;> rfl

/-! ## Commands of the shell -/

/-- The name that ends the session is not that of another command. -/
theorem isExit_eq_false {command : Command} {builtin : Builtin}
    (h : Builtin.ofName? command.name = some builtin) : command.isExit = false := by
  by_contra hexit
  rw [Bool.not_eq_false, Command.isExit, beq_iff_eq] at hexit
  have hnone : Builtin.ofName? Builtin.exitName = none := by decide
  rw [hexit, hnone] at h
  cases h

/-- A command of the shell either ends the session or is carried out. -/
theorem isBuiltin_iff (command : Command) :
    command.isBuiltin = true ↔
      command.isExit = true ∨ ∃ builtin, Builtin.ofName? command.name = some builtin := by
  rw [Command.isBuiltin, Builtin.isName, Bool.or_eq_true, Option.isSome_iff_exists]
  rfl

/-- A command of the shell is carried out, and its result is settled. -/
theorem runIn_execute {command : Command} {builtin : Builtin}
    (h : Builtin.ofName? command.name = some builtin) (c : Context) :
    (execute command).runIn c =
      let ran := (builtin.run command.args).runIn c
      let settled := (settle command ran.1).runIn ran.2
      (.proceed settled.1, settled.2) := by
  rw [execute, isExit_eq_false h, runCommand, h]
  rfl

/-- Where no stream fails, a command of the shell does all that its transcript says, and ends with
the exit code of its result. -/
theorem runIn_execute_of_neverFails {command : Command} {builtin : Builtin}
    (h : Builtin.ofName? command.name = some builtin) {c : Context} (hc : c.NeverFails) :
    let t := builtin.transcript command.args c.patterns c.files c.input
    ((execute command).runIn c).1 = .proceed (codeOf t.result) ∧
      c.Wrote ((execute command).runIn c).2 (printed t.events)
        (complained t.events ++ settlement c.threshold command t.result) := by
  intro t
  obtain ⟨hresult, hwrote⟩ := runIn_performAll_of_neverFails hc t.events
  have hran : (builtin.run command.args).runIn c =
      (t.result, ((performAll t.events).runIn c).2) := by
    rw [builtin.runIn_run command.args hc.out.endsQuietly, runIn_replay]
    rcases hevents : (performAll t.events).runIn c with ⟨result, c'⟩
    rw [hevents] at hresult
    obtain rfl : result = .ok () := hresult
    rfl
  rw [runIn_execute h, hran]
  dsimp only
  refine ⟨congrArg Flow.proceed (runIn_settle command t.result _).1, ?_⟩
  -- Settling adds what it says to the error stream, behind the complaints.
  have hsettle := wrote_settle hwrote.neverFails command t.result
  rw [hwrote.threshold] at hsettle
  rw [← List.append_nil (printed t.events)]
  exact hwrote.trans hsettle

end Execution

end CommandShell
