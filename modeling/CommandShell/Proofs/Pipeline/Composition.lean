import CommandShell.Proofs.Pipeline.Stages

/-!
# Pipelines as compositions

A pipeline is the composition of its stages. What one stage does is told by `stage`: which bytes it
writes to its output and to the error stream and with which exit code it ends, given what it reads.
The stages are composed from the left (`composed`): the first one reads the input of the pipeline,
each later one what the stage before it wrote and nothing else, and what they write to the error
stream stands in the order of the stages.

Running a pipeline on streams that never fail writes what the last stage of the composition writes,
complains as all of them do, and ends with the exit code of the last one (`run_eq_composed`).

Programs are taken to be functions here: what one writes and how it ends depends on its name, its
arguments and its input, all of which it reads, and it leaves the files as they are.
-/

namespace CommandShell

/-- What becomes of a call: the program cannot be started, or it writes something and ends. -/
abbrev Answer := String → List String → Bytes → Except Failure (Bytes × ExitStatus)

/-- The programs that answer as a function says. -/
def Programs.ofFunction (answer : Answer) : Programs := fun call =>
  (answer call.name call.args call.input).map fun (output, status) =>
    { output, status, files := call.files }

namespace Pipeline

/-- What a stage does. -/
structure Handover where
  /-- What it writes to its output. -/
  output : Bytes
  /-- What it writes to the error stream. -/
  errors : Bytes
  /-- Its exit code. -/
  code : Int

/-- How far a pipeline has come. -/
structure Relay where
  /-- What the next stage reads; after the last stage, what that one wrote. -/
  reading : Input
  /-- What has been written to the error stream. -/
  errors : Bytes
  /-- The exit codes of the stages so far. -/
  codes : List Int

section Stages

variable (answer : Answer) (engine : Pattern.Engine) (files : Files)
  (threshold : Option Journal.Level)

/-- What a stage does with what it reads. `exit` writes nothing; a command of the shell does what it
does on its own; a program that cannot be started is reported and writes nothing. -/
def stage (command : Command) (input : Input) : Handover :=
  if command.isExit then
    ⟨[], noted threshold .debug .pipeline s!"skipping {command.mention} inside a pipeline", 0⟩
  else if command.isBuiltin then
    let alone : Context :=
      ⟨files, .ofFunction answer, input, .unlimited, .unlimited, threshold, engine⟩
    let (flow, after) := (Execution.execute command).runIn alone
    ⟨after.out.contents, after.err.contents, flow.code⟩
  else
    match answer command.name command.args input.data with
    | .error failure =>
      let error := Programs.startError command.name failure
      ⟨[], utf8 (Execution.reportText command.name error), error.exitCode⟩
    | .ok (output, status) => ⟨output, [], status.exitCode⟩

/-- Add a stage to a pipeline. -/
def Relay.step (relay : Relay) (command : Command) : Relay :=
  let handover := stage answer engine files threshold command relay.reading
  ⟨.ofBytes handover.output, relay.errors ++ handover.errors, relay.codes ++ [handover.code]⟩

/-- The composition of some stages from the left; the first one reads the input. -/
def composed (commands : List Command) (input : Input) : Relay :=
  commands.foldl (Relay.step answer engine files threshold) ⟨input, [], []⟩

/-- What has been written and which codes there were before does not matter to later stages. -/
theorem foldl_step (commands : List Command) (relay : Relay) :
    commands.foldl (Relay.step answer engine files threshold) relay =
      let later := composed answer engine files threshold commands relay.reading
      ⟨later.reading, relay.errors ++ later.errors, relay.codes ++ later.codes⟩ := by
  induction commands generalizing relay with
  | nil => simp [composed]
  | cons command rest ih =>
    rw [composed, List.foldl_cons, List.foldl_cons, ih, ih (Relay.step _ _ _ _ ⟨_, _, _⟩ _)]
    simp [Relay.step]

/-- The later stages read what the first one wrote. -/
theorem composed_cons (command : Command) (rest : List Command) (input : Input) :
    composed answer engine files threshold (command :: rest) input =
      let first := stage answer engine files threshold command input
      let later := composed answer engine files threshold rest (.ofBytes first.output)
      ⟨later.reading, first.errors ++ later.errors, first.code :: later.codes⟩ := by
  rw [composed, List.foldl_cons, foldl_step]
  rfl

end Stages

/-! ## One stage -/

section Running

variable {answer : Answer} {c : Context}

/-- A command of the shell does the same on its own as among other commands. -/
theorem stage_of_builtin {command : Command} {builtin : Builtin}
    (h : Builtin.ofName? command.name = some builtin) (engine : Pattern.Engine) (files : Files)
    (threshold : Option Journal.Level) (input : Input) :
    let t := builtin.transcript command.args engine files input
    stage answer engine files threshold command input =
      ⟨printed t.events,
        complained t.events ++ Execution.settlement threshold command t.result,
        Execution.codeOf t.result⟩ := by
  intro t
  have hbuiltin : command.isBuiltin = true :=
    (Execution.isBuiltin_iff command).mpr (.inr ⟨builtin, h⟩)
  obtain ⟨hflow, hwrote⟩ := Execution.runIn_execute_of_neverFails h
    (c := ⟨files, .ofFunction answer, input, .unlimited, .unlimited, threshold, engine⟩)
    ⟨Output.neverFails_unlimited, Output.neverFails_unlimited⟩
  rw [stage, Execution.isExit_eq_false h, hbuiltin]
  simp only [Bool.false_eq_true, if_false, if_true]
  rw [hflow, hwrote.out, hwrote.err]
  rfl

/-- `exit` is passed over. -/
theorem stage_of_isExit {command : Command} (h : command.isExit = true)
    (engine : Pattern.Engine) (files : Files) (threshold : Option Journal.Level) (input : Input) :
    stage answer engine files threshold command input =
      ⟨[], noted threshold .debug .pipeline s!"skipping {command.mention} inside a pipeline",
        0⟩ := by
  rw [stage, if_pos h]

/-- A command is `exit`, another command of the shell, or the call of a program. -/
theorem isExit_or_builtin_or_program (command : Command) :
    command.isExit = true ∨ (∃ builtin, Builtin.ofName? command.name = some builtin) ∨
      (command.isExit = false ∧ command.isBuiltin = false) := by
  by_cases hbuiltin : command.isBuiltin = true
  · obtain h | h := (Execution.isBuiltin_iff command).mp hbuiltin
    · exact .inl h
    · exact .inr (.inl h)
  · refine .inr (.inr ⟨?_, eq_false_of_ne_true hbuiltin⟩)
    exact eq_false_of_ne_true fun h => hbuiltin ((Execution.isBuiltin_iff command).mpr (.inl h))

/-- The program that a command calls is started on the bytes of the input. -/
theorem runIn_start_of_answer (command : Command) (hprograms : c.programs = .ofFunction answer) :
    (Execution.start command).runIn c =
      match answer command.name command.args c.input.data with
      | .error failure => (.error (Programs.startError command.name failure), c)
      | .ok (output, status) =>
        (.ok { output, status, files := c.files },
          { c with input := { c.input with data := [] } }) := by
  rw [Execution.runIn_start, hprograms, Programs.ofFunction, Command.call]
  cases answer command.name command.args c.input.data <;> rfl

/-- What is written to an output of its own does not appear on that of the pipeline. -/
theorem runIn_captured {α : Type} {action : Action α} (hc : c.NeverFails)
    {output errors : Bytes}
    (h : { c with out := .unlimited }.Wrote (action.runIn { c with out := .unlimited }).2
      output errors) :
    ((captured action).runIn c).1 = ((action.runIn { c with out := .unlimited }).1, output) ∧
      c.Wrote ((captured action).runIn c).2 [] errors := by
  refine ⟨congrArg (Prod.mk _) h.out, ?_⟩
  exact ⟨h.files, h.programs, h.threshold, h.patterns, ⟨hc.out, h.neverFails.err⟩,
    (List.append_nil _).symm, h.err⟩

/-- A stage that is not the last writes nothing to the output of the pipeline. -/
theorem runIn_innerStage (command : Command) (hprograms : c.programs = .ofFunction answer)
    (hc : c.NeverFails) :
    let handover := stage answer c.patterns c.files c.threshold command c.input
    ((innerStage command).runIn c).1 = (handover.code, handover.output) ∧
      c.Wrote ((innerStage command).runIn c).2 [] handover.errors := by
  intro handover
  obtain h | ⟨builtin, h⟩ | ⟨hexit, hbuiltin⟩ := isExit_or_builtin_or_program command
  · rw [show handover = _ from stage_of_isExit h c.patterns c.files c.threshold c.input,
      innerStage, if_pos h]
    exact ⟨rfl, Action.wrote_note hc _ _ _⟩
  · obtain ⟨hflow, hwrote⟩ := Execution.runIn_execute_of_neverFails h
      (c := { c with out := .unlimited }) ⟨Output.neverFails_unlimited, hc.err⟩
    obtain ⟨hresult, hcaptured⟩ := runIn_captured hc hwrote
    rw [show handover = _ from stage_of_builtin h c.patterns c.files c.threshold c.input,
      innerStage, Execution.isExit_eq_false h,
      (Execution.isBuiltin_iff command).mpr (.inr ⟨builtin, h⟩)]
    simp only [Bool.false_eq_true, if_false, if_true]
    rw [Action.runIn_bind, hresult, hflow]
    exact ⟨rfl, hcaptured⟩
  · rw [show handover = stage .. from rfl, stage, innerStage, hexit, hbuiltin]
    simp only [Bool.false_eq_true, if_false]
    rw [Action.runIn_bind, runIn_start_of_answer command hprograms]
    -- A program that cannot be started hands nothing on; another one, all that it writes.
    cases answer command.name command.args c.input.data with
    | error failure =>
      dsimp only
      rw [Action.runIn_bind, (Execution.runIn_report _ _ _).1]
      exact ⟨rfl, Execution.wrote_report hc _ _⟩
    | ok given => exact ⟨rfl, (Context.Wrote.refl hc).setInput _⟩

/-- The last stage writes to the output of the pipeline. -/
theorem runIn_lastStage (command : Command) (hprograms : c.programs = .ofFunction answer)
    (hc : c.NeverFails) :
    let handover := stage answer c.patterns c.files c.threshold command c.input
    ((lastStage command).runIn c).1 = handover.code ∧
      c.Wrote ((lastStage command).runIn c).2 handover.output handover.errors := by
  intro handover
  obtain h | ⟨builtin, h⟩ | ⟨hexit, hbuiltin⟩ := isExit_or_builtin_or_program command
  · rw [show handover = _ from stage_of_isExit h c.patterns c.files c.threshold c.input,
      lastStage, if_pos h]
    exact ⟨rfl, Action.wrote_note hc _ _ _⟩
  · obtain ⟨hflow, hwrote⟩ := Execution.runIn_execute_of_neverFails h hc
    rw [show handover = _ from stage_of_builtin h c.patterns c.files c.threshold c.input, lastStage,
      Execution.isExit_eq_false h,
      (Execution.isBuiltin_iff command).mpr (.inr ⟨builtin, h⟩)]
    simp only [Bool.false_eq_true, if_false, if_true]
    rw [Action.runIn_bind, hflow]
    exact ⟨rfl, hwrote⟩
  · rw [show handover = stage .. from rfl, stage, lastStage, hexit, hbuiltin]
    simp only [Bool.false_eq_true, if_false]
    rw [Action.runIn_bind, runIn_start_of_answer command hprograms]
    cases answer command.name command.args c.input.data with
    | error failure =>
      exact ⟨(Execution.runIn_report _ _ _).1, Execution.wrote_report hc _ _⟩
    | ok given =>
      have hread := (Context.Wrote.refl hc).setInput { c.input with data := [] }
      dsimp only
      rw [Action.runIn_bind, passOn, Action.runIn_bind, Execution.runIn_copyOutput,
        Execution.copied_of_neverFails hread.neverFails.out]
      exact ⟨rfl, hread.trans (Action.wrote_print hread.neverFails given.1)⟩

/-! ## All stages -/

/-- Running some stages is composing them. -/
theorem runIn_runStages {commands : List Command} (hne : commands ≠ [])
    {engine : Pattern.Engine} {files : Files} {threshold : Option Journal.Level}
    (hpatterns : c.patterns = engine) (hfiles : c.files = files)
    (hthreshold : c.threshold = threshold) (hprograms : c.programs = .ofFunction answer)
    (hc : c.NeverFails) :
    let finish := composed answer engine files threshold commands c.input
    ((runStages commands).runIn c).1 = finish.codes ∧
      c.Wrote ((runStages commands).runIn c).2 finish.reading.data finish.errors := by
  induction commands generalizing c with
  | nil => exact absurd rfl hne
  | cons command rest ih =>
    intro finish
    rw [show finish = _ from
      composed_cons answer engine files threshold command rest c.input]
    subst hpatterns hfiles hthreshold
    cases rest with
    | nil =>
      obtain ⟨hcode, hwrote⟩ := runIn_lastStage command hprograms hc
      rw [runStages, Action.runIn_bind, hcode]
      refine ⟨rfl, ?_⟩
      change c.Wrote _ (stage ..).output ((stage ..).errors ++ [])
      rw [List.append_nil]
      exact hwrote
    | cons next rest =>
      -- The first of several stages writes nothing to the output of the pipeline.
      obtain ⟨hfirst, hwrote⟩ := runIn_innerStage command hprograms hc
      -- The other stages start with what this one wrote as their input.
      have hnext := hwrote.setInput
        (.ofBytes (stage answer c.patterns c.files c.threshold command c.input).output)
      obtain ⟨hcodes, hrest⟩ := ih (List.cons_ne_nil _ _) hnext.patterns hnext.files
        hnext.threshold (hnext.programs.trans hprograms) hnext.neverFails
      rw [runIn_runStages_cons command (List.cons_ne_nil next rest)]
      dsimp only
      rw [hfirst]
      exact ⟨congrArg (List.cons _) hcodes, (hnext.trans hrest).setInput _⟩

/-- What there is to say about the feeding of a program by the threshold of the notes. -/
def feedNote (threshold : Option Journal.Level) : Option Failure → Bytes
  | none => []
  | some failure =>
    noted threshold .warn .pipeline s!"failed to write pipeline input: {failure.text}"

/-- Where no stream fails, it is said. -/
theorem wrote_noteUnfed (hc : c.NeverFails) (failure : Option Failure) :
    c.Wrote ((noteUnfed failure).runIn c).2 [] (feedNote c.threshold failure) := by
  cases failure with
  | none => exact .refl hc
  | some failure => exact Action.wrote_note hc _ _ _

/-- What a pipeline of two or more commands writes and how it ends, by their composition. -/
theorem wrote_run (first second : Command) (rest : List Command) (inherited : Bool)
    (hprograms : c.programs = .ofFunction answer) (hc : c.NeverFails) :
    let commands := first :: second :: rest
    let finish := composed answer c.patterns c.files c.threshold commands c.input
    let ran := (run commands inherited).runIn c
    ran.1 = .proceed (finish.codes.getLastD 0) ∧
      c.Wrote ran.2 finish.reading.data (finish.errors ++
        feedNote c.threshold (unfedFirst inherited first c) ++
        noted c.threshold .debug .pipeline
          s!"pipeline exit codes: {showCodes finish.codes}") := by
  intro commands finish ran
  obtain ⟨hcodes, hwrote⟩ := runIn_runStages (List.cons_ne_nil first (second :: rest)) rfl rfl rfl
    hprograms hc
  -- Behind the stages stand the two notes.
  have hfed := wrote_noteUnfed hwrote.neverFails (unfedFirst inherited first c)
  have hnote := Action.wrote_note hfed.neverFails .debug .pipeline
    s!"pipeline exit codes: {showCodes finish.codes}"
  rw [hfed.threshold] at hnote
  have hall := (hwrote.trans hfed).trans hnote
  rw [hwrote.threshold, List.append_nil, List.append_nil] at hall
  have hran : ran = _ := runIn_run first second rest inherited c
  rw [hran]
  dsimp only
  rw [hcodes]
  exact ⟨rfl, hall⟩

/-- Running a pipeline of two or more commands is composing them: what the last stage writes is
written to the output, what they all complain about to the error stream in the order of the stages,
and the exit code is that of the last stage. Where notes are asked for, the complaints are followed
by one about an input that could not be handed to the first stage, and one about the exit codes. -/
theorem run_eq_composed (first second : Command) (rest : List Command) (inherited : Bool)
    (hprograms : c.programs = .ofFunction answer) (hc : c.NeverFails) :
    let commands := first :: second :: rest
    let finish := composed answer c.patterns c.files c.threshold commands c.input
    let ran := (run commands inherited).runIn c
    ran.1 = .proceed (finish.codes.getLastD 0) ∧
      ran.2.out.contents = c.out.contents ++ finish.reading.data ∧
      ran.2.err.contents = c.err.contents ++ (finish.errors ++
        feedNote c.threshold (unfedFirst inherited first c) ++
        noted c.threshold .debug .pipeline
          s!"pipeline exit codes: {showCodes finish.codes}") := by
  obtain ⟨hflow, hwrote⟩ := wrote_run first second rest inherited hprograms hc
  exact ⟨hflow, hwrote.out, hwrote.err⟩

/-- A program that cannot be started and an `exit` pass nothing on, and the pipeline goes on behind
them. A single line is sorted as it is. -/
theorem run_goes_on_behind_missing_program :
    let answer : Answer := fun name _ input =>
      if name = "sort" then .ok (input, .code 0) else .error (.system .noEntry)
    let commands : List Command :=
      [⟨"nosuch", []⟩, ⟨"exit", ["3"]⟩, ⟨"echo", ["hi"]⟩, ⟨"sort", []⟩]
    let c : Context :=
      ⟨⟨[], []⟩, .ofFunction answer, .ofBytes [0x78], .unlimited, .unlimited, none,
        Pattern.compile⟩
    let ran := (run commands).runIn c
    (c.programs = .ofFunction answer ∧ c.NeverFails) ∧
      ran.1 = .proceed 0 ∧ ran.2.out.contents = utf8 "hi\n" ∧
      ran.2.err.contents = utf8 "nosuch: command not found\n" := by
  intro answer commands c ran
  have hprograms : c.programs = .ofFunction answer := rfl
  have hc : c.NeverFails := ⟨Output.neverFails_unlimited, Output.neverFails_unlimited⟩
  have hfinish : composed answer c.patterns c.files c.threshold commands c.input =
      ⟨.ofBytes (utf8 "hi\n"), utf8 "nosuch: command not found\n", [127, 0, 0, 0]⟩ := rfl
  obtain ⟨hflow, hout, herr⟩ := run_eq_composed ⟨"nosuch", []⟩ ⟨"exit", ["3"]⟩
    [⟨"echo", ["hi"]⟩, ⟨"sort", []⟩] false hprograms hc
  rw [show composed answer c.patterns c.files c.threshold _ c.input = _ from hfinish]
    at hflow hout herr
  exact ⟨⟨hprograms, hc⟩, hflow, hout, herr⟩

end Running

end Pipeline

end CommandShell
