import CommandShell.Proofs.Pipeline.Closing

/-!
# Programs alone and behind `cat`

A program can be called as a single command, or as the last stage of a pipeline that only hands the
input on to it. The two ways are compared for programs that end in one way whether their output is
accepted or not, and for outputs that fail, if they do, for another reason than that nobody reads
them. Both ways put the same bytes into the output. As long as all of them are delivered, or the
program cannot be started, they also complain alike and end alike. But where output is lost, the
single command reports that and ends with exit code 1, while the pipeline keeps it to a note and
ends with the exit code of the program (`run_alone_and_behind_cat`).
-/

namespace CommandShell

namespace Output

/-- The failure that is met when bytes are written to the output and it is flushed behind them. -/
def delivery (out : Output) (bytes : Bytes) : Option Failure :=
  match (out.write bytes).2 with
  | none => (out.write bytes).1.flush
  | some failure => some failure

/-- Writing to the output and flushing it fail, if at all, for another reason than that nobody reads
it. -/
structure FailsLoudly (out : Output) : Prop where
  /-- So does a write. -/
  write : out.room = none ∨ out.failure.isBrokenPipe = false
  /-- So does a flush. -/
  flush (pieces : List Bytes) (failure : Failure) :
    out.flushing pieces = some failure → failure.isBrokenPipe = false

/-- What is lost is lost loudly. -/
theorem FailsLoudly.isBrokenPipe {out : Output} (h : out.FailsLoudly) {bytes : Bytes}
    {failure : Failure} (hlost : out.delivery bytes = some failure) :
    failure.isBrokenPipe = false := by
  rw [delivery] at hlost
  cases hwrite : (out.write bytes).2 with
  | none =>
    rw [hwrite, Output.flush, flushing_write] at hlost
    exact h.flush _ failure hlost
  | some failure' =>
    rw [hwrite] at hlost
    obtain rfl : failure' = failure := Option.some.inj hlost
    obtain ⟨hroom, rfl⟩ := write_failure_eq hwrite
    exact h.write.resolve_left hroom

end Output

/-- No program ends in another way because its output is not accepted. -/
def Programs.EndAlike (programs : Programs) : Prop :=
  ∀ call outcome, programs call = .ok outcome →
    ∀ taken, outcome.statusClosed taken = outcome.status

namespace Execution

/-- A command that is not one of the shell's own is called, and the result is settled. -/
theorem runIn_execute_of_not_isBuiltin {command : Command} (h : command.isBuiltin = false)
    (c : Context) :
    (execute command).runIn c =
      let ran := (runProgram command).runIn c
      let settled := (settle command ran.1).runIn ran.2
      (.proceed settled.1, settled.2) := by
  obtain ⟨hexit, hname⟩ := Bool.or_eq_false_iff.mp h
  have hnone : Builtin.ofName? command.name = none :=
    Option.isNone_iff_eq_none.mp (Option.isSome_eq_false_iff.mp hname)
  have hexit' : command.isExit = false := hexit
  rw [execute, hexit', if_neg Bool.false_ne_true, runCommand, hnone]
  rfl

/-- The error of a program that cannot be started is not that nobody reads its output. -/
theorem isBrokenPipe_startError (name : String) (failure : Failure) :
    (Programs.startError name failure).isBrokenPipe = false := by
  fun_cases Programs.startError name failure <;> rfl

/-- A program that ends in one way only ends in that way, whatever becomes of its output. -/
theorem copied_of_endsAlike {outcome : Outcome}
    (h : ∀ taken, outcome.statusClosed taken = outcome.status) (out : Output) :
    copied out outcome =
      (outcome.status, Failure.unlessClosed (out.delivery outcome.output)) := by
  rw [copied, Output.delivery]
  cases (out.write outcome.output).2 with
  | none => rfl
  | some failure => exact congrArg (Prod.mk · _) (h _)

section Programs

variable {command : Command} {c : Context} {outcome : Outcome}

/-- A program that has ended has said nothing itself. -/
theorem complained_afterProgram (herr : c.err.NeverFails) (input : Input) (outcome : Outcome) :
    c.Complained (afterProgram { c with input } outcome) [] :=
  ⟨rfl, herr, (List.append_nil _).symm⟩

/-- A single command whose program cannot be started reports that. -/
theorem runIn_execute_of_startError (h : command.isBuiltin = false) {failure : Failure}
    (hcall : c.programs (command.call c) = .error failure) :
    (execute command).runIn c =
      let reported := (report command.name (Programs.startError command.name failure)).runIn c
      (.proceed reported.1, reported.2) := by
  rw [runIn_execute_of_not_isBuiltin h, runIn_runProgram, hcall]
  dsimp only
  rw [settle, isBrokenPipe_startError, if_neg Bool.false_ne_true]

/-- A single command whose program has ended passes the output on. -/
theorem runIn_execute_of_outcome (h : command.isBuiltin = false) (hinput : c.input.failure = none)
    (hcall : c.programs (command.call c) = .ok outcome) :
    (execute command).runIn c =
      let result : Except Error Int :=
        match (copied c.out outcome).2 with
        | none => .ok (copied c.out outcome).1.exitCode
        | some failure => .error (.io failure)
      let settled := (settle command result).runIn (afterProgram c outcome)
      (.proceed settled.1, settled.2) := by
  rw [runIn_execute_of_not_isBuiltin h, runIn_runProgram, hcall]
  dsimp only
  rw [unfed?_of_failure_eq_none false outcome hinput]
  cases (copied c.out outcome).2 <;> rfl

end Programs

end Execution

namespace Pipeline

/-- `cat` without files, which hands its input on. -/
def handOn : Command := ⟨Cat.name, []⟩

/-- What is done with an output of its own leaves that of the pipeline as it was. -/
theorem runIn_captured_eq {α : Type} (action : Action α) (c : Context) :
    (captured action).runIn c =
      let ran := action.runIn { c with out := .unlimited }
      ((ran.1, ran.2.out.contents), { ran.2 with out := c.out }) := rfl

/-- Handing an input on takes all of it and says nothing. -/
theorem runIn_innerStage_handOn {c : Context} (h : c.input.failure = none) :
    (innerStage handOn).runIn c = ((0, c.input.data), { c with input := .empty }) := by
  obtain ⟨files, programs, ⟨data, failure⟩, out, err, threshold, patterns⟩ := c
  obtain rfl : failure = none := h
  let captured : Output := (Output.unlimited.write data).1
  have hran : (Execution.execute handOn).runIn
      ⟨files, programs, ⟨data, none⟩, .unlimited, err, threshold, patterns⟩ =
      (.proceed 0, ⟨files, programs, .empty, captured, err, threshold, patterns⟩) := by
    rw [Execution.runIn_execute (show Builtin.ofName? handOn.name = some .cat by decide)]
    rfl
  have hcontents : captured.contents = data := List.append_nil data
  have hexit : handOn.isExit = false := by decide
  have hbuiltin : handOn.isBuiltin = true := by decide
  rw [innerStage, hexit, if_neg Bool.false_ne_true, if_pos hbuiltin, Action.runIn_bind,
    runIn_captured_eq, hran]
  exact congrArg (fun bytes => ((0, bytes), _)) hcontents

/-- What is handed on is called for as if it came from the input itself. -/
theorem runIn_run_handOn {command : Command} {c : Context} (h : c.input.failure = none) :
    (run [handOn, command]).runIn c =
      let last := (lastStage command).runIn { c with input := .ofBytes c.input.data }
      (.proceed last.1,
        ((Action.note .debug .pipeline
            s!"pipeline exit codes: {showCodes [0, last.1]}").runIn
          { last.2 with input := .empty }).2) := by
  have hbuiltin : handOn.isBuiltin = true := by decide
  rw [runIn_run_of_isBuiltin hbuiltin (List.cons_ne_nil command []),
    runIn_runStages_cons handOn (List.cons_ne_nil command []), runIn_innerStage_handOn h]
  rfl

/-- A last stage whose program cannot be started reports that. -/
theorem runIn_lastStage_of_startError {command : Command} (h : command.isBuiltin = false)
    {c : Context} {failure : Failure} (hcall : c.programs (command.call c) = .error failure) :
    (lastStage command).runIn c =
      (Execution.report command.name (Programs.startError command.name failure)).runIn c := by
  have hexit : command.isExit = false := (Bool.or_eq_false_iff.mp h).1
  rw [lastStage, hexit, h, if_neg Bool.false_ne_true, if_neg Bool.false_ne_true,
    Action.runIn_bind, Execution.runIn_start, hcall]

/-- A last stage whose program has ended passes the output on. -/
theorem runIn_lastStage_of_outcome {command : Command} (h : command.isBuiltin = false)
    {c : Context} {outcome : Outcome} (hcall : c.programs (command.call c) = .ok outcome) :
    (lastStage command).runIn c =
      let after := Execution.afterProgram c outcome
      ((Execution.copied c.out outcome).1.exitCode,
        match (Execution.copied c.out outcome).2 with
        | none => after
        | some failure =>
          ((Action.note .warn .pipeline
            s!"failed to copy output of {command.mention}: {failure.text}").runIn after).2) := by
  have hexit : command.isExit = false := (Bool.or_eq_false_iff.mp h).1
  rw [lastStage, hexit, h, if_neg Bool.false_ne_true, if_neg Bool.false_ne_true,
    Action.runIn_bind, Execution.runIn_start, hcall]
  dsimp only
  rw [Action.runIn_bind, passOn, Action.runIn_bind, Execution.runIn_copyOutput]
  dsimp only
  obtain ⟨status, lost⟩ := Execution.copied c.out outcome
  cases lost <;> rfl

section Comparison

variable {command : Command} {c : Context}

/-- What the last stage complains about is followed by notes only. -/
theorem runIn_run_handOn_of_complained (hinput : c.input.failure = none) {code : Int}
    {after : Context} {said : Bytes}
    (hlast : (lastStage command).runIn { c with input := .ofBytes c.input.data } = (code, after))
    (hsaid : c.Complained after said) :
    let behind := (run [handOn, command]).runIn c
    behind.1 = .proceed code ∧ behind.2.out = after.out ∧
      ∃ notes, AreNotes c.threshold notes ∧
        behind.2.err.contents = c.err.contents ++ said ++ notes := by
  rw [runIn_run_handOn hinput, hlast]
  have hbefore := hsaid.setInput .empty
  have hnote := hbefore.trans (.note hbefore.neverFails .debug .pipeline
    s!"pipeline exit codes: {showCodes [0, code]}")
  refine ⟨rfl, Action.out_note _ _ _ _, _, ?_, hnote.err.trans (List.append_assoc _ _ _).symm⟩
  rw [hbefore.threshold]
  exact .single c.threshold _ _ _

/-- A program that cannot be started is reported in the same way alone and behind `cat`. -/
theorem run_alone_and_behind_cat_of_startError (hprogram : command.isBuiltin = false)
    (hinput : c.input.failure = none) (herr : c.err.NeverFails) {failure : Failure}
    (hcall : c.programs (command.call c) = .error failure) :
    let alone := (run [command]).runIn c
    let behind := (run [handOn, command]).runIn c
    behind.2.out = alone.2.out ∧ behind.1 = alone.1 ∧
      ∃ notes, AreNotes c.threshold notes ∧
        behind.2.err.contents = alone.2.err.contents ++ notes := by
  intro alone behind
  let error := Programs.startError command.name failure
  have halone := Execution.runIn_execute_of_startError hprogram hcall
  have hlast := runIn_lastStage_of_startError
    (c := { c with input := .ofBytes c.input.data }) hprogram hcall
  have hreport (d : Context) := Execution.runIn_report command.name error d
  have hsaid := Execution.complained_report herr command.name error
  have hsaid' : c.Complained _ _ :=
    (Execution.complained_report (c := { c with input := .ofBytes c.input.data }) herr
      command.name error).of_err_eq rfl rfl
  obtain ⟨hflow, hout, notes, hnotes, herrors⟩ :=
    runIn_run_handOn_of_complained hinput hlast hsaid'
  rw [show alone = _ from halone]
  refine ⟨?_, ?_, notes, hnotes, ?_⟩
  · exact (hout.trans (hreport _).2).trans (hreport c).2.symm
  · exact hflow.trans (congrArg Flow.proceed ((hreport _).1.trans (hreport c).1.symm))
  · exact herrors.trans (congrArg (· ++ notes) hsaid.err.symm)

/-- A program whose output is delivered ends in the same way alone and behind `cat`. -/
theorem run_alone_and_behind_cat_of_delivered (hprogram : command.isBuiltin = false)
    (hinput : c.input.failure = none) (herr : c.err.NeverFails) {outcome : Outcome}
    (hcall : c.programs (command.call c) = .ok outcome)
    (hcopied : Execution.copied c.out outcome = (outcome.status, none)) :
    let alone := (run [command]).runIn c
    let behind := (run [handOn, command]).runIn c
    behind.2.out = alone.2.out ∧ behind.1 = alone.1 ∧
      ∃ notes, AreNotes c.threshold notes ∧
        behind.2.err.contents = alone.2.err.contents ++ notes := by
  intro alone behind
  let c' : Context := { c with input := .ofBytes c.input.data }
  have halone : alone = (.proceed outcome.status.exitCode, Execution.afterProgram c outcome) :=
    (Execution.runIn_execute_of_outcome hprogram hinput hcall).trans (by rw [hcopied]; rfl)
  have hlast : (lastStage command).runIn c' =
      (outcome.status.exitCode, Execution.afterProgram c' outcome) := by
    refine (runIn_lastStage_of_outcome (c := c') hprogram hcall).trans ?_
    rw [show Execution.copied c'.out outcome = _ from hcopied]
  obtain ⟨hflow, hout, notes, hnotes, herrors⟩ :=
    runIn_run_handOn_of_complained hinput hlast (Execution.complained_afterProgram herr _ outcome)
  rw [halone]
  exact ⟨hout, hflow, notes, hnotes, herrors.trans (by rw [List.append_nil]; rfl)⟩

/-- A program whose output is lost is reported if it is called alone, but only noted behind
`cat`. -/
theorem run_alone_and_behind_cat_of_lost (hprogram : command.isBuiltin = false)
    (hinput : c.input.failure = none) (herr : c.err.NeverFails) {outcome : Outcome}
    (hcall : c.programs (command.call c) = .ok outcome) {failure : Failure}
    (hcopied : Execution.copied c.out outcome = (outcome.status, some failure))
    (hfailure : failure.isBrokenPipe = false) :
    let alone := (run [command]).runIn c
    let behind := (run [handOn, command]).runIn c
    behind.2.out = alone.2.out ∧
      (alone.1 = .proceed 1 ∧ alone.2.err.contents = c.err.contents ++
        utf8 (Execution.reportText command.name (.io failure))) ∧
      behind.1 = .proceed outcome.status.exitCode ∧
        ∃ notes, AreNotes c.threshold notes ∧
          behind.2.err.contents = c.err.contents ++ notes := by
  intro alone behind
  let c' : Context := { c with input := .ofBytes c.input.data }
  -- Alone, the error of the copying is that of the command, which reports it.
  have hloud : (Error.io failure).isBrokenPipe = false := hfailure
  have halone : alone =
      let reported := (Execution.report command.name (.io failure)).runIn
        (Execution.afterProgram c outcome)
      (.proceed reported.1, reported.2) := by
    refine (Execution.runIn_execute_of_outcome hprogram hinput hcall).trans ?_
    rw [hcopied]
    dsimp only
    rw [Execution.settle, hloud, if_neg Bool.false_ne_true]
  obtain ⟨hcode, hkept⟩ := Execution.runIn_report command.name (.io failure)
    (Execution.afterProgram c outcome)
  have hprinted := Execution.complained_afterProgram herr c.input outcome
  have hreported := hprinted.trans
    (Execution.complained_report hprinted.neverFails command.name (.io failure))
  -- As the last stage, it is a note, and the exit code is kept.
  have hlast : (lastStage command).runIn c' = (outcome.status.exitCode,
      ((Action.note .warn .pipeline
          s!"failed to copy output of {command.mention}: {failure.text}").runIn
        (Execution.afterProgram c' outcome)).2) := by
    refine (runIn_lastStage_of_outcome (c := c') hprogram hcall).trans ?_
    rw [show Execution.copied c'.out outcome = _ from hcopied]
  have hpassed := Execution.complained_afterProgram herr (.ofBytes c.input.data) outcome
  have hnoted := hpassed.trans (.note hpassed.neverFails .warn .pipeline
      s!"failed to copy output of {command.mention}: {failure.text}")
  obtain ⟨hflow, hout, notes, hnotes, herrors⟩ :=
    runIn_run_handOn_of_complained hinput hlast hnoted
  rw [halone]
  refine ⟨?_, ⟨congrArg Flow.proceed hcode, hreported.err⟩, hflow, _,
    (AreNotes.single c.threshold _ _ _).append hnotes,
    herrors.trans (List.append_assoc _ _ _)⟩
  exact (hout.trans (Action.out_note _ _ _ _)).trans hkept.symm

/-- A program puts the same bytes into the output whether it is called alone or behind `cat`. If
all of its output is delivered, and also if it cannot be started, it ends with the same exit code
and the same complaints. If output is lost, for another reason than that nobody reads it, the
single command reports that and ends with exit code 1; the pipeline only notes it and ends with
the exit code of the program. -/
theorem run_alone_and_behind_cat (hprogram : command.isBuiltin = false)
    (hends : c.programs.EndAlike) (hinput : c.input.failure = none) (herr : c.err.NeverFails)
    (hout : c.out.FailsLoudly) :
    let alone := (run [command]).runIn c
    let behind := (run [handOn, command]).runIn c
    behind.2.out.contents = alone.2.out.contents ∧
      ((∀ outcome, c.programs (command.call c) = .ok outcome →
          c.out.delivery outcome.output = none) →
        behind.1 = alone.1 ∧ ∃ notes, AreNotes c.threshold notes ∧
          behind.2.err.contents = alone.2.err.contents ++ notes) ∧
      (∀ outcome failure, c.programs (command.call c) = .ok outcome →
        c.out.delivery outcome.output = some failure →
          (alone.1 = .proceed 1 ∧ alone.2.err.contents = c.err.contents ++
            utf8 (Execution.reportText command.name (.io failure))) ∧
          behind.1 = .proceed outcome.status.exitCode ∧
            ∃ notes, AreNotes c.threshold notes ∧
              behind.2.err.contents = c.err.contents ++ notes) := by
  intro alone behind
  cases hcall : c.programs (command.call c) with
  | error failure =>
    obtain ⟨hsame, hrun⟩ :=
      run_alone_and_behind_cat_of_startError hprogram hinput herr hcall
    exact ⟨congrArg Output.contents hsame, fun _ => hrun, nofun⟩
  | ok outcome =>
    have hcopied := Execution.copied_of_endsAlike (hends _ outcome hcall) c.out
    cases hdelivery : c.out.delivery outcome.output with
    | none =>
      rw [hdelivery] at hcopied
      obtain ⟨hsame, hrun⟩ :=
        run_alone_and_behind_cat_of_delivered hprogram hinput herr hcall hcopied
      refine ⟨congrArg Output.contents hsame, fun _ => hrun, ?_⟩
      rintro _ failure ⟨rfl⟩ hlost
      rw [hdelivery] at hlost
      cases hlost
    | some failure =>
      -- An output that fails loudly cannot lose bytes because nobody reads them.
      have hloud := hout.isBrokenPipe hdelivery
      have hkept : Failure.unlessClosed (some failure) = some failure := by
        simp [Failure.unlessClosed, hloud]
      rw [hdelivery, hkept] at hcopied
      obtain ⟨hsame, hrun⟩ :=
        run_alone_and_behind_cat_of_lost hprogram hinput herr hcall hcopied hloud
      refine ⟨congrArg Output.contents hsame, fun hdelivered => ?_, ?_⟩
      · rw [hdelivered outcome rfl] at hdelivery
        cases hdelivery
      · rintro _ other ⟨rfl⟩ hlost
        obtain rfl : failure = other := Option.some.inj (hdelivery.symm.trans hlost)
        exact hrun

end Comparison

/-- Programs that are functions end in one way only. -/
theorem endAlike_ofFunction (answer : Answer) : (Programs.ofFunction answer).EndAlike := by
  intro call outcome hcall taken
  rw [Programs.ofFunction] at hcall
  cases hanswer : answer call.name call.args call.input with
  | error failure =>
    rw [hanswer] at hcall
    cases hcall
  | ok given =>
    rw [hanswer] at hcall
    obtain rfl := Except.ok.inj hcall
    rfl

/-- An output that takes no more than the program writes is enough for both to end with the exit
code of the program. -/
theorem tool_ends_alike_where_all_is_accepted :
    let answer : Answer := fun _ _ _ => .ok ([0x68, 0x69], .code 3)
    let command : Command := ⟨"tool", []⟩
    let c : Context := ⟨⟨[], []⟩, .ofFunction answer, .ofBytes [0x78],
      .limited 2 (.other "disk full"), .unlimited, none, Pattern.compile⟩
    let alone := (run [command]).runIn c
    let behind := (run [handOn, command]).runIn c
    (command.isBuiltin = false ∧ c.programs.EndAlike ∧ c.input.failure = none ∧
        c.err.NeverFails ∧ c.out.FailsLoudly) ∧
      alone.1 = .proceed 3 ∧ behind.1 = alone.1 ∧
        behind.2.out.contents = alone.2.out.contents ∧
          behind.2.err.contents = alone.2.err.contents := by
  intro answer command c alone behind
  have hprogram : command.isBuiltin = false := by decide
  have hends : c.programs.EndAlike := endAlike_ofFunction answer
  have hout : c.out.FailsLoudly := ⟨.inr rfl, nofun⟩
  obtain ⟨hsame, hdelivered, -⟩ :=
    run_alone_and_behind_cat hprogram hends rfl Output.neverFails_unlimited hout
  obtain ⟨hflow, notes, hnotes, herrors⟩ := hdelivered (by rintro _ ⟨rfl⟩; rfl)
  refine ⟨⟨hprogram, hends, rfl, Output.neverFails_unlimited, hout⟩, rfl, hflow, hsame, ?_⟩
  rw [show behind.2.err.contents = _ from herrors, hnotes.eq_nil, List.append_nil]

/-- On a full disk `tool` alone complains and ends with exit code 1; behind `cat` nothing is said
about the lost output, and the exit code is that of a success. -/
theorem tool_behind_cat_hides_lost_output :
    let answer : Answer := fun _ _ _ => .ok ([0x68, 0x69], .code 0)
    let command : Command := ⟨"tool", []⟩
    let c : Context := ⟨⟨[], []⟩, .ofFunction answer, .empty, .limited 0 (.other "disk full"),
      .unlimited, none, Pattern.compile⟩
    let alone := (run [command]).runIn c
    let behind := (run [handOn, command]).runIn c
    (command.isBuiltin = false ∧ c.programs.EndAlike ∧ c.input.failure = none ∧
        c.err.NeverFails ∧ c.out.FailsLoudly) ∧
      (alone.1 = .proceed 1 ∧
        alone.2.err.contents = utf8 "tool: I/O error: disk full\n") ∧
      behind.1 = .proceed 0 ∧ behind.2.err.contents = [] ∧
        behind.2.out.contents = [] ∧ alone.2.out.contents = [] := by
  intro answer command c alone behind
  have hprogram : command.isBuiltin = false := by decide
  have herr : c.err.NeverFails := Output.neverFails_unlimited
  have hcall : c.programs (command.call c) =
      .ok { output := [0x68, 0x69], status := .code 0, files := c.files } := rfl
  obtain ⟨hsame, ⟨hflow, herrors⟩, hbehind, notes, hnotes, hsilent⟩ :=
    run_alone_and_behind_cat_of_lost hprogram rfl herr hcall rfl (rfl : _ = false)
  have hlost : alone.2.out.contents = [] := by
    rw [show alone = _ from Execution.runIn_execute_of_outcome hprogram rfl hcall]
    rw [(Execution.runIn_settle _ _ _).2]
    rfl
  have htext : Execution.reportText command.name (.io c.out.failure) =
      "tool: I/O error: disk full\n" := by decide +kernel
  rw [htext] at herrors
  refine ⟨⟨hprogram, endAlike_ofFunction answer, rfl, herr, .inr rfl, nofun⟩, ⟨hflow, herrors⟩,
    hbehind, ?_, ?_, hlost⟩
  · rw [show behind.2.err.contents = _ from hsilent, hnotes.eq_nil]
    rfl
  · exact (congrArg Output.contents hsame).trans hlost

end Pipeline

end CommandShell
