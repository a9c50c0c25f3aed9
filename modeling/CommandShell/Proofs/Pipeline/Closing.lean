import CommandShell.Proofs.Execution.Closing
import CommandShell.Proofs.Execution.Notes
import CommandShell.Proofs.Pipeline.Composition
import Mathlib.Data.List.Basic

/-!
# Pipelines whose output closes

Two runs of a pipeline of the shell's own commands are compared: one with an output that never
fails, and one with an output that nobody reads beyond the first `room` bytes. Only the last stage
can tell them apart, since the others write to an output of their own. If everything is read, the
runs are the same; if not, the output holds the first `room` bytes, the exit code is 0, and nothing
is complained about that would not be complained about anyway (`run_of_closing`).
-/

namespace CommandShell.Pipeline

/-! ## Stages that are not the last -/

/-- Whatever is done with an output of its own does not concern that of the pipeline. -/
theorem ignoresOutput_captured {α : Type} (action : Action α) :
    (captured action).IgnoresOutput := fun _ _ => rfl

theorem ignoresOutput_innerStage (command : Command) : (innerStage command).IgnoresOutput := by
  rw [innerStage]
  split
  · exact .bind (.note _ _ _) fun _ => .pure _
  split
  · exact .bind (ignoresOutput_captured _) fun _ => .pure _
  · refine .bind (Execution.ignoresOutput_start command) fun started => ?_
    cases started with
    | error error => exact .bind (Execution.ignoresOutput_report _ _) fun _ => .pure _
    | ok outcome => exact .pure _

/-- Where the output goes does not matter before the last stage. -/
theorem runIn_runStages_cons_of_out (command : Command) {rest : List Command} (hrest : rest ≠ [])
    (c : Context) (out : Output) :
    (runStages (command :: rest)).runIn { c with out } =
      let first := (innerStage command).runIn c
      let others := (runStages rest).runIn { first.2 with out, input := .ofBytes first.1.2 }
      (first.1.1 :: others.1, { others.2 with input := first.2.input }) := by
  rw [runIn_runStages_cons command hrest, ignoresOutput_innerStage command c out]

/-- A command of the shell that is not the last stage complains to the error stream. -/
theorem complained_innerStage {command : Command} (hbuiltin : command.isBuiltin = true)
    {c : Context} (herr : c.err.NeverFails) :
    ∃ errors, c.Complained ((innerStage command).runIn c).2 errors := by
  have hc : ({ c with out := .unlimited } : Context).NeverFails :=
    ⟨Output.neverFails_unlimited, herr⟩
  suffices h : ∃ errors, { c with out := .unlimited }.Wrote
      ((innerStage command).runIn { c with out := .unlimited }).2 [] errors by
    obtain ⟨errors, hwrote⟩ := h
    exact ⟨errors, .of_ignoresOutput (ignoresOutput_innerStage command) hwrote⟩
  rw [innerStage]
  obtain hexit | ⟨builtin, hname⟩ := (Execution.isBuiltin_iff command).mp hbuiltin
  · rw [if_pos hexit]
    exact ⟨_, Action.wrote_note hc _ _ _⟩
  · obtain ⟨-, hwrote⟩ := Execution.runIn_execute_of_neverFails hname hc
    rw [Execution.isExit_eq_false hname, if_neg Bool.false_ne_true, if_pos hbuiltin]
    exact ⟨_, (runIn_captured hc hwrote).2⟩

/-! ## Comparing two runs -/

/-- How a run whose output closes after `room` bytes, `cut`, compares with a run whose output never
fails, `full`; both start in the context `c`, and `last` is the last stage. -/
structure Closes (c : Context) (room : Nat) (last : Command) (full cut : List Int × Context) :
    Prop where
  /-- The output holds the first bytes of what would be written. -/
  output : cut.2.out.contents = full.2.out.contents.take room
  /-- If all of it is read, there is no difference; else the last exit code is 0, and of the
  complaints only the later ones are missing. -/
  errors : ∃ errors, c.Complained full.2 errors ∧
    (full.2.out.contents.length ≤ room → cut.1 = full.1 ∧ c.Complained cut.2 errors) ∧
    (room < full.2.out.contents.length →
      (∃ codes, cut.1 = codes ++ [0]) ∧
        ∃ said, said <+: errors ∧
          c.Complained cut.2 (said ++ Execution.closingNote c.threshold last))

section Stages

variable {c : Context} {room : Nat} {failure : Failure} {last : Command}

/-- What an earlier stage has said comes first. -/
theorem Closes.cons {d : Context} {before : Bytes} {full cut : List Int × Context}
    (hfirst : c.Complained d before) (h : Closes d room last full cut) (code : Int)
    (input : Input) :
    Closes c room last (code :: full.1, { full.2 with input })
      (code :: cut.1, { cut.2 with input }) := by
  obtain ⟨houtput, errors, hfull, hfits, hover⟩ := h
  refine ⟨houtput, before ++ errors, (hfirst.trans hfull).setInput input, ?_, ?_⟩
  · intro hroom
    obtain ⟨hcodes, hsaid⟩ := hfits hroom
    exact ⟨congrArg (List.cons code) hcodes, (hfirst.trans hsaid).setInput input⟩
  · intro hroom
    obtain ⟨⟨codes, hcodes⟩, said, hbegins, hsaid⟩ := hover hroom
    refine ⟨⟨code :: codes, congrArg (List.cons code) hcodes⟩, before ++ said, ?_, ?_⟩
    · exact (List.prefix_append_right_inj before).mpr hbegins
    · rw [List.append_assoc, ← hfirst.threshold]
      exact (hfirst.trans hsaid).setInput input

/-- An action that ignores the output does the same in both runs. -/
theorem closes_of_ignoresOutput {action : Action (List Int)} (h : action.IgnoresOutput)
    {errors : Bytes} (hsaid : c.Complained (action.runIn c).2 errors) :
    Closes c room last (action.runIn { c with out := .unlimited })
      (action.runIn { c with out := .limited room failure }) := by
  rw [h c .unlimited, h c (.limited room failure)]
  refine ⟨List.take_nil.symm, errors, hsaid.setOut _, fun _ => ⟨rfl, hsaid.setOut _⟩, ?_⟩
  intro hover
  exact absurd hover (Nat.not_lt_zero room)

/-- The last stage is where the runs begin to differ. -/
theorem closes_lastStage (hbuiltin : last.isBuiltin = true) (herr : c.err.NeverFails)
    (hfailure : failure.isBrokenPipe = true) :
    Closes c room last ((runStages [last]).runIn { c with out := .unlimited })
      ((runStages [last]).runIn { c with out := .limited room failure }) := by
  rw [runStages, lastStage]
  obtain hexit | ⟨builtin, hname⟩ := (Execution.isBuiltin_iff last).mp hbuiltin
  · -- `exit` prints nothing, so that the output has no reason to fail.
    rw [if_pos hexit]
    have hskip : (noteSkipped last).IgnoresOutput := .note _ _ _
    exact closes_of_ignoresOutput (.bind (.bind hskip fun _ => .pure _) fun _ => .pure _)
      (Context.Complained.note herr _ _ _)
  · rw [Execution.isExit_eq_false hname, if_neg Bool.false_ne_true, if_pos hbuiltin]
    obtain ⟨hfull, hwrote⟩ := Execution.runIn_execute_of_neverFails hname
      (c := { c with out := .unlimited }) ⟨Output.neverFails_unlimited, herr⟩
    obtain ⟨hcut, hfits, hover⟩ := Execution.runIn_execute_of_closing hname
      (c := { c with out := .limited room failure }) (Output.isLimited_limited room failure)
      hfailure herr
    -- What the transcript prints is what the output holds that never fails.
    have hprinted : ((Execution.execute last).runIn { c with out := .unlimited }).2.out.contents =
        printed (builtin.transcript last.args c.patterns c.files c.input).events := hwrote.out
    rw [← hprinted] at hcut hfits hover
    simp only [Action.runIn_bind, Action.runIn_pure]
    refine ⟨hcut, _, ⟨hwrote.threshold, hwrote.neverFails.err, hwrote.err⟩, ?_, ?_⟩
    · intro h
      obtain ⟨hflow, hsaid⟩ := hfits h
      exact ⟨by rw [hflow, hfull], hsaid.of_err_eq rfl rfl⟩
    · intro h
      obtain ⟨hflow, said, hbegins, hsaid⟩ := hover h
      refine ⟨⟨[], by rw [hflow]; rfl⟩, said, hbegins.trans (List.prefix_append _ _), ?_⟩
      exact hsaid.of_err_eq rfl rfl

/-- Whatever the other stages are, the runs compare as those of the last one do. -/
theorem closes_runStages {inner : List Command}
    (hinner : ∀ command ∈ inner, command.isBuiltin = true) (hlast : last.isBuiltin = true)
    (herr : c.err.NeverFails) (hfailure : failure.isBrokenPipe = true) :
    Closes c room last ((runStages (inner ++ [last])).runIn { c with out := .unlimited })
      ((runStages (inner ++ [last])).runIn { c with out := .limited room failure }) := by
  -- The context varies, since each stage hands its input on to the next one.
  induction inner generalizing c with
  | nil => exact closes_lastStage hlast herr hfailure
  | cons command rest ih =>
    have hne : rest ++ [last] ≠ [] := List.append_ne_nil_of_right_ne_nil _ (List.cons_ne_nil _ _)
    -- The first stage says the same in both runs, and the others start alike behind it.
    obtain ⟨before, hfirst⟩ := complained_innerStage (hinner command List.mem_cons_self) herr
    have hstart := hfirst.setInput (.ofBytes ((innerStage command).runIn c).1.2)
    have hothers := ih (fun other hmem => hinner other (List.mem_cons_of_mem _ hmem))
      hstart.neverFails
    rw [List.cons_append, runIn_runStages_cons_of_out command hne,
      runIn_runStages_cons_of_out command hne]
    exact hothers.cons hstart _ _

/-- What the comparison comes to, once the runs have ended with notes that depend on the exit codes
alone. -/
theorem Closes.conclude {full cut : List Int × Context} (h : Closes c room last full cut)
    {finish : List Int → Action Unit} (notes : Option Journal.Level → List Int → Bytes)
    (hignores : ∀ codes, (finish codes).IgnoresOutput)
    (hnotes : ∀ codes (d : Context), d.err.NeverFails →
      AreNotes d.threshold (notes d.threshold codes) ∧
        d.Complained ((finish codes).runIn d).2 (notes d.threshold codes)) :
    let fullEnd := ((finish full.1).runIn full.2).2
    let cutEnd := ((finish cut.1).runIn cut.2).2
    let output := fullEnd.out.contents
    (output.length ≤ room →
        cut.1 = full.1 ∧ cutEnd.out.contents = output ∧
          cutEnd.err.contents = fullEnd.err.contents) ∧
      (room < output.length →
        cut.1.getLastD 0 = 0 ∧ cutEnd.out.contents = output.take room ∧
          ∃ said notes, AreNotes c.threshold notes ∧ said <+: fullEnd.err.contents ∧
            cutEnd.err.contents = said ++ notes) := by
  intro fullEnd cutEnd output
  obtain ⟨houtput, errors, hfull, hfits, hover⟩ := h
  obtain ⟨-, hfullEnd⟩ := hnotes full.1 full.2 hfull.neverFails
  have hcutOut : cutEnd.out = cut.2.out := (hignores cut.1).out_eq cut.2
  have hfullOut : output = full.2.out.contents :=
    congrArg Output.contents ((hignores full.1).out_eq full.2)
  -- The notes at the end leave both outputs as the stages have left them.
  rw [hfullOut, hcutOut, houtput]
  refine ⟨fun hroom => ?_, fun hroom => ?_⟩
  · obtain ⟨hcodes, hsaid⟩ := hfits hroom
    obtain ⟨-, hcutEnd⟩ := hnotes cut.1 cut.2 hsaid.neverFails
    refine ⟨hcodes, List.take_of_length_le hroom, ?_⟩
    rw [hcutEnd.err, hfullEnd.err, hsaid.err, hfull.err, hsaid.threshold, hfull.threshold, hcodes]
  · obtain ⟨⟨codes, hcodes⟩, said, hbegins, hsaid⟩ := hover hroom
    obtain ⟨hare, hcutEnd⟩ := hnotes cut.1 cut.2 hsaid.neverFails
    rw [hsaid.threshold] at hare hcutEnd
    refine ⟨by rw [hcodes, List.getLastD_concat], rfl, c.err.contents ++ said,
      Execution.closingNote c.threshold last ++ notes c.threshold cut.1, ?_, ?_, ?_⟩
    · exact (AreNotes.single _ _ _ _).append hare
    · -- The notes of the run that does not fail come behind all of its complaints.
      rw [hfullEnd.err, hfull.err, List.append_assoc]
      exact (List.prefix_append_right_inj _).mpr (hbegins.trans (List.prefix_append _ _))
    · rw [hcutEnd.err, hsaid.err]
      simp only [List.append_assoc]

/-- A single command of the shell other than `exit` ends like a pipeline that has no other stage. -/
theorem runIn_run_singleton {command : Command} {builtin : Builtin}
    (h : Builtin.ofName? command.name = some builtin) (c : Context) :
    (run [command]).runIn c =
      let ran := (runStages [command]).runIn c
      (.proceed (ran.1.getLastD 0), ran.2) := by
  have hbuiltin : command.isBuiltin = true :=
    (Execution.isBuiltin_iff command).mpr (.inr ⟨builtin, h⟩)
  rw [run, runStages, lastStage, Execution.isExit_eq_false h, if_neg Bool.false_ne_true,
    if_pos hbuiltin, Action.runIn_bind, Action.runIn_bind, Execution.runIn_execute h]
  rfl

/-- Several commands, the first of which is one of the shell, end with the exit code of the last one
and a note. -/
theorem runIn_run_of_isBuiltin {first : Command} (h : first.isBuiltin = true)
    {rest : List Command} (hrest : rest ≠ []) (c : Context) :
    (run (first :: rest)).runIn c =
      let ran := (runStages (first :: rest)).runIn c
      (.proceed (ran.1.getLastD 0),
        ((Action.note .debug .pipeline s!"pipeline exit codes: {showCodes ran.1}").runIn
          ran.2).2) := by
  obtain _ | ⟨second, rest⟩ := rest
  · exact absurd rfl hrest
  · rw [runIn_run, unfedFirst, if_pos h]
    rfl

/-- Two runs of a pipeline of the shell's own commands, one with an output that never fails and one
with an output that nobody reads beyond the first `room` bytes. If everything is read, both do the
same. If not, the output holds the first `room` bytes, the exit code is 0, and the error stream
holds the beginning of what it would hold otherwise; only notes come after that. -/
theorem run_of_closing {commands : List Command}
    (hbuiltin : ∀ command ∈ commands, command.isBuiltin = true) (herr : c.err.NeverFails)
    (room : Nat) (hfailure : failure.isBrokenPipe = true) :
    let full := (run commands).runIn { c with out := .unlimited }
    let cut := (run commands).runIn { c with out := .limited room failure }
    let output := full.2.out.contents
    (output.length ≤ room →
        cut.1 = full.1 ∧ cut.2.out.contents = output ∧
          cut.2.err.contents = full.2.err.contents) ∧
      (room < output.length →
        cut.1 = .proceed 0 ∧ cut.2.out.contents = output.take room ∧
          ∃ said notes, AreNotes c.threshold notes ∧ said <+: full.2.err.contents ∧
            cut.2.err.contents = said ++ notes) := by
  dsimp only
  obtain rfl | ⟨inner, last, hconcat⟩ := commands.eq_nil_or_concat
  · exact ⟨fun _ => ⟨rfl, rfl, rfl⟩, fun hover => absurd hover (Nat.not_lt_zero room)⟩
  obtain rfl : commands = inner ++ [last] := hconcat.trans List.concat_eq_append
  have hinner : ∀ command ∈ inner, command.isBuiltin = true :=
    fun command hmem => hbuiltin command (List.mem_append_left _ hmem)
  have hlast : last.isBuiltin = true :=
    hbuiltin last (List.mem_append_right _ (List.mem_singleton_self last))
  have hcloses : Closes c room last _ _ := closes_runStages hinner hlast herr hfailure
  cases inner with
  | cons first rest =>
    -- Several commands: a note about the exit codes comes at the end of both runs.
    have hfirst : first.isBuiltin = true := hinner first List.mem_cons_self
    have hne : rest ++ [last] ≠ [] := List.append_ne_nil_of_right_ne_nil _ (List.cons_ne_nil _ _)
    obtain ⟨hfits, hover⟩ := hcloses.conclude
      (fun threshold codes =>
        noted threshold .debug .pipeline s!"pipeline exit codes: {showCodes codes}")
      (fun codes => .note .debug .pipeline s!"pipeline exit codes: {showCodes codes}")
      (fun codes d hd => ⟨.single _ _ _ _, .note hd _ _ _⟩)
    rw [List.cons_append] at hfits hover ⊢
    rw [runIn_run_of_isBuiltin hfirst hne, runIn_run_of_isBuiltin hfirst hne]
    refine ⟨fun hroom => ?_, fun hroom => ?_⟩
    · exact (hfits hroom).imp_left (congrArg fun codes => Flow.proceed (List.getLastD codes 0))
    · exact (hover hroom).imp_left (congrArg Flow.proceed)
  | nil =>
    obtain hexit | ⟨builtin, hname⟩ := (Execution.isBuiltin_iff last).mp hlast
    · -- A single `exit` prints nothing.
      have hignores := Execution.ignoresOutput_execute_of_isExit hexit c
      rw [List.nil_append, run, hignores .unlimited, hignores (.limited room failure)]
      exact ⟨fun _ => ⟨rfl, rfl, rfl⟩, fun h => absurd h (Nat.not_lt_zero room)⟩
    · obtain ⟨hfits, hover⟩ := hcloses.conclude (fun _ _ => [])
        (fun _ => .pure ()) (fun _ d hd => ⟨.nil, .refl hd⟩)
      rw [List.nil_append, runIn_run_singleton hname, runIn_run_singleton hname]
      refine ⟨fun hroom => ?_, fun hroom => ?_⟩
      · exact (hfits hroom).imp_left (congrArg fun codes => Flow.proceed (List.getLastD codes 0))
      · exact (hover hroom).imp_left (congrArg Flow.proceed)

end Stages

/-- Of three files the first and the last are missing. Nobody reads more than the first byte of the
second one, so that there is no complaint about the last one any more. -/
theorem cat_prints_and_complains_until_closing :
    let files : Files :=
      ⟨["home"], [(["home", "a"], .file [0x68, 0x69] false), (["home"], .directory)]⟩
    let c : Context := ⟨files, .absent, .empty, .unlimited, .unlimited, none,
      Pattern.compile⟩
    let commands : List Command := [⟨"echo", ["x"]⟩, ⟨"cat", ["m", "a", "n"]⟩]
    let full := (run commands).runIn { c with out := .unlimited }
    let cut := (run commands).runIn { c with out := .limited 1 .closed }
    ((∀ command ∈ commands, command.isBuiltin = true) ∧ c.err.NeverFails ∧
        Failure.closed.isBrokenPipe = true ∧ 1 < full.2.out.contents.length) ∧
      cut.1 = .proceed 0 ∧ cut.2.out.contents = [0x68] ∧
        cut.2.err.contents <+: full.2.err.contents := by
  intro files c commands full cut
  have hbuiltin : ∀ command ∈ commands, command.isBuiltin = true := by decide
  have herr : c.err.NeverFails := Output.neverFails_unlimited
  have hthreshold : c.threshold = none := rfl
  have hfull : full.2.out.contents = [0x68, 0x69] := by
    dsimp only [full, commands, c, files]
    decide +kernel
  -- Nothing is evaluated from here on.
  clear_value c commands
  have hroom : 1 < full.2.out.contents.length := by
    rw [hfull]
    decide
  obtain ⟨-, hover⟩ := run_of_closing hbuiltin herr 1
    (rfl : Failure.closed.isBrokenPipe = true)
  obtain ⟨hflow, hout, said, notes, hnotes, hbegins, hsaid⟩ := hover hroom
  rw [hthreshold] at hnotes
  refine ⟨⟨hbuiltin, herr, rfl, hroom⟩, hflow, hout.trans ?_, ?_⟩
  · exact congrArg (List.take 1) hfull
  · rwa [show cut.2.err.contents = _ from hsaid, hnotes.eq_nil, List.append_nil]

end CommandShell.Pipeline
