import CommandShell.Proofs.Session.Effect

/-!
# How a session ends

A line ends the session only if it is a pipeline of a single `exit` that is asked for a status it
can give. This is followed from the arguments outwards: which of them `exit` understands
(`Exit.status_eq_ok_iff`), which command ends the session (`Execution.flow_execute_eq_exit_iff`),
which pipeline does (`Pipeline.flow_run_eq_exit_iff`), and which line does
(`Session.flow_runLine_eq_exit_iff`).

How a line comes to mean `exit` does not matter: its name and its arguments may be quoted, joined
from parts or the values of variables. What matters is the statement that reading the line gives.
The main theorem is `Session.ends_only_by_exit`.
-/

namespace CommandShell

/-! ## The arguments of `exit` -/

namespace Exit

/-- The integer has at most 64 bits, one of them for its sign. -/
def InRange (n : Int) : Prop :=
  -9223372036854775808 ≤ n ∧ n ≤ 9223372036854775807

/-- The arguments ask for a status. Without arguments it is 0; a single integer of 64 bits stands
for the number of one byte that it is congruent to, also if it is negative. -/
inductive Asks : List String → Int → Prop
  | nothing : Asks [] 0
  | number {text : String} {n : Int} (hinteger : Text.IsInteger text.toList n)
      (hrange : InRange n) : Asks [text] (n % 256)

/-- The arguments are refused, with a complaint: a single one that is no integer of 64 bits, or
more than one. -/
inductive Refuses : List String → String → Prop
  | number {text : String}
      (h : ∀ n, Text.IsInteger text.toList n → ¬InRange n) :
      Refuses [text] (text ++ ": numeric argument required")
  | surplus (first second : String) (rest : List String) :
      Refuses (first :: second :: rest) "too many arguments"

/-- The argument is read if it is an integer of 64 bits. -/
theorem readSigned_argumentBound_eq_ok_iff {text : List Char} {n : Int} :
    Text.readSigned argumentBound text = .ok n ↔ Text.IsInteger text n ∧ InRange n := by
  have hbound : (argumentBound : Int) = 9223372036854775808 := by decide
  rw [Text.readSigned_eq_ok_iff (by decide), hbound, InRange]
  refine and_congr_right fun _ => and_congr_right fun _ => ?_
  omega

/-- A single argument decides by what is read from it. -/
theorem status_singleton (text : String) :
    status [text] =
      match Text.readSigned argumentBound text.toList with
      | .ok n => .ok (n % statusCount)
      | .error _ => .error (.usage "exit" (text ++ ": numeric argument required")) := rfl

theorem status_eq_ok_iff {args : List String} {n : Int} : status args = .ok n ↔ Asks args n := by
  constructor
  · intro h
    rcases args with _ | ⟨text, _ | ⟨second, rest⟩⟩
    · obtain rfl : 0 = n := Except.ok.inj h
      exact .nothing
    · rw [status_singleton] at h
      cases hread : Text.readSigned argumentBound text.toList with
      | ok value =>
        rw [hread] at h
        obtain rfl : value % 256 = n := Except.ok.inj h
        obtain ⟨hinteger, hrange⟩ := readSigned_argumentBound_eq_ok_iff.mp hread
        exact .number hinteger hrange
      | error fault =>
        rw [hread] at h
        cases h
    · cases h
  · intro h
    cases h with
    | nothing => rfl
    | number hinteger hrange =>
      rw [status_singleton, readSigned_argumentBound_eq_ok_iff.mpr ⟨hinteger, hrange⟩]
      rfl

theorem status_of_refuses {args : List String} {message : String} (h : Refuses args message) :
    status args = .error (.usage "exit" message) := by
  cases h with
  | @number text h =>
    rw [status_singleton]
    cases hread : Text.readSigned argumentBound text.toList with
    | ok value =>
      obtain ⟨hinteger, hrange⟩ := readSigned_argumentBound_eq_ok_iff.mp hread
      exact absurd hrange (h value hinteger)
    | error fault => rfl
  | surplus first second rest => rfl

/-- Arguments that ask for no status are refused. -/
theorem exists_refuses {args : List String} (h : ∀ n, ¬Asks args n) :
    ∃ message, Refuses args message := by
  rcases args with _ | ⟨text, _ | ⟨second, rest⟩⟩
  · exact absurd .nothing (h 0)
  · refine ⟨_, .number fun n hinteger hrange => ?_⟩
    exact h (n % 256) (.number hinteger hrange)
  · exact ⟨_, .surplus text second rest⟩

/-- The status that is asked for is a number of one byte. -/
theorem Asks.isExitCode {args : List String} {n : Int} (h : Asks args n) : IsExitCode n :=
  isExitCode_status (status_eq_ok_iff.mpr h)

end Exit

/-! ## Commands and pipelines that end the session -/

namespace Execution

/-- Whatever the error stream accepts of it, an error is reported on it and nowhere else. -/
theorem reported_report (name : String) (error : Error) (c : Context) :
    ((report name error).runIn c).1 = error.exitCode ∧
      c.Reported (reportText name error) ((report name error).runIn c).2 := by
  unfold report
  rw [Action.runIn_bind, Action.runIn_complain]
  dsimp only
  rw [← reportText]
  cases (c.err.write (utf8 (reportText name error))).2 with
  | none => exact ⟨rfl, c, .refl, .refl⟩
  | some failure => exact ⟨rfl, c, .refl, .note .refl _ _ _⟩

/-- Only `exit` with arguments that it understands ends the session. -/
theorem flow_execute_eq_exit_iff {command : Command} {inherited : Bool} {c : Context} {n : Int} :
    ((execute command inherited).runIn c).1 = .exit n ↔
      command.name = Builtin.exitName ∧ Exit.Asks command.args n := by
  have hname : command.isExit = true ↔ command.name = Builtin.exitName := beq_iff_eq
  rw [← hname, ← Exit.status_eq_ok_iff]
  unfold execute
  by_cases hexit : command.isExit = true
  · rw [if_pos hexit]
    cases Exit.status command.args with
    | ok status =>
      show Flow.exit status = .exit n ↔ _
      simp [hexit]
    | error error => exact ⟨nofun, nofun⟩
  · rw [if_neg hexit]
    exact ⟨nofun, fun h => absurd h.1 hexit⟩

theorem reportText_exit (message : String) :
    reportText Builtin.exitName (.usage "exit" message) = s!"exit: {message}\n" := by
  have hlabel : Builtin.exitName ++ ": " = "exit: " := by decide
  show Builtin.exitName ++ ": " ++ message ++ "\n" = "exit: " ++ message ++ "\n"
  rw [hlabel]

/-- An `exit` that is refused goes on with exit code 2, and says so on the error stream. -/
theorem runIn_execute_of_refuses {args : List String} {message : String}
    (h : Exit.Refuses args message) (inherited : Bool) (c : Context) :
    let ran := (execute ⟨Builtin.exitName, args⟩ inherited).runIn c
    ran.1 = .proceed 2 ∧ c.Reported s!"exit: {message}\n" ran.2 := by
  have hexit : (⟨Builtin.exitName, args⟩ : Command).isExit = true := rfl
  obtain ⟨hcode, hreported⟩ := reported_report Builtin.exitName (.usage "exit" message) c
  rw [reportText_exit] at hreported
  unfold execute
  rw [if_pos hexit, Exit.status_of_refuses h]
  exact ⟨congrArg Flow.proceed hcode, hreported⟩

end Execution

namespace Pipeline

/-- Only a pipeline of a single command can end the session: an `exit` among other commands is
passed over, wherever it stands. -/
theorem flow_run_eq_exit_iff {commands : List Command} {inherited : Bool} {c : Context} {n : Int} :
    ((run commands inherited).runIn c).1 = .exit n ↔
      ∃ args, commands = [⟨Builtin.exitName, args⟩] ∧ Exit.Asks args n := by
  -- Only a single command gives its own flow; other pipelines go on with an exit code.
  rcases commands with _ | ⟨⟨name, args⟩, _ | ⟨second, rest⟩⟩
  · refine ⟨nofun, ?_⟩
    rintro ⟨args, h, -⟩
    exact absurd h.symm (List.cons_ne_nil _ _)
  · rw [run, Execution.flow_execute_eq_exit_iff]
    constructor
    · rintro ⟨hname, hasks⟩
      obtain rfl : name = Builtin.exitName := hname
      exact ⟨args, rfl, hasks⟩
    · rintro ⟨args', h, hasks⟩
      obtain ⟨⟨rfl, rfl⟩, -⟩ := List.cons.inj h
      exact ⟨rfl, hasks⟩
  · refine ⟨nofun, ?_⟩
    rintro ⟨args', h, -⟩
    exact absurd (List.cons.inj h).2 (List.cons_ne_nil _ _)

end Pipeline

/-! ## Lines that end the session -/

namespace Session

variable {session : Session} {line : String} {inherited : Bool} {c : Context}

/-- A pipeline is run behind the notes about reading the line; then its exit code is recorded. -/
theorem runIn_runLine_pipeline {commands : List Command}
    (h : Line.parse session.env line = .ok (.pipeline commands)) :
    (session.runLine line inherited).runIn c =
      let ran := (Pipeline.run commands inherited).runIn ((session.parse line).runIn c).2
      let recorded := (session.record ran.1.code).runIn ran.2
      ((recorded.1, ran.1), recorded.2) := by
  rw [runLine, Action.runIn_bind, (runIn_parse session line c).1, h]
  rfl

/-- A line ends the session if it is a single `exit` that is asked for a status. -/
theorem flow_runLine_eq_exit_iff {n : Int} :
    ((session.runLine line inherited).runIn c).1.2 = .exit n ↔
      ∃ args, Line.parse session.env line = .ok (.pipeline [⟨Builtin.exitName, args⟩]) ∧
        Exit.Asks args n := by
  by_cases hblank : Text.IsBlankText line.toList
  · -- A blank line is no statement at all.
    rw [(runIn_runLine_of_isBlankText c hblank).1, Line.parse_of_isBlankText _ hblank]
    exact ⟨nofun, nofun⟩
  cases hparse : Line.parse session.env line with
  | error error =>
    rw [(runIn_runLine_of_error c hblank hparse).1]
    exact ⟨nofun, nofun⟩
  | ok statement =>
    cases statement with
    | assignment key value =>
      rw [runIn_runLine_of_assignment c hparse]
      refine ⟨nofun, ?_⟩
      rintro ⟨args, ⟨⟩, -⟩
    | pipeline commands =>
      rw [runIn_runLine_of_pipeline c hparse]
      dsimp only
      rw [Pipeline.flow_run_eq_exit_iff]
      simp

/-- A single `exit` that is refused is reported, and changes no stream but the error stream. -/
theorem runIn_runLine_of_refuses {args : List String} {message : String}
    (hparse : Line.parse session.env line = .ok (.pipeline [⟨Builtin.exitName, args⟩]))
    (h : Exit.Refuses args message) :
    let ran := (session.runLine line inherited).runIn c
    ran.1.2 = .proceed 2 ∧ c.Reported s!"exit: {message}\n" ran.2 := by
  obtain ⟨-, hnoted⟩ := runIn_parse session line c
  obtain ⟨hflow, hreported⟩ :=
    Execution.runIn_execute_of_refuses h inherited ((session.parse line).runIn c).2
  rw [runIn_runLine_pipeline hparse]
  exact ⟨hflow, (hreported.of_noted hnoted).noted (noted_noteSet _ _ _)⟩

/-- Behind its prompt, a line is run with nothing to read, and what it has written is flushed. If
that fails, so does the session; else the next line follows, unless this one has ended the
session. -/
theorem runIn_runLines_of_prompted {prompt : Option String} {before : Context}
    (hprompt : (session.showPrompt prompt).runIn before = (none, { c with input := before.input }))
    (hinput : c.input = .empty) (failure : Option Failure) (bytes : Bytes) (rest : List Bytes) :
    let ran := (session.runLine (lossyText bytes)).runIn c
    let all := (runLines prompt failure session (bytes :: rest)).runIn before
    (∀ unflushed, ran.2.out.flush = some unflushed →
        all = ((ran.1.1, .error (.io unflushed)), ran.2)) ∧
      (ran.2.out.flush = none →
        (∀ code, ran.1.2 = .proceed code →
            all = (runLines prompt failure ran.1.1 rest).runIn ran.2) ∧
          (∀ n, ran.1.2 = .exit n → all.1 = (ran.1.1, .ok n))) := by
  have hstart : { { c with input := before.input } with input := .empty } = c := by
    rw [← hinput]
  rw [runLines, Action.runIn_bind, hprompt]
  dsimp only
  rw [Action.runIn_bind, Action.runIn_modify, Action.runIn_bind, hstart]
  dsimp only
  rw [Action.runIn_bind, Action.runIn_flush]
  dsimp only
  -- What is done next depends on the flush, and then on the flow that the line has ended with.
  generalize (session.runLine (lossyText bytes)).runIn c = ran
  obtain ⟨⟨session', flow⟩, now⟩ := ran
  dsimp only
  cases now.out.flush with
  | some unflushed =>
    refine ⟨?_, nofun⟩
    rintro _ ⟨rfl⟩
    rfl
  | none =>
    refine ⟨nofun, fun _ => ?_⟩
    cases flow with
    | proceed code => exact ⟨fun _ _ => rfl, nofun⟩
    | exit status =>
      refine ⟨nofun, ?_⟩
      rintro _ ⟨rfl⟩
      rfl

/-- A session ends only by a single `exit` that is asked for a status.

Running a line, in any session and on any streams, ends the session with a status if and only if the
line stands for a pipeline of one command with the name `exit`, and its arguments ask for this
status, which is a number of one byte. If they ask for none, they are refused: this is reported,
nothing else is written, and the exit code is 2. In each other case there is an exit code, too.

Among the lines of a session, each is followed by a flush of the output, without which the session
fails. Behind it, where the line leaves an exit code, the next line is run in the session and on the
streams as this one has left them; where it ends the session, no line follows. -/
theorem ends_only_by_exit (session : Session) (line : String) (inherited : Bool) (c : Context) :
    let parsed := Line.parse session.env line
    let ran := (session.runLine line inherited).runIn c
    (∀ n, ran.1.2 = .exit n ↔
        ∃ args, parsed = .ok (.pipeline [⟨Builtin.exitName, args⟩]) ∧ Exit.Asks args n) ∧
      (∀ n, ran.1.2 = .exit n → 0 ≤ n ∧ n ≤ 255) ∧
      (∀ args, parsed = .ok (.pipeline [⟨Builtin.exitName, args⟩]) → (∀ n, ¬Exit.Asks args n) →
        ∃ message, Exit.Refuses args message ∧
          ran.1.2 = .proceed 2 ∧ ran.2 = { c with err := ran.2.err } ∧
            c.Reported s!"exit: {message}\n" ran.2) ∧
      ((∀ args n, parsed = .ok (.pipeline [⟨Builtin.exitName, args⟩]) → ¬Exit.Asks args n) →
        ∃ code, ran.1.2 = .proceed code) ∧
      (inherited = false → c.input = .empty → ∀ bytes prompt before, lossyText bytes = line →
        (session.showPrompt prompt).runIn before = (none, { c with input := before.input }) →
          ∀ failure rest,
            let all := (runLines prompt failure session (bytes :: rest)).runIn before
            (∀ unflushed, ran.2.out.flush = some unflushed →
                all = ((ran.1.1, .error (.io unflushed)), ran.2)) ∧
              (ran.2.out.flush = none →
                (∀ code, ran.1.2 = .proceed code →
                    all = (runLines prompt failure ran.1.1 rest).runIn ran.2) ∧
                  (∀ n, ran.1.2 = .exit n → all.1 = (ran.1.1, .ok n)))) := by
  intro parsed
  have hends (n : Int) := @flow_runLine_eq_exit_iff session line inherited c n
  have hrefused := @runIn_runLine_of_refuses session line inherited c
  have hgoes := @runIn_runLines_of_prompted session c
  dsimp only at hrefused hgoes ⊢
  refine ⟨hends, ?_, ?_, ?_, ?_⟩
  · intro n hflow
    obtain ⟨args, -, hasks⟩ := (hends n).mp hflow
    obtain ⟨hlow, hhigh⟩ := hasks.isExitCode
    rw [Exit.statusCount] at hhigh
    exact ⟨hlow, by omega⟩
  · intro args hparse hnone
    obtain ⟨message, hrefuses⟩ := Exit.exists_refuses hnone
    obtain ⟨hflow, hreported⟩ := hrefused hparse hrefuses
    have hkept := hreported.eq_setErr
    exact ⟨message, hrefuses, hflow, hkept, hreported⟩
  · intro hnone
    -- A flow that is no exit code is a status, which the line must have asked for.
    generalize (session.runLine line inherited).runIn c = ran at hends
    cases hflow : ran.1.2 with
    | proceed code => exact ⟨code, rfl⟩
    | exit n =>
      obtain ⟨args, hparse, hasks⟩ := (hends n).mp hflow
      exact absurd hasks (hnone args n hparse)
  · rintro rfl hinput bytes prompt before rfl hprompt failure rest
    exact hgoes hprompt hinput failure bytes rest

/-- An `exit` with a word for a number is refused, and the lines go on. The next one ends the
session: its name and its argument come from variables, and the argument is negative. -/
theorem lines_end_by_exit_from_variables :
    let session : Session := ⟨(Environment.initial.set "x" "ex").set "n" "-1 ", .plain⟩
    let c : Context :=
      ⟨⟨[], []⟩, .absent, .empty, .unlimited, .unlimited, none, Pattern.compile⟩
    let lines := [utf8 "exit a\n", utf8 "$x'it' $n\n", utf8 "echo never\n"]
    let all := (runLines none none session lines).runIn c
    let refused := (session.runLine "exit a\n").runIn c
    all.1.2 = .ok 255 ∧ refused.1.2 = .proceed 2 ∧
      refused.2.err.contents = utf8 "exit: a: numeric argument required\n" := by
  intro session c lines all refused
  have htext : lossyText (utf8 "exit a\n") = "exit a\n" := by decide +kernel
  have htext' : lossyText (utf8 "$x'it' $n\n") = "$x'it' $n\n" := by decide +kernel
  have hparse : Line.parse session.env "exit a\n" = .ok (.pipeline [⟨"exit", ["a"]⟩]) := by
    decide +kernel
  have hnone : ∀ n, ¬Exit.Asks ["a"] n := by
    intro n hasks
    cases Exit.status_eq_ok_iff.mpr hasks
  obtain ⟨-, -, hrefused, -, hgoes⟩ := ends_only_by_exit session "exit a\n" false c
  obtain ⟨message, hrefuses, hflow, hkept, hreported⟩ := hrefused ["a"] hparse hnone
  obtain rfl : message = "a" ++ ": numeric argument required" := by cases hrefuses; rfl
  have hinput : refused.2.input = .empty := by rw [show refused.2 = _ from hkept]
  have hflush : refused.2.out.flush = none := by
    rw [show refused.2 = _ from hkept]
    rfl
  have hgone : all = (runLines none none refused.1.1 _).runIn refused.2 :=
    ((hgoes rfl rfl _ none c htext rfl none _).2 hflush).1 2 hflow
  -- The second line is run in the session that the first one has left.
  have hparse' : Line.parse refused.1.1.env "$x'it' $n\n" =
      .ok (.pipeline [⟨"exit", ["-1"]⟩]) := by
    decide +kernel
  have hflush' :
      ((refused.1.1.runLine "$x'it' $n\n").runIn refused.2).2.out.flush = none := by
    decide +kernel
  obtain ⟨hends, -, -, -, hgoes'⟩ :=
    ends_only_by_exit refused.1.1 "$x'it' $n\n" false refused.2
  have hexit := (hends 255).mpr ⟨["-1"], hparse', Exit.status_eq_ok_iff.mp (by decide +kernel)⟩
  have hended := ((hgoes' rfl hinput _ none refused.2 htext' rfl none
    [utf8 "echo never\n"]).2 hflush').2 255 hexit
  refine ⟨?_, hflow, ?_⟩
  · rw [hgone]
    exact congrArg Prod.snd hended
  · rw [hreported.contents_of_threshold rfl]
    decide +kernel

end Session

end CommandShell
