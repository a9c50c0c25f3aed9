import CommandShell.CommandLine
import CommandShell.Proofs.Line.Faults
import CommandShell.Proofs.Session.Effect

/-!
# Statuses stay within one byte

Whatever lines a session runs, the status variable is there and holds a number of one byte in
decimal (`Environment.HoldsExitCode`). Every way in which a line can end keeps this, since every
exit code is such a number and no line can assign the status variable (`Session.gives_runLine`); so
the sessions that the program runs end with such a number as well, and reducing it to one byte
changes nothing. The main theorem is `Session.statuses_are_exit_codes`.
-/

namespace CommandShell

/-- An exit code is not changed by reducing it to one byte. -/
theorem IsExitCode.emod_eq {code : Int} (h : IsExitCode code) : code % Exit.statusCount = code :=
  Int.emod_eq_of_lt h.1 h.2

/-! ## Assignments -/

namespace Line

theorem pipelineOf_ne_assignment (words : List Token) (name value : String) :
    pipelineOf words ≠ .ok (.assignment name value) := by
  intro h
  rw [pipelineOf] at h
  cases hstages : stages words with
  | error e =>
    rw [hstages] at h
    cases h
  | ok stages =>
    rw [hstages] at h
    change (do return Statement.pipeline (← stages.mapM commandOf)) = _ at h
    cases hcommands : stages.mapM commandOf with
    | error e =>
      rw [hcommands] at h
      cases h
    | ok commands =>
      rw [hcommands] at h
      cases h

/-- A line assigns to identifiers only. -/
theorem isIdentifier_of_parse {env : Environment} {line name value : String}
    (h : parse env line = .ok (.assignment name value)) :
    Text.isIdentifier name.toList = true := by
  have hpipeline (tokens : List Token) :
      (do pipelineOf (← expandedWords env tokens)) ≠ .ok (.assignment name value) := by
    cases expandedWords env tokens with
    | error e => exact nofun
    | ok words => exact pipelineOf_ne_assignment words name value
  rw [parse] at h
  split at h
  · cases h
  · cases htokens : tokenize (Text.trim line.toList) with
    | error e =>
      rw [htokens] at h
      cases h
    | ok tokens =>
      rw [htokens] at h
      change statementOf env tokens = _ at h
      rw [statementOf.eq_def] at h
      split at h
      -- Only a single token can be an assignment.
      · next token =>
        cases hassignment : assignment? token with
        | none =>
          rw [hassignment] at h
          exact absurd h (hpipeline [token])
        | some assigned =>
          obtain ⟨key, raw⟩ := assigned
          rw [hassignment] at h
          have hkey := (assignment?_eq_some_iff.mp hassignment).2
          change assign env key raw = _ at h
          rw [assign] at h
          split at h
          · cases h
          · cases h
            rwa [String.toList_ofList]
      · exact absurd h (hpipeline tokens)

/-- No line assigns the status variable, whose name is no identifier. -/
theorem parse_ne_assignment_statusName (env : Environment) (line value : String) :
    parse env line ≠ .ok (.assignment Environment.statusName value) := by
  intro h
  exact absurd (isIdentifier_of_parse h) (by decide)

end Line

/-! ## The status variable -/

namespace Environment

/-- The status variable is there, and holds an exit code in decimal. -/
structure HoldsExitCode (env : Environment) (code : Int) : Prop where
  isExitCode : IsExitCode code
  get?_statusName : env.get? statusName = some (Text.decimal code)

variable {env : Environment} {code : Int}

theorem HoldsExitCode.status_eq (h : env.HoldsExitCode code) : env.status = code := by
  have hbound : (statusBound : Int) = 2147483648 := by decide
  obtain ⟨⟨hlow, hhigh⟩, hget⟩ := h
  rw [Exit.statusCount] at hhigh
  rw [status, get, hget, Option.getD_some, Text.readSigned_decimal (by omega) (by omega)]

/-- An exit code is written without a sign. -/
theorem HoldsExitCode.isNumeral (h : env.HoldsExitCode code) :
    ∃ text n, env.get? statusName = some text ∧ Text.IsNumeral text n ∧ n < 256 := by
  obtain ⟨⟨hlow, hhigh⟩, hget⟩ := h
  rw [Exit.statusCount] at hhigh
  obtain ⟨n, rfl⟩ := Int.eq_ofNat_of_zero_le hlow
  exact ⟨Text.decimal n, n, hget, Text.isNumeral_decimal n, by omega⟩

theorem holdsExitCode_setStatus (env : Environment) (h : IsExitCode code) :
    (env.setStatus code).HoldsExitCode code :=
  ⟨h, lookup_assign_self _ _ _⟩

theorem HoldsExitCode.set (h : env.HoldsExitCode code) {name : String} (hname : name ≠ statusName)
    (value : String) : (env.set name value).HoldsExitCode code :=
  ⟨h.isExitCode, (get?_set_of_ne env hname.symm value).trans h.get?_statusName⟩

/-- A status variable that a process does not set is 0 to begin with. -/
theorem holdsExitCode_ofProcess {bindings : List (String × String)}
    (h : ∀ binding ∈ bindings, binding.1 ≠ statusName) :
    (ofProcess bindings).HoldsExitCode 0 := by
  have hfold (env : Environment) (henv : env.HoldsExitCode 0) :
      (bindings.foldl (fun env binding => env.set binding.1 binding.2) env).HoldsExitCode 0 := by
    induction bindings generalizing env with
    | nil => exact henv
    | cons binding rest ih =>
      obtain ⟨hfirst, hrest⟩ := List.forall_mem_cons.mp h
      exact ih hrest _ (henv.set hfirst _)
  exact hfold initial ⟨by decide, rfl⟩

end Environment

namespace Session

/-- The status variable of the session holds an exit code. -/
def HasStatus (session : Session) : Prop :=
  ∃ code, session.env.HoldsExitCode code

/-- A line leaves the exit code that it ends with; a blank one ends with that of the line before. -/
theorem holdsExitCode_runLine {session : Session} (h : session.HasStatus) (line : String)
    (inherited : Bool) (c : Context) :
    let ran := ((session.runLine line inherited).runIn c).1
    ran.1.env.HoldsExitCode ran.2.code := by
  dsimp only
  by_cases hblank : Text.IsBlankText line.toList
  · obtain ⟨code, hcode⟩ := h
    rw [(runIn_runLine_of_isBlankText c hblank).1, hcode.status_eq]
    exact hcode
  · cases hparse : Line.parse session.env line with
    | error error =>
      rw [(runIn_runLine_of_error c hblank hparse).1]
      exact Environment.holdsExitCode_setStatus _ error.isExitCode_exitCode
    | ok statement =>
      cases statement with
      | assignment key value =>
        have hzero : IsExitCode 0 := by decide
        rw [runIn_runLine_of_assignment c hparse]
        exact Environment.holdsExitCode_setStatus _ hzero
      | pipeline commands =>
        rw [runIn_runLine_of_pipeline c hparse]
        exact Environment.holdsExitCode_setStatus _ (Pipeline.gives_run commands inherited _)

/-- So every line keeps a session with a status, and ends with an exit code. -/
theorem gives_runLine {session : Session} (h : session.HasStatus) (line : String)
    (inherited : Bool) :
    (session.runLine line inherited).Gives
      fun ran => ran.1.HasStatus ∧ IsExitCode ran.2.code := by
  intro c
  have hran := holdsExitCode_runLine h line inherited c
  exact ⟨⟨_, hran⟩, hran.isExitCode⟩

theorem HasStatus.afterLines {session : Session} (h : session.HasStatus)
    (history : List (String × Context)) : (session.afterLines history).HasStatus := by
  induction history generalizing session with
  | nil => exact h
  | cons first rest ih => exact ih (gives_runLine h first.1 false first.2).1

/-! ## Whole inputs -/

/-- A run leaves a session with a status, and what it gives, if not an error, is an exit code. -/
def EndsWithStatus (ran : Session × Except Error Int) : Prop :=
  ran.1.HasStatus ∧ ∀ status, ran.2 = .ok status → IsExitCode status

theorem HasStatus.endsWithStatus_error {session : Session} (h : session.HasStatus) (error : Error) :
    EndsWithStatus (session, .error error) :=
  ⟨h, nofun⟩

theorem gives_readStatus {session : Session} (h : session.HasStatus) :
    session.readStatus.Gives IsExitCode := by
  obtain ⟨code, hcode⟩ := h
  refine .last fun _ => .pure ?_
  rw [hcode.status_eq]
  exact hcode.isExitCode

theorem gives_finish {session : Session} (h : session.HasStatus) (prompt : Option String)
    (failure : Option Failure) : (session.finish prompt failure).Gives EndsWithStatus := by
  have hread : (do return (session, .ok (← session.readStatus)) :
      Action (Session × Except Error Int)).Gives EndsWithStatus :=
    .bind (gives_readStatus h) fun code hcode => .pure ⟨h, fun status hstatus => by
      cases hstatus
      exact hcode⟩
  cases failure with
  | some failure => exact .pure (h.endsWithStatus_error _)
  | none =>
    refine .last fun _ => ?_
    cases prompt with
    | none => exact hread
    | some text =>
      refine .last fun failure? => ?_
      cases failure? with
      | some failure => exact .pure (h.endsWithStatus_error _)
      | none => exact hread

theorem gives_runLines {session : Session} (h : session.HasStatus) (prompt : Option String)
    (failure : Option Failure) (lines : List Bytes) :
    (runLines prompt failure session lines).Gives EndsWithStatus := by
  induction lines generalizing session with
  | nil =>
    rw [runLines]
    refine .last fun refused? => ?_
    cases refused? with
    | some refused => exact .pure (h.endsWithStatus_error _)
    | none => exact gives_finish h prompt failure
  | cons line rest ih =>
    rw [runLines]
    refine .last fun refused? => ?_
    cases refused? with
    | some refused => exact .pure (h.endsWithStatus_error _)
    | none =>
      refine .last fun _ => .bind (gives_runLine h (lossyText line) false) fun ran hran => ?_
      obtain ⟨session', flow⟩ := ran
      obtain ⟨hsession, hcode⟩ := hran
      refine .last fun unflushed? => ?_
      cases unflushed? with
      | some unflushed => exact .pure (hsession.endsWithStatus_error _)
      | none =>
        cases flow with
        | proceed code => exact ih hsession
        | exit status =>
          refine .last fun _ => .pure ⟨hsession, fun status' hstatus => ?_⟩
          cases hstatus
          exact hcode

theorem gives_run {session : Session} (h : session.HasStatus) (prompt : Option String)
    (input : Input) : (session.run prompt input).Gives EndsWithStatus :=
  gives_runLines h prompt input.failure input.lines

end Session

/-! ## The program -/

namespace CommandLine

theorem gives_conclude (message : Error → String) {ran : Session × Except Error Int}
    (h : Session.EndsWithStatus ran) : (conclude message ran.2).Gives IsExitCode := by
  obtain ⟨session, result⟩ := ran
  cases result with
  | ok status => exact .pure (h.2 status rfl)
  | error error => exact .last fun _ => .pure (by decide)

theorem gives_runScript {session : Session} (h : session.HasStatus) (path : String) :
    (runScript session path).Gives IsExitCode := by
  refine .last fun _ => .last fun context => ?_
  cases context.files.openInput path with
  | error failure => exact .last fun _ => .pure (by decide)
  | ok input => exact .bind (Session.gives_run h none input) fun ran hran => gives_conclude _ hran

theorem gives_runCommandLine {session : Session} (h : session.HasStatus) (text : String) :
    (runCommandLine session text).Gives IsExitCode := by
  refine .last fun _ => .bind (Session.gives_runLine h text true) fun ran hran =>
    .last fun unflushed? => ?_
  cases unflushed? with
  | none => exact .pure hran.2
  | some unflushed => exact .last fun _ => .pure (by decide)

theorem gives_runInput {session : Session} (h : session.HasStatus) (prompt : Option String) :
    (runInput session prompt).Gives IsExitCode :=
  .last fun _ => .bind (Session.gives_run h prompt _) fun _ hran => gives_conclude _ hran

/-- Whatever the program is asked to do, it ends with an exit code, if its process has not set the
status variable. -/
theorem gives_perform (request : Request) {process : Process}
    (h : ∀ binding ∈ process.bindings, binding.1 ≠ Environment.statusName) (interactive : Bool) :
    (perform request process interactive).Gives IsExitCode := by
  have hsession (palette : Palette) :
      (Session.mk (.ofProcess process.bindings) palette).HasStatus :=
    ⟨0, Environment.holdsExitCode_ofProcess h⟩
  refine .last fun _ => ?_
  split
  · exact .pure (by decide)
  · dsimp only
    split
    · exact gives_runCommandLine (hsession _) _
    · exact gives_runScript (hsession _) _
    · exact gives_runInput (hsession _) _

end CommandLine

namespace Session

/-- The statuses of a session are exit codes, whatever lines it runs.

Consider a session that begins with the initial variables and any others but the status variable,
and any lines that it has run, with any streams and any programs. The status variable is there and
is a number of one byte in decimal, without a sign and without leading zeros; it is that of the last
line that was not blank, or 0, and no line can assign it. The next line ends with an exit code, and
so does a whole input, if not with an error. The program that has such variables ends with an exit
code, and reducing it to one byte does not change it. -/
theorem statuses_are_exit_codes (process : CommandLine.Process)
    (hbindings : ∀ binding ∈ process.bindings, binding.1 ≠ Environment.statusName)
    (palette : Palette) (history : List (String × Context)) :
    let session : Session := ⟨.ofProcess process.bindings, palette⟩
    let now := session.afterLines history
    (∃ text n, now.env.get? Environment.statusName = some text ∧ Text.IsNumeral text n ∧ n < 256) ∧
      now.env.get Environment.statusName = Text.decimal ((session.lastCode history).getD 0) ∧
      (∀ line value, Line.parse now.env line ≠ .ok (.assignment Environment.statusName value)) ∧
      (∀ line inherited c, IsExitCode ((now.runLine line inherited).runIn c).1.2.code) ∧
      (∀ prompt input c status, ((now.run prompt input).runIn c).1.2 = .ok status →
        IsExitCode status ∧ status % 256 = status) ∧
      ∀ request interactive c,
        let status := ((CommandLine.perform request process interactive).runIn c).1
        IsExitCode status ∧ status % 256 = status ∧
          ∀ args, CommandLine.read process.lookup args = .ok (some request) →
            ((CommandLine.run args process interactive).runIn c).1 = status := by
  intro session now
  have hinitial : session.env.HoldsExitCode 0 := Environment.holdsExitCode_ofProcess hbindings
  have hsession : session.HasStatus := ⟨0, hinitial⟩
  have hnow : now.HasStatus := hsession.afterLines history
  refine ⟨?_, ?_, ?_, ?_, ?_, ?_⟩
  · obtain ⟨code, hcode⟩ := hnow
    exact hcode.isNumeral
  · rw [get_statusName_afterLines]
    cases session.lastCode history with
    | some code => rfl
    | none =>
      rw [Environment.get, hinitial.get?_statusName]
      rfl
  · exact Line.parse_ne_assignment_statusName now.env
  · exact fun line inherited c => (gives_runLine hnow line inherited c).2
  · intro prompt input c status hstatus
    have hcode := (gives_run hnow prompt input c).2 status hstatus
    exact ⟨hcode, hcode.emod_eq⟩
  · intro request interactive c status
    have hcode : IsExitCode status := CommandLine.gives_perform request hbindings interactive c
    refine ⟨hcode, hcode.emod_eq, fun args hread => ?_⟩
    rw [CommandLine.run, hread]
    exact hcode.emod_eq

/-- A program that a signal has ended, a blank line, and an `exit` with a negative number. -/
theorem status_of_signal_and_negative_exit :
    let process : CommandLine.Process := { bindings := [("x", "256")] }
    let programs : Programs := fun call =>
      .ok { output := [], status := .signal 9, files := call.files }
    let c : Context := ⟨⟨[], []⟩, programs, .empty, .unlimited, .unlimited, none, Pattern.compile⟩
    let session : Session := ⟨.ofProcess process.bindings, .plain⟩
    let history := [("tool $x", c), ("  ", c)]
    let now := session.afterLines history
    let line := "exit -$?"
    let ended := ((now.runLine line).runIn c).1.2
    (∀ binding ∈ process.bindings, binding.1 ≠ Environment.statusName) ∧
      now.env.get Environment.statusName = "137" ∧ ended = .exit 119 ∧ IsExitCode ended.code := by
  intro process programs c session history now line ended
  have hbindings : ∀ binding ∈ process.bindings, binding.1 ≠ Environment.statusName := by
    dsimp only [process]
    decide
  have hlast : session.lastCode history = some 137 := by
    dsimp only [history, session, c, programs, process]
    decide +kernel
  have hended : ended = .exit 119 := by
    dsimp only [ended, line, now, history, session, c, programs, process]
    decide +kernel
  have htext : Text.decimal 137 = "137" := by decide +kernel
  -- Nothing is evaluated from here on.
  clear_value line history c programs process
  obtain ⟨-, hstatus, -, hcode, -⟩ :=
    statuses_are_exit_codes process hbindings .plain history
  change now.env.get _ = Text.decimal ((session.lastCode history).getD 0) at hstatus
  rw [hlast, Option.getD_some, htext] at hstatus
  exact ⟨hbindings, hstatus, hended, hcode line false c⟩

end Session

end CommandShell
