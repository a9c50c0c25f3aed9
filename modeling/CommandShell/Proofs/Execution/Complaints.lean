import CommandShell.Proofs.Execution.Running

/-!
# Complaints that cannot be delivered

What becomes of a command of the shell when its error stream stops accepting. The report of an
error that ends a command is given up quietly, but a complaint that does not fit ends the command
itself: what it had still to do is not done, and it ends with exit code 0 if nobody reads the error
stream and with 1 otherwise (`runIn_execute_of_undelivered`).

So a command does the same with any error stream exactly if its complaints fit, or if the loss of
one is no loss otherwise: the command had nothing left to print, and its exit code would have been 1
in any case (`execute_limited_eq_iff`).
-/

namespace CommandShell

/-- What a command of the shell does; `exit` does nothing of its own. -/
def Command.events (command : Command) (engine : Pattern.Engine) (files : Files) (input : Input) :
    List Event :=
  match Builtin.ofName? command.name with
  | none => []
  | some builtin => (builtin.transcript command.args engine files input).events

namespace Execution

/-- `exit` leaves the output alone, and does the same with any error stream. -/
theorem runIn_execute_of_isExit {command : Command} (h : command.isExit = true) (c c' : Context) :
    ((execute command).runIn c).1 = ((execute command).runIn c').1 ∧
      ((execute command).runIn c).2.out = c.out := by
  rw [execute, if_pos h]
  cases Exit.status command.args with
  | ok status => exact ⟨rfl, rfl⟩
  | error error =>
    dsimp only
    rw [Action.runIn_bind, Action.runIn_bind]
    obtain ⟨hcode, hout⟩ := runIn_report command.name error c
    refine ⟨congrArg Flow.proceed ?_, hout⟩
    exact hcode.trans (runIn_report command.name error c').1.symm

/-- With an error stream that accepts only so many bytes, a command of the shell ends as its result
says if its complaints fit, and else with the failure of the error stream. What it has printed is
everything but the output of what is left. -/
theorem runIn_execute_of_limited {command : Command} {builtin : Builtin}
    (h : Builtin.ofName? command.name = some builtin) {c : Context} {room : Nat}
    (hout : c.out.NeverFails) (hroom : c.err.room = some room) :
    let t := builtin.transcript command.args c.patterns c.files c.input
    let left := undelivered room t.events
    ((execute command).runIn c).1 =
        .proceed (codeOf (if left = [] then t.result else .error (.io c.err.failure))) ∧
      ((execute command).runIn c).2.out.contents ++ printed left =
        c.out.contents ++ printed t.events := by
  intro t left
  obtain ⟨hresult, hprinted⟩ := runIn_performAll_of_limited hout hroom t.events
  have hran : (builtin.run command.args).runIn c =
      (if left = [] then t.result else .error (.io c.err.failure),
        ((performAll t.events).runIn c).2) := by
    rw [builtin.runIn_run command.args hout.endsQuietly, runIn_replay]
    generalize (performAll t.events).runIn c = ran at hresult ⊢
    obtain ⟨result, c'⟩ := ran
    change result = Job.stopped (if left = [] then none else some c.err.failure) at hresult
    rw [hresult]
    by_cases hleft : left = []
    · rw [if_pos hleft, if_pos hleft]
      rfl
    · rw [if_neg hleft, if_neg hleft]
      rfl
  rw [runIn_execute h, hran]
  dsimp only
  obtain ⟨hcode, hsettle⟩ := runIn_settle command
    (if left = [] then t.result else .error (.io c.err.failure)) ((performAll t.events).runIn c).2
  refine ⟨congrArg Flow.proceed hcode, ?_⟩
  rw [hsettle]
  exact hprinted

/-- Two runs of a command of the shell, one with an error stream that stops accepting and one with
an error stream that never fails: how they end, and what the first one has not printed. -/
theorem runIn_execute_limited {command : Command} {builtin : Builtin}
    (h : Builtin.ofName? command.name = some builtin) {c : Context} (hout : c.out.NeverFails)
    (room : Nat) (failure : Failure) :
    let t := builtin.transcript command.args c.patterns c.files c.input
    let left := undelivered room t.events
    let cut := (execute command).runIn { c with err := .limited room failure }
    let full := (execute command).runIn { c with err := .unlimited }
    cut.1 = .proceed (codeOf (if left = [] then t.result else .error (.io failure))) ∧
      full.1 = .proceed (codeOf t.result) ∧
      cut.2.out.contents ++ printed left = full.2.out.contents := by
  intro t left cut full
  obtain ⟨hcut, hprinted⟩ :=
    runIn_execute_of_limited h (c := { c with err := .limited room failure }) hout rfl
  obtain ⟨hfull, hwrote⟩ :=
    runIn_execute_of_neverFails h (c := { c with err := .unlimited })
      ⟨hout, Output.neverFails_unlimited⟩
  exact ⟨hcut, hfull, hprinted.trans hwrote.out.symm⟩

/-- The exit code of a command that the failure of its error stream has ended. -/
theorem codeOf_io (failure : Failure) :
    codeOf (.error (.io failure)) = if failure.isBrokenPipe then 0 else 1 := rfl

/-- A complaint that does not fit ends a command: it has exit code 0 if nobody reads the error
stream and 1 otherwise, where it would have had its own exit code for complaints, and it does not
print what it had still to print. -/
theorem runIn_execute_of_undelivered {command : Command} {builtin : Builtin}
    (h : Builtin.ofName? command.name = some builtin) {c : Context} (hout : c.out.NeverFails)
    {room : Nat} (failure : Failure)
    (hleft : undelivered room
      (builtin.transcript command.args c.patterns c.files c.input).events ≠ []) :
    let events := (builtin.transcript command.args c.patterns c.files c.input).events
    let cut := (execute command).runIn { c with err := .limited room failure }
    let full := (execute command).runIn { c with err := .unlimited }
    cut.1 = .proceed (if failure.isBrokenPipe then 0 else 1) ∧
      full.1 = .proceed builtin.complaintCode ∧
      cut.2.out.contents ++ printed (undelivered room events) = full.2.out.contents := by
  intro events cut full
  obtain ⟨hcut, hfull, hprinted⟩ := runIn_execute_limited h hout room failure
  -- What is left begins with a complaint, and that has made up the exit code.
  obtain ⟨event, hmem, hcomplaint⟩ := exists_complaint_of_undelivered_ne_nil hleft
  rw [if_neg hleft, codeOf_io] at hcut
  rw [Builtin.result_of_complaint hmem hcomplaint] at hfull
  exact ⟨hcut, hfull, hprinted⟩

/-- A command of the shell all of whose complaints fit does the same as with an error stream that
never fails. -/
theorem runIn_execute_of_delivered {command : Command} {builtin : Builtin}
    (h : Builtin.ofName? command.name = some builtin) {c : Context} (hout : c.out.NeverFails)
    {room : Nat} (failure : Failure)
    (hleft : undelivered room
      (builtin.transcript command.args c.patterns c.files c.input).events = []) :
    let cut := (execute command).runIn { c with err := .limited room failure }
    let full := (execute command).runIn { c with err := .unlimited }
    cut.1 = full.1 ∧ cut.2.out.contents = full.2.out.contents := by
  intro cut full
  obtain ⟨hcut, hfull, hprinted⟩ := runIn_execute_limited h hout room failure
  rw [if_pos hleft] at hcut
  rw [hleft, printed_nil, List.append_nil] at hprinted
  exact ⟨hcut.trans hfull.symm, hprinted⟩

/-- The failure of an error stream leads to the exit code for complaints exactly if that is 1 and
the failure is not that nobody reads the stream. -/
theorem codeOf_io_eq_complaintCode_iff {name : String} {builtin : Builtin}
    (h : Builtin.ofName? name = some builtin) (failure : Failure) :
    codeOf (.error (.io failure)) = builtin.complaintCode ↔
      failure.isBrokenPipe = false ∧ name ≠ Grep.name := by
  have hname := List.find?_some (p := fun other : Builtin => other.name == name) h
  obtain rfl := eq_of_beq hname
  rw [codeOf_io]
  cases failure.isBrokenPipe <;> cases builtin <;> decide

/-- A command of the shell does the same with an error stream that stops accepting as with one that
never fails exactly if its complaints fit, or nothing is lost with the first one that does not:
there is nothing left to be printed, and the exit code would have been 1 in any case. -/
theorem execute_limited_eq_iff {command : Command} (hbuiltin : command.isBuiltin = true)
    {c : Context} (hout : c.out.NeverFails) (room : Nat) (failure : Failure) :
    let left := undelivered room (command.events c.patterns c.files c.input)
    let cut := (execute command).runIn { c with err := .limited room failure }
    let full := (execute command).runIn { c with err := .unlimited }
    (cut.1 = full.1 ∧ cut.2.out.contents = full.2.out.contents) ↔
      left = [] ∨
        (failure.isBrokenPipe = false ∧ command.name ≠ Grep.name ∧ printed left = []) := by
  intro left cut full
  obtain hexit | ⟨builtin, hname⟩ := (isBuiltin_iff command).mp hbuiltin
  · -- `exit` has no complaints of its own, and gives up its report quietly.
    have hnone : Builtin.ofName? command.name = none := by
      rw [eq_of_beq hexit]
      decide
    have hleft : left = [] := by
      change undelivered room (command.events c.patterns c.files c.input) = []
      rw [Command.events, hnone]
      rfl
    obtain ⟨hflow, hcut⟩ := runIn_execute_of_isExit hexit
      { c with err := .limited room failure } { c with err := .unlimited }
    have hfull := (runIn_execute_of_isExit hexit { c with err := .unlimited } c).2
    exact iff_of_true ⟨hflow, congrArg Output.contents (hcut.trans hfull.symm)⟩ (.inl hleft)
  · have hevents : command.events c.patterns c.files c.input =
        (builtin.transcript command.args c.patterns c.files c.input).events := by
      rw [Command.events, hname]
    -- If a complaint is left, the exit codes decide, and then what there was left to be printed.
    by_cases hleft : left = []
    · exact iff_of_true (runIn_execute_of_delivered hname hout failure (by rwa [← hevents]))
        (.inl hleft)
    · obtain ⟨hcut, hfull, hprinted⟩ :=
        runIn_execute_of_undelivered hname hout failure (by rwa [← hevents])
      rw [← hevents] at hprinted
      rw [or_iff_right hleft, ← and_assoc, ← codeOf_io_eq_complaintCode_iff hname, codeOf_io,
        show cut.1 = _ from hcut, show full.1 = _ from hfull, Flow.proceed.injEq,
        show full.2.out.contents = _ from hprinted.symm, List.self_eq_append_right]

/-- A disk that is full takes no complaint about the last file, but the contents of the file before
it have been printed by then, and the exit code is 1 either way. -/
theorem cat_loses_nothing_with_its_last_complaint :
    let files : Files :=
      ⟨["home"], [(["home", "a"], .file [0x68, 0x69] false), (["home"], .directory)]⟩
    let c : Context := ⟨files, .absent, .empty, .unlimited, .unlimited, none, Pattern.compile⟩
    let command : Command := ⟨"cat", ["a", "b"]⟩
    let full := (execute command).runIn { c with err := .unlimited }
    let cut := (execute command).runIn { c with err := .limited 0 (.other "disk full") }
    (command.isBuiltin = true ∧ c.out.NeverFails) ∧
      undelivered 0 (command.events c.patterns c.files c.input) ≠ [] ∧
      (cut.1 = full.1 ∧ cut.2.out.contents = full.2.out.contents) := by
  intro files c command full cut
  have hlast : undelivered 0 (command.events c.patterns c.files c.input) =
      [.complain "cat: b: No such file or directory\n", .flush] := by
    dsimp only [command, c, files]
    decide +kernel
  have hbuiltin : command.isBuiltin = true := by decide
  have hname : command.name ≠ Grep.name := by decide
  have hout : c.out.NeverFails := Output.neverFails_unlimited
  -- Nothing is evaluated from here on.
  clear_value c command
  have hiff := execute_limited_eq_iff hbuiltin hout 0 (.other "disk full")
  refine ⟨⟨hbuiltin, hout⟩, ?_, hiff.mpr (.inr ⟨rfl, hname, ?_⟩)⟩
  · rw [hlast]
    exact List.cons_ne_nil _ _
  · rw [hlast]
    rfl

/-- Where nobody reads the complaint about a missing file, the file after it is not copied, and the
command counts as successful. -/
theorem cat_ends_at_complaint_that_nobody_reads :
    let files : Files :=
      ⟨["home"], [(["home", "a"], .file [0x68, 0x69] false), (["home"], .directory)]⟩
    let c : Context := ⟨files, .absent, .empty, .unlimited, .unlimited, none, Pattern.compile⟩
    let full := (execute ⟨"cat", ["b", "a"]⟩).runIn { c with err := .unlimited }
    let cut := (execute ⟨"cat", ["b", "a"]⟩).runIn { c with err := .limited 0 .closed }
    (full.1 = .proceed 1 ∧ full.2.out.contents = [0x68, 0x69]) ∧
      (cut.1 = .proceed 0 ∧ cut.2.out.contents = []) := by
  decide +kernel

end Execution

end CommandShell
