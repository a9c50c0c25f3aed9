import CommandShell.Proofs.Execution.Independence
import CommandShell.Proofs.Stream.Acceptance

/-!
# Outputs that close

What becomes of a command of the shell when nobody reads its output beyond the first `room` bytes.
It does what its transcript says up to the first thing that it cannot print in full; what it would
have done from there on is `unprinted`. So the output holds the first `room` bytes of all that would
be printed, and nothing is complained about that would not be complained about anyway
(`runIn_performAll_of_closing`). The command then ends with exit code 0 and without a word, a note
apart (`Execution.runIn_execute_of_closing`).
-/

namespace CommandShell

/-! ## Complaints that are all delivered -/

/-- The second context is the first one after some bytes have been written to an error stream that
never fails; the output may be another one. -/
structure Context.Complained (c c' : Context) (errors : Bytes) : Prop where
  threshold : c'.threshold = c.threshold
  neverFails : c'.err.NeverFails
  /-- What the error stream holds. -/
  err : c'.err.contents = c.err.contents ++ errors

namespace Context.Complained

variable {c c' c'' : Context} {errors errors' : Bytes}

theorem refl (h : c.err.NeverFails) : c.Complained c [] :=
  ⟨rfl, h, (List.append_nil _).symm⟩

theorem trans (first : c.Complained c' errors) (second : c'.Complained c'' errors') :
    c.Complained c'' (errors ++ errors') where
  threshold := second.threshold.trans first.threshold
  neverFails := second.neverFails
  err := by rw [second.err, first.err, List.append_assoc]

/-- Only the error stream and what is noted matter. -/
theorem of_err_eq {d : Context} (h : c.Complained c' errors)
    (hthreshold : d.threshold = c.threshold) (herr : d.err = c.err) : d.Complained c' errors :=
  ⟨h.threshold.trans hthreshold.symm, h.neverFails, herr ▸ h.err⟩

theorem setOut (h : c.Complained c' errors) (out : Output) :
    c.Complained { c' with out } errors :=
  ⟨h.threshold, h.neverFails, h.err⟩

theorem setInput (h : c.Complained c' errors) (input : Input) :
    c.Complained { c' with input } errors :=
  ⟨h.threshold, h.neverFails, h.err⟩

/-- A complaint is delivered. -/
theorem complain (h : c.err.NeverFails) (text : String) :
    c.Complained { c with err := (c.err.write (utf8 text)).1 } (utf8 text) :=
  ⟨rfl, h.write _, h.contents_write _⟩

/-- What an action that ignores the output says can be told from a run in which the output does not
fail. -/
theorem of_ignoresOutput {α : Type} {action : Action α} (h : action.IgnoresOutput)
    (hwrote : { c with out := .unlimited }.Wrote
      (action.runIn { c with out := .unlimited }).2 [] errors) :
    c.Complained (action.runIn c).2 errors := by
  rw [h c .unlimited] at hwrote
  exact ⟨hwrote.threshold, hwrote.neverFails.err, hwrote.err⟩

/-- A note is written if it is asked for. -/
theorem note (h : c.err.NeverFails) (level : Journal.Level) (topic : Journal.Topic)
    (text : String) :
    c.Complained ((Action.note level topic text).runIn c).2
      (noted c.threshold level topic text) :=
  of_ignoresOutput (.note level topic text)
    (Action.wrote_note (c := { c with out := .unlimited }) ⟨Output.neverFails_unlimited, h⟩
      level topic text)

end Context.Complained

/-! ## Events -/

/-- What is left of some events where the output accepts `room` bytes: the events from the first one
on that cannot be printed in full. -/
def unprinted : Nat → List Event → List Event
  | _, [] => []
  | room, event :: rest =>
    if event.output.length ≤ room then unprinted (room - event.output.length) rest
    else event :: rest

@[simp]
theorem printed_cons (event : Event) (rest : List Event) :
    printed (event :: rest) = event.output ++ printed rest := rfl

/-- Everything is printed exactly if there is room for all of it together. -/
theorem unprinted_eq_nil_iff (room : Nat) (events : List Event) :
    unprinted room events = [] ↔ (printed events).length ≤ room := by
  fun_induction unprinted room events with
  | case1 room => simp
  | case2 room event rest hfits ih =>
    rw [ih, printed_cons, List.length_append]
    omega
  | case3 room event rest hfits =>
    -- This event alone is too long, so that something is left and there is not room for all.
    rw [printed_cons, List.length_append]
    constructor
    · intro h
      cases h
    · intro h
      omega

/-- An event that prints nothing is never what the output refuses. -/
theorem unprinted_cons_of_output_eq_nil (room : Nat) {event : Event} (rest : List Event)
    (h : event.output = []) : unprinted room (event :: rest) = unprinted room rest := by
  rw [unprinted, h]
  simp

/-- Where the output accepts only so many bytes, events happen up to the first one that cannot be
printed in full. The output holds the first bytes of what is to be printed, and of the complaints
only those are missing that would come later. -/
theorem runIn_performAll_of_closing {c : Context} {room : Nat} (hroom : c.out.IsLimited room)
    (herr : c.err.NeverFails) (events : List Event) :
    let left := unprinted room events
    let ran := (performAll events).runIn c
    ran.1 = Job.stopped (if left = [] then none else some c.out.failure) ∧
      ran.2.out.contents = c.out.contents ++ (printed events).take room ∧
      ∃ said, c.Complained ran.2 said ∧ said ++ complained left = complained events := by
  -- Each event that is printed takes some of the room, which therefore varies in the induction.
  induction events generalizing c room with
  | nil => exact ⟨rfl, by simp [performAll], [], .refl herr, rfl⟩
  | cons event rest ih =>
    intro left ran
    cases event with
    | read =>
      obtain ⟨hresult, hout, said, hsaid, hall⟩ :=
        ih (c := { c with input := { c.input with data := [] } }) hroom herr
      have hleft : left = unprinted room rest := unprinted_cons_of_output_eq_nil room rest rfl
      rw [hleft]
      exact ⟨hresult, hout, said, hsaid.of_err_eq rfl rfl, hall⟩
    | complain text =>
      have hfirst :
          ran = (performAll rest).runIn { c with err := (c.err.write (utf8 text)).1 } := by
        change (performAll _).runIn c = _
        rw [runIn_performAll_cons, Event.perform, Job.runIn_complain, herr.write_failure]
        rfl
      obtain ⟨hresult, hout, said, hsaid, hall⟩ :=
        ih (c := { c with err := (c.err.write (utf8 text)).1 }) hroom (herr.write _)
      have hleft : left = unprinted room rest := unprinted_cons_of_output_eq_nil room rest rfl
      rw [hleft, hfirst]
      refine ⟨hresult, hout, utf8 text ++ said, ?_, ?_⟩
      · exact (Context.Complained.complain herr text).trans hsaid
      · rw [List.append_assoc, hall]
        rfl
    | print bytes =>
      have hcontents := Output.contents_write c.out bytes
      rw [Output.accepted_of_room hroom.room] at hcontents
      by_cases hfits : bytes.length ≤ room
      · obtain ⟨hnone, -⟩ := Output.write_of_fits hroom.room hfits
        have hfirst : ran = (performAll rest).runIn { c with out := (c.out.write bytes).1 } := by
          change (performAll _).runIn c = _
          rw [runIn_performAll_cons, Event.perform, Job.runIn_print, hnone]
          rfl
        obtain ⟨hresult, hout, said, hsaid, hall⟩ :=
          ih (c := { c with out := (c.out.write bytes).1 }) (hroom.write bytes) herr
        have hleft : left = unprinted (room - bytes.length) rest := if_pos hfits
        rw [hleft, hfirst]
        refine ⟨?_, ?_, said, hsaid.of_err_eq rfl rfl, hall⟩
        · rwa [show ({ c with out := (c.out.write bytes).1 } : Context).out.failure =
            c.out.failure from Output.failure_write _ _] at hresult
        · rw [hout, printed_cons, List.take_append, ← List.append_assoc]
          exact congrArg (· ++ _) hcontents
      · -- The output refuses a part of this: nothing more happens, and all of this is left.
        have hfirst : ran =
            (.error (.io c.out.failure), { c with out := (c.out.write bytes).1 }) := by
          change (performAll _).runIn c = _
          rw [runIn_performAll_cons, Event.perform, Job.runIn_print,
            Output.write_of_not_fits hroom.room hfits]
          rfl
        have hleft : left = .print bytes :: rest := if_neg hfits
        rw [hleft, hfirst]
        refine ⟨rfl, ?_, [], ⟨rfl, herr, (List.append_nil _).symm⟩, rfl⟩
        have htake : (printed (.print bytes :: rest)).take room = bytes.take room :=
          List.take_append_of_le_length (Nat.le_of_not_le hfits)
        rw [htake]
        exact hcontents
    | flush =>
      have hfirst : ran = (performAll rest).runIn c := by
        change (performAll _).runIn c = _
        rw [runIn_performAll_cons, Event.perform, Job.runIn_flush, Output.flush, hroom.flushing]
        rfl
      have hleft : left = unprinted room rest := unprinted_cons_of_output_eq_nil room rest rfl
      rw [hleft, hfirst]
      exact ih hroom herr

/-! ## Commands -/

namespace Execution

/-- The report of an error is delivered even if the output fails. -/
theorem complained_report {c : Context} (h : c.err.NeverFails) (name : String) (error : Error) :
    c.Complained ((report name error).runIn c).2 (utf8 (reportText name error)) :=
  .of_ignoresOutput (ignoresOutput_report name error)
    (wrote_report (c := { c with out := .unlimited }) ⟨Output.neverFails_unlimited, h⟩ name error)

/-- What there is to say about a result is said even if the output has closed. -/
theorem complained_settle {c : Context} (h : c.err.NeverFails) (command : Command)
    (result : Except Error Int) :
    c.Complained ((settle command result).runIn c).2
      (settlement c.threshold command result) :=
  .of_ignoresOutput (ignoresOutput_settle command result)
    (wrote_settle (c := { c with out := .unlimited }) ⟨Output.neverFails_unlimited, h⟩
      command result)

/-- The note about a command whose output has closed. -/
def closingNote (threshold : Option Journal.Level) (command : Command) : Bytes :=
  noted threshold .debug .executor s!"output of {command.mention} closed early"

/-- A command of the shell whose output closes before it has printed everything ends with exit code
0 and says no more, a note apart. If everything is printed, the command ends as usual. -/
theorem runIn_execute_of_closing {command : Command} {builtin : Builtin}
    (h : Builtin.ofName? command.name = some builtin) {c : Context} {room : Nat}
    (hroom : c.out.IsLimited room) (hfailure : c.out.failure.isBrokenPipe = true)
    (herr : c.err.NeverFails) :
    let t := builtin.transcript command.args c.patterns c.files c.input
    let ran := (execute command).runIn c
    ran.2.out.contents = c.out.contents ++ (printed t.events).take room ∧
      ((printed t.events).length ≤ room →
        ran.1 = .proceed (codeOf t.result) ∧
          c.Complained ran.2 (complained t.events ++ settlement c.threshold command t.result)) ∧
      (room < (printed t.events).length →
        ran.1 = .proceed 0 ∧
          ∃ said, said <+: complained t.events ∧
            c.Complained ran.2 (said ++ closingNote c.threshold command)) := by
  intro t ran
  obtain ⟨hresult, hout, said, hsaid, hall⟩ := runIn_performAll_of_closing hroom herr t.events
  -- The job stops with the failure of the output if something is left, and else as it says.
  let result : Except Error Int :=
    if unprinted room t.events = [] then t.result else .error (.io c.out.failure)
  have hran : (builtin.run command.args).runIn c =
      (result, ((performAll t.events).runIn c).2) := by
    rw [builtin.runIn_run command.args (hroom.endsQuietly hfailure), runIn_replay]
    generalize (performAll t.events).runIn c = performed at hresult ⊢
    obtain ⟨ended, c'⟩ := performed
    change ended = _ at hresult
    rw [hresult]
    by_cases hleft : unprinted room t.events = []
    · simp only [result, hleft, if_true, Job.stopped]
      rfl
    · simp only [result, hleft, if_false, Job.stopped]
  have hsettled := runIn_settle command result ((performAll t.events).runIn c).2
  have hexecute : ran = (.proceed (codeOf result),
      ((settle command result).runIn ((performAll t.events).runIn c).2).2) := by
    change (execute command).runIn c = _
    rw [runIn_execute h, hran, ← hsettled.1]
  have hspoke := hsaid.trans (complained_settle hsaid.neverFails command result)
  rw [hsaid.threshold] at hspoke
  rw [hexecute]
  refine ⟨?_, ?_, ?_⟩
  · rw [hsettled.2]
    exact hout
  · intro hfits
    have hleft := (unprinted_eq_nil_iff room t.events).mpr hfits
    have hends : result = t.result := if_pos hleft
    rw [hleft, complained_nil, List.append_nil] at hall
    rw [hends] at hspoke ⊢
    exact ⟨rfl, hall ▸ hspoke⟩
  · -- The job has stopped because nobody reads, which is not reported.
    intro hover
    have hleft : unprinted room t.events ≠ [] :=
      fun hnil => Nat.not_le_of_lt hover ((unprinted_eq_nil_iff room t.events).mp hnil)
    have hends : result = .error (.io c.out.failure) := if_neg hleft
    have hquiet : (Error.io c.out.failure).isBrokenPipe = true := hfailure
    rw [hends] at hspoke ⊢
    refine ⟨congrArg Flow.proceed (if_pos hquiet), said, ⟨_, hall⟩, ?_⟩
    rwa [settlement, if_pos hquiet] at hspoke

end Execution

end CommandShell
