import CommandShell.Pipeline
import CommandShell.Proofs.Execution.Independence
import CommandShell.Proofs.Execution.Notes

/-!
# What has been written before does not matter

Where no stream fails, an action does the same whatever has been written to the streams before, and
what it writes comes behind that (`Action.Appends`). So it can be run with streams of its own, on
which nothing has been written yet (`Context.fresh`), and the contents of these be appended to those
of the others (`Context.continued`). Which programs there are, which notes are asked for and what
makes patterns never changes. Everything that a command does is of this kind
(`Execution.appends_execute`), and everything that a pipeline does (`Pipeline.appends_run`).
-/

namespace CommandShell

variable {α β : Type}

/-! ## Contexts on which nothing has been written -/

/-- An output to which everything has been written that has been written to one output and then to
another. -/
def Output.followedBy (out later : Output) : Output :=
  { out with pieces := later.pieces ++ out.pieces }

theorem Output.contents_followedBy (out later : Output) :
    (out.followedBy later).contents = out.contents ++ later.contents := by
  simp [followedBy, contents]

/-- A write to an output that never fails comes behind what has been written before. -/
theorem Output.NeverFails.write_eq_followedBy {out : Output} (h : out.NeverFails)
    (bytes : Bytes) : out.write bytes = (out.followedBy (unlimited.write bytes).1, none) := by
  rw [h.write_eq]
  rfl

namespace Context

/-- The context with streams to which nothing has been written yet, and which never fail. -/
def fresh (c : Context) : Context :=
  { c with out := .unlimited, err := .unlimited }

/-- A later context, with what has been written in it behind what had been written before. -/
def continued (c later : Context) : Context :=
  { later with out := c.out.followedBy later.out, err := c.err.followedBy later.err }

/-- What stays as it is while commands are run: the programs that can be called, the notes that are
asked for, and what makes patterns. -/
def setting (c : Context) : Programs × Option Journal.Level × Pattern.Engine :=
  (c.programs, c.threshold, c.patterns)

variable {c : Context}

theorem neverFails_fresh (c : Context) : c.fresh.NeverFails :=
  ⟨Output.neverFails_unlimited, Output.neverFails_unlimited⟩

theorem NeverFails.continued (h : c.NeverFails) (later : Context) :
    (c.continued later).NeverFails :=
  ⟨⟨h.out.room, h.out.flushing⟩, ⟨h.err.room, h.err.flushing⟩⟩

/-- What is written does not change what stays as it is. -/
theorem Wrote.setting_eq {c' : Context} {output errors : Bytes}
    (h : c.Wrote c' output errors) : c'.setting = c.setting :=
  Prod.ext h.programs (Prod.ext h.threshold h.patterns)

theorem fresh_continued (c later : Context) : (c.continued later).fresh = later.fresh := rfl

/-- It does not matter where what is written is divided. -/
theorem continued_assoc (c later latest : Context) :
    (c.continued later).continued latest = c.continued (later.continued latest) := by
  simp [continued, Output.followedBy]

end Context

/-! ## Actions and jobs -/

/-- Where no stream fails, the action does the same as with streams of its own, and what it writes
comes behind what has been written before. -/
structure Action.Appends (action : Action α) : Prop where
  runIn_eq {c : Context} (hc : c.NeverFails) :
    action.runIn c = ((action.runIn c.fresh).1, c.continued (action.runIn c.fresh).2)
  setting_eq {c : Context} (hc : c.NeverFails) : (action.runIn c).2.setting = c.setting

/-- The same of a job, however it ends. -/
def Job.Appends (job : Job α) : Prop :=
  Action.Appends (ExceptT.run job)

namespace Action.Appends

variable {c : Context}

theorem pure (a : α) : (Pure.pure a : Action α).Appends := ⟨fun _ => rfl, fun _ => rfl⟩

/-- Streams that never fail still do not when the action has ended. -/
theorem neverFails {action : Action α} (h : action.Appends) (hc : c.NeverFails) :
    (action.runIn c).2.NeverFails := by
  rw [h.runIn_eq hc]
  exact hc.continued _

theorem bind {first : Action α} {next : α → Action β} (hfirst : first.Appends)
    (hnext : ∀ a, (next a).Appends) : (first >>= next).Appends where
  runIn_eq {c} hc := by
    have hthen := hfirst.neverFails c.neverFails_fresh
    rw [runIn_bind, runIn_bind, hfirst.runIn_eq hc]
    dsimp only
    -- Whether it comes behind `c` or not, the second action is that of a context of its own.
    rw [(hnext _).runIn_eq (hc.continued _), (hnext _).runIn_eq hthen,
      Context.fresh_continued, Context.continued_assoc]
  setting_eq hc := ((hnext _).setting_eq (hfirst.neverFails hc)).trans (hfirst.setting_eq hc)

theorem print (bytes : Bytes) : (print bytes).Appends where
  runIn_eq hc := by
    rw [runIn_print, runIn_print, hc.out.write_eq_followedBy]
    rfl
  setting_eq _ := rfl

theorem complain (text : String) : (complain text).Appends where
  runIn_eq hc := by
    rw [runIn_complain, runIn_complain, hc.err.write_eq_followedBy]
    rfl
  setting_eq _ := rfl

theorem flush : flush.Appends where
  runIn_eq {c} hc := by
    rw [runIn_flush, runIn_flush, hc.out.flush]
    rfl
  setting_eq _ := rfl

theorem flushErrors : flushErrors.Appends where
  runIn_eq {c} hc := by
    rw [runIn_flushErrors, runIn_flushErrors, hc.err.flush]
    rfl
  setting_eq _ := rfl

theorem note (level : Journal.Level) (topic : Journal.Topic) (text : String) :
    (note level topic text).Appends where
  runIn_eq {c} hc := by
    rw [runIn_note, runIn_note, hc.err.write_eq_followedBy]
    change (_, if level.isWithin c.threshold then _ else _) =
      (_, c.continued (if level.isWithin c.threshold then _ else _))
    split <;> rfl
  setting_eq _ := by
    rw [runIn_note]
    split <;> rfl

theorem setInput (input : Input) :
    (modify fun context => { context with input } : Action Unit).Appends :=
  ⟨fun _ => rfl, fun _ => rfl⟩

/-- The context may be asked for anything but what has been written. -/
theorem bind_get {next : Context → Action β} (hfresh : ∀ c : Context, next c = next c.fresh)
    (h : ∀ c, (next c).Appends) : (get >>= next).Appends where
  runIn_eq {c} hc := by
    change (next c).runIn c = (((next c.fresh).runIn c.fresh).1, _)
    rw [(h c).runIn_eq hc, hfresh c]
    rfl
  setting_eq hc := (h _).setting_eq hc

/-- An action may be given an input of its own. -/
theorem withInput {action : Action α} (h : action.Appends) (input : Input) (f : α → β) :
    Action.Appends (do
      let own := (← get).input
      modify fun context => { context with input }
      let a ← action
      modify fun context => { context with input := own }
      return f a) where
  runIn_eq {c} hc := by
    change (f (action.runIn { c with input }).1,
      { (action.runIn { c with input }).2 with input := c.input }) = _
    rw [h.runIn_eq (c := { c with input }) ⟨hc.out, hc.err⟩]
    rfl
  setting_eq {c} hc := h.setting_eq (c := { c with input }) ⟨hc.out, hc.err⟩

end Action.Appends

namespace Job.Appends

theorem pure (a : α) : (Pure.pure a : Job α).Appends := Action.Appends.pure _

theorem mk_pure (result : Except Error α) : Job.Appends (ExceptT.mk (Pure.pure result)) :=
  Action.Appends.pure _

theorem bind {first : Job α} {next : α → Job β} (hfirst : first.Appends)
    (hnext : ∀ a, (next a).Appends) : (first >>= next).Appends := by
  change Action.Appends (ExceptT.run (first >>= next))
  rw [ExceptT.run_bind]
  refine Action.Appends.bind hfirst fun result => ?_
  cases result with
  | error error => exact .pure _
  | ok a => exact hnext a

theorem lift {action : Action α} (h : action.Appends) : Job.Appends (liftM action) :=
  Action.Appends.bind h fun _ => .pure _

theorem stopOn (failure : Option Failure) : (stopOn failure).Appends := by
  cases failure with
  | none => exact .pure ()
  | some failure => exact .mk_pure (.error (.io failure))

theorem print (bytes : Bytes) : (print bytes).Appends :=
  .bind (.lift (.print bytes)) .stopOn

theorem complain (text : String) : (complain text).Appends :=
  .bind (.lift (.complain text)) .stopOn

theorem flush : flush.Appends :=
  .bind (.lift .flush) .stopOn

/-- The context may be asked for anything but what has been written. -/
theorem bind_get {next : Context → Job β} (hfresh : ∀ c : Context, next c = next c.fresh)
    (h : ∀ c, (next c).Appends) : Job.Appends (get >>= next) :=
  have hbind : Action.Appends (get >>= fun c => ExceptT.run (next c)) :=
    .bind_get (fun c => congrArg ExceptT.run (hfresh c)) h
  hbind

theorem readInput : readInput.Appends := ⟨fun _ => rfl, fun _ => rfl⟩

end Job.Appends

theorem appends_performAll (events : List Event) : (performAll events).Appends := by
  induction events with
  | nil => exact .pure ()
  | cons event rest ih =>
    refine .bind ?_ fun _ => ih
    cases event with
    | read => exact .bind .readInput fun _ => .pure ()
    | print bytes => exact .print bytes
    | complain text => exact .complain text
    | flush => exact .flush

/-! ## Commands -/

/-- A command of the shell goes by its transcript, for which the streams do not matter. -/
theorem Builtin.appends_run (builtin : Builtin) (args : List String) :
    (builtin.run args).Appends := by
  have happends (t : Transcript Int) : t.replay.Appends :=
    .bind (appends_performAll t.events) fun _ => .mk_pure t.result
  constructor
  · -- Both runs replay one transcript, which is made of the files and the input only.
    intro c hc
    have hfresh := builtin.runIn_run args c.neverFails_fresh.out.endsQuietly
    have hran := builtin.runIn_run args hc.out.endsQuietly
    change Job.runIn _ c = ((Job.runIn _ c.fresh).1, c.continued (Job.runIn _ c.fresh).2)
    rw [hran, hfresh]
    exact (happends _).runIn_eq hc
  · intro c hc
    change (Job.runIn _ c).2.setting = _
    rw [builtin.runIn_run args hc.out.endsQuietly]
    exact (happends _).setting_eq hc

namespace Execution

theorem appends_start (command : Command) : (start command).Appends where
  runIn_eq {c} _ := by
    have hcall : c.fresh.programs (command.call c.fresh) = c.programs (command.call c) := rfl
    rw [runIn_start, runIn_start, hcall]
    cases c.programs (command.call c) <;> rfl
  setting_eq {c} _ := by
    rw [runIn_start]
    cases c.programs (command.call c) <;> rfl

theorem appends_report (name : String) (error : Error) : (report name error).Appends := by
  refine .bind (.complain _) fun failure => ?_
  cases failure with
  | none => exact .pure _
  | some failure => exact .bind (.note _ _ _) fun _ => .pure _

theorem appends_settle (command : Command) (result : Except Error Int) :
    (settle command result).Appends := by
  cases result with
  | ok code => exact .pure _
  | error error =>
    rw [settle]
    split
    · exact .bind (.note _ _ _) fun _ => .pure _
    · exact appends_report _ _

theorem appends_copyOutput (outcome : Outcome) : (copyOutput outcome).Appends where
  runIn_eq {c} hc := by
    rw [runIn_copyOutput, runIn_copyOutput, copied_of_neverFails hc.out,
      copied_of_neverFails c.neverFails_fresh.out, hc.out.write_eq_followedBy]
    rfl
  setting_eq {c} _ := by
    rw [runIn_copyOutput]
    rfl

theorem appends_runProgram (command : Command) (inherited : Bool) :
    (runProgram command inherited).Appends := by
  refine .bind_get (fun _ => rfl) fun c => .bind (appends_start command) fun outcome => ?_
  refine .bind (.lift (appends_copyOutput outcome)) fun (status, failure) => ?_
  refine .bind (.stopOn failure) fun _ => ?_
  split
  · exact .bind (.lift (.note _ _ _)) fun _ => .pure _
  · exact .pure _

theorem appends_execute (command : Command) (inherited : Bool) :
    (execute command inherited).Appends := by
  rw [execute]
  split
  · cases Exit.status command.args with
    | ok status => exact .pure _
    | error error => exact .bind (appends_report _ _) fun _ => .pure _
  · have hrun : (runCommand command inherited).Appends := by
      rw [runCommand]
      split
      · exact Builtin.appends_run _ _
      · exact appends_runProgram command inherited
    exact .bind hrun fun result => .bind (appends_settle command result) fun _ => .pure _

end Execution

/-! ## Pipelines -/

namespace Pipeline

/-- What is written to an output of its own is not written to that of the pipeline. -/
theorem appends_captured {action : Action α} (h : action.Appends) :
    (captured action).Appends where
  runIn_eq {c} hc := by
    let ran := action.runIn c.fresh
    have hown : action.runIn { c with out := .unlimited } =
        (ran.1, { c with out := .unlimited }.continued ran.2) :=
      h.runIn_eq ⟨Output.neverFails_unlimited, hc.err⟩
    have hwritten (later : Output) :
        (Output.unlimited.followedBy later).contents = later.contents :=
      Output.contents_followedBy _ _
    change (((action.runIn { c with out := .unlimited }).1,
        (action.runIn { c with out := .unlimited }).2.out.contents),
      { (action.runIn { c with out := .unlimited }).2 with out := c.out }) = _
    rw [hown]
    change ((ran.1, (Output.unlimited.followedBy ran.2.out).contents), _) = _
    rw [hwritten]
    rfl
  setting_eq {c} hc :=
    h.setting_eq (c := { c with out := .unlimited }) ⟨Output.neverFails_unlimited, hc.err⟩

theorem appends_supply (source : Source) {action : Action α} (h : action.Appends) :
    (source.supply action).Appends := by
  rw [Source.supply]
  split
  · exact h
  · exact .withInput h _ fun a => a

theorem appends_runBuiltin (isLast : Bool) (command : Command) :
    (runBuiltin isLast command).Appends := by
  rw [runBuiltin]
  split
  · exact .bind (Execution.appends_execute command false) fun _ => .pure _
  · exact .bind (appends_captured (Execution.appends_execute command false)) fun _ => .pure _

theorem appends_passOn (command : Command) (outcome : Outcome) :
    (passOn command outcome).Appends := by
  refine .bind (Execution.appends_copyOutput outcome) fun (status, failure) => ?_
  cases failure with
  | none => exact .pure _
  | some failure => exact .bind (.note _ _ _) fun _ => .pure _

theorem appends_runStage (isLast : Bool) (index : Nat) (command : Command)
    (progress : Progress) : (runStage isLast index command progress).Appends := by
  rw [runStage]
  split
  · exact .bind (.note _ _ _) fun _ => .pure _
  split
  · exact .bind (appends_supply _ (appends_runBuiltin isLast command)) fun _ => .pure _
  · refine .bind_get (fun _ => rfl) fun c =>
      .bind (appends_supply _ (Execution.appends_start command)) fun started => ?_
    cases started with
    | error error => exact .bind (Execution.appends_report _ _) fun _ => .pure _
    | ok outcome =>
      dsimp only
      split
      · exact .bind (appends_passOn command outcome) fun _ => .pure _
      · exact .bind (.pure _) fun _ => .pure _

theorem appends_runFrom (last index : Nat) (commands : List Command) (progress : Progress) :
    (runFrom last index commands progress).Appends := by
  induction commands generalizing index progress with
  | nil => exact .pure _
  | cons command rest ih =>
    exact .bind (appends_runStage _ index command progress) fun next => ih (index + 1) next

theorem appends_forM_noteUnfed (feeders : List (Option Failure)) :
    (feeders.forM noteUnfed).Appends := by
  induction feeders with
  | nil => exact .pure ()
  | cons feeder rest ih =>
    refine .bind ?_ fun _ => ih
    cases feeder with
    | none => exact .pure ()
    | some failure => exact .note _ _ _

theorem appends_run (commands : List Command) (inherited : Bool) :
    (run commands inherited).Appends := by
  rw [run.eq_def]
  split
  · exact .pure _
  · exact Execution.appends_execute _ inherited
  · exact .bind (appends_runFrom _ 0 _ _) fun progress =>
      .bind (appends_forM_noteUnfed progress.feeders) fun _ => .bind (.note _ _ _) fun _ => .pure _

end Pipeline

end CommandShell
