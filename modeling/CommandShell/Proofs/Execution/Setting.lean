import CommandShell.Proofs.Execution.Appending
import CommandShell.Session

/-!
# What stays as it is

Which programs there are, which notes are asked for, what makes patterns and how the output is
flushed is the same after every action as before it (`Action.KeepsSetting`), also where streams
fail: commands, pipelines and lines read, write and change files, and nothing else
(`Session.keepsSetting_runLine`). The property is followed through the ways in which actions and
jobs are made, one law for each.
-/

namespace CommandShell

variable {α β : Type}

/-- The second context has the setting of the first one, and its output is flushed alike. -/
structure Context.HasSettingOf (c' c : Context) : Prop where
  setting : c'.setting = c.setting
  flushing : c'.out.flushing = c.out.flushing

theorem Context.HasSettingOf.refl (c : Context) : c.HasSettingOf c := ⟨rfl, rfl⟩

theorem Context.HasSettingOf.trans {c'' c' c : Context} (second : c''.HasSettingOf c')
    (first : c'.HasSettingOf c) : c''.HasSettingOf c :=
  ⟨second.setting.trans first.setting, second.flushing.trans first.flushing⟩

/-- The action changes neither the setting nor how the output is flushed. -/
def Action.KeepsSetting (action : Action α) : Prop :=
  ∀ c, (action.runIn c).2.HasSettingOf c

/-- The same of a job, however it ends. -/
def Job.KeepsSetting (job : Job α) : Prop :=
  Action.KeepsSetting (ExceptT.run job)

namespace Action.KeepsSetting

theorem pure (a : α) : (Pure.pure a : Action α).KeepsSetting := .refl

theorem bind {first : Action α} {next : α → Action β} (hfirst : first.KeepsSetting)
    (hnext : ∀ a, (next a).KeepsSetting) : (first >>= next).KeepsSetting :=
  fun c => (hnext _ _).trans (hfirst c)

theorem get : (MonadState.get : Action Context).KeepsSetting := .refl

/-- A change of the context that leaves the setting alone. -/
theorem modify {f : Context → Context} (h : ∀ c, (f c).HasSettingOf c) :
    (MonadState.modifyGet fun c => ((), f c) : Action Unit).KeepsSetting := h

theorem print (bytes : Bytes) : (print bytes).KeepsSetting :=
  fun c => ⟨rfl, c.out.flushing_write bytes⟩

theorem complain (text : String) : (complain text).KeepsSetting := fun _ => ⟨rfl, rfl⟩

theorem flush : flush.KeepsSetting := .refl

theorem note (level : Journal.Level) (topic : Journal.Topic) (text : String) :
    (note level topic text).KeepsSetting := by
  intro c
  rw [runIn_note]
  split <;> exact ⟨rfl, rfl⟩

end Action.KeepsSetting

namespace Job.KeepsSetting

theorem pure (a : α) : (Pure.pure a : Job α).KeepsSetting := Action.KeepsSetting.pure _

theorem throw (error : Error) : (MonadExcept.throw error : Job α).KeepsSetting :=
  Action.KeepsSetting.pure _

theorem mk_pure (result : Except Error α) : Job.KeepsSetting (ExceptT.mk (Pure.pure result)) :=
  Action.KeepsSetting.pure _

theorem lift {action : Action α} (h : action.KeepsSetting) : Job.KeepsSetting (liftM action) :=
  Action.KeepsSetting.bind h fun _ => .pure _

theorem bind {first : Job α} {next : α → Job β} (hfirst : first.KeepsSetting)
    (hnext : ∀ a, (next a).KeepsSetting) : (first >>= next).KeepsSetting := by
  change Action.KeepsSetting (ExceptT.run (first >>= next))
  rw [ExceptT.run_bind]
  refine Action.KeepsSetting.bind hfirst fun result => ?_
  cases result with
  | error error => exact .pure _
  | ok a => exact hnext a

theorem tryCatch {job : Job α} {handler : Error → Job α} (hjob : job.KeepsSetting)
    (hhandler : ∀ error, (handler error).KeepsSetting) :
    (MonadExcept.tryCatch job handler : Job α).KeepsSetting := by
  change Action.KeepsSetting (ExceptT.run (MonadExcept.tryCatch job handler))
  rw [ExceptT.run_tryCatch]
  refine Action.KeepsSetting.bind hjob fun result => ?_
  cases result with
  | error error => exact hhandler error
  | ok a => exact .pure _

theorem stopOn (failure : Option Failure) : (stopOn failure).KeepsSetting := by
  cases failure with
  | none => exact .pure ()
  | some failure => exact .throw _

theorem print (bytes : Bytes) : (print bytes).KeepsSetting :=
  .bind (.lift (.print bytes)) .stopOn

theorem complain (text : String) : (complain text).KeepsSetting :=
  .bind (.lift (.complain text)) .stopOn

theorem flush : flush.KeepsSetting :=
  .bind (.lift .flush) .stopOn

/-- A job that flushes what has been written and gives something. -/
theorem flush_pure (a : α) : (do Job.flush; return a : Job α).KeepsSetting :=
  .bind .flush fun _ => .pure a

theorem readInput : readInput.KeepsSetting := fun _ => ⟨rfl, rfl⟩

theorem openFile (path : String) : (openFile path).KeepsSetting := .refl

end Job.KeepsSetting

/-! ## Commands of the shell -/

section Operands

variable {command : String}

theorem keepsSetting_complainAbout (path : String) (failure : Failure) :
    (complainAbout command path failure).KeepsSetting := .complain _

theorem keepsSetting_orComplain {job : Job Unit} (h : job.KeepsSetting) (path : String) :
    (orComplain command path job).KeepsSetting := by
  refine .tryCatch (.bind h fun _ => .pure _) fun error => ?_
  split
  · split
    · exact .throw _
    · exact .bind (keepsSetting_complainAbout path _) fun _ => .pure _
  · exact .throw _

theorem keepsSetting_withOperands {job : String → Job Bool} (h : ∀ path, (job path).KeepsSetting)
    (paths : List String) : (withOperands job paths).KeepsSetting := by
  induction paths with
  | nil => exact .pure _
  | cons path rest ih => exact .bind (h path) fun _ => .bind ih fun _ => .pure _

end Operands

theorem Cat.keepsSetting_run (args : List String) : (Cat.run args).KeepsSetting := by
  have hcopy (input : Input) : (copy input).KeepsSetting :=
    .bind (.print _) fun _ => .stopOn _
  have hfile (path : String) : (copyFile Job.openFile path).KeepsSetting := by
    refine .bind (.openFile path) fun opened => ?_
    cases opened with
    | ok input => exact hcopy input
    | error failure => exact .throw _
  rw [run, runWith]
  split
  · exact .bind .readInput fun input => .bind (hcopy input) fun _ => .flush_pure _
  · exact .bind (keepsSetting_withOperands
      (fun path => keepsSetting_orComplain (hfile path) path) args) fun _ => .flush_pure _

theorem Grep.keepsSetting_run (args : List String) : (Grep.run args).KeepsSetting := by
  have hsearch (pattern : Pattern) (after : Nat) (label : Option String) (input : Input) :
      (search pattern after label input).KeepsSetting :=
    .bind (.print _) fun _ => .stopOn _
  have hfile (pattern : Pattern) (after : Nat) (label : Option String) (path : String) :
      (searchFile Job.openFile pattern after label path).KeepsSetting := by
    refine .bind (.openFile path) fun opened => ?_
    cases opened with
    | ok input => exact keepsSetting_orComplain (hsearch pattern after label input) path
    | error failure => exact .bind (keepsSetting_complainAbout path failure) fun _ => .pure _
  rw [run, runWith]
  split
  · refine .bind (.lift .get) fun _ => .bind (.mk_pure _) fun pattern => ?_
    split
    · exact .bind .readInput fun input => .bind (hsearch _ _ _ input) fun _ => .flush_pure _
    · exact .bind (keepsSetting_withOperands (fun path => hfile _ _ _ path) _) fun _ =>
        .flush_pure _
  · exact .bind (.print _) fun _ => .pure _
  · exact .bind (.complain _) fun _ => .pure _

theorem Wc.keepsSetting_countFiles (paths : List String) :
    (countFiles Job.openFile paths).KeepsSetting := by
  induction paths with
  | nil => exact .pure _
  | cons path rest ih =>
    refine .bind (.openFile path) fun opened => ?_
    split
    · exact .bind (.print _) fun _ => .bind ih fun _ => .pure _
    · exact .bind (keepsSetting_complainAbout path _) fun _ => .bind ih fun _ => .pure _

theorem Wc.keepsSetting_run (args : List String) : (Wc.run args).KeepsSetting := by
  rw [run, runWith]
  split
  · refine .bind .readInput fun input => ?_
    split
    · exact .bind (.print _) fun _ => .flush_pure _
    · exact .throw _
  · refine .bind (keepsSetting_countFiles args) fun counted => ?_
    obtain ⟨total, good⟩ := counted
    dsimp only
    split
    · exact .bind (.print _) fun _ => .flush_pure _
    · exact .flush_pure _

theorem Builtin.keepsSetting_run (builtin : Builtin) (args : List String) :
    (builtin.run args).KeepsSetting := by
  cases builtin with
  | cat => exact Cat.keepsSetting_run args
  | echo => exact .bind (.print _) fun _ => .flush_pure _
  | grep => exact Grep.keepsSetting_run args
  | pwd =>
    exact .bind (.lift .get) fun _ => .bind (.mk_pure _) fun _ => .bind (.print _) fun _ =>
      .flush_pure _
  | wc => exact Wc.keepsSetting_run args

/-! ## Commands and pipelines -/

namespace Execution

theorem keepsSetting_report (name : String) (error : Error) :
    (report name error).KeepsSetting := by
  refine .bind (.complain _) fun failure => ?_
  cases failure with
  | none => exact .pure _
  | some failure => exact .bind (.note _ _ _) fun _ => .pure _

theorem keepsSetting_start (command : Command) : (start command).KeepsSetting := by
  intro c
  rw [runIn_start]
  cases c.programs (command.call c) <;> exact ⟨rfl, rfl⟩

theorem keepsSetting_copyOutput (outcome : Outcome) : (copyOutput outcome).KeepsSetting := by
  intro c
  rw [runIn_copyOutput]
  exact ⟨rfl, c.out.flushing_write _⟩

theorem keepsSetting_runProgram (command : Command) (inherited : Bool) :
    (runProgram command inherited).KeepsSetting := by
  refine .bind (.lift .get) fun c => .bind (keepsSetting_start command) fun outcome => ?_
  refine .bind (.lift (keepsSetting_copyOutput outcome)) fun (status, failure) => ?_
  refine .bind (.stopOn failure) fun _ => ?_
  split
  · exact .bind (.lift (.note _ _ _)) fun _ => .pure _
  · exact .pure _

theorem keepsSetting_settle (command : Command) (result : Except Error Int) :
    (settle command result).KeepsSetting := by
  cases result with
  | ok code => exact .pure _
  | error error =>
    rw [settle]
    split
    · exact .bind (.note _ _ _) fun _ => .pure _
    · exact keepsSetting_report _ _

theorem keepsSetting_execute (command : Command) (inherited : Bool) :
    (execute command inherited).KeepsSetting := by
  rw [execute]
  split
  · cases Exit.status command.args with
    | ok status => exact .pure _
    | error error => exact .bind (keepsSetting_report _ _) fun _ => .pure _
  · have hrun : (runCommand command inherited).KeepsSetting := by
      rw [runCommand]
      split
      · exact Builtin.keepsSetting_run _ _
      · exact keepsSetting_runProgram command inherited
    exact .bind hrun fun result => .bind (keepsSetting_settle command result) fun _ => .pure _

end Execution

namespace Pipeline

theorem keepsSetting_captured {action : Action α} (h : action.KeepsSetting) :
    (captured action).KeepsSetting :=
  fun c => ⟨(h { c with out := .unlimited }).setting, rfl⟩

theorem keepsSetting_supply (source : Source) {action : Action α} (h : action.KeepsSetting) :
    (source.supply action).KeepsSetting := by
  rw [Source.supply]
  split
  · exact h
  · exact .bind .get fun own => .bind (.modify fun _ => ⟨rfl, rfl⟩) fun _ => .bind h fun result =>
      .bind (.modify fun _ => ⟨rfl, rfl⟩) fun _ => .pure _

theorem keepsSetting_runBuiltin (isLast : Bool) (command : Command) :
    (runBuiltin isLast command).KeepsSetting := by
  rw [runBuiltin]
  split
  · exact .bind (Execution.keepsSetting_execute command false) fun _ => .pure _
  · exact .bind (keepsSetting_captured (Execution.keepsSetting_execute command false)) fun _ =>
      .pure _

theorem keepsSetting_passOn (command : Command) (outcome : Outcome) :
    (passOn command outcome).KeepsSetting := by
  refine .bind (Execution.keepsSetting_copyOutput outcome) fun (status, failure) => ?_
  cases failure with
  | none => exact .pure _
  | some failure => exact .bind (.note _ _ _) fun _ => .pure _

theorem keepsSetting_runStage (isLast : Bool) (index : Nat) (command : Command)
    (progress : Progress) : (runStage isLast index command progress).KeepsSetting := by
  rw [runStage]
  split
  · exact .bind (.note _ _ _) fun _ => .pure _
  split
  · exact .bind (keepsSetting_supply _ (keepsSetting_runBuiltin isLast command)) fun _ => .pure _
  · refine .bind .get fun _ =>
      .bind (keepsSetting_supply _ (Execution.keepsSetting_start command)) fun started => ?_
    cases started with
    | error error => exact .bind (Execution.keepsSetting_report _ _) fun _ => .pure _
    | ok outcome =>
      dsimp only
      split
      · exact .bind (keepsSetting_passOn command outcome) fun _ => .pure _
      · exact .bind (.pure _) fun _ => .pure _

theorem keepsSetting_runFrom (last index : Nat) (commands : List Command) (progress : Progress) :
    (runFrom last index commands progress).KeepsSetting := by
  -- Each stage hands its progress to the next, so this is about any progress.
  induction commands generalizing index progress with
  | nil => exact .pure _
  | cons command rest ih =>
    exact .bind (keepsSetting_runStage _ index command progress) fun next => ih (index + 1) next

theorem keepsSetting_forM_noteUnfed (feeders : List (Option Failure)) :
    (feeders.forM noteUnfed).KeepsSetting := by
  induction feeders with
  | nil => exact .pure ()
  | cons feeder rest ih =>
    refine .bind ?_ fun _ => ih
    cases feeder with
    | none => exact .pure ()
    | some failure => exact .note _ _ _

theorem keepsSetting_run (commands : List Command) (inherited : Bool) :
    (run commands inherited).KeepsSetting := by
  rw [run.eq_def]
  split
  · exact .pure _
  · exact Execution.keepsSetting_execute _ inherited
  · exact .bind (keepsSetting_runFrom _ 0 _ _) fun progress =>
      .bind (keepsSetting_forM_noteUnfed progress.feeders) fun _ =>
        .bind (.note _ _ _) fun _ => .pure _

end Pipeline

/-! ## Lines -/

namespace Session

theorem keepsSetting_forM_noteLookup (env : Environment) (names : List String) :
    (names.forM (noteLookup env)).KeepsSetting := by
  induction names with
  | nil => exact .pure ()
  | cons name rest ih => exact .bind (.note _ _ _) fun _ => ih

theorem keepsSetting_parse (session : Session) (line : String) :
    (session.parse line).KeepsSetting := by
  refine .bind (keepsSetting_forM_noteLookup session.env _) fun _ => ?_
  dsimp only
  split
  · exact .bind (.note _ _ _) fun _ => .pure _
  · exact .pure _

theorem keepsSetting_record (session : Session) (code : Int) :
    (session.record code).KeepsSetting :=
  .bind (.note _ _ _) fun _ => .pure _

theorem keepsSetting_report (session : Session) (error : Error) :
    (session.report error).KeepsSetting := by
  refine .bind (.complain _) fun failure => ?_
  cases failure with
  | none => exact .pure _
  | some failure => exact .bind (.note _ _ _) fun _ => .pure _

/-- A line changes neither the setting nor how the output is flushed. -/
theorem keepsSetting_runLine (session : Session) (line : String) (inherited : Bool) :
    (session.runLine line inherited).KeepsSetting := by
  rw [runLine]
  refine .bind (session.keepsSetting_parse line) fun statement => ?_
  split
  · exact .bind (.bind (.note _ _ _) fun _ => .pure _) fun _ => .pure _
  · exact .bind (session.keepsSetting_report _) fun _ =>
      .bind (keepsSetting_record _ _) fun _ => .pure _
  · exact .bind (.note _ _ _) fun _ => .bind (keepsSetting_record _ _) fun _ => .pure _
  · exact .bind (Pipeline.keepsSetting_run _ inherited) fun _ =>
      .bind (keepsSetting_record _ _) fun _ => .pure _

end Session

end CommandShell
