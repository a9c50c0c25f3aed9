import CommandShell.Pipeline
import CommandShell.Proofs.Execution.Running

/-!
# Exit codes

Whatever happens to the streams, and whatever the programs do, the exit code of a command is a
number of one byte (`Execution.gives_execute`), and so is that of a pipeline
(`Pipeline.gives_run`). What an action or a job gives is followed through its parts by `Gives`: it
says that only results of a certain kind come out, in every context.
-/

namespace CommandShell

/-- The number fits into one byte. -/
def IsExitCode (code : Int) : Prop :=
  0 ≤ code ∧ code < Exit.statusCount

instance : DecidablePred IsExitCode :=
  fun code => inferInstanceAs (Decidable (0 ≤ code ∧ code < Exit.statusCount))

/-! ## What actions and jobs give -/

section Gives

variable {α β : Type} {P : α → Prop} {Q : β → Prop}

/-- In every context the action gives something of this kind. -/
def Action.Gives (action : Action α) (P : α → Prop) : Prop :=
  ∀ c, P (action.runIn c).1

/-- In every context the job gives something of this kind, if it does not stop with an error. -/
def Job.Gives (job : Job α) (P : α → Prop) : Prop :=
  ∀ c a, (job.runIn c).1 = .ok a → P a

namespace Action.Gives

theorem pure {a : α} (h : P a) : (Pure.pure a : Action α).Gives P := fun _ => h

theorem bind {first : Action α} {next : α → Action β} (hfirst : first.Gives P)
    (hnext : ∀ a, P a → (next a).Gives Q) : (first >>= next).Gives Q :=
  fun c => hnext _ (hfirst c) _

/-- What comes last decides. -/
theorem last {first : Action α} {next : α → Action β} (hnext : ∀ a, (next a).Gives Q) :
    (first >>= next).Gives Q :=
  fun _ => hnext _ _

end Action.Gives

namespace Job.Gives

theorem pure {a : α} (h : P a) : (Pure.pure a : Job α).Gives P := by
  rintro c _ ⟨rfl⟩
  exact h

theorem throw (error : Error) : (MonadExcept.throw error : Job α).Gives P := by
  rintro c a ⟨⟩

/-- What comes last decides, if it comes to that. -/
theorem last {first : Job α} {next : α → Job β} (hnext : ∀ a, (next a).Gives Q) :
    (first >>= next).Gives Q := by
  intro c b hb
  rw [runIn_bind] at hb
  rcases hran : first.runIn c with ⟨error | a, c'⟩
  · rw [hran] at hb
    cases hb
  · rw [hran] at hb
    exact hnext a c' b hb

end Job.Gives

end Gives

/-! ## Commands -/

theorem Error.isExitCode_exitCode (error : Error) : IsExitCode error.exitCode := by
  unfold exitCode
  split <;> decide

theorem ExitStatus.isExitCode_exitCode (status : ExitStatus) : IsExitCode status.exitCode := by
  cases status with
  | code n => exact ⟨Int.natCast_nonneg _, Int.ofNat_lt.mpr n.toNat_lt⟩
  | signal number =>
    have hlt := number.isLt
    rw [exitCode, IsExitCode, Exit.statusCount]
    omega

/-- The status that `exit` asks for is a number of one byte, whatever its argument. -/
theorem Exit.isExitCode_status {args : List String} {status : Int}
    (h : Exit.status args = .ok status) : IsExitCode status := by
  unfold Exit.status at h
  split at h
  · cases h
    decide
  · split at h
    · cases h
      exact ⟨Int.emod_nonneg _ (by decide), Int.emod_lt_of_pos _ (by decide)⟩
    · cases h
  · cases h

/-- A command of the shell ends with 0, 1 or 2. -/
theorem Builtin.gives_run (builtin : Builtin) (args : List String) :
    (builtin.run args).Gives IsExitCode := by
  -- Each ends with a flush, and then with a code that is chosen between two.
  have hflush {code : Int} (h : IsExitCode code) :
      (do Job.flush; return code : Job Int).Gives IsExitCode := .last fun _ => .pure h
  cases builtin with
  | cat =>
    change (Cat.run args).Gives IsExitCode
    rw [Cat.run, Cat.runWith]
    split
    · exact .last fun _ => .last fun _ => hflush (by decide)
    · exact .last fun good => hflush (by cases good <;> decide)
  | echo => exact .last fun _ => hflush (by decide)
  | grep =>
    change (Grep.run args).Gives IsExitCode
    rw [Grep.run, Grep.runWith]
    split
    · rw [Grep.perform]
      refine .last fun _ => .last fun pattern => ?_
      split
      · exact .last fun _ => .last fun _ => hflush (by decide)
      · exact .last fun good => hflush (by cases good <;> decide)
    · exact .last fun _ => .pure (by decide)
    · exact .last fun _ => .pure (by decide)
  | pwd => exact .last fun _ => .last fun _ => .last fun _ => hflush (by decide)
  | wc =>
    change (Wc.run args).Gives IsExitCode
    rw [Wc.run, Wc.runWith]
    split
    · refine .last fun input => ?_
      split
      · exact .last fun _ => hflush (by decide)
      · exact .throw _
    · refine .last fun counted => ?_
      obtain ⟨total, good⟩ := counted
      dsimp only
      split
      · exact .last fun _ => hflush (by cases good <;> decide)
      · exact hflush (by cases good <;> decide)

namespace Execution

/-- A program that has been started ends with its own code, or with that of the signal that has
ended it. -/
theorem gives_runProgram (command : Command) (inherited : Bool) :
    (runProgram command inherited).Gives IsExitCode := by
  refine .last fun _ => .last fun _ => .last fun copied => .last fun _ => ?_
  dsimp only
  split
  · exact .last fun _ => .pure copied.1.isExitCode_exitCode
  · exact .pure copied.1.isExitCode_exitCode

theorem gives_runCommand (command : Command) (inherited : Bool) :
    (runCommand command inherited).Gives IsExitCode := by
  rw [runCommand]
  split
  · exact Builtin.gives_run _ _
  · exact gives_runProgram command inherited

theorem gives_report (name : String) (error : Error) :
    (report name error).Gives IsExitCode := by
  intro c
  rw [(runIn_report name error c).1]
  exact error.isExitCode_exitCode

theorem isExitCode_codeOf {result : Except Error Int}
    (h : ∀ code, result = .ok code → IsExitCode code) : IsExitCode (codeOf result) := by
  cases result with
  | ok code => exact h code rfl
  | error error =>
    rw [codeOf]
    split
    · decide
    · exact error.isExitCode_exitCode

/-- The exit code of a command, or the status of a session that it ends, is a number of one byte. -/
theorem gives_execute (command : Command) (inherited : Bool) :
    (execute command inherited).Gives fun flow => IsExitCode flow.code := by
  rw [execute]
  split
  · split
    · next status hstatus => exact .pure (Exit.isExitCode_status hstatus)
    · exact .bind (gives_report command.name _) fun code hcode => .pure hcode
  · have hrun : Action.Gives (ExceptT.run (runCommand command inherited)) fun result =>
        ∀ code, result = .ok code → IsExitCode code := gives_runCommand command inherited
    refine .bind hrun fun result hresult => ?_
    refine .bind (P := IsExitCode) (fun c => ?_) fun code hcode => .pure hcode
    -- Settling changes nothing about the code, whether or not a report can be written.
    rw [(runIn_settle command result c).1]
    exact isExitCode_codeOf hresult

end Execution

/-! ## Pipelines -/

namespace Pipeline

/-- Every exit code that the loop keeps is a number of one byte. -/
def Progress.IsSound (progress : Progress) : Prop :=
  ∀ code ∈ progress.codes, IsExitCode code

theorem Progress.isSound_start (inherited : Bool) (stages : Nat) :
    (start inherited stages).IsSound := by
  intro code hcode
  obtain rfl := List.eq_of_mem_replicate hcode
  decide

/-- Codes remain numbers of one byte where one of them is replaced by such a number. -/
theorem forall_mem_set {codes : List Int} (h : ∀ code ∈ codes, IsExitCode code) {code : Int}
    (hcode : IsExitCode code) (index : Nat) :
    ∀ other ∈ codes.set index code, IsExitCode other := by
  intro other hother
  obtain hmem | rfl := List.mem_or_eq_of_mem_set hother
  · exact h other hmem
  · exact hcode

/-- The ends of programs are numbers of one byte too. -/
theorem Progress.IsSound.settled {progress : Progress} (h : progress.IsSound) :
    ∀ code ∈ progress.settled, IsExitCode code := by
  obtain ⟨source, codes, children, feeders⟩ := progress
  rw [Progress.settled]
  change ∀ code ∈ codes, _ at h
  dsimp only
  induction children generalizing codes with
  | nil => exact h
  | cons child rest ih => exact ih _ (forall_mem_set h child.2.isExitCode_exitCode child.1)

theorem gives_supply {α : Type} {action : Action α} {P : α → Prop} (source : Source)
    (h : action.Gives P) : (source.supply action).Gives P := by
  rw [Source.supply]
  split
  · exact h
  · exact .last fun _ => .last fun _ => .bind h fun _ ha => .last fun _ => .pure ha

theorem gives_captured {α : Type} {action : Action α} {P : α → Prop} (h : action.Gives P) :
    (captured action).Gives fun ran => P ran.1 :=
  fun c => h { c with out := .unlimited }

theorem gives_runBuiltin (isLast : Bool) (command : Command) :
    (runBuiltin isLast command).Gives fun ran => IsExitCode ran.1.code := by
  rw [runBuiltin]
  split
  · exact .bind (Execution.gives_execute command false) fun _ h => .pure h
  · exact .bind (gives_captured (Execution.gives_execute command false)) fun _ h => .pure h

/-- A stage adds an exit code that is a number of one byte, or none. -/
theorem gives_runStage (isLast : Bool) (index : Nat) (command : Command) {progress : Progress}
    (h : progress.IsSound) :
    (runStage isLast index command progress).Gives Progress.IsSound := by
  rw [runStage]
  split
  · exact .last fun _ => .pure h
  split
  · refine .bind (gives_supply _ (gives_runBuiltin isLast command)) fun ran hran => ?_
    exact .pure (forall_mem_set h hran index)
  · refine .last fun _ => .last fun started => ?_
    cases started with
    | error error =>
      exact .bind (Execution.gives_report command.name error) fun code hcode =>
        .pure (forall_mem_set h hcode index)
    | ok outcome =>
      -- The code of a program that has been started is not known yet.
      dsimp only
      split
      · exact .last fun _ => .pure h
      · exact .pure h

theorem gives_runFrom (last index : Nat) (commands : List Command) {progress : Progress}
    (h : progress.IsSound) : (runFrom last index commands progress).Gives Progress.IsSound := by
  induction commands generalizing index progress with
  | nil => exact .pure h
  | cons command rest ih =>
    exact .bind (gives_runStage (index == last) index command h) fun _ hnext => ih (index + 1) hnext

/-- The exit code of a pipeline is a number of one byte. -/
theorem gives_run (commands : List Command) (inherited : Bool) :
    (run commands inherited).Gives fun flow => IsExitCode flow.code := by
  rw [run.eq_def]
  split
  · exact .pure (by decide)
  · exact Execution.gives_execute _ inherited
  · refine .bind (gives_runFrom _ 0 _ (Progress.isSound_start inherited _)) fun progress h => ?_
    refine .last fun _ => .last fun _ => .pure ?_
    change IsExitCode (progress.settled.getD _ 0)
    rw [List.getD_eq_getElem?_getD]
    cases hlast : progress.settled[commands.length - 1]? with
    | none => decide
    | some code => exact h.settled code (List.mem_of_getElem? hlast)

end Pipeline

end CommandShell
