import CommandShell.Proofs.Execution.Running

/-!
# What actions do not depend on

An action ignores the output if it neither writes to it nor does anything else in another way
because of it (`Action.IgnoresOutput`). Notes, complaints and reports are of this kind, and so is
whatever is made of such actions: they can be told what they do without looking at the output.
-/

namespace CommandShell

variable {α β : Type}

namespace Action

/-- The action does the same with any output, and leaves the output alone. -/
def IgnoresOutput (action : Action α) : Prop :=
  ∀ (c : Context) (out : Output),
    action.runIn { c with out } = ((action.runIn c).1, { (action.runIn c).2 with out })

namespace IgnoresOutput

theorem pure (a : α) : (Pure.pure a : Action α).IgnoresOutput := fun _ _ => rfl

/-- Two actions that ignore the output still do so one after the other. -/
theorem bind {first : Action α} {next : α → Action β} (hfirst : first.IgnoresOutput)
    (hnext : ∀ a, (next a).IgnoresOutput) : (first >>= next).IgnoresOutput := by
  intro c out
  rw [runIn_bind, runIn_bind, hfirst c out]
  exact hnext _ _ out

theorem complain (text : String) : (complain text).IgnoresOutput := fun _ _ => rfl

theorem note (level : Journal.Level) (topic : Journal.Topic) (text : String) :
    (note level topic text).IgnoresOutput := by
  intro c out
  rw [runIn_note, runIn_note]
  split <;> rfl

/-- The output is left alone. -/
theorem out_eq {action : Action α} (h : action.IgnoresOutput) (c : Context) :
    (action.runIn c).2.out = c.out :=
  congrArg (fun ran => ran.2.out) (h c c.out)

end IgnoresOutput

end Action

namespace Execution

theorem ignoresOutput_report (name : String) (error : Error) :
    (report name error).IgnoresOutput := by
  refine .bind (.complain _) fun failure => ?_
  cases failure with
  | none => exact .pure _
  | some failure => exact .bind (.note _ _ _) fun _ => .pure _

theorem ignoresOutput_settle (command : Command) (result : Except Error Int) :
    (settle command result).IgnoresOutput := by
  cases result with
  | ok code => exact .pure _
  | error error =>
    rw [settle]
    split
    · exact .bind (.note _ _ _) fun _ => .pure _
    · exact ignoresOutput_report _ _

/-- What `exit` does alone does not concern the output. -/
theorem ignoresOutput_execute_of_isExit {command : Command} (h : command.isExit = true) :
    (execute command).IgnoresOutput := by
  rw [execute, if_pos h]
  cases Exit.status command.args with
  | ok status => exact .pure _
  | error error => exact .bind (ignoresOutput_report _ _) fun _ => .pure _

/-- A program is started without a look at where its output will go. -/
theorem ignoresOutput_start (command : Command) : (start command).IgnoresOutput := by
  intro c out
  have hcall : command.call { c with out } = command.call c := rfl
  rw [runIn_start, runIn_start, hcall]
  cases c.programs (command.call c) <;> rfl

end Execution

end CommandShell
