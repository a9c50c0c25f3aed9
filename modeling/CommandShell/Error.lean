import CommandShell.Failure

/-!
# Errors

Everything the shell can complain about, as causes with their data: lines that cannot be read,
commands that cannot be run, and failures of the streams and patterns they use. The wording of a
complaint is `Error.message`, the exit code it leads to is `Error.exitCode`.
-/

namespace CommandShell

/-- A reason why a line is not run or a command stops. -/
inductive Error where
  /-- The line is blank. -/
  | emptyInput
  /-- A quote is opened and never closed. -/
  | unclosedQuote (quote : Char) (hint : Option String)
  /-- A variable is assigned nothing at all. -/
  | emptyAssignment (name : String)
  /-- A stage of a pipeline has no words. -/
  | emptyStage
  /-- A command has no words. -/
  | emptyCommand
  /-- A built-in command is called with arguments it does not take. -/
  | usage (command text : String)
  /-- A built-in command fails. -/
  | builtin (command text : String)
  /-- A program cannot be started. -/
  | spawn (program text : String)
  /-- A program exists but may not be executed. -/
  | notExecutable (program text : String)
  /-- Reading or writing fails. -/
  | io (failure : Failure)
  /-- A pattern cannot be read; the text is the complaint about it. -/
  | pattern (text : String)
  deriving DecidableEq, Repr

namespace Error

/-- The wording of the complaint. -/
def message : Error → String
  | .emptyInput => "input cannot be empty"
  | .unclosedQuote quote none => s!"unclosed quote {quote}"
  | .unclosedQuote quote (some hint) => s!"unclosed quote {quote}\n  hint: {hint}"
  | .emptyAssignment name => s!"variable value cannot be empty: {name}"
  | .emptyStage => "syntax error near unexpected token `|'"
  | .emptyCommand => "empty command"
  | .usage _ text => text
  | .builtin _ text => text
  | .spawn _ text => text
  | .notExecutable _ text => text
  | .io failure => "I/O error: " ++ failure.text
  | .pattern text => "Regex error: " ++ text

/-- The complaint is about how the line is written, not about running it. -/
def isSyntax : Error → Bool
  | .unclosedQuote .. | .emptyStage | .emptyCommand => true
  | _ => false

/-- The complaint is that the reader of the output has gone away. -/
def isBrokenPipe : Error → Bool
  | .io failure => failure.isBrokenPipe
  | _ => false

/-- The exit code of a program that cannot be found. -/
def notFoundCode : Int := 127

/-- The exit code of a program that may not be executed. -/
def notExecutableCode : Int := 126

/-- The exit code that the error leads to: 2 for what the user wrote wrongly, 127 and 126 for
programs that cannot be run, and 1 for everything else. -/
def exitCode : Error → Int
  | .usage .. | .pattern _ => 2
  | .spawn .. => notFoundCode
  | .notExecutable .. => notExecutableCode
  | .unclosedQuote .. | .emptyStage | .emptyCommand => 2
  | .emptyInput | .emptyAssignment _ | .builtin .. | .io _ => 1

/-- Every error about how a line is written leads to exit code 2. -/
theorem exitCode_of_isSyntax {e : Error} (h : e.isSyntax = true) : e.exitCode = 2 := by
  cases e <;> simp_all [isSyntax, exitCode]

end Error

end CommandShell
