import CommandShell.Error

/-!
# Commands

A command is a name with its arguments, ready to run: expanded, split and without quotes. The
names `cat`, `echo`, `grep`, `pwd`, `wc` and `exit` are the shell's own; every other name is that
of a program.
-/

namespace CommandShell

/-- The commands that the shell carries out itself, `exit` apart. -/
inductive Builtin where
  /-- Copy files. -/
  | cat
  /-- Print the arguments. -/
  | echo
  /-- Search for a pattern. -/
  | grep
  /-- Print the working directory. -/
  | pwd
  /-- Count lines, words and bytes. -/
  | wc
  deriving DecidableEq, Repr

namespace Builtin

/-- The name that calls a built-in command. -/
def name : Builtin → String
  | .cat => "cat"
  | .echo => "echo"
  | .grep => "grep"
  | .pwd => "pwd"
  | .wc => "wc"

/-- Every built-in command. -/
def all : List Builtin := [.cat, .echo, .grep, .pwd, .wc]

/-- The built-in command of a given name. -/
def ofName? (name : String) : Option Builtin :=
  all.find? (·.name == name)

/-- The name that ends the session. -/
def exitName : String := "exit"

/-- The name belongs to the shell itself. -/
def isName (name : String) : Bool :=
  name == exitName || (ofName? name).isSome

end Builtin

/-- A name with its arguments. -/
structure Command where
  /-- The name of the built-in command or program. -/
  name : String
  /-- What it is called with. -/
  args : List String
  deriving DecidableEq, Repr

namespace Command

/-- The command made of some words; the first one is its name. -/
def ofWords : List String → Except Error Command
  | [] => .error .emptyCommand
  | name :: args => .ok ⟨name, args⟩

/-- The words of a command. -/
def words (command : Command) : List String :=
  command.name :: command.args

/-- The command as one text, its words separated by spaces. -/
def display (command : Command) : String :=
  " ".intercalate command.words

/-- The command as it is mentioned in notes, between backquotes. -/
def mention (command : Command) : String :=
  "\x60" ++ command.display ++ "\x60"

/-- The command asks to end the session. -/
def isExit (command : Command) : Bool :=
  command.name == Builtin.exitName

/-- The shell carries the command out itself. -/
def isBuiltin (command : Command) : Bool :=
  Builtin.isName command.name

@[simp]
theorem ofWords_words (command : Command) : ofWords command.words = .ok command := rfl

end Command

end CommandShell
