/-!
# The Syntax of Scripts

The commands that scripts for the system's own command interpreter are made of: simple commands
with assignments and redirections, pipelines, lists, groups, conditions, loops, choices and
functions. Words are made of parts: text, and expansions whose values are put in when the command
is run.
-/

namespace CommandShell.Programs.Script

/-- What an expansion makes of the value of a parameter. -/
inductive Change where
  /-- The value itself. -/
  | none
  /-- The length of the value. -/
  | length
  /-- Another word where there is no value, or only an empty one if `empty` is set. -/
  | otherwise (empty : Bool)
  /-- Another word, which becomes the value, where there is none. -/
  | assign (empty : Bool)
  /-- A complaint where there is no value. -/
  | insist (empty : Bool)
  /-- Another word where there is a value. -/
  | instead (empty : Bool)
  /-- The value without the shortest or longest beginning that fits a pattern. -/
  | dropPrefix (longest : Bool)
  /-- The value without the shortest or longest end that fits a pattern. -/
  | dropSuffix (longest : Bool)
  /-- Nothing that is known: a complaint. -/
  | unknown
  deriving DecidableEq, Repr

/-- What a redirection does with a descriptor. -/
inductive Direction where
  /-- Input comes from a file. -/
  | read
  /-- Output goes to a file. -/
  | write
  /-- Output goes to a file, even if files are not to be written over. -/
  | overwrite
  /-- Output goes to the end of a file. -/
  | append
  /-- The descriptor becomes the same as another one, or is closed. -/
  | duplicate
  /-- Input is a text that stands in the script. -/
  | document
  deriving DecidableEq, Repr

mutual

/-- A part of a word; `quoted` tells that it stood between quotes. -/
inductive Part where
  /-- Characters that stand for themselves. -/
  | text (chars : List Char) (quoted : Bool)
  /-- The value of a parameter, with what is made of it. -/
  | parameter (name : String) (quoted : Bool) (change : Change) (operand : List Part)
  /-- What some commands write. -/
  | output (body : List Command) (quoted : Bool)
  /-- The value of an arithmetic expression. -/
  | arithmetic (expression : List Part) (quoted : Bool)

/-- A variable with the word that it is to have as its value. -/
inductive Assignment where
  /-- The name and the word. -/
  | mk (name : String) (value : List Part)

/-- A redirection of a descriptor. -/
inductive Redirection where
  /-- What becomes of which descriptor, with the word that says where. -/
  | mk (descriptor : Nat) (direction : Direction) (target : List Part)

/-- A branch of a choice: patterns, and what is done if one of them fits. -/
inductive Branch where
  /-- The patterns and the commands. -/
  | mk (patterns : List (List Part)) (body : List Command)

/-- A command of a script. -/
inductive Command where
  /-- Assignments, words and redirections. -/
  | simple (assignments : List Assignment) (words : List (List Part))
      (redirections : List Redirection)
  /-- Commands each of which reads what the one before writes; `negated` turns the result
  around. -/
  | pipeline (negated : Bool) (stages : List Command)
  /-- The second is run if the first succeeds. -/
  | both (first second : Command)
  /-- The second is run if the first fails. -/
  | either (first second : Command)
  /-- The command is not waited for. -/
  | background (body : Command)
  /-- Commands in braces. -/
  | group (body : List Command)
  /-- Commands in parentheses, which leave the interpreter as it is. -/
  | subshell (body : List Command)
  /-- One of two lists of commands, as a test tells. -/
  | conditional (test body otherwise : List Command)
  /-- Commands that are run as long as a test succeeds, or fails if `untilGood` is set. -/
  | loop (untilGood : Bool) (test body : List Command)
  /-- Commands that are run for each of some words, or for each argument. -/
  | each (name : String) (overArguments : Bool) (words : List (List Part)) (body : List Command)
  /-- The commands of the first branch that fits a word. -/
  | choose (word : List Part) (branches : List Branch)
  /-- A function is given a name. -/
  | define (name : String) (body : Command)
  /-- Redirections hold for a whole command. -/
  | redirected (body : Command) (redirections : List Redirection)

end

/-- A word of a script. -/
abbrev Word := List Part

end CommandShell.Programs.Script
