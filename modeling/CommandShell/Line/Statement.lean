import CommandShell.Command
import CommandShell.Line.Expansion
import CommandShell.Line.Unquoted

/-!
# Statements

What a line says: it gives a variable a value, or it names commands to be run as a pipeline.

A line is trimmed and split into tokens. If it is a single token `NAME=VALUE`, it is an assignment
of the expanded and unquoted value, which is not split. Otherwise each token is expanded and its
expansion split again, so that a variable may yield several words, none at all, or a `|`. The words
between pipes, with their quotes removed, are the commands. Every stage needs a word, except that
a line which expands to nothing is a pipeline without commands.
-/

namespace CommandShell.Line

/-- The name and the raw value of a token `NAME=VALUE`, split at its first `=`. -/
def assignment? (token : Token) : Option (List Char × List Char) :=
  let name := token.takeWhile (· != '=')
  match token.dropWhile (· != '=') with
  | [] => none
  | _ :: value => if Text.isIdentifier name then some (name, value) else none

/-- What a line says. -/
inductive Statement where
  /-- Give a variable a value. -/
  | assignment (name value : String)
  /-- Run commands, each reading what the one before it writes. -/
  | pipeline (commands : List Command)
  deriving DecidableEq, Repr

/-- The words that some tokens expand to. -/
def expandedWords (env : Environment) : List Token → Except Error (List Token)
  | [] => .ok []
  | token :: rest => do
    let words ← tokenize (expand env token)
    let others ← expandedWords env rest
    return words ++ others

/-- Divide words at the pipes: `stage` holds the words since the last pipe, last first. -/
def stagesAfter : (stage : List Token) → List Token → Except Error (List (List Token))
  | stage, [] => if stage.isEmpty then .error .emptyStage else .ok [stage.reverse]
  | stage, word :: rest =>
    if word = pipe then
      if stage.isEmpty then .error .emptyStage
      else (stagesAfter [] rest).map (stage.reverse :: ·)
    else
      stagesAfter (word :: stage) rest

/-- The stages of a pipeline, each with at least one word. -/
def stages (words : List Token) : Except Error (List (List Token)) :=
  if words.isEmpty then .ok [] else stagesAfter [] words

/-- The command that a stage stands for. -/
def commandOf (stage : List Token) : Except Error Command :=
  Command.ofWords (stage.map fun word => String.ofList (unquote word))

/-- The statement made by some words. -/
def pipelineOf (words : List Token) : Except Error Statement := do
  let stages ← stages words
  return .pipeline (← stages.mapM commandOf)

/-- The statement that assigns the raw value `value` to `name`. -/
def assign (env : Environment) (name value : List Char) : Except Error Statement :=
  if value.isEmpty then .error (.emptyAssignment (String.ofList name))
  else .ok (.assignment (String.ofList name) (String.ofList (unquote (expand env value))))

/-- The statement made by the tokens of a line. -/
def statementOf (env : Environment) (tokens : List Token) : Except Error Statement :=
  match tokens with
  | [token] =>
    match assignment? token with
    | some (name, value) => assign env name value
    | none => do pipelineOf (← expandedWords env tokens)
  | _ => do pipelineOf (← expandedWords env tokens)

/-- Read a line, with the variables it may refer to. -/
def parse (env : Environment) (line : String) : Except Error Statement :=
  let text := Text.trim line.toList
  if text.isEmpty then .error .emptyInput
  else do statementOf env (← tokenize text)

/-- The variables that are looked up while a line is read, in order. -/
def lookups (line : String) : List String :=
  match tokenize (Text.trim line.toList) with
  | .error _ => []
  | .ok [token] =>
    match assignment? token with
    | some (_, value) => references value
    | none => references token
  | .ok tokens => tokens.flatMap references

end CommandShell.Line
