import CommandShell.Programs.Script.Evaluation

/-!
# The Start of an Interpreter

How an interpreter of scripts is called: the script stands in an argument after `-c`, in a file
whose name is the first operand, or in the input. The other operands are its arguments.
-/

namespace CommandShell.Programs.Script

/-- How an interpreter is started. -/
structure Start where
  /-- The letters of the options that are set. -/
  options : List Char
  /-- The script stands in the first operand. -/
  isInline : Bool
  /-- The operands are arguments of a script in the input. -/
  isInput : Bool
  /-- The operands. -/
  operands : List String
  deriving DecidableEq, Repr

namespace Start

/-- The letters of all options. -/
def letters : List Char :=
  'l' :: Interpreter.optionLetters

/-- Read the options and operands. What is refused is an option that is not known. -/
def read (start : Start) : List String → Except String Start
  | [] => .ok start
  | "--" :: rest => .ok { start with operands := rest }
  | "-" :: rest => .ok { start with operands := rest }
  | "-o" :: name :: rest =>
    match Interpreter.optionNames.lookup name with
    | some letter => read { start with options := letter :: start.options } rest
    | none => .error s!"Illegal option -o {name}"
  | arg :: rest =>
    match arg.toList with
    | '-' :: chars =>
      match chars.find? fun c => !letters.contains c && c != 'c' with
      | some c => .error s!"Illegal option -{c}"
      | none =>
        read { start with
          options := chars.filter letters.contains ++ start.options
          isInline := start.isInline || chars.contains 'c'
          isInput := start.isInput || chars.contains 's' } rest
    | '+' :: chars =>
      read { start with options := start.options.filter (!chars.contains ·) } rest
    | _ => .ok { start with operands := arg :: rest }

end Start

/-- Run a script with its name and arguments, as an interpreter that is called. -/
def interpretScript (system : System) (call : Call) (options : List Char) (script : String)
    (name : String) (arguments : List String) : Product :=
  let initial := Interpreter.start name arguments call
  let (status, state) := Evaluation.runScript system script { initial with options }
  { output := state.written Interpreter.outputSink
    complaints := state.written Interpreter.complaintSink
    status
    files := { state.files with workingDirectory := call.files.workingDirectory }
    unread := (state.sources.lookup Interpreter.inputSource).getD [] }

/-- An interpreter, as what it makes of a call. -/
def interpret (system : System) : Utility := fun call =>
  let refused (text : String) : Product := call.refused Run.mistakeCode s!"0: {text}"
  match Start.read ⟨[], false, false, []⟩ call.args with
  | .error text => refused text
  | .ok start =>
    match start.isInline, start.isInput, start.operands with
    | true, _, [] => refused "-c requires an argument"
    | true, _, script :: rest =>
      interpretScript system call start.options script (rest.headD call.name) rest.tail
    | false, false, path :: rest =>
      match contentsOf call.files path with
      | .ok data => interpretScript system call start.options (lossyText data) path rest
      | .error (.system .isDirectory) => interpretScript system call start.options "" path rest
      | .error failure =>
        let reason := Redirection.describe Redirection.missingFile failure
        refused s!"cannot open {path}: {reason}"
    | false, _, arguments =>
      let rest := { call with input := [], inputSize := none }
      interpretScript system rest ('s' :: start.options) (lossyText call.input) call.name arguments

end CommandShell.Programs.Script
