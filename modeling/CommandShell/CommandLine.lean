import CommandShell.Options.Reading
import CommandShell.Session

/-!
# The Command Line of the Program

What the program accepts on its command line, and what it does with it: it runs a single line, the
lines of a file, or the lines of its input. It ends with the low eight bits of the status.
-/

namespace CommandShell.CommandLine

open Options

/-- The name of the program. -/
def name : String := "cli-shell"

/-- The exit code when the command line is not accepted. -/
def refusedCode : Int := 2

/-- The exit code of a process that breaks down. -/
def brokenDownCode : Int := 101

/-- What the program finds out about its process. -/
structure Process where
  /-- The variables that are text. -/
  bindings : List (String × String)
  /-- There are no others. -/
  isText : Bool := true
  /-- The error stream is a terminal that shows colours. -/
  showsColor : Bool := false
  deriving Repr

/-- A process of which nothing is told but its variables. -/
instance : Coe (List (String × String)) Process := ⟨fun bindings => { bindings }⟩

/-- The value of a variable of the process. -/
def Process.lookup (process : Process) (name : String) : Option String :=
  process.bindings.lookup name

/-- The process with some variables, each a pair of a name and a value in bytes. -/
def Process.ofVariables (pairs : List (Bytes × Bytes)) (showsColor : Bool) : Process :=
  let text? (bytes : Bytes) : Option String := (Utf8.decode? bytes).map String.ofList
  let binding? (pair : Bytes × Bytes) : Option (String × String) := do
    return (← text? pair.1, ← text? pair.2)
  { bindings := pairs.filterMap binding?
    isText := pairs.all fun pair => (binding? pair).isSome
    showsColor }

/-- The choices for the level of notes; with `off` there are none. -/
def levelChoices : List Choice :=
  ("off" :: Journal.Level.all.map Journal.Level.name).map (⟨·, ""⟩)

/-- The option that says how the program's messages are coloured. -/
def colorOption : OptionSpec :=
  ⟨"color", none, .value "WHEN" .text, "Colorize output (always, never, auto)", some "auto", none⟩

/-- The option that says which notes are written. -/
def levelOption : OptionSpec :=
  ⟨"log-level", none, .value "LEVEL" (.choice levelChoices),
    "Set log level (error, warn, info, debug, trace)", some "warn", some "CLI_SHELL_LOG"⟩

/-- The option that shows the help text. -/
def helpOption : OptionSpec := ⟨"help", some 'h', .showHelp, "Print help", none, none⟩

/-- The name of the subcommand that writes completion scripts. -/
def completionsName : String := "completions"

/-- The name of the subcommand that shows help. -/
def helpName : String := "help"

/-- What the program accepts. -/
def interface : Interface where
  name := name
  about := "A small Unix-style command interpreter with pipelines, quoting and variables"
  version := name ++ " 1.0.0\n"
  options :=
    [ ⟨"command", some 'c', .value "LINE" .text,
        "Run a single command line and exit with its status", none, none⟩,
      ⟨"prompt", none, .value "TEXT" .text, "Prompt shown before each line in interactive sessions",
        some "> ", some "CLI_SHELL_PROMPT"⟩,
      colorOption, levelOption, helpOption,
      ⟨"version", some 'V', .showVersion, "Print version", none, none⟩ ]
  operands :=
    [ ⟨"SCRIPT", false, false, .path,
        "File of command lines to run instead of reading standard input"⟩ ]
  subcommands :=
    [ (completionsName, "Generate shell completion scripts"),
      (helpName, "Print this message or the help of the given subcommand(s)") ]
  exclusive := [(.option "command", .operand 0)]
  group := [.option "command", .operand 0, .option "prompt"]

/-- The shells that completion scripts are written for. -/
def shellChoices : List Choice :=
  [ ⟨"bash", "Bourne Again Shell"⟩, ⟨"zsh", "Z Shell"⟩, ⟨"fish", "Fish Shell"⟩,
    ⟨"powershell", "PowerShell"⟩, ⟨"elvish", "Elvish Shell"⟩ ]

/-- What the subcommand that writes completion scripts accepts. -/
def completionsInterface : Interface where
  name := name ++ " " ++ completionsName
  about := "Generate shell completion scripts"
  version := ""
  options := [colorOption, levelOption, helpOption]
  operands :=
    [⟨"SHELL", true, false, .choice shellChoices, "The shell to generate completions for"⟩]
  subcommands := []
  exclusive := []
  group := [.operand 0]

/-- What the subcommand that shows help accepts, as its own help text tells. -/
def helpInterface : Interface where
  name := name ++ " " ++ helpName
  about := "Print this message or the help of the given subcommand(s)"
  version := ""
  options := []
  operands := [⟨"COMMAND", false, true, .text, "Print help for the subcommand(s)"⟩]
  subcommands := []
  exclusive := []
  group := [.operand 0]

/-- Where the lines to be run come from. -/
inductive Source where
  /-- A single line on the command line. -/
  | line (text : String)
  /-- A file. -/
  | script (path : String)
  /-- The input. -/
  | input
  deriving DecidableEq, Repr

/-- What the program is asked to do. -/
structure Request where
  /-- Where the lines come from. -/
  source : Source
  /-- The prompt that is shown before lines of the input. -/
  prompt : String
  /-- How messages are coloured. -/
  color : String
  /-- Which notes are written. -/
  threshold : Option Journal.Level
  deriving Repr

/-- The request that is made by what was given on the command line. -/
def Request.ofGiven (given : List (Key × List String)) : Request :=
  let value (key : Key) : Option String := (given.lookup key).bind (·.head?)
  let source := match value (.option "command"), value (.operand 0) with
    | some line, _ => .line line
    | none, some path => .script path
    | none, none => .input
  { source
    prompt := (value (.option "prompt")).getD "> "
    color := (value (.option "color")).getD "auto"
    threshold := Journal.Level.ofName? ((value (.option "log-level")).getD "warn") }

/-- The help for the subcommands that some words name. -/
def help (process : String → Option String) : List String → Stop
  | [] => .shown (interface.helpText process true)
  | word :: rest =>
    let found := [(completionsName, completionsInterface), (helpName, helpInterface)].lookup word
    match found, rest with
    | none, _ => .refused (interface.refuse (.unknownSubcommand word) [] [])
    | some chosen, [] => .shown (chosen.helpText process true)
    | some chosen, other :: _ => .refused (chosen.refuse (.unknownSubcommand other) [] [])

/-- Read the words of the command line. There is no request when completion scripts are asked
for. -/
def read (process : String → Option String) (args : List String) :
    Except Stop (Option Request) := do
  let (reading, subcommand) ← interface.readWords process .start args
  match subcommand with
  | none => return some (.ofGiven (← interface.complete process reading))
  | some (word, rest) =>
    if word = helpName then .error (help process rest)
    else
      let (inner, _) ← completionsInterface.readWords process .start rest
      let _ ← completionsInterface.complete process inner
      let _ ← interface.complete process reading
      return none

/-- The message about a file of lines that cannot be opened. -/
def openMessage (path : String) (failure : Failure) : String :=
  s!"Error: Failed to open script: {path}\n\nCaused by:\n    {failure.text}\n"

/-- The message about an error that ends the lines of a file, with what caused the error. -/
def runMessage (path : String) (error : Error) : String :=
  let heading := s!"Error: Failed to run script: {path}\n\nCaused by:\n"
  match error with
  | .io failure => heading ++ s!"    0: {error.message}\n    1: {failure.text}\n"
  | _ => heading ++ s!"    {error.message}\n"

/-- The message about an error that ends the lines of the input. -/
def inputMessage (error : Error) : String :=
  match error with
  | .io failure => s!"Error: {error.message}\n\nCaused by:\n    {failure.text}\n"
  | _ => s!"Error: {error.message}\n"

/-- The message about output that cannot be flushed. -/
def flushMessage (failure : Failure) : String :=
  s!"Error: {failure.text}\n"

/-- The exit code for the end of a session; an error is complained about. -/
def conclude (message : Error → String) : Except Error Int → Action Int
  | .ok status => return status
  | .error error => do
    let _ ← Action.complain (message error)
    return 1

/-- Run the lines of a file. -/
def runScript (session : Session) (path : String) : Action Int := do
  Action.note .debug .program s!"running script {path}"
  match (← get).files.openInput path with
  | .error failure =>
    let _ ← Action.complain (openMessage path failure)
    return 1
  | .ok input =>
    let (_, result) ← session.run none input
    conclude (runMessage path) result

/-- Run a single line. Its first program reads the input of the process. -/
def runCommandLine (session : Session) (text : String) : Action Int := do
  Action.note .debug .program "running command line from -c"
  let (_, flow) ← session.runLine text true
  match ← Action.flush with
  | none => return flow.code
  | some failure =>
    let _ ← Action.complain (flushMessage failure)
    return 1

/-- Run the lines of the input, after a prompt if there is one. -/
def runInput (session : Session) (prompt : Option String) : Action Int := do
  let (_, result) ← session.run prompt (← get).input
  conclude inputMessage result

/-- Do what is requested: the status that the session ends with. `interactive` tells that a user
types the input. The variables of the process become those of the session; one that is not text
breaks the program down before any line is read. -/
def perform (request : Request) (process : Process) (interactive : Bool) : Action Int := do
  modify fun context => { context with threshold := request.threshold }
  if !process.isText then return brokenDownCode
  let palette : Palette := .choose request.color process.lookup process.showsColor
  let session : Session := ⟨.ofProcess process.bindings, palette⟩
  match request.source with
  | .line text => runCommandLine session text
  | .script path => runScript session path
  | .input => runInput session (if interactive then some request.prompt else none)

/-- The program: what it does with its arguments in a process, and the exit code it ends with. -/
def run (args : List String) (process : Process) (interactive : Bool) : Action Int := do
  match read process.lookup args with
  | .ok none => return 0
  | .ok (some request) => return (← perform request process interactive) % 256
  | .error (.shown text) =>
    let _ ← Action.print (utf8 text)
    return 0
  | .error (.refused refusal) =>
    let _ ← Action.complain refusal.message
    return refusedCode

end CommandShell.CommandLine
