import CommandShell.Text.ControlSequence

/-!
# Journal

Notes about what the shell does, each with a level that says how much it matters and the topic it
belongs to. A note is written to the error stream if its level is among those asked for.
-/

namespace CommandShell.Journal

/-- How much a note matters, most first. -/
inductive Level where
  /-- Something failed. -/
  | error
  /-- Something is wrong, but work goes on. -/
  | warn
  /-- Something worth knowing happened. -/
  | info
  /-- A step of the work. -/
  | debug
  /-- A detail of a step. -/
  | trace
  deriving DecidableEq, Repr

namespace Level

/-- The name of a level. -/
def name : Level → String
  | .error => "error"
  | .warn => "warn"
  | .info => "info"
  | .debug => "debug"
  | .trace => "trace"

/-- Every level, those that matter most first. -/
def all : List Level := [.error, .warn, .info, .debug, .trace]

/-- The level of a given name. -/
def ofName? (name : String) : Option Level :=
  all.find? (·.name == name)

/-- How far down a level stands. -/
def rank : Level → Nat
  | .error => 1
  | .warn => 2
  | .info => 3
  | .debug => 4
  | .trace => 5

/-- Notes of the level are written when those down to `threshold` are asked for. -/
def isWithin (level : Level) (threshold : Option Level) : Bool :=
  match threshold with
  | none => false
  | some lowest => level.rank ≤ lowest.rank

/-- The name of a level in capitals, five characters wide. -/
def label (level : Level) : String :=
  let text := level.name.toUpper
  text ++ String.ofList (List.replicate (5 - text.length) ' ')

end Level

/-- What a note is about. -/
inductive Topic where
  /-- The command line of the program. -/
  | program
  /-- Variables. -/
  | environment
  /-- Reading lines. -/
  | parser
  /-- Running single commands. -/
  | executor
  /-- Running pipelines. -/
  | pipeline
  /-- The session. -/
  | session
  deriving DecidableEq, Repr

/-- The name under which a topic is written. -/
def Topic.name : Topic → String
  | .program => "cli_shell::commands::run"
  | .environment => "cli_shell::environment"
  | .parser => "cli_shell::parser"
  | .executor => "cli_shell::executor"
  | .pipeline => "cli_shell::pipeline"
  | .session => "cli_shell::shell"

/-- The blanks that further lines of a note begin with. -/
def margin : String := "    "

/-- A note as it is written: without control sequences, and on several lines if its text is. -/
def entry (level : Level) (topic : Topic) (text : String) : String :=
  let body := text.replace "\n" ("\n" ++ margin) ++ "\n"
  s!"[{level.label} {topic.name}] {Text.withoutSequences body}"

end CommandShell.Journal
