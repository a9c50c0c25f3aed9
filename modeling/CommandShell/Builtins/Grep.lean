import CommandShell.Builtins.Operands
import CommandShell.Options.Reading
import CommandShell.Search

/-!
# Searching Files

`grep` shows the lines of its operands, or of its input if there are none, that match a pattern,
and as many lines after each as are asked for. With several operands, each line is labelled with
the operand it comes from.
-/

namespace CommandShell.Grep

/-- What a search is asked to do. -/
structure Request where
  /-- Letters match in either case. -/
  ignoreCase : Bool
  /-- Only whole words match. -/
  wholeWord : Bool
  /-- How many lines are shown after a match. -/
  after : Nat
  /-- The pattern as it was given. -/
  pattern : String
  /-- The files to be searched. -/
  files : List String
  deriving DecidableEq, Repr

/-- The greatest number of lines that can be asked for. -/
def afterLimit : Nat := Nat.pow 2 64 - 1

/-- What the command accepts on its command line. -/
def interface : Options.Interface where
  name := "grep"
  about := "Print lines that match a pattern"
  version := ""
  options :=
    [ ⟨"ignore-case", some 'i', .flag,
        "Ignore case distinctions in the pattern and the input", none, none⟩,
      ⟨"word-regexp", some 'w', .flag, "Only match the pattern as a whole word", none, none⟩,
      ⟨"after-context", some 'A', .value "NUM" (.number afterLimit),
        "Print NUM lines of trailing context after each matching line", some "0", none⟩,
      ⟨"help", some 'h', .showHelp, "Print help", none, none⟩ ]
  operands :=
    [ ⟨"PATTERN", true, false, .text, "Regular expression to search for"⟩,
      ⟨"FILES", false, true, .text,
        "Files to search; standard input is read when none are given"⟩ ]
  subcommands := []
  exclusive := []
  group :=
    [.option "ignore-case", .option "word-regexp", .option "after-context", .operand 0, .operand 1]

/-- The request that is made by what was given on the command line. -/
def Request.ofGiven (given : List (Options.Key × List String)) : Request :=
  let values (key : Options.Key) : List String := (given.lookup key).getD []
  let isGiven (long : String) : Bool := (given.lookup (.option long)).isSome
  let after := ((values (.option "after-context")).head?).getD "0"
  { ignoreCase := isGiven "ignore-case"
    wholeWord := isGiven "word-regexp"
    after := ((Text.readUnsigned afterLimit after.toList).toOption).getD 0
    pattern := ((values (.operand 0)).head?).getD ""
    files := values (.operand 1) }

/-- The request that some arguments make. -/
def Request.ofArgs (args : List String) : Except Options.Stop Request := do
  let noVariables : String → Option String := fun _ => none
  let (reading, _) ← interface.readWords noVariables .start args
  return .ofGiven (← interface.complete noVariables reading)

/-- The text of the pattern that is searched for. -/
def Request.source (request : Request) : String :=
  if request.wholeWord then Pattern.wholeWord request.pattern else request.pattern

/-- The pattern that is searched for, made by an engine. -/
def Request.compile (request : Request) (engine : Pattern.Engine := Pattern.compile) :
    Except Error Pattern :=
  engine request.ignoreCase request.source

/-- Write what a search shows of an input. -/
def search (pattern : Pattern) (after : Nat) (label : Option String) (input : Input) :
    Job Unit := do
  Job.print (Search.output pattern after label input)
  Job.stopOn input.failure

/-- The name of the command. -/
def name : String := "grep"

/-- Search a file, and tell whether it could be opened and searched. A file that cannot be opened is
complained about in any case. -/
def searchFile (opener : Opener) (pattern : Pattern) (after : Nat) (label : Option String)
    (path : String) : Job Bool := do
  match ← opener path with
  | .error failure =>
    complainAbout name path failure
    return false
  | .ok input => orComplain name path (search pattern after label input)

/-- Do what is requested, with a way to open files. -/
def perform (opener : Opener) (request : Request) : Job Int := do
  let pattern ← ExceptT.mk (pure (request.compile (← get).patterns))
  match request.files with
  | [] =>
    search pattern request.after none (← Job.readInput)
    Job.flush
    return 0
  | files =>
    let label (path : String) : Option String := if files.length > 1 then some path else none
    let good ← withOperands
      (fun path => searchFile opener pattern request.after (label path) path) files
    Job.flush
    return if good then 0 else 2

/-- The command, with a way to open files. -/
def runWith (opener : Opener) (args : List String) : Job Int := do
  match Request.ofArgs args with
  | .ok request => perform opener request
  | .error (.shown text) =>
    Job.print (utf8 text)
    return 0
  | .error (.refused refusal) =>
    Job.complain refusal.message
    return 2

/-- The command. -/
def run (args : List String) : Job Int :=
  runWith Job.openFile args

end CommandShell.Grep
