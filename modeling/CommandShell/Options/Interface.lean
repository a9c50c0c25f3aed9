import CommandShell.Text.Integer

/-!
# Interfaces

What a command accepts on its command line: options, operands and subcommands, with what is said
about them in messages and in the help text.
-/

namespace CommandShell.Options

/-- A value that may be chosen, with its meaning. -/
structure Choice where
  /-- The value as it is given. -/
  name : String
  /-- What it means; empty if there is nothing to say. -/
  help : String
  deriving DecidableEq, Repr

/-- What is accepted as a value. -/
inductive ValueKind where
  /-- Any text. -/
  | text
  /-- Any text but the empty one. -/
  | path
  /-- A number of at most `limit`. -/
  | number (limit : Nat)
  /-- One of several values. -/
  | choice (choices : List Choice)
  deriving Repr

/-- What an option does. -/
inductive Effect where
  /-- It is given or not. -/
  | flag
  /-- It has a value, which is called `name` in messages. -/
  | value (name : String) (kind : ValueKind)
  /-- It shows the help text. -/
  | showHelp
  /-- It shows the version. -/
  | showVersion
  deriving Repr

/-- An option. -/
structure OptionSpec where
  /-- Its long name, without the two hyphens. -/
  long : String
  /-- Its letter. -/
  short : Option Char
  /-- What it does. -/
  effect : Effect
  /-- The help for it. -/
  help : String
  /-- Its value where it is not given. -/
  byDefault : Option String
  /-- The process variable that gives its value where the command line does not. -/
  variableName : Option String
  deriving Repr

/-- An operand. -/
structure OperandSpec where
  /-- What it is called in messages. -/
  name : String
  /-- It must be given. -/
  required : Bool
  /-- It may be given more than once. -/
  many : Bool
  /-- What is accepted for it. -/
  kind : ValueKind
  /-- The help for it. -/
  help : String
  deriving Repr

/-- An option by its long name, or an operand by its position. -/
inductive Key where
  /-- An option. -/
  | option (long : String)
  /-- An operand. -/
  | operand (position : Nat)
  deriving DecidableEq, Repr

/-- What a command accepts. -/
structure Interface where
  /-- The name of the command as it is called. -/
  name : String
  /-- What the command does. -/
  about : String
  /-- The version that is shown for the command. -/
  version : String
  /-- Its options. -/
  options : List OptionSpec
  /-- Its operands, in order. -/
  operands : List OperandSpec
  /-- The names of its subcommands, with the help for them. -/
  subcommands : List (String × String)
  /-- Pairs that exclude each other. -/
  exclusive : List (Key × Key)
  /-- Options and operands that may be named together, as alternatives, instead of singly. -/
  group : List Key
  deriving Repr

/-- The choices for a value. -/
def ValueKind.choices : ValueKind → List Choice
  | .choice choices => choices
  | _ => []

namespace OptionSpec

/-- The kind of value that an option has, and what it is called. -/
def value? (spec : OptionSpec) : Option (String × ValueKind) :=
  match spec.effect with
  | .value name kind => some (name, kind)
  | _ => none

/-- The choices for the value of an option. -/
def choices (spec : OptionSpec) : List Choice :=
  (spec.value?.map (·.2.choices)).getD []

/-- The option as it is shown in messages. -/
def display (spec : OptionSpec) : String :=
  match spec.value? with
  | some (name, _) => s!"--{spec.long} <{name}>"
  | none => s!"--{spec.long}"

end OptionSpec

namespace OperandSpec

/-- The operand in angle brackets, or in square brackets if it may be left out. -/
def displayAs (required : Bool) (spec : OperandSpec) : String :=
  let name := if required then s!"<{spec.name}>" else s!"[{spec.name}]"
  if spec.many then name ++ "..." else name

/-- The operand as it is shown in messages. -/
def display (spec : OperandSpec) : String :=
  spec.displayAs spec.required

end OperandSpec

namespace Interface

/-- The option with a given long name. -/
def optionNamed? (interface : Interface) (long : String) : Option OptionSpec :=
  interface.options.find? (·.long == long)

/-- The option with a given letter. -/
def optionLettered? (interface : Interface) (letter : Char) : Option OptionSpec :=
  interface.options.find? (·.short == some letter)

/-- The key as it is shown in messages. -/
def display (interface : Interface) : Key → String
  | .option long => ((interface.optionNamed? long).map (·.display)).getD ""
  | .operand position => ((interface.operands[position]?).map (·.display)).getD ""

/-- The key as it is shown among alternatives. -/
def displayBare (interface : Interface) : Key → String
  | .option long => interface.display (.option long)
  | .operand position => ((interface.operands[position]?).map (·.name)).getD ""

/-- What is accepted as a value for a key. -/
def kindOf (interface : Interface) : Key → ValueKind
  | .option long => (((interface.optionNamed? long).bind (·.value?)).map (·.2)).getD .text
  | .operand position => ((interface.operands[position]?).map (·.kind)).getD .text

/-- The key must be given. -/
def isRequired (interface : Interface) : Key → Bool
  | .option _ => false
  | .operand position => ((interface.operands[position]?).map (·.required)).getD false

end Interface

end CommandShell.Options
