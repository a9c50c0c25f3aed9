import CommandShell.Options.Similarity
import CommandShell.Options.Usage

/-!
# Refusals

Why the words of a command line are not accepted, with advice on what may have been meant.
-/

namespace CommandShell.Options

/-- What is wrong with the words of a command line. -/
inductive Mistake where
  /-- Operands that must be given are missing. -/
  | missing (operands : List String)
  /-- A word has no meaning. -/
  | unknown (word : String)
  /-- An argument is given twice. -/
  | repeated (argument : String)
  /-- Two arguments exclude each other. -/
  | conflict (argument other : String)
  /-- A value is given for an option that has none. -/
  | surplusValue (value argument : String)
  /-- A value is missing; there may be choices for it. -/
  | missingValue (argument : String) (choices : List Choice)
  /-- A value is none of the choices. -/
  | invalidChoice (value argument : String) (choices : List Choice)
  /-- A value cannot be read, for a reason. -/
  | unreadable (value argument reason : String)
  /-- There is no subcommand of that name. -/
  | unknownSubcommand (name : String)
  deriving Repr

/-- Advice on what may have been meant. -/
inductive Advice where
  /-- A word has to stand after `--` to be an operand. -/
  | afterHyphens (word : String)
  /-- An option has a similar name. -/
  | similarArgument (argument : String)
  /-- A choice is similar. -/
  | similarValue (value : String)
  /-- Some subcommands have similar names. -/
  | similarSubcommands (names : List String)
  /-- The subcommand has to stand before the `--`. -/
  | beforeHyphens (subcommand : String)
  deriving Repr

/-- A mistake with what is said about it. -/
structure Refusal where
  /-- What is wrong. -/
  mistake : Mistake
  /-- What may have been meant. -/
  advice : List Advice
  /-- How the command is used, if that is to be said. -/
  usage : Option String
  deriving Repr

/-- A word between quotes. -/
def inQuotes (word : String) : String :=
  "'" ++ word ++ "'"

/-- A word that the user has given between quotes, as far as it can be shown. -/
def givenInQuotes (word : String) : String :=
  inQuotes (Text.withoutSequences word)

/-- The choices for a value on a line of their own, if there are any. -/
def choicesBelow (choices : List Choice) : String :=
  if choices.isEmpty then "" else "\n  " ++ choiceNote choices

/-- The mistake in words. -/
def Mistake.text : Mistake → String
  | .missing operands =>
    "the following required arguments were not provided:" ++
      String.join (operands.map ("\n  " ++ ·))
  | .unknown word => s!"unexpected argument {givenInQuotes word} found"
  | .repeated argument => s!"the argument {inQuotes argument} cannot be used multiple times"
  | .conflict argument other =>
    s!"the argument {inQuotes argument} cannot be used with {inQuotes other}"
  | .surplusValue value argument =>
    s!"unexpected value {givenInQuotes value} for {inQuotes argument} found; " ++
      "no more were expected"
  | .missingValue argument choices =>
    s!"a value is required for {inQuotes argument} but none was supplied{choicesBelow choices}"
  | .invalidChoice value argument choices =>
    s!"invalid value {givenInQuotes value} for {inQuotes argument}{choicesBelow choices}"
  | .unreadable value argument reason =>
    s!"invalid value {givenInQuotes value} for {inQuotes argument}: {reason}"
  | .unknownSubcommand name => s!"unrecognized subcommand {givenInQuotes name}"

/-- The advice in words. -/
def Advice.text : Advice → String
  | .afterHyphens word =>
    s!"to pass {givenInQuotes word} as a value, use '-- {Text.withoutSequences word}'"
  | .similarArgument argument => s!"a similar argument exists: {inQuotes argument}"
  | .similarValue value => s!"a similar value exists: {inQuotes value}"
  | .similarSubcommands [name] => s!"a similar subcommand exists: {inQuotes name}"
  | .similarSubcommands names =>
    "some similar subcommands exist: " ++ ", ".intercalate (names.map inQuotes)
  | .beforeHyphens subcommand =>
    s!"subcommand {inQuotes subcommand} exists; to use it, remove the '--' before it"

/-- The message about a refusal. -/
def Refusal.message (refusal : Refusal) : String :=
  let advice := refusal.advice.map fun advice => "\n  tip: " ++ advice.text
  let blank := if advice.isEmpty then "" else "\n"
  let usage := match refusal.usage with
    | some usage => "\n\n" ++ usage
    | none => ""
  "error: " ++ refusal.mistake.text ++ blank ++ String.join advice ++ usage ++
    "\n\nFor more information, try '--help'.\n"

end CommandShell.Options
